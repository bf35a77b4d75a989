import ShiftMind.Library.Url
import ShiftMind.Store.Schema

/-!
# ShiftMind — identities, login handshakes and sessions

The tables of `migrations/versions/5e2a4c9d1f70_add_seeded_site_identity.py` and the functions of
its `auth` schema, which are all that `adapters/postgres/identity.py` may call.

* **`IdentityDb`** — the users, the memberships, the session index and the login handshakes.
* **`consumeLoginHandshake`** — one `UPDATE … RETURNING`: unconsumed and unexpired, once.
* **`establishSessionForSubject`** — resolves the active identity and inserts its session.
* **`resolveSession`** — the join that every authenticated request goes through.

A surrogate `id` that nothing reads is left out, and so is the index of the single active
membership, on which no statement below relies.
-/

namespace ShiftMind.Auth

open Relational Transactional

/-! ## Rows -/

structure AppUserRow where
  id : Uuid
  idpSubject : String
  email : String
  disabledAt : Option Instant := none
  deriving DecidableEq, Repr

/-- The singleton index: any two users clash. -/
instance : Constrained AppUserRow where
  check row := decide (row.idpSubject.length ≤ 255) && decide (row.email.length ≤ 320)
  clash _ _ := true
  clash_comm _ _ := rfl

structure SessionIndexRow where
  sessionTokenHash : String
  csrfTokenHash : String
  appUserId : Uuid
  siteId : Uuid
  expiresAt : Instant
  revokedAt : Option Instant := none
  deriving DecidableEq, Repr

/-- `uq_session_index_token_hash`. -/
instance : Constrained SessionIndexRow where
  check row := decide (row.sessionTokenHash.length ≤ 64) && decide (row.csrfTokenHash.length ≤ 64)
  clash a b := decide (a.sessionTokenHash = b.sessionTokenHash)
  clash_comm a b := by simp only [eq_comm]

/-- `LoginHandshake`, as the login hands it over and the callback gets it back. -/
structure LoginHandshake where
  state : String
  nonce : String
  codeVerifier : String
  redirectTarget : String
  expiresAt : Instant
  deriving DecidableEq, Repr

structure LoginHandshakeRow where
  handshake : LoginHandshake
  consumedAt : Option Instant := none
  deriving DecidableEq, Repr

/-- `uq_login_handshake_state`. -/
instance : Constrained LoginHandshakeRow where
  check row := decide (row.handshake.state.length ≤ 128) &&
    decide (row.handshake.nonce.length ≤ 128) && decide (row.handshake.codeVerifier.length ≤ 128)
  clash a b := decide (a.handshake.state = b.handshake.state)
  clash_comm a b := by simp only [eq_comm]

/-! ## The database -/

structure IdentityDb where
  appUser : Table AppUserRow := .empty
  membership : Table MembershipRow := .empty
  sessionIndex : Table SessionIndexRow := .empty
  loginHandshake : Table LoginHandshakeRow := .empty

namespace IdentityDb

@[simps] def sessions : Relvar IdentityDb SessionIndexRow where
  get := sessionIndex
  put t db := { db with sessionIndex := t }

@[simps] def loginHandshakes : Relvar IdentityDb LoginHandshakeRow where
  get := loginHandshake
  put t db := { db with loginHandshake := t }

end IdentityDb

/-- A statement against the identity tables. -/
abbrev IdentityTx (α : Type) := Tx IdentityDb PyError α

structure ActiveIdentity where
  appUserId : Uuid
  siteId : Uuid
  deriving DecidableEq, Repr

structure ResolvedSession where
  appUserId : Uuid
  siteId : Uuid
  csrfTokenHash : String
  expiresAt : Instant
  deriving DecidableEq, Repr

/-! ## Login handshakes -/

/-- `auth.create_login_handshake`. -/
def createLoginHandshake (handshake : LoginHandshake) : IdentityTx Unit :=
  IdentityDb.loginHandshakes.insertInto (.integrityError "uq_login_handshake_state")
    ⟨handshake, none⟩

/-- The `WHERE` clause of `auth.consume_login_handshake`. -/
def consumable (now : Instant) (state : String) (row : LoginHandshakeRow) : Bool :=
  decide (row.handshake.state = state) && decide (row.consumedAt = none) &&
    decide (now < row.handshake.expiresAt)

/-- `auth.consume_login_handshake`. -/
def consumeLoginHandshake (now : Instant) (state : String) :
    IdentityTx (Option LoginHandshake) := do
  let rows ← IdentityDb.loginHandshakes.updateWhere (.integrityError "login_handshake")
    (consumable now state) fun row => { row with consumedAt := some now }
  pure (rows.head?.map LoginHandshakeRow.handshake)

/-! ## Sessions -/

/-- A user and a membership that the joins take together. -/
def activeMember (user : AppUserRow) (member : MembershipRow) : Bool :=
  decide (member.appUserId = user.id) && decide (user.disabledAt = none) &&
    decide (member.revokedAt = none)

/-- The common table expression `identity` of `auth.establish_session_for_subject`. -/
def activeIdentities (db : IdentityDb) (subject : String) : List ActiveIdentity :=
  db.appUser.rows.flatMap fun user =>
    (db.membership.rows.filter fun member =>
      activeMember user member && decide (user.idpSubject = subject)).map fun member =>
        ⟨user.id, member.siteId⟩

/-- The row of a session that is established. -/
def newSession (sessionTokenHash csrfTokenHash : String) (expiresAt : Instant)
    (active : ActiveIdentity) : SessionIndexRow where
  sessionTokenHash := sessionTokenHash
  csrfTokenHash := csrfTokenHash
  appUserId := active.appUserId
  siteId := active.siteId
  expiresAt := expiresAt

/-- `auth.establish_session_for_subject`. -/
def establishSessionForSubject (subject sessionTokenHash csrfTokenHash : String)
    (expiresAt : Instant) : IdentityTx (Option ActiveIdentity) := do
  let identities ← Tx.read fun db => activeIdentities db subject
  match identities.head? with
  | none => pure none
  | some identity =>
    IdentityDb.sessions.insertInto (.integrityError "uq_session_index_token_hash")
      (newSession sessionTokenHash csrfTokenHash expiresAt identity)
    pure (some identity)

/-- The sessions that `auth.resolve_session` selects. -/
def liveSession (now : Instant) (tokenHash : String) (row : SessionIndexRow) : Bool :=
  decide (row.sessionTokenHash = tokenHash) && decide (row.revokedAt = none) &&
    decide (now < row.expiresAt)

/-- The joins of `auth.resolve_session`: the user is enabled, the membership active. -/
def sessionJoins (row : SessionIndexRow) (user : AppUserRow) (member : MembershipRow) : Bool :=
  decide (user.id = row.appUserId) && activeMember user member &&
    decide (member.siteId = row.siteId)

/-- `auth.resolve_session`. -/
def resolveSession (now : Instant) (tokenHash : String) (db : IdentityDb) :
    Option ResolvedSession :=
  (db.sessionIndex.rows.flatMap fun row =>
    db.appUser.rows.flatMap fun user =>
      (db.membership.rows.filter fun member =>
        liveSession now tokenHash row && sessionJoins row user member).map fun _ =>
          (⟨row.appUserId, row.siteId, row.csrfTokenHash, row.expiresAt⟩ : ResolvedSession)).head?

/-- The `WHERE` clause of `auth.revoke_session`. -/
def revocable (tokenHash : String) (row : SessionIndexRow) : Bool :=
  decide (row.sessionTokenHash = tokenHash) && decide (row.revokedAt = none)

/-- `auth.revoke_session`: whether a row was revoked. -/
def revokeSession (now : Instant) (tokenHash : String) : IdentityTx Bool := do
  let rows ← IdentityDb.sessions.updateWhere (.integrityError "session_index")
    (revocable tokenHash) fun row => { row with revokedAt := some now }
  pure (!rows.isEmpty)

/-! ## What each statement does -/

theorem clash_of_state (state : String) (a b : LoginHandshakeRow) (ha : a.handshake.state = state)
    (hb : b.handshake.state = state) : clash a b = true := by
  show decide (a.handshake.state = b.handshake.state) = true
  rw [ha, hb, decide_eq_true rfl]

theorem clash_of_hash (tokenHash : String) (a b : SessionIndexRow)
    (ha : a.sessionTokenHash = tokenHash) (hb : b.sessionTokenHash = tokenHash) :
    clash a b = true := by
  show decide (a.sessionTokenHash = b.sessionTokenHash) = true
  rw [ha, hb, decide_eq_true rfl]

theorem consumable_iff {now : Instant} {state : String} {row : LoginHandshakeRow} :
    consumable now state row = true ↔
      row.handshake.state = state ∧ row.consumedAt = none ∧ now < row.handshake.expiresAt := by
  simp [consumable, and_assoc]

theorem liveSession_iff {now : Instant} {tokenHash : String} {row : SessionIndexRow} :
    liveSession now tokenHash row = true ↔
      row.sessionTokenHash = tokenHash ∧ row.revokedAt = none ∧ now < row.expiresAt := by
  simp [liveSession, and_assoc]

theorem sessionJoins_iff {row : SessionIndexRow} {user : AppUserRow} {member : MembershipRow} :
    sessionJoins row user member = true ↔
      user.id = row.appUserId ∧ activeMember user member = true ∧ member.siteId = row.siteId := by
  simp [sessionJoins, and_assoc]

/-- A stored handshake has a state of its own. -/
theorem createLoginHandshake_ok {handshake : LoginHandshake} {db db' : IdentityDb} {u : Unit}
    (h : (createLoginHandshake handshake).run db = (.ok u, db')) :
    (∀ row ∈ db.loginHandshake, row.handshake.state ≠ handshake.state) ∧
      ∃ t, db' = { db with loginHandshake := t } ∧
        ∀ row, row ∈ t ↔ row ∈ db.loginHandshake ∨ row = ⟨handshake, none⟩ := by
  obtain ⟨t, hinsert, rfl⟩ := Relvar.insertInto_ok.mp h
  have hfree := (Table.insert?_eq_some hinsert).2.1
  constructor
  · intro row hrow
    have hclash : decide (row.handshake.state = handshake.state) = false := hfree row hrow
    exact of_decide_eq_false hclash
  · exact ⟨t, rfl, fun row => Table.mem_of_insert? hinsert⟩

/-- A consumed handshake was there, unconsumed and unexpired, and is marked. -/
theorem consumeLoginHandshake_some {now : Instant} {state : String} {handshake : LoginHandshake}
    {db db' : IdentityDb}
    (h : (consumeLoginHandshake now state).run db = (.ok (some handshake), db')) :
    handshake.state = state ∧ now < handshake.expiresAt ∧
      ∃ t, db' = { db with loginHandshake := t } ∧
        db.loginHandshake.Replaced t ⟨handshake, none⟩ ⟨handshake, some now⟩ := by
  obtain ⟨rows, db₁, hrows, hpure⟩ := Tx.bind_ok.mp h
  rw [Tx.run_pure] at hpure
  obtain ⟨hhead, rfl⟩ := Prod.mk.inj hpure
  cases rows with
  | nil => exact absurd (Except.ok.inj hhead) (by simp)
  | cons row rest =>
    have hkey : ∀ a b : LoginHandshakeRow, consumable now state a = true →
        consumable now state b = true → clash a b = true := by
      intro a b ha hb
      exact clash_of_state state a b (consumable_iff.mp ha).1 (consumable_iff.mp hb).1
    obtain ⟨old, t, hsel, rfl, hreplaced, -, rfl⟩ := Relvar.updateWhere_first hkey hrows
    obtain ⟨hstate, hunconsumed, hlive⟩ := consumable_iff.mp hsel
    have hhandshake : old.handshake = handshake := Option.some.inj (Except.ok.inj hhead)
    obtain ⟨held, consumedAt⟩ := old
    simp only at hhandshake hstate hunconsumed hlive
    subst hhandshake hunconsumed
    exact ⟨hstate, hlive, t, rfl, hreplaced⟩

/-- A state that is not consumed leaves the tables alone. -/
theorem consumeLoginHandshake_none {now : Instant} {state : String} {db db' : IdentityDb}
    (h : (consumeLoginHandshake now state).run db = (.ok none, db')) : db' = db := by
  obtain ⟨rows, db₁, hrows, hpure⟩ := Tx.bind_ok.mp h
  rw [Tx.run_pure] at hpure
  obtain ⟨hhead, rfl⟩ := Prod.mk.inj hpure
  cases rows with
  | nil => exact Relvar.updateWhere_nil hrows
  | cons row rest => exact absurd (Except.ok.inj hhead) (by simp)

/-- An established session is that of an active identity, under a hash of its own. -/
theorem establishSessionForSubject_some {subject sessionTokenHash csrfTokenHash : String}
    {expiresAt : Instant} {active : ActiveIdentity} {db db' : IdentityDb}
    (h : (establishSessionForSubject subject sessionTokenHash csrfTokenHash expiresAt).run db =
      (.ok (some active), db')) :
    active ∈ activeIdentities db subject ∧
      (∀ row ∈ db.sessionIndex, row.sessionTokenHash ≠ sessionTokenHash) ∧
      ∃ t, db' = { db with sessionIndex := t } ∧
        ∀ row, row ∈ t ↔ row ∈ db.sessionIndex ∨
          row = newSession sessionTokenHash csrfTokenHash expiresAt active := by
  obtain ⟨identities, db₁, hread, hrest⟩ := Tx.bind_ok.mp h
  rw [Tx.run_read] at hread
  obtain ⟨hidentities, rfl⟩ := Prod.mk.inj hread
  have hidentities := Except.ok.inj hidentities
  subst hidentities
  cases hhead : (activeIdentities db subject).head? with
  | none =>
    rw [hhead, Tx.run_pure] at hrest
    exact absurd (Except.ok.inj (Prod.mk.inj hrest).1) (by simp)
  | some found =>
    rw [hhead] at hrest
    obtain ⟨u, db₂, hinsert, hpure⟩ := Tx.bind_ok.mp hrest
    rw [Tx.run_pure] at hpure
    obtain ⟨hfound, rfl⟩ := Prod.mk.inj hpure
    have hfound := Option.some.inj (Except.ok.inj hfound)
    subst hfound
    obtain ⟨t, ht, rfl⟩ := Relvar.insertInto_ok.mp hinsert
    refine ⟨List.mem_of_mem_head? hhead, ?_, t, rfl, fun row => Table.mem_of_insert? ht⟩
    intro row hrow
    have hclash : decide (row.sessionTokenHash = sessionTokenHash) = false :=
      (Table.insert?_eq_some ht).2.1 row hrow
    exact of_decide_eq_false hclash

/-- A subject without an active identity leaves the tables alone. -/
theorem establishSessionForSubject_none {subject sessionTokenHash csrfTokenHash : String}
    {expiresAt : Instant} {db db' : IdentityDb}
    (h : (establishSessionForSubject subject sessionTokenHash csrfTokenHash expiresAt).run db =
      (.ok none, db')) : db' = db := by
  obtain ⟨identities, db₁, hread, hrest⟩ := Tx.bind_ok.mp h
  rw [Tx.run_read] at hread
  obtain ⟨-, rfl⟩ := Prod.mk.inj hread
  cases hhead : identities.head? with
  | none =>
    rw [hhead, Tx.run_pure] at hrest
    exact (Prod.mk.inj hrest).2.symm
  | some found =>
    rw [hhead] at hrest
    obtain ⟨u, db₂, -, hpure⟩ := Tx.bind_ok.mp hrest
    rw [Tx.run_pure] at hpure
    exact absurd (Except.ok.inj (Prod.mk.inj hpure).1) (by simp)

/-- **What a token resolves to**: the one live session of its hash, while its user is enabled and
the membership active. -/
theorem resolveSession_iff {now : Instant} {tokenHash : String} {db : IdentityDb}
    {resolved : ResolvedSession} :
    resolveSession now tokenHash db = some resolved ↔
      ∃ row ∈ db.sessionIndex, ∃ user ∈ db.appUser, ∃ member ∈ db.membership,
        liveSession now tokenHash row = true ∧ sessionJoins row user member = true ∧
          resolved = ⟨row.appUserId, row.siteId, row.csrfTokenHash, row.expiresAt⟩ := by
  unfold resolveSession
  have hmem : ∀ found : ResolvedSession, found ∈ (db.sessionIndex.rows.flatMap fun row =>
      db.appUser.rows.flatMap fun user =>
        (db.membership.rows.filter fun member =>
          liveSession now tokenHash row && sessionJoins row user member).map fun _ =>
            (⟨row.appUserId, row.siteId, row.csrfTokenHash, row.expiresAt⟩ : ResolvedSession)) ↔
      ∃ row ∈ db.sessionIndex, ∃ user ∈ db.appUser, ∃ member ∈ db.membership,
        liveSession now tokenHash row = true ∧ sessionJoins row user member = true ∧
          found = ⟨row.appUserId, row.siteId, row.csrfTokenHash, row.expiresAt⟩ := by
    intro found
    simp only [List.mem_flatMap, List.mem_map, List.mem_filter, Bool.and_eq_true, Table.mem_rows]
    constructor
    · rintro ⟨row, hrow, user, huser, member, ⟨hmember, hlive, hjoins⟩, heq⟩
      exact ⟨row, hrow, user, huser, member, hmember, hlive, hjoins, heq.symm⟩
    · rintro ⟨row, hrow, user, huser, member, hmember, hlive, hjoins, heq⟩
      exact ⟨row, hrow, user, huser, member, ⟨hmember, hlive, hjoins⟩, heq.symm⟩
  constructor
  · intro h
    exact (hmem resolved).mp (List.mem_of_mem_head? h)
  · intro h
    have hin := (hmem resolved).mpr h
    obtain ⟨row, hrow, -, -, -, -, hlive, -, rfl⟩ := h
    cases hhead : List.head? _ with
    | none =>
      rw [List.head?_eq_none_iff] at hhead
      rw [hhead] at hin
      cases hin
    | some found =>
      -- the hash is a key, so whatever row is found is this one
      obtain ⟨row', hrow', -, -, -, -, hlive', -, rfl⟩ :=
        (hmem found).mp (List.mem_of_mem_head? hhead)
      have hsame : row' = row := Table.eq_of_clash hrow' hrow
        (clash_of_hash tokenHash _ _ (liveSession_iff.mp hlive').1 (liveSession_iff.mp hlive).1)
      rw [hsame]

/-- After a revocation each row is the old one, revoked now if it was the live one of the hash. -/
theorem revokeSession_ok {now : Instant} {tokenHash : String} {db db' : IdentityDb} {revoked : Bool}
    (h : (revokeSession now tokenHash).run db = (.ok revoked, db')) :
    ∃ t, db' = { db with sessionIndex := t } ∧
      ∀ row, row ∈ t ↔ ∃ old ∈ db.sessionIndex,
        row = if revocable tokenHash old then { old with revokedAt := some now } else old := by
  obtain ⟨rows, db₁, hrows, hpure⟩ := Tx.bind_ok.mp h
  rw [Tx.run_pure] at hpure
  obtain ⟨-, rfl⟩ := Prod.mk.inj hpure
  obtain ⟨t, ht, rfl, -⟩ := Relvar.updateWhere_ok.mp hrows
  exact ⟨t, rfl, fun row => Table.mem_of_update? ht⟩

end ShiftMind.Auth
