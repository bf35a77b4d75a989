import ShiftMind.Auth.Steps

/-!
# ShiftMind — what the log says of the sessions

Whatever the gate lets through goes back, through a session, to one login: a handshake was stored,
consumed once before it expired, and answered with one session, which has not been logged out since.

* **`Justified`** — what stands in the log before an event.
* **`HandshakesSound`**, **`SessionsSound`** — the tables and the log say the same; a lemma for each
  statement that writes.
* **`AuthInv`** — the invariant of the system.
-/

namespace ShiftMind.Auth

open Relational Transactional Transition

section

variable (lang : AuthLang) (settings : AuthSettings)

/-! ## What explains an event

An event of the log is justified by earlier ones; the invariant says so of every prefix. -/

/-- What a request behind the gate knows of a session. -/
def Established.resolved (e : Established) : ResolvedSession where
  appUserId := e.active.appUserId
  siteId := e.active.siteId
  csrfTokenHash := lang.hashSecret (lang.csrfTokenForSession e.token settings.csrfSecret)
  expiresAt := e.expiresAt

/-- The checks of an unsafe request: its origin, and the token that only the session can show. -/
def UnsafeChecked (req : HttpRequest) (e : Established) : Prop :=
  FromAllowedOrigin lang settings req ∧
    ∃ csrf, req.csrf = some csrf ∧ csrf ≠ "" ∧
      lang.hashSecret csrf =
        lang.hashSecret (lang.csrfTokenForSession e.token settings.csrfSecret)

/-- No logout of the session stands in the log. -/
def NotLoggedOut (log : List AuthEvent) (token : String) : Prop :=
  ∀ token' at', .loggedOut token' at' ∈ log → lang.hashSecret token' ≠ lang.hashSecret token

/-- What stands in the log before an event. -/
def Justified (before : List AuthEvent) : AuthEvent → Prop
  | .loginStarted handshake returnTo started =>
    handshake.redirectTarget = redirectTarget settings returnTo ∧
      handshake.expiresAt = started + handshakeTtl ∧
      ∀ h r t, .loginStarted h r t ∈ before → h.state ≠ handshake.state
  | .handshakeConsumed handshake consumed =>
    (∃ r t, .loginStarted handshake r t ∈ before) ∧ consumed < handshake.expiresAt ∧
      ∀ h t, .handshakeConsumed h t ∈ before → h.state ≠ handshake.state
  | .sessionEstablished e =>
    (∃ t, .handshakeConsumed e.handshake t ∈ before) ∧
      e.expiresAt = sessionExpiry settings e.establishedAt e.identity ∧ e.token ≠ "" ∧
      ∀ e', .sessionEstablished e' ∈ before →
        e'.handshake.state ≠ e.handshake.state ∧ lang.hashSecret e'.token ≠ lang.hashSecret e.token
  | .admitted req token resolved admitted =>
    isPublic req.path = false ∧ req.cookie = some token ∧
      ∃ e, .sessionEstablished e ∈ before ∧ lang.hashSecret token = lang.hashSecret e.token ∧
        resolved = e.resolved lang settings ∧ admitted < e.expiresAt ∧
        NotLoggedOut lang before token ∧
        (req.method ∈ unsafeMethods → UnsafeChecked lang settings req e)
  | .loggedOut token _ =>
    ∃ req resolved t, .admitted req token resolved t ∈ before ∧ req.method = "POST" ∧
      req.path = logoutPath

/-- A row that is the session `e`, revoked or not. -/
def RowOf (e : Established) (row : SessionIndexRow) : Prop :=
  { row with revokedAt := none } = e.row lang settings

/-- The handshakes, the waiting callbacks and the log say the same. -/
structure HandshakesSound (t : Table LoginHandshakeRow) (callbacks : List LoginHandshake)
    (log : List AuthEvent) : Prop where
  started : ∀ row ∈ t, ∃ r at', .loginStarted row.handshake r at' ∈ log
  stored : ∀ h r at', .loginStarted h r at' ∈ log → ∃ row ∈ t, row.handshake.state = h.state
  spent : ∀ h at', .handshakeConsumed h at' ∈ log →
    ∃ row ∈ t, row.handshake.state = h.state ∧ row.consumedAt ≠ none
  waiting : ∀ h ∈ callbacks, ∃ at', .handshakeConsumed h at' ∈ log
  apart : callbacks.Pairwise fun a b => a.state ≠ b.state
  unanswered : ∀ e, .sessionEstablished e ∈ log → ∀ h ∈ callbacks, h.state ≠ e.handshake.state

/-- The sessions and the log say the same. -/
structure SessionsSound (t : Table SessionIndexRow) (log : List AuthEvent) : Prop where
  rows : ∀ row ∈ t, ∃ e, .sessionEstablished e ∈ log ∧ RowOf lang settings e row
  kept : ∀ e, .sessionEstablished e ∈ log → ∃ row ∈ t, RowOf lang settings e row
  revoked : ∀ row ∈ t, row.revokedAt ≠ none ↔
    ∃ token at', .loggedOut token at' ∈ log ∧ lang.hashSecret token = row.sessionTokenHash

/-- The tables and the log say the same. -/
structure AuthInv (s : AuthSys) : Prop where
  handshakes : HandshakesSound s.db.loginHandshake s.callbacks s.log
  sessions : SessionsSound lang settings s.db.sessionIndex s.log
  gated : ∀ f ∈ s.admitted, ∃ at', .admitted f.req f.token f.resolved at' ∈ s.log
  explained : Log.Explained (Justified lang settings) s.log

end

variable {lang : AuthLang} {settings : AuthSettings}

/-! ## Rows and their sessions -/

theorem RowOf.hash {e : Established} {row : SessionIndexRow} (h : RowOf lang settings e row) :
    row.sessionTokenHash = lang.hashSecret e.token :=
  congrArg SessionIndexRow.sessionTokenHash h

theorem RowOf.expiresAt {e : Established} {row : SessionIndexRow} (h : RowOf lang settings e row) :
    row.expiresAt = e.expiresAt :=
  congrArg SessionIndexRow.expiresAt h

theorem RowOf.appUserId {e : Established} {row : SessionIndexRow} (h : RowOf lang settings e row) :
    row.appUserId = e.active.appUserId :=
  congrArg SessionIndexRow.appUserId h

theorem RowOf.siteId {e : Established} {row : SessionIndexRow} (h : RowOf lang settings e row) :
    row.siteId = e.active.siteId :=
  congrArg SessionIndexRow.siteId h

theorem RowOf.csrfTokenHash {e : Established} {row : SessionIndexRow}
    (h : RowOf lang settings e row) :
    row.csrfTokenHash = (e.resolved lang settings).csrfTokenHash := by
  have hfull : ({ row with revokedAt := none } : SessionIndexRow).csrfTokenHash =
      (e.row lang settings).csrfTokenHash := congrArg SessionIndexRow.csrfTokenHash h
  exact hfull

theorem RowOf.resolved {e : Established} {row : SessionIndexRow} (h : RowOf lang settings e row) :
    (⟨row.appUserId, row.siteId, row.csrfTokenHash, row.expiresAt⟩ : ResolvedSession) =
      e.resolved lang settings := by
  rw [h.appUserId, h.siteId, h.expiresAt, h.csrfTokenHash]
  rfl

theorem mem_concat {log : List AuthEvent} {new e : AuthEvent} :
    e ∈ log ++ [new] ↔ e ∈ log ∨ e = new := by
  rw [List.mem_append, List.mem_singleton]

/-! ## Events that leave a table alone -/

/-- The event belongs to a login: a handshake was stored, consumed or answered. -/
def AuthEvent.ofLogin : AuthEvent → Bool
  | .loginStarted .. | .handshakeConsumed .. | .sessionEstablished .. => true
  | _ => false

/-- The event changes a session. -/
def AuthEvent.ofSession : AuthEvent → Bool
  | .sessionEstablished .. | .loggedOut .. => true
  | _ => false

theorem mem_of_concat {kind : AuthEvent → Bool} {log : List AuthEvent} {new e : AuthEvent}
    (hnew : kind new = false) (hkind : kind e = true) (h : e ∈ log ++ [new]) : e ∈ log := by
  apply (mem_concat.mp h).resolve_right
  intro heq
  rw [heq, hnew] at hkind
  cases hkind

theorem HandshakesSound.other {t : Table LoginHandshakeRow} {callbacks : List LoginHandshake}
    {log : List AuthEvent} (h : HandshakesSound t callbacks log) {e : AuthEvent}
    (he : e.ofLogin = false) : HandshakesSound t callbacks (log ++ [e]) where
  started row hrow := by
    obtain ⟨r, at', hin⟩ := h.started row hrow
    exact ⟨r, at', mem_concat.mpr (.inl hin)⟩
  stored h' r at' hin := h.stored h' r at' (mem_of_concat he rfl hin)
  spent h' at' hin := h.spent h' at' (mem_of_concat he rfl hin)
  waiting h' hin := by
    obtain ⟨at', hat⟩ := h.waiting h' hin
    exact ⟨at', mem_concat.mpr (.inl hat)⟩
  apart := h.apart
  unanswered e' he' := h.unanswered e' (mem_of_concat he rfl he')

theorem SessionsSound.other {t : Table SessionIndexRow} {log : List AuthEvent}
    (h : SessionsSound lang settings t log) {e : AuthEvent} (he : e.ofSession = false) :
    SessionsSound lang settings t (log ++ [e]) where
  rows row hrow := by
    obtain ⟨e', he', hof⟩ := h.rows row hrow
    exact ⟨e', mem_concat.mpr (.inl he'), hof⟩
  kept e' he' := h.kept e' (mem_of_concat he rfl he')
  revoked row hrow := by
    rw [h.revoked row hrow]
    constructor
    · intro ⟨token, at', hin, hhash⟩
      exact ⟨token, at', mem_concat.mpr (.inl hin), hhash⟩
    · intro ⟨token, at', hin, hhash⟩
      exact ⟨token, at', mem_of_concat he rfl hin, hhash⟩

theorem AuthInv.gated_concat {s : AuthSys} (h : AuthInv lang settings s) (e : AuthEvent) :
    ∀ f ∈ s.admitted, ∃ at', .admitted f.req f.token f.resolved at' ∈ s.log ++ [e] := by
  intro f hf
  obtain ⟨at', hat⟩ := h.gated f hf
  exact ⟨at', mem_concat.mpr (.inl hat)⟩

/-! ## What the invariant says of the tables -/

/-- A session that is logged out was there when it was, so its hash is taken. -/
theorem AuthInv.row_of_loggedOut {s : AuthSys} (h : AuthInv lang settings s) {token : String}
    {at' : Instant} (hmem : .loggedOut token at' ∈ s.log) :
    ∃ row ∈ s.db.sessionIndex, row.sessionTokenHash = lang.hashSecret token := by
  obtain ⟨before, after, hlog, ⟨req, resolved, t', hadmitted, -, -⟩, hbefore⟩ :=
    h.explained.of_mem hmem
  obtain ⟨front, back, hfront, ⟨-, -, e, he, hhash, -⟩, -⟩ := hbefore.of_mem hadmitted
  have hin : AuthEvent.sessionEstablished e ∈ s.log := by
    rw [hlog, hfront]
    simp [he]
  obtain ⟨row, hrow, hof⟩ := h.sessions.kept e hin
  exact ⟨row, hrow, by rw [hof.hash, hhash]⟩

/-- A handshake that can be consumed has not been. -/
theorem HandshakesSound.not_consumed {t : Table LoginHandshakeRow}
    {callbacks : List LoginHandshake} {log : List AuthEvent} (h : HandshakesSound t callbacks log)
    {handshake : LoginHandshake} (hrow : ⟨handshake, none⟩ ∈ t) :
    ∀ h' at', .handshakeConsumed h' at' ∈ log → h'.state ≠ handshake.state := by
  intro h' at' hmem hstate
  obtain ⟨row, hspent, hsame, hconsumed⟩ := h.spent h' at' hmem
  have heq : row = ⟨handshake, none⟩ := Table.eq_of_clash hspent hrow
    (clash_of_state handshake.state row ⟨handshake, none⟩ (hsame.trans hstate) rfl)
  rw [heq] at hconsumed
  exact hconsumed rfl

/-- A session goes back to a handshake that was consumed. -/
theorem AuthInv.consumed_of_established {s : AuthSys} (h : AuthInv lang settings s)
    {e : Established} (hmem : .sessionEstablished e ∈ s.log) :
    ∃ at', .handshakeConsumed e.handshake at' ∈ s.log := by
  obtain ⟨before, after, hlog, ⟨⟨at', hat⟩, -⟩, -⟩ := h.explained.of_mem hmem
  exact ⟨at', by rw [hlog]; simp [hat]⟩

/-! ## The steps keep the invariant -/

theorem AuthInv.initial {s : AuthSys} (h : s.Initial) : AuthInv lang settings s := by
  obtain ⟨hsessions, hhandshakes, hcallbacks, hadmitted, hlog⟩ := h
  have hempty : ∀ e : AuthEvent, e ∉ s.log := by
    intro e
    rw [hlog]
    exact List.not_mem_nil
  have hnosession : ∀ row, row ∉ s.db.sessionIndex := by
    intro row
    rw [hsessions]
    exact Table.not_mem_empty row
  exact
    { handshakes :=
        { started := fun row hrow => absurd (hhandshakes ▸ hrow) (Table.not_mem_empty row)
          stored := fun _ _ _ hmem => absurd hmem (hempty _)
          spent := fun _ _ hmem => absurd hmem (hempty _)
          waiting := fun h' hmem => absurd (hcallbacks ▸ hmem) List.not_mem_nil
          apart := by rw [hcallbacks]; exact .nil
          unanswered := fun _ hmem => absurd hmem (hempty _) }
      sessions :=
        { rows := fun row hrow => absurd hrow (hnosession row)
          kept := fun _ hmem => absurd hmem (hempty _)
          revoked := fun row hrow => absurd hrow (hnosession row) }
      gated := fun f hmem => absurd (hadmitted ▸ hmem) List.not_mem_nil
      explained := by rw [hlog]; exact .nil }

theorem AuthInv.quiet {s s' : AuthSys} (h : AuthInv lang settings s)
    (hsessions : s'.db.sessionIndex = s.db.sessionIndex)
    (hhandshakes : s'.db.loginHandshake = s.db.loginHandshake)
    (hcallbacks : s'.callbacks.Sublist s.callbacks) (hadmitted : s'.admitted.Sublist s.admitted)
    (hlog : s'.log = s.log) : AuthInv lang settings s' where
  handshakes := by
    rw [hhandshakes, hlog]
    exact
      { started := h.handshakes.started
        stored := h.handshakes.stored
        spent := h.handshakes.spent
        waiting := fun h' hmem => h.handshakes.waiting h' (hcallbacks.subset hmem)
        apart := h.handshakes.apart.sublist hcallbacks
        unanswered := fun e he h' hmem => h.handshakes.unanswered e he h' (hcallbacks.subset hmem) }
  sessions := by rw [hsessions, hlog]; exact h.sessions
  gated := by rw [hlog]; exact fun f hmem => h.gated f (hadmitted.subset hmem)
  explained := by rw [hlog]; exact h.explained

/-- A handshake is stored. -/
theorem HandshakesSound.store {t t' : Table LoginHandshakeRow} {callbacks : List LoginHandshake}
    {log : List AuthEvent} (h : HandshakesSound t callbacks log) {handshake : LoginHandshake}
    (hmem : ∀ row, row ∈ t' ↔ row ∈ t ∨ row = ⟨handshake, none⟩) (returnTo : Option String)
    (now : Instant) :
    HandshakesSound t' callbacks (log ++ [.loginStarted handshake returnTo now]) where
  started row hrow := by
    cases (hmem row).mp hrow with
    | inl hold =>
      obtain ⟨r, at', hin⟩ := h.started row hold
      exact ⟨r, at', mem_concat.mpr (.inl hin)⟩
    | inr hnew =>
      rw [hnew]
      exact ⟨returnTo, now, mem_concat.mpr (.inr rfl)⟩
  stored h' r at' hin := by
    cases mem_concat.mp hin with
    | inl hold =>
      obtain ⟨row, hrow, hstate⟩ := h.stored h' r at' hold
      exact ⟨row, (hmem row).mpr (.inl hrow), hstate⟩
    | inr hnew =>
      obtain ⟨rfl, rfl, rfl⟩ := AuthEvent.loginStarted.inj hnew
      exact ⟨_, (hmem _).mpr (.inr rfl), rfl⟩
  spent h' at' hin := by
    obtain ⟨row, hrow, hspent⟩ := h.spent h' at' ((mem_concat.mp hin).resolve_right (by simp))
    exact ⟨row, (hmem row).mpr (.inl hrow), hspent⟩
  waiting h' hin := by
    obtain ⟨at', hat⟩ := h.waiting h' hin
    exact ⟨at', mem_concat.mpr (.inl hat)⟩
  apart := h.apart
  unanswered e he := h.unanswered e ((mem_concat.mp he).resolve_right (by simp))

/-- A handshake is consumed, and its callback waits. -/
theorem HandshakesSound.consume {t t' : Table LoginHandshakeRow} {callbacks : List LoginHandshake}
    {log : List AuthEvent} (h : HandshakesSound t callbacks log)
    (hanswered : ∀ e, .sessionEstablished e ∈ log → ∃ at', .handshakeConsumed e.handshake at' ∈ log)
    {handshake : LoginHandshake} {now : Instant}
    (hreplaced : t.Replaced t' ⟨handshake, none⟩ ⟨handshake, some now⟩) :
    HandshakesSound t' (handshake :: callbacks) (log ++ [.handshakeConsumed handshake now]) := by
  have hnew := h.not_consumed hreplaced.mem_old
  -- a row goes on under its handshake, and what was consumed stays so
  have hrow : ∀ row ∈ t, ∃ row' ∈ t', row'.handshake = row.handshake ∧
      (row.consumedAt ≠ none → row'.consumedAt ≠ none) := by
    intro row hrow
    by_cases hold : row = ⟨handshake, none⟩
    · rw [hold]
      exact ⟨_, hreplaced.mem_new, rfl, fun _ => by simp⟩
    · exact ⟨row, (hreplaced.mem_iff row).mpr (.inr ⟨hrow, hold⟩), rfl, id⟩
  constructor
  case started =>
    intro row hin
    have hsame : ∃ old ∈ t, old.handshake = row.handshake := by
      cases (hreplaced.mem_iff row).mp hin with
      | inl hnew => exact ⟨_, hreplaced.mem_old, by rw [hnew]⟩
      | inr hold => exact ⟨row, hold.1, rfl⟩
    obtain ⟨old, hold, hhandshake⟩ := hsame
    obtain ⟨r, at', hstarted⟩ := h.started old hold
    exact ⟨r, at', mem_concat.mpr (.inl (hhandshake ▸ hstarted))⟩
  case stored =>
    intro h' r at' hin
    obtain ⟨row, hmem, hstate⟩ := h.stored h' r at' ((mem_concat.mp hin).resolve_right (by simp))
    obtain ⟨row', hmem', hsame, -⟩ := hrow row hmem
    exact ⟨row', hmem', by rw [hsame, hstate]⟩
  case spent =>
    intro h' at' hin
    cases mem_concat.mp hin with
    | inl hold =>
      obtain ⟨row, hmem, hstate, hconsumed⟩ := h.spent h' at' hold
      obtain ⟨row', hmem', hsame, hstill⟩ := hrow row hmem
      exact ⟨row', hmem', by rw [hsame, hstate], hstill hconsumed⟩
    | inr hlast =>
      obtain ⟨rfl, rfl⟩ := AuthEvent.handshakeConsumed.inj hlast
      exact ⟨_, hreplaced.mem_new, rfl, by simp⟩
  case waiting =>
    intro h' hin
    cases List.mem_cons.mp hin with
    | inl hfirst =>
      rw [hfirst]
      exact ⟨now, mem_concat.mpr (.inr rfl)⟩
    | inr hrest =>
      obtain ⟨at', hat⟩ := h.waiting h' hrest
      exact ⟨at', mem_concat.mpr (.inl hat)⟩
  case apart =>
    -- a waiting callback has consumed its handshake, which this one had not
    refine List.pairwise_cons.mpr ⟨fun h' hin heq => ?_, h.apart⟩
    obtain ⟨at', hat⟩ := h.waiting h' hin
    exact hnew h' at' hat heq.symm
  case unanswered =>
    intro e he h' hin
    have he := (mem_concat.mp he).resolve_right (by simp)
    cases List.mem_cons.mp hin with
    | inl hfirst =>
      rw [hfirst]
      obtain ⟨at', hat⟩ := hanswered e he
      exact fun heq => hnew _ at' hat heq.symm
    | inr hrest => exact h.unanswered e he h' hrest

/-- A callback is answered with a session. -/
theorem HandshakesSound.answer {t : Table LoginHandshakeRow} {callbacks : List LoginHandshake}
    {log : List AuthEvent} (h : HandshakesSound t callbacks log) {e : Established}
    (hwaiting : e.handshake ∈ callbacks) :
    HandshakesSound t (callbacks.erase e.handshake) (log ++ [.sessionEstablished e]) where
  started row hrow := by
    obtain ⟨r, at', hin⟩ := h.started row hrow
    exact ⟨r, at', mem_concat.mpr (.inl hin)⟩
  stored h' r at' hin := h.stored h' r at' ((mem_concat.mp hin).resolve_right (by simp))
  spent h' at' hin := h.spent h' at' ((mem_concat.mp hin).resolve_right (by simp))
  waiting h' hin := by
    obtain ⟨at', hat⟩ := h.waiting h' (List.mem_of_mem_erase hin)
    exact ⟨at', mem_concat.mpr (.inl hat)⟩
  apart := h.apart.sublist List.erase_sublist
  unanswered e' he' h' hin := by
    cases mem_concat.mp he' with
    | inl hold => exact h.unanswered e' hold h' (List.mem_of_mem_erase hin)
    | inr hnew =>
      -- the other callbacks wait under other states
      rw [AuthEvent.sessionEstablished.inj hnew]
      have hperm := List.perm_cons_erase hwaiting
      have happart :=
        (hperm.pairwise_iff fun {a b} (hab : a.state ≠ b.state) => hab.symm).mp h.apart
      exact ((List.pairwise_cons.mp happart).1 h' hin).symm

/-- A session is inserted under a fresh hash. -/
theorem SessionsSound.insert {t t' : Table SessionIndexRow} {log : List AuthEvent}
    (h : SessionsSound lang settings t log) {e : Established}
    (hfresh : ∀ row ∈ t, row.sessionTokenHash ≠ lang.hashSecret e.token)
    (hopen : ∀ token at', .loggedOut token at' ∈ log →
      ∃ row ∈ t, row.sessionTokenHash = lang.hashSecret token)
    (hmem : ∀ row, row ∈ t' ↔ row ∈ t ∨ row = e.row lang settings) :
    SessionsSound lang settings t' (log ++ [.sessionEstablished e]) where
  rows row hrow := by
    cases (hmem row).mp hrow with
    | inl hold =>
      obtain ⟨e', he', hof⟩ := h.rows row hold
      exact ⟨e', mem_concat.mpr (.inl he'), hof⟩
    | inr hnew =>
      rw [hnew]
      exact ⟨e, mem_concat.mpr (.inr rfl), rfl⟩
  kept e' he' := by
    cases mem_concat.mp he' with
    | inl hold =>
      obtain ⟨row, hrow, hof⟩ := h.kept e' hold
      exact ⟨row, (hmem row).mpr (.inl hrow), hof⟩
    | inr hnew =>
      rw [AuthEvent.sessionEstablished.inj hnew]
      exact ⟨_, (hmem _).mpr (.inr rfl), rfl⟩
  revoked row hrow := by
    -- an established session logs nobody out
    have hlog : ∀ token at', .loggedOut token at' ∈ log ++ [.sessionEstablished e] ↔
        .loggedOut token at' ∈ log := by
      intro token at'
      simp
    simp only [hlog]
    cases (hmem row).mp hrow with
    | inl hold => exact h.revoked row hold
    | inr hnew =>
      rw [hnew]
      constructor
      · intro hrevoked
        exact absurd rfl hrevoked
      · intro ⟨token, at', hin, hhash⟩
        -- a logout of its token would have had a row, and the hash is fresh
        obtain ⟨row', hrow', hsame⟩ := hopen token at' hin
        exact absurd (hsame.trans hhash) (hfresh row' hrow')

/-- The sessions of a hash are revoked. -/
theorem SessionsSound.revoke {t t' : Table SessionIndexRow} {log : List AuthEvent}
    (h : SessionsSound lang settings t log) {token : String} {now : Instant}
    (hmem : ∀ row, row ∈ t' ↔ ∃ old ∈ t, row =
      if revocable (lang.hashSecret token) old then { old with revokedAt := some now } else old) :
    SessionsSound lang settings t' (log ++ [.loggedOut token now]) := by
  -- a revoked row belongs to the same login
  have hsame : ∀ (old : SessionIndexRow) (e : Established),
      RowOf lang settings e (if revocable (lang.hashSecret token) old then
        { old with revokedAt := some now } else old) ↔ RowOf lang settings e old := by
    intro old e
    unfold RowOf
    split <;> rfl
  constructor
  case rows =>
    intro row hrow
    obtain ⟨old, hold, rfl⟩ := (hmem row).mp hrow
    obtain ⟨e, he, hof⟩ := h.rows old hold
    exact ⟨e, mem_concat.mpr (.inl he), (hsame old e).mpr hof⟩
  case kept =>
    intro e he
    obtain ⟨old, hold, hof⟩ := h.kept e ((mem_concat.mp he).resolve_right (by simp))
    exact ⟨_, (hmem _).mpr ⟨old, hold, rfl⟩, (hsame old e).mpr hof⟩
  case revoked =>
    intro row hrow
    obtain ⟨old, hold, rfl⟩ := (hmem row).mp hrow
    -- the longer log holds a logout of the row's hash, an earlier one or this one
    have hlog : (∃ token' at', .loggedOut token' at' ∈ log ++ [.loggedOut token now] ∧
        lang.hashSecret token' = old.sessionTokenHash) ↔
          old.revokedAt ≠ none ∨ lang.hashSecret token = old.sessionTokenHash := by
      rw [h.revoked old hold]
      constructor
      · intro ⟨token', at', hin, hhash⟩
        cases mem_concat.mp hin with
        | inl hearlier => exact .inl ⟨token', at', hearlier, hhash⟩
        | inr hnow =>
          rw [(AuthEvent.loggedOut.inj hnow).1] at hhash
          exact .inr hhash
      · intro hor
        cases hor with
        | inl hearlier =>
          obtain ⟨token', at', hin, hhash⟩ := hearlier
          exact ⟨token', at', mem_concat.mpr (.inl hin), hhash⟩
        | inr hhash => exact ⟨token, now, mem_concat.mpr (.inr rfl), hhash⟩
    by_cases hrevocable : revocable (lang.hashSecret token) old = true
    · rw [if_pos hrevocable]
      have hhash : old.sessionTokenHash = lang.hashSecret token := by
        simp [revocable] at hrevocable
        exact hrevocable.1
      exact iff_of_true (by simp) (hlog.mpr (.inr hhash.symm))
    · rw [if_neg hrevocable, hlog]
      constructor
      · exact .inl
      · intro hor
        cases hor with
        | inl hrevoked => exact hrevoked
        | inr hhash =>
          intro hopen
          exact hrevocable (by simp [revocable, hhash, hopen])

end ShiftMind.Auth
