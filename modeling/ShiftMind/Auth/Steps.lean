import ShiftMind.Auth.System

/-!
# ShiftMind — what a step of signing in can do

Six things happen to the log and the tables; whatever a request does otherwise is a refusal, and
leaves both alone.

* **`AuthStep`** — the six, with everything the code has checked when one happens.
* **`authStep_of_enabled`** — each enabled action is one of them.
-/

namespace ShiftMind.Auth

open Relational Transactional Transition

/-! ## Calls of the store -/

theorem storeCall_ok {α : Type} {up : Bool} {body : IdentityTx α} {db db' : IdentityDb} {a : α}
    (h : storeCall up body db = (.ok a, db')) : body.run db = (.ok a, db') := by
  unfold storeCall at h
  split at h
  · exact Tx.commit_ok.mp h
  · cases h

/-- A call that fails leaves the tables alone. -/
theorem storeCall_error {α : Type} {up : Bool} {body : IdentityTx α} {db db' : IdentityDb}
    {error : PyError} (h : storeCall up body db = (.error error, db')) : db' = db := by
  unfold storeCall at h
  split at h
  · -- whatever the body wrote before it raised is rolled back
    unfold Tx.commit at h
    split at h
    · cases h
    · exact (Prod.mk.inj h).2.symm
  · exact (Prod.mk.inj h).2.symm

variable {lang : AuthLang} {settings : AuthSettings}

/-- The tables after a login are those after its one statement. -/
theorem login_db (up : Bool) (authorizationUrl : Option String) (handshake : LoginHandshake)
    (db : IdentityDb) :
    (login up authorizationUrl handshake db).2 =
      (storeCall up (createLoginHandshake handshake) db).2 := by
  unfold login
  cases hcall : storeCall up (createLoginHandshake handshake) db with
  | mk result db' =>
    cases result with
    | error error => rfl
    | ok u => cases authorizationUrl <;> rfl

theorem callback_ok {up : Bool} {now : Instant} {state : String} {handshake : LoginHandshake}
    {db db' : IdentityDb} (h : callback up now state db = (.ok handshake, db')) :
    (consumeLoginHandshake now state).run db = (.ok (some handshake), db') := by
  unfold callback at h
  split at h
  · cases h
  · cases h
  · rename_i found db₁ hcall
    obtain ⟨hfound, rfl⟩ := Prod.mk.inj h
    rw [storeCall_ok hcall, Except.ok.inj hfound]

theorem callback_error {up : Bool} {now : Instant} {state : String} {p : Problem}
    {db db' : IdentityDb} (h : callback up now state db = (.error p, db')) : db' = db := by
  unfold callback at h
  split at h
  · rename_i hcall
    rw [← (Prod.mk.inj h).2, storeCall_error hcall]
  · rename_i hcall
    rw [← (Prod.mk.inj h).2, consumeLoginHandshake_none (storeCall_ok hcall)]
  · cases h

/-- The row of a session. -/
def Established.row (lang : AuthLang) (settings : AuthSettings) (e : Established) :
    SessionIndexRow :=
  newSession (lang.hashSecret e.token)
    (lang.hashSecret (lang.csrfTokenForSession e.token settings.csrfSecret)) e.expiresAt e.active

theorem completeCallback_ok {up : Bool} {now : Instant} {handshake : LoginHandshake}
    {answer : Option OidcIdentity} {token : String} {e : Established} {db db' : IdentityDb}
    (h : completeCallback lang settings up now handshake answer token db = (.ok e, db')) :
    e.handshake = handshake ∧ e.token = token ∧ e.establishedAt = now ∧
      e.expiresAt = sessionExpiry settings now e.identity ∧
      (establishSessionForSubject e.identity.subject (lang.hashSecret token)
        (lang.hashSecret (lang.csrfTokenForSession token settings.csrfSecret))
        (sessionExpiry settings now e.identity)).run db = (.ok (some e.active), db') := by
  unfold completeCallback at h
  split at h
  · cases h
  · rename_i identity
    split at h
    · cases h
    · cases h
    · rename_i active db₁ hcall
      obtain ⟨he, rfl⟩ := Prod.mk.inj h
      have he := Except.ok.inj he
      subst he
      exact ⟨rfl, rfl, rfl, rfl, storeCall_ok hcall⟩

theorem completeCallback_error {up : Bool} {now : Instant} {handshake : LoginHandshake}
    {answer : Option OidcIdentity} {token : String} {p : Problem} {db db' : IdentityDb}
    (h : completeCallback lang settings up now handshake answer token db = (.error p, db')) :
    db' = db := by
  unfold completeCallback at h
  split at h
  · exact (Prod.mk.inj h).2.symm
  · split at h
    · rename_i hcall
      rw [← (Prod.mk.inj h).2, storeCall_error hcall]
    · rename_i hcall
      rw [← (Prod.mk.inj h).2, establishSessionForSubject_none (storeCall_ok hcall)]
    · cases h

theorem logout_ok {up : Bool} {now : Instant} {token : String} {u : Unit} {db db' : IdentityDb}
    (h : logout lang up now token db = (.ok u, db')) :
    ∃ revoked, (revokeSession now (lang.hashSecret token)).run db = (.ok revoked, db') := by
  unfold logout at h
  split at h
  · cases h
  · rename_i revoked db₁ hcall
    rw [← (Prod.mk.inj h).2]
    exact ⟨revoked, storeCall_ok hcall⟩

theorem logout_error {up : Bool} {now : Instant} {token : String} {p : Problem}
    {db db' : IdentityDb} (h : logout lang up now token db = (.error p, db')) : db' = db := by
  unfold logout at h
  split at h
  · rename_i hcall
    rw [← (Prod.mk.inj h).2, storeCall_error hcall]
  · cases h

/-! ## The steps

Each action of the system, once its transaction has run, is one of these steps, with what its
statements checked. -/

/-- What happened, with what the code has checked. -/
inductive AuthStep (lang : AuthLang) (settings : AuthSettings) (s : AuthSys) : AuthSys → Prop where
  /-- a refusal, the clock or the operator -/
  | quiet {s' : AuthSys} (hsessions : s'.db.sessionIndex = s.db.sessionIndex)
      (hhandshakes : s'.db.loginHandshake = s.db.loginHandshake)
      (hcallbacks : s'.callbacks.Sublist s.callbacks) (hadmitted : s'.admitted.Sublist s.admitted)
      (hlog : s'.log = s.log) (hnow : s.now ≤ s'.now) : AuthStep lang settings s s'
  | started (secrets : LoginSecrets) (returnTo : Option String) (t : Table LoginHandshakeRow)
      (hfree : ∀ row ∈ s.db.loginHandshake, row.handshake.state ≠ secrets.state)
      (hmem : ∀ row, row ∈ t ↔ row ∈ s.db.loginHandshake ∨
        row = ⟨newHandshake settings s.now secrets returnTo, none⟩) :
      AuthStep lang settings s { s with
        db := { s.db with loginHandshake := t }
        log := s.log ++
          [.loginStarted (newHandshake settings s.now secrets returnTo) returnTo s.now] }
  | consumed (handshake : LoginHandshake) (t : Table LoginHandshakeRow)
      (hlive : s.now < handshake.expiresAt)
      (hreplaced : s.db.loginHandshake.Replaced t ⟨handshake, none⟩ ⟨handshake, some s.now⟩) :
      AuthStep lang settings s { s with
        db := { s.db with loginHandshake := t }
        callbacks := handshake :: s.callbacks
        log := s.log ++ [.handshakeConsumed handshake s.now] }
  | established (e : Established) (t : Table SessionIndexRow) (hwaiting : e.handshake ∈ s.callbacks)
      (hactive : e.active ∈ activeIdentities s.db e.identity.subject)
      (hfresh : ∀ row ∈ s.db.sessionIndex, row.sessionTokenHash ≠ lang.hashSecret e.token)
      (hmem : ∀ row, row ∈ t ↔ row ∈ s.db.sessionIndex ∨ row = e.row lang settings)
      (hexpires : e.expiresAt = sessionExpiry settings s.now e.identity)
      (hnow : e.establishedAt = s.now) (htoken : e.token ≠ "") :
      AuthStep lang settings s { s with
        db := { s.db with sessionIndex := t }
        callbacks := s.callbacks.erase e.handshake
        log := s.log ++ [.sessionEstablished e] }
  | admitted (frame : Admitted)
      (hgate : ∃ up, enforceVersionedSessionAndCsrf lang settings up s.now frame.req s.db =
        .ok (some (frame.token, frame.resolved))) :
      AuthStep lang settings s { s with
        admitted := frame :: s.admitted
        log := s.log ++ [.admitted frame.req frame.token frame.resolved s.now] }
  | loggedOut (frame : Admitted) (t : Table SessionIndexRow) (hframe : frame ∈ s.admitted)
      (hroute : frame.req.method = "POST" ∧ frame.req.path = logoutPath)
      (hmem : ∀ row, row ∈ t ↔ ∃ old ∈ s.db.sessionIndex, row =
        if revocable (lang.hashSecret frame.token) old then { old with revokedAt := some s.now }
        else old) :
      AuthStep lang settings s { s with
        db := { s.db with sessionIndex := t }
        admitted := s.admitted.erase frame
        log := s.log ++ [.loggedOut frame.token s.now] }

/-- Each enabled action is one of the steps. -/
theorem authStep_of_enabled {s : AuthSys} {a : AuthAction} (ha : a.Enabled s) :
    AuthStep lang settings s (s.perform lang settings a) := by
  cases a with
  | tick now => exact .quiet rfl rfl (List.Sublist.refl _) (List.Sublist.refl _) rfl ha
  | administer users memberships =>
    exact .quiet rfl rfl (List.Sublist.refl _) (List.Sublist.refl _) rfl (le_refl _)
  | login up authorizationUrl secrets returnTo =>
    show AuthStep lang settings s (s.afterLogin (newHandshake settings s.now secrets returnTo)
      returnTo _ (login up authorizationUrl _ s.db).2)
    rw [login_db]
    -- a store that is down, or a state that is taken, leaves the tables as they are
    cases hcall : storeCall up (createLoginHandshake
        (newHandshake settings s.now secrets returnTo)) s.db with
    | mk result db' =>
      cases result with
      | error error =>
        have hdb := storeCall_error hcall
        subst hdb
        exact .quiet rfl rfl (List.Sublist.refl _) (List.Sublist.refl _) (List.append_nil _)
          (le_refl _)
      | ok u =>
        obtain ⟨hfree, t, rfl, hmem⟩ := createLoginHandshake_ok (storeCall_ok hcall)
        exact .started secrets returnTo t hfree hmem
  | callback up state =>
    show AuthStep lang settings s
      (s.afterCallback (callback up s.now state s.db).1 (callback up s.now state s.db).2)
    cases hcall : callback up s.now state s.db with
    | mk result db' =>
      cases result with
      | error p =>
        have hdb := callback_error hcall
        subst hdb
        exact .quiet rfl rfl (List.Sublist.refl _) (List.Sublist.refl _) rfl (le_refl _)
      | ok handshake =>
        -- the handshake is consumed with its row, so a second callback finds nothing
        obtain ⟨-, hlive, t, rfl, hreplaced⟩ := consumeLoginHandshake_some (callback_ok hcall)
        exact .consumed handshake t hlive hreplaced
  | complete up handshake answer token =>
    obtain ⟨hwaiting, htoken⟩ := ha
    show AuthStep lang settings s (s.afterComplete handshake
      (completeCallback lang settings up s.now handshake answer token s.db).1
      (completeCallback lang settings up s.now handshake answer token s.db).2)
    cases hcall : completeCallback lang settings up s.now handshake answer token s.db with
    | mk result db' =>
      cases result with
      | error p =>
        have hdb := completeCallback_error hcall
        subst hdb
        exact .quiet rfl rfl List.erase_sublist (List.Sublist.refl _) rfl (le_refl _)
      | ok e =>
        obtain ⟨rfl, rfl, hnow, hexpires, hrun⟩ := completeCallback_ok hcall
        -- the session is written for the subject that the provider has named
        obtain ⟨hactive, hfresh, t, rfl, hmem⟩ := establishSessionForSubject_some hrun
        rw [← hexpires] at hmem
        exact .established e t hwaiting hactive hfresh hmem hexpires hnow htoken
  | request up req =>
    show AuthStep lang settings s
      (s.afterRequest req (enforceVersionedSessionAndCsrf lang settings up s.now req s.db))
    -- a request writes nothing; only one with a session is logged
    cases hgate : enforceVersionedSessionAndCsrf lang settings up s.now req s.db with
    | error p => exact .quiet rfl rfl (List.Sublist.refl _) (List.Sublist.refl _) rfl (le_refl _)
    | ok found =>
      cases found with
      | none => exact .quiet rfl rfl (List.Sublist.refl _) (List.Sublist.refl _) rfl (le_refl _)
      | some found =>
        obtain ⟨token, resolved⟩ := found
        exact .admitted ⟨req, token, resolved⟩ ⟨up, hgate⟩
  | logout up frame =>
    obtain ⟨hframe, hroute⟩ := ha
    show AuthStep lang settings s (s.afterLogout frame
      (logout lang up s.now frame.token s.db).1 (logout lang up s.now frame.token s.db).2)
    cases hcall : logout lang up s.now frame.token s.db with
    | mk result db' =>
      cases result with
      | error p =>
        have hdb := logout_error hcall
        subst hdb
        exact .quiet rfl rfl (List.Sublist.refl _) List.erase_sublist rfl (le_refl _)
      | ok u =>
        -- the row of the session is revoked, not deleted
        obtain ⟨revoked, hrun⟩ := logout_ok hcall
        obtain ⟨t, rfl, hmem⟩ := revokeSession_ok hrun
        exact .loggedOut frame t hframe hroute hmem

/-! ## The gate -/

/-- The request comes from an origin of the application. -/
def FromAllowedOrigin (lang : AuthLang) (settings : AuthSettings) (req : HttpRequest) : Prop :=
  ∃ origin ∈ allowedOrigins settings, requestOrigin lang req = some (some origin)

theorem csrfValid_iff {resolved : ResolvedSession} {supplied : Option String} :
    csrfValid lang resolved supplied = true ↔
      ∃ csrf, supplied = some csrf ∧ csrf ≠ "" ∧ lang.hashSecret csrf = resolved.csrfTokenHash := by
  cases supplied with
  | none => simp [csrfValid]
  | some csrf => simp [csrfValid]

theorem resolveCookie_some {up : Bool} {now : Instant} {cookie : Option String} {db : IdentityDb}
    {token : String} {resolved : ResolvedSession}
    (h : resolveCookie lang up now cookie db = some (some (token, resolved))) :
    cookie = some token ∧ token ≠ "" ∧
      resolveSession now (lang.hashSecret token) db = some resolved := by
  unfold resolveCookie at h
  split at h
  · cases h
  · rename_i found hcookie
    obtain ⟨hcookie, hne⟩ := Option.filter_eq_some_iff.mp hcookie
    split at h
    · obtain ⟨r, hr, hpair⟩ := Option.map_eq_some_iff.mp (Option.some.inj h)
      obtain ⟨rfl, rfl⟩ := Prod.mk.inj hpair
      exact ⟨hcookie, of_decide_eq_true hne, hr⟩
    · cases h

/-- A cookie that is there is resolved. -/
theorem resolveCookie_up (now : Instant) {token : String} (htoken : token ≠ "") (db : IdentityDb) :
    resolveCookie lang true now (some token) db =
      some ((resolveSession now (lang.hashSecret token) db).map fun r => (token, r)) := by
  have hfilter : (some token).filter (fun t => decide (t ≠ "")) = some token :=
    Option.filter_eq_some_iff.mpr ⟨rfl, decide_eq_true htoken⟩
  unfold resolveCookie
  rw [hfilter]
  rfl

/-- **What the gate has checked** of a request it lets through. -/
theorem gate_ok {up : Bool} {now : Instant} {req : HttpRequest} {db : IdentityDb} {token : String}
    {resolved : ResolvedSession}
    (h : enforceVersionedSessionAndCsrf lang settings up now req db =
      .ok (some (token, resolved))) :
    isPublic req.path = false ∧ req.cookie = some token ∧ token ≠ "" ∧
      resolveSession now (lang.hashSecret token) db = some resolved ∧
      (req.method ∈ unsafeMethods →
        FromAllowedOrigin lang settings req ∧ csrfValid lang resolved req.csrf = true) := by
  unfold enforceVersionedSessionAndCsrf at h
  split at h
  · cases h
  · rename_i hpublic
    split at h
    · cases h
    · cases h
    · -- the path is not public and the cookie resolved
      rename_i found r hcookie
      have hpath : isPublic req.path = false := Bool.eq_false_iff.mpr hpublic
      obtain ⟨hheld, hne, hresolved⟩ := resolveCookie_some hcookie
      split at h
      · split at h
        · cases h
        · rename_i origin horigin
          split at h
          · cases h
          · rename_i hchecks
            obtain ⟨rfl, rfl⟩ := Prod.mk.inj (Option.some.inj (Except.ok.inj h))
            rw [not_or] at hchecks
            -- an unsafe method passed both the origin and the token check
            have hallowed : FromAllowedOrigin lang settings req := by
              obtain ⟨o, ho, hin⟩ : ∃ o ∈ origin, o ∈ allowedOrigins settings := by
                by_contra hnone
                exact hchecks.1 fun o ho hin => hnone ⟨o, ho, hin⟩
              exact ⟨o, hin, by rw [horigin, Option.mem_def.mp ho]⟩
            refine ⟨hpath, hheld, hne, hresolved, fun _ => ⟨hallowed, ?_⟩⟩
            simpa using hchecks.2
      · -- a safe method is checked for neither
        rename_i hmethod
        obtain ⟨rfl, rfl⟩ := Prod.mk.inj (Option.some.inj (Except.ok.inj h))
        exact ⟨hpath, hheld, hne, hresolved, fun hwrites => absurd hwrites hmethod⟩

/-- A request that passes all the checks is let through. -/
theorem gate_passes {now : Instant} {req : HttpRequest} {db : IdentityDb} {token : String}
    {resolved : ResolvedSession} (hpath : isPublic req.path = false)
    (hcookie : req.cookie = some token) (htoken : token ≠ "")
    (hresolved : resolveSession now (lang.hashSecret token) db = some resolved)
    (hwrites : req.method ∈ unsafeMethods →
      FromAllowedOrigin lang settings req ∧ csrfValid lang resolved req.csrf = true) :
    enforceVersionedSessionAndCsrf lang settings true now req db =
      .ok (some (token, resolved)) := by
  unfold enforceVersionedSessionAndCsrf
  rw [if_neg (by simp [hpath]), hcookie, resolveCookie_up now htoken, hresolved]
  show (if req.method ∈ unsafeMethods then _ else _) = _
  split
  · rename_i hmethod
    obtain ⟨⟨origin, hin, horigin⟩, hcsrf⟩ := hwrites hmethod
    rw [horigin]
    show (if _ then _ else _) = _
    rw [if_neg]
    rw [not_or]
    constructor
    · intro hnone
      exact hnone origin rfl hin
    · rw [hcsrf]
      decide
  · rfl

end ShiftMind.Auth
