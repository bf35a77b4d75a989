import ShiftMind.Auth.Sessions

/-!
# ShiftMind — who gets through the gate

* **`admitted_requests_authentic`** — a request behind the gate goes back to one login, whose
  handshake was consumed once and led to one session, which is neither expired nor logged out; an
  unsafe request also came from the application and showed the token of that session.
* **`established_sessions_live`** — a session works until its end: the gate and `session` accept
  its token exactly while it is alive, and never again once it was logged out or has expired.
-/

namespace ShiftMind.Auth

open Relational Transactional Transition

variable {lang : AuthLang} {settings : AuthSettings}

/-! ## The invariant holds -/

/-- The session behind a request that is let through. -/
theorem AuthInv.justifies_gate {s : AuthSys} (h : AuthInv lang settings s) {up : Bool}
    {frame : Admitted}
    (hgate : enforceVersionedSessionAndCsrf lang settings up s.now frame.req s.db =
      .ok (some (frame.token, frame.resolved))) :
    Justified lang settings s.log (.admitted frame.req frame.token frame.resolved s.now) := by
  obtain ⟨hpath, hcookie, -, hresolved, hwrites⟩ := gate_ok hgate
  obtain ⟨row, hrow, -, -, -, -, hlive, -, hframe⟩ := resolveSession_iff.mp hresolved
  obtain ⟨hhash, hopen, hexpires⟩ := liveSession_iff.mp hlive
  obtain ⟨e, he, hof⟩ := h.sessions.rows row hrow
  have hresolvedOf : frame.resolved = e.resolved lang settings := by rw [hframe, hof.resolved]
  refine ⟨hpath, hcookie, e, he, by rw [← hhash, hof.hash], hresolvedOf, ?_, ?_, ?_⟩
  · rw [← hof.expiresAt]
    exact hexpires
  · -- a logout would have revoked the row
    intro token' at' hin hsame
    exact (h.sessions.revoked row hrow).mpr ⟨token', at', hin, by rw [hsame, hhash]⟩ hopen
  · intro hmethod
    obtain ⟨horigin, hcsrf⟩ := hwrites hmethod
    rw [hresolvedOf] at hcsrf
    exact ⟨horigin, csrfValid_iff.mp hcsrf⟩

theorem AuthInv.step {s s' : AuthSys} (h : AuthInv lang settings s)
    (hstep : AuthStep lang settings s s') : AuthInv lang settings s' := by
  cases hstep with
  | quiet hsessions hhandshakes hcallbacks hadmitted hlog hnow =>
    exact h.quiet hsessions hhandshakes hcallbacks hadmitted hlog
  | started secrets returnTo t hfree hmem =>
    refine ⟨h.handshakes.store hmem returnTo s.now, h.sessions.other rfl, h.gated_concat _,
      h.explained.concat ⟨rfl, rfl, ?_⟩⟩
    intro h' r at' hin hstate
    -- an earlier handshake under this state would still have its row, and the insert met none
    obtain ⟨row, hrow, hsame⟩ := h.handshakes.stored h' r at' hin
    exact hfree row hrow (hsame.trans hstate)
  | consumed handshake t hlive hreplaced =>
    -- all three facts are about the row before it is taken
    have hanswered : ∀ e, .sessionEstablished e ∈ s.log →
        ∃ at', .handshakeConsumed e.handshake at' ∈ s.log :=
          fun e he => h.consumed_of_established he
    have hstarted := h.handshakes.started _ hreplaced.mem_old
    have hnew := h.handshakes.not_consumed hreplaced.mem_old
    exact ⟨h.handshakes.consume hanswered hreplaced, h.sessions.other rfl, h.gated_concat _,
      h.explained.concat ⟨hstarted, hlive, hnew⟩⟩
  | established e t hwaiting hactive hfresh hmem hexpires hnow htoken =>
    refine ⟨h.handshakes.answer hwaiting,
      h.sessions.insert hfresh (fun token at' hin => h.row_of_loggedOut hin) hmem,
      h.gated_concat _, h.explained.concat ⟨h.handshakes.waiting _ hwaiting, ?_, htoken, ?_⟩⟩
    · rw [hnow]
      exact hexpires
    · intro e' he'
      refine ⟨(h.handshakes.unanswered e' he' _ hwaiting).symm, ?_⟩
      obtain ⟨row, hrow, hof⟩ := h.sessions.kept e' he'
      rw [← hof.hash]
      exact hfresh row hrow
  | admitted frame hgate =>
    obtain ⟨up, hgate⟩ := hgate
    refine ⟨h.handshakes.other rfl, h.sessions.other rfl, ?_,
      h.explained.concat (h.justifies_gate hgate)⟩
    intro f hf
    cases List.mem_cons.mp hf with
    | inl hfirst =>
      rw [hfirst]
      exact ⟨s.now, mem_concat.mpr (.inr rfl)⟩
    | inr hrest => exact h.gated_concat _ f hrest
  | loggedOut frame t hframe hroute hmem =>
    obtain ⟨at', hat⟩ := h.gated frame hframe
    exact ⟨h.handshakes.other rfl, h.sessions.revoke hmem,
      fun f hf => h.gated_concat _ f (List.mem_of_mem_erase hf),
      h.explained.concat ⟨frame.req, frame.resolved, at', hat, hroute⟩⟩

theorem authInv_reachable {s : AuthSys} (hreach : Reachable (authMachine lang settings).system s) :
    AuthInv lang settings s := by
  refine Machine.reachable_invariant (AuthInv lang settings) (fun s h => .initial h) ?_ hreach
  intro s a h ha
  exact h.step (authStep_of_enabled ha)

/-! ## Only sessions get through

A request that the gate lets through is explained by the log: its session, the login behind it, the
handshake behind that. -/

/-- Two events of one kind, the earlier one first, that do not share what each may use once. -/
def Apart (lang : AuthLang) : AuthEvent → AuthEvent → Prop
  | .loginStarted a _ _, .loginStarted b _ _ => a.state ≠ b.state
  | .handshakeConsumed a _, .handshakeConsumed b _ => a.state ≠ b.state
  | .sessionEstablished a, .sessionEstablished b =>
    a.handshake.state ≠ b.handshake.state ∧ lang.hashSecret a.token ≠ lang.hashSecret b.token
  | _, _ => True

theorem apart_of_justified {before : List AuthEvent} {e : AuthEvent}
    (h : Justified lang settings before e) : ∀ earlier ∈ before, Apart lang earlier e := by
  intro earlier hin
  cases e with
  | loginStarted handshake r t =>
    cases earlier with
    | loginStarted => exact h.2.2 _ _ _ hin
    | _ => trivial
  | handshakeConsumed handshake t =>
    cases earlier with
    | handshakeConsumed => exact h.2.2 _ _ hin
    | _ => trivial
  | sessionEstablished e =>
    cases earlier with
    | sessionEstablished => exact h.2.2.2 _ hin
    | _ => trivial
  | admitted => cases earlier <;> trivial
  | loggedOut => cases earlier <;> trivial

/-- The login a session goes back to, in order. -/
theorem login_of_established {log : List AuthEvent}
    (h : Log.Explained (Justified lang settings) log) {e : Established}
    (he : .sessionEstablished e ∈ log) :
    ∃ returnTo started consumed,
      [.loginStarted e.handshake returnTo started, .handshakeConsumed e.handshake consumed,
        .sessionEstablished e].Sublist log ∧
      consumed < e.handshake.expiresAt ∧ e.handshake.expiresAt = started + handshakeTtl ∧
      e.handshake.redirectTarget = redirectTarget settings returnTo ∧
      e.expiresAt = sessionExpiry settings e.establishedAt e.identity ∧ e.token ≠ "" := by
  obtain ⟨before, after, hlog, ⟨⟨consumed, hconsumed⟩, hexpires, htoken, -⟩, hbefore⟩ :=
    h.of_mem he
  obtain ⟨front, back, hfront, ⟨⟨returnTo, started, hstarted⟩, hlive, -⟩, hfrontExplained⟩ :=
    hbefore.of_mem hconsumed
  obtain ⟨first, rest, -, ⟨htarget, httl, -⟩, -⟩ := hfrontExplained.of_mem hstarted
  refine ⟨returnTo, started, consumed, ?_, hlive, httl, htarget, hexpires, htoken⟩
  rw [hlog, hfront]
  exact Log.sublist_through (Log.sublist_through (List.singleton_sublist.mpr hstarted))

/-- A session that a step establishes is that of an active identity. -/
theorem established_of_step {s s' : AuthSys} (hstep : AuthStep lang settings s s')
    {e : Established} (he : .sessionEstablished e ∈ s'.log) :
    .sessionEstablished e ∈ s.log ∨ e.active ∈ activeIdentities s.db e.identity.subject := by
  cases hstep with
  | quiet hsessions hhandshakes hcallbacks hadmitted hlog hnow =>
    rw [hlog] at he
    exact .inl he
  | established e' t hwaiting hactive hfresh hmem hexpires hnow htoken =>
    cases mem_concat.mp he with
    | inl hold => exact .inl hold
    | inr hnew =>
      rw [AuthEvent.sessionEstablished.inj hnew]
      exact .inr hactive
  | _ => exact .inl ((mem_concat.mp he).resolve_right (by simp))

/-- **Only sessions get through.** In every reachable state: no state of a handshake is stored,
consumed or answered twice, and no two sessions share a hash; a session that a step establishes is
one of an enabled user with an active membership, whom the provider's subject names; and whatever
the gate let through goes back, in order, to a login, its handshake consumed in time and the one
session it led to, which was not expired and not logged out before — an unsafe request also came
from an allowed origin and showed the token of that session. -/
theorem admitted_requests_authentic {s : AuthSys}
    (hreach : Reachable (authMachine lang settings).system s) :
    s.log.Pairwise (Apart lang) ∧
    (∀ a : AuthAction, a.Enabled s → ∀ e, .sessionEstablished e ∈ (s.perform lang settings a).log →
      .sessionEstablished e ∈ s.log ∨ e.active ∈ activeIdentities s.db e.identity.subject) ∧
    ∀ before req token resolved admitted after,
      s.log = before ++ .admitted req token resolved admitted :: after →
      ∃ e returnTo started consumed,
        [.loginStarted e.handshake returnTo started, .handshakeConsumed e.handshake consumed,
          .sessionEstablished e].Sublist before ∧
        consumed < e.handshake.expiresAt ∧ e.handshake.expiresAt = started + handshakeTtl ∧
        lang.hashSecret token = lang.hashSecret e.token ∧ resolved = e.resolved lang settings ∧
        admitted < e.expiresAt ∧
        e.expiresAt = min (e.establishedAt + seconds settings.sessionTtlS) e.identity.expiresAt ∧
        NotLoggedOut lang before token ∧
        (req.method ∈ unsafeMethods → UnsafeChecked lang settings req e) := by
  have h := authInv_reachable hreach
  refine ⟨h.explained.pairwise fun before e he => apart_of_justified he, ?_, ?_⟩
  · intro a ha e he
    exact established_of_step (authStep_of_enabled ha) he
  · intro before req token resolved admitted after hlog
    obtain ⟨-, -, e, he, hhash, hresolved, hlive, hopen, hwrites⟩ :=
      h.explained before _ after hlog
    have hbefore : Log.Explained (Justified lang settings) before :=
      Log.Explained.before (hlog ▸ h.explained)
    obtain ⟨returnTo, started, consumed, hchain, hconsumed, httl, -, hexpires, -⟩ :=
      login_of_established hbefore he
    exact ⟨e, returnTo, started, consumed, hchain, hconsumed, httl, hhash, hresolved, hlive,
      hexpires, hopen, hwrites⟩

theorem planner_initial : (authMachine Planner.lang Planner.settings).initial Planner.site :=
  ⟨rfl, rfl, rfl, rfl, rfl⟩

theorem signedIn_reachable :
    Reachable (authMachine Planner.lang Planner.settings).system Planner.signedIn := by
  refine Machine.reachable_of_schedule planner_initial ⟨trivial, trivial, ⟨?_, ?_⟩, trivial⟩
  · exact List.mem_singleton.mpr rfl
  · decide

theorem signedIn_log : Planner.signedIn.log =
    [.loginStarted Planner.handshake (some "/scenarios/abc") 0,
      .handshakeConsumed Planner.handshake 0, .sessionEstablished Planner.established] := by
  decide +kernel

theorem atGate_reachable :
    Reachable (authMachine Planner.lang Planner.settings).system Planner.atGate :=
  signedIn_reachable.step ⟨.request true Planner.logoutRequest, trivial, rfl⟩

theorem atGate_log : Planner.atGate.log = Planner.signedIn.log ++
    [.admitted Planner.logoutRequest Planner.token
      (Planner.established.resolved Planner.lang Planner.settings) 0] := by
  decide +kernel

theorem admitted_requests_authentic_planner :
    ∃ e, .sessionEstablished e ∈ Planner.signedIn.log ∧
      UnsafeChecked Planner.lang Planner.settings Planner.logoutRequest e := by
  obtain ⟨-, -, hadmitted⟩ := admitted_requests_authentic atGate_reachable
  obtain ⟨e, returnTo, started, consumed, hchain, -, -, -, -, -, -, -, hwrites⟩ :=
    hadmitted _ _ _ _ _ [] atGate_log
  exact ⟨e, hchain.subset (by simp), hwrites (by decide)⟩

/-! ## Every session gets through

The other direction: a session that is live is not turned away. -/

/-- The session is not logged out and not expired. -/
structure Established.Open (lang : AuthLang) (s : AuthSys) (e : Established) : Prop where
  notLoggedOut : NotLoggedOut lang s.log e.token
  unexpired : s.now < e.expiresAt

/-- The session is open, its user is enabled and the membership active. -/
structure Established.Alive (lang : AuthLang) (s : AuthSys) (e : Established) : Prop
    extends e.Open lang s where
  member : ∃ user ∈ s.db.appUser, ∃ member ∈ s.db.membership,
    user.id = e.active.appUserId ∧ activeMember user member = true ∧
      member.siteId = e.active.siteId

/-- **What a session resolves to**, and when. -/
theorem AuthInv.resolve_iff {s : AuthSys} (h : AuthInv lang settings s) {e : Established}
    (he : .sessionEstablished e ∈ s.log) {resolved : ResolvedSession} :
    resolveSession s.now (lang.hashSecret e.token) s.db = some resolved ↔
      e.Alive lang s ∧ resolved = e.resolved lang settings := by
  obtain ⟨row, hrow, hof⟩ := h.sessions.kept e he
  -- a row is revoked exactly if its token was logged out
  have hopen : row.revokedAt = none ↔ NotLoggedOut lang s.log e.token := by
    have hrevoked := h.sessions.revoked row hrow
    rw [hof.hash] at hrevoked
    constructor
    · intro hnone token at' hin hsame
      exact hrevoked.mpr ⟨token, at', hin, hsame⟩ hnone
    · intro hnot
      by_contra hsome
      obtain ⟨token, at', hin, hsame⟩ := hrevoked.mp hsome
      exact hnot token at' hin hsame
  rw [resolveSession_iff]
  constructor
  · intro ⟨row', hrow', user, huser, member, hmember, hlive, hjoins, hresolved⟩
    obtain ⟨hhash, hnone, hexpires⟩ := liveSession_iff.mp hlive
    obtain ⟨hid, hactive, hsite⟩ := sessionJoins_iff.mp hjoins
    -- token hashes are unique, so the row found is the session's own
    have hsame : row' = row :=
      Table.eq_of_clash hrow' hrow (clash_of_hash _ _ _ hhash hof.hash)
    subst hsame
    rw [hof.expiresAt] at hexpires
    rw [hof.appUserId] at hid
    rw [hof.siteId] at hsite
    exact ⟨⟨⟨hopen.mp hnone, hexpires⟩, user, huser, member, hmember, hid, hactive, hsite⟩,
      by rw [hresolved, hof.resolved]⟩
  · intro ⟨⟨⟨hnot, hexpires⟩, user, huser, member, hmember, hid, hactive, hsite⟩, hresolved⟩
    refine ⟨row, hrow, user, huser, member, hmember, ?_, ?_, by rw [hresolved, hof.resolved]⟩
    · exact liveSession_iff.mpr ⟨hof.hash, hopen.mpr hnot, by rw [hof.expiresAt]; exact hexpires⟩
    · exact sessionJoins_iff.mpr ⟨by rw [hof.appUserId, hid], hactive, by rw [hof.siteId, hsite]⟩

theorem AuthInv.resolve_none {s : AuthSys} (h : AuthInv lang settings s) {e : Established}
    (he : .sessionEstablished e ∈ s.log) (hdead : ¬ e.Alive lang s) :
    resolveSession s.now (lang.hashSecret e.token) s.db = none := by
  cases hresolve : resolveSession s.now (lang.hashSecret e.token) s.db with
  | none => rfl
  | some resolved => exact absurd ((h.resolve_iff he).mp hresolve).1 hdead

/-- `session`, for the cookie of a session: it shows the CSRF token while the session is alive. -/
theorem AuthInv.session_eq {s : AuthSys} (h : AuthInv lang settings s) {e : Established}
    (he : .sessionEstablished e ∈ s.log) (htoken : e.token ≠ "") :
    (e.Alive lang s → session lang settings true s.now (some e.token) s.db =
      .ok ⟨e.active.appUserId, e.active.siteId,
        lang.csrfTokenForSession e.token settings.csrfSecret, e.expiresAt⟩) ∧
    (¬ e.Alive lang s → session lang settings true s.now (some e.token) s.db =
      .error authenticationRequired) := by
  unfold session
  rw [resolveCookie_up s.now htoken]
  constructor
  · intro halive
    rw [(h.resolve_iff he).mpr ⟨halive, rfl⟩]
    -- the row keeps the hash of the token that is derived again here
    show (if _ == _ then _ else _) = _
    exact if_pos (beq_self_eq_true (e.resolved lang settings).csrfTokenHash)
  · intro hdead
    rw [h.resolve_none he hdead]
    rfl

theorem AuthInv.gate_iff {s : AuthSys} (h : AuthInv lang settings s) {e : Established}
    (he : .sessionEstablished e ∈ s.log) (htoken : e.token ≠ "") {req : HttpRequest}
    (hcookie : req.cookie = some e.token) (hpath : isPublic req.path = false) :
    enforceVersionedSessionAndCsrf lang settings true s.now req s.db =
        .ok (some (e.token, e.resolved lang settings)) ↔
      e.Alive lang s ∧ (req.method ∈ unsafeMethods → UnsafeChecked lang settings req e) := by
  constructor
  · intro hgate
    obtain ⟨-, -, -, hresolved, hwrites⟩ := gate_ok hgate
    refine ⟨((h.resolve_iff he).mp hresolved).1, fun hmethod => ?_⟩
    obtain ⟨horigin, hcsrf⟩ := hwrites hmethod
    exact ⟨horigin, csrfValid_iff.mp hcsrf⟩
  · intro ⟨halive, hwrites⟩
    refine gate_passes hpath hcookie htoken ((h.resolve_iff he).mpr ⟨halive, rfl⟩) fun hmethod => ?_
    obtain ⟨horigin, hcsrf⟩ := hwrites hmethod
    exact ⟨horigin, csrfValid_iff.mpr hcsrf⟩

/-! ## The end of a session -/

/-- The log grows and the clock goes on. -/
def Later (s s' : AuthSys) : Prop := s.log <+: s'.log ∧ s.now ≤ s'.now

theorem later_of_step {s s' : AuthSys} (hstep : AuthStep lang settings s s') : Later s s' := by
  cases hstep with
  | quiet hsessions hhandshakes hcallbacks hadmitted hlog hnow =>
    exact ⟨by simp [hlog], hnow⟩
  | _ => exact ⟨List.prefix_append .., le_refl _⟩

theorem later_of_run {s s' : AuthSys} (hreach : Reachable (authMachine lang settings).system s)
    (hrun : Run (authMachine lang settings).system s s') : Later s s' := by
  refine Run.leads (R := Later) (fun s => ⟨List.prefix_refl _, le_refl _⟩) ?_ ?_ hreach hrun
  · intro s s' s'' h h'
    exact ⟨h.1.trans h'.1, h.2.trans h'.2⟩
  · rintro s s' - ⟨a, ha, rfl⟩
    exact later_of_step (authStep_of_enabled ha)

theorem Established.Open.earlier {s s' : AuthSys} {e : Established} (h : e.Open lang s')
    (hlater : Later s s') : e.Open lang s where
  notLoggedOut token at' hin := h.notLoggedOut token at' (hlater.1.subset hin)
  unexpired := lt_of_le_of_lt hlater.2 h.unexpired

/-- **Every session gets through, until its end.** For a session that was established: while it is
alive `session` shows its CSRF token, and otherwise refuses; the gate lets a request with its token
through exactly while it is alive, an unsafe request only from an allowed origin and with that CSRF
token; and once it was logged out or has expired, no later state accepts it again. -/
theorem established_sessions_live {s : AuthSys}
    (hreach : Reachable (authMachine lang settings).system s) {e : Established}
    (he : .sessionEstablished e ∈ s.log) :
    (e.Alive lang s → session lang settings true s.now (some e.token) s.db =
      .ok ⟨e.active.appUserId, e.active.siteId,
        lang.csrfTokenForSession e.token settings.csrfSecret, e.expiresAt⟩) ∧
    (¬ e.Alive lang s →
      session lang settings true s.now (some e.token) s.db = .error authenticationRequired) ∧
    (∀ req : HttpRequest, req.cookie = some e.token → isPublic req.path = false →
      (enforceVersionedSessionAndCsrf lang settings true s.now req s.db =
          .ok (some (e.token, e.resolved lang settings)) ↔
        e.Alive lang s ∧ (req.method ∈ unsafeMethods → UnsafeChecked lang settings req e))) ∧
    ∀ s', Run (authMachine lang settings).system s s' → ¬ e.Open lang s →
      session lang settings true s'.now (some e.token) s'.db = .error authenticationRequired ∧
        ∀ (req : HttpRequest) (token : String) (resolved : ResolvedSession) (up : Bool),
          lang.hashSecret token = lang.hashSecret e.token →
          enforceVersionedSessionAndCsrf lang settings up s'.now req s'.db ≠
            .ok (some (token, resolved)) := by
  have h := authInv_reachable hreach
  obtain ⟨-, -, -, -, -, -, -, -, htoken⟩ := login_of_established h.explained he
  obtain ⟨hshown, hrefused⟩ := h.session_eq he htoken
  refine ⟨hshown, hrefused, fun req hcookie hpath => h.gate_iff he htoken hcookie hpath, ?_⟩
  intro s' hrun hclosed
  have hlater := later_of_run hreach hrun
  have he' : .sessionEstablished e ∈ s'.log := hlater.1.subset he
  have h' := authInv_reachable (hreach.run hrun)
  have hdead : ¬ e.Alive lang s' := fun halive => hclosed (halive.toOpen.earlier hlater)
  refine ⟨(h'.session_eq he' htoken).2 hdead, ?_⟩
  intro req token resolved up hhash hgate
  have hresolved := (gate_ok hgate).2.2.2.1
  rw [hhash, h'.resolve_none he' hdead] at hresolved
  cases hresolved

theorem established_sessions_live_planner :
    session Planner.lang Planner.settings true 0 (some Planner.token) Planner.signedIn.db =
      .ok ⟨1, 7, Planner.csrf, 3600000000⟩ := by
  have he : .sessionEstablished Planner.established ∈ Planner.signedIn.log := by
    rw [signedIn_log]
    simp
  have halive : Planner.established.Alive Planner.lang Planner.signedIn := by
    refine ⟨⟨?_, by decide⟩, ⟨1, "seeded-planner", "planner@example.test", none⟩, ?_,
      ⟨1, 7, none⟩, ?_, rfl, by decide, rfl⟩
    · intro token at' hin
      rw [signedIn_log] at hin
      exact absurd hin (by simp)
    · exact List.mem_singleton.mpr rfl
    · exact List.mem_singleton.mpr rfl
  exact (established_sessions_live signedIn_reachable he).1 halive

/-! ## Where a callback sends the browser -/

/-- The target of a handshake has the scheme and the host of the application. -/
theorem redirectTarget_origin (tables : Url.Tables) (settings : AuthSettings)
    {parts : Url.SplitResult} (hbase : Url.urlsplit tables settings.appBaseUrl.toList = some parts)
    (hhost : parts.netloc ≠ []) (returnTo : Option String) :
    ∃ parts', Url.urlsplit tables (redirectTarget settings returnTo).toList = some parts' ∧
      parts'.scheme = parts.scheme ∧ parts'.netloc = parts.netloc := by
  unfold redirectTarget
  cases returnTo with
  | none => exact ⟨parts, hbase, rfl, rfl⟩
  | some path =>
    simp only
    split
    · rename_i hpath
      -- an accepted path starts with a slash, which ends the host of the base
      obtain ⟨rest, hrest⟩ := List.isPrefixOf_iff_prefix.mp hpath.2.1
      rw [String.toList_append, ← hrest]
      exact Url.urlsplit_slash tables hbase hhost rest
    · exact ⟨parts, hbase, rfl, rfl⟩

/-- **No open redirect.** In every run, whatever `return_to` a login was given, the callback that
ends it sends the browser to a URL of the application's own scheme and host. -/
theorem redirects_stay_home {s : AuthSys}
    (hreach : Reachable (authMachine lang settings).system s) {parts : Url.SplitResult}
    (hbase : Url.urlsplit lang.url settings.appBaseUrl.toList = some parts)
    (hhost : parts.netloc ≠ []) {e : Established} (he : .sessionEstablished e ∈ s.log) :
    ∃ parts', Url.urlsplit lang.url e.handshake.redirectTarget.toList = some parts' ∧
      parts'.scheme = parts.scheme ∧ parts'.netloc = parts.netloc := by
  obtain ⟨returnTo, -, -, -, -, -, htarget, -, -⟩ :=
    login_of_established (authInv_reachable hreach).explained he
  rw [htarget]
  exact redirectTarget_origin lang.url settings hbase hhost returnTo

theorem redirects_stay_home_planner :
    ∃ parts, Url.urlsplit Planner.lang.url Planner.handshake.redirectTarget.toList = some parts ∧
      parts.scheme = "http".toList ∧ parts.netloc = "shiftmind.test".toList := by
  have hbase : Url.urlsplit Planner.lang.url Planner.settings.appBaseUrl.toList =
      some ⟨"http".toList, "shiftmind.test".toList, []⟩ := by
    decide +kernel
  exact redirects_stay_home signedIn_reachable hbase (by decide)
    (e := Planner.established) (by simp [signedIn_log])

end ShiftMind.Auth
