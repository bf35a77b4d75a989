import ShiftMind.Auth.Endpoints
import ShiftMind.Library.Explained
import ShiftMind.Library.Transition

/-!
# ShiftMind — browsers, the provider and the operator, interleaved

Sign-in as a transition system. A step is one transaction of one request, so any two requests may
interleave between the consumption of a handshake and the session it leads to, and between the gate
and the handler behind it. What the provider answers, what a request carries and which secrets are
drawn is up to the environment.

* **`AuthSys`** — the clock, the tables, the requests under way and the log of what happened.
* **`AuthAction`** — a step's label, `Enabled` and performed by `AuthSys.perform`.
* **`AuthEvent`** — an entry of the log.
-/

namespace ShiftMind.Auth

open Relational Transactional Transition

/-! ## The state of the system -/

inductive AuthEvent where
  /-- a login stored its handshake -/
  | loginStarted (handshake : LoginHandshake) (returnTo : Option String) (at' : Instant)
  /-- a callback consumed a handshake -/
  | handshakeConsumed (handshake : LoginHandshake) (at' : Instant)
  /-- a callback was answered with a session -/
  | sessionEstablished (e : Established)
  /-- the gate let a request through -/
  | admitted (req : HttpRequest) (token : String) (resolved : ResolvedSession) (at' : Instant)
  /-- a logout was answered with success -/
  | loggedOut (token : String) (at' : Instant)
  deriving DecidableEq, Repr

/-- A request behind the gate. -/
structure Admitted where
  req : HttpRequest
  token : String
  resolved : ResolvedSession
  deriving DecidableEq, Repr

structure AuthSys where
  now : Instant := 0
  db : IdentityDb := {}
  /-- the callbacks that wait for the provider -/
  callbacks : List LoginHandshake := []
  /-- the requests behind the gate -/
  admitted : List Admitted := []
  /-- what happened, the last event last -/
  log : List AuthEvent := []

/-! ## The steps -/

inductive AuthAction where
  | tick (now : Instant)
  | login (up : Bool) (authorizationUrl : Option String) (secrets : LoginSecrets)
      (returnTo : Option String)
  | callback (up : Bool) (state : String)
  /-- the provider answers a callback, or refuses -/
  | complete (up : Bool) (handshake : LoginHandshake) (answer : Option OidcIdentity)
      (token : String)
  /-- a request arrives at the gate -/
  | request (up : Bool) (req : HttpRequest)
  /-- the handler of a logout runs -/
  | logout (up : Bool) (frame : Admitted)
  /-- the operator changes users and memberships -/
  | administer (users : Table AppUserRow) (memberships : Table MembershipRow)

/-- The route of `logout`. -/
def logoutPath : String := "/api/v1/auth/logout"

/-- When a step may be taken: the clock does not go back, a drawn token is not empty, the operator
deletes no user. -/
def AuthAction.Enabled (s : AuthSys) : AuthAction → Prop
  | .tick now => s.now ≤ now
  | .complete _ handshake _ token => handshake ∈ s.callbacks ∧ token ≠ ""
  | .logout _ frame =>
    frame ∈ s.admitted ∧ frame.req.method = "POST" ∧ frame.req.path = logoutPath
  | .administer users _ => ∀ user ∈ s.db.appUser, ∃ user' ∈ users, user'.id = user.id
  | _ => True

/-! ## What each step leaves -/

namespace AuthSys

/-- After a login; `stored` says whether its handshake was. -/
def afterLogin (s : AuthSys) (handshake : LoginHandshake) (returnTo : Option String)
    (stored : Bool) (db' : IdentityDb) : AuthSys :=
  { s with
    db := db'
    log := s.log ++ if stored then [.loginStarted handshake returnTo s.now] else [] }

def afterCallback (s : AuthSys) (result : Except Problem LoginHandshake) (db' : IdentityDb) :
    AuthSys :=
  match result with
  | .error _ => { s with db := db' }
  | .ok handshake =>
    { s with
      db := db'
      callbacks := handshake :: s.callbacks
      log := s.log ++ [.handshakeConsumed handshake s.now] }

def afterComplete (s : AuthSys) (handshake : LoginHandshake)
    (result : Except Problem Established) (db' : IdentityDb) : AuthSys :=
  match result with
  | .error _ => { s with db := db', callbacks := s.callbacks.erase handshake }
  | .ok e =>
    { s with
      db := db'
      callbacks := s.callbacks.erase handshake
      log := s.log ++ [.sessionEstablished e] }

def afterRequest (s : AuthSys) (req : HttpRequest)
    (result : Except Problem (Option (String × ResolvedSession))) : AuthSys :=
  match result with
  | .ok (some found) =>
    { s with
      admitted := ⟨req, found.1, found.2⟩ :: s.admitted
      log := s.log ++ [.admitted req found.1 found.2 s.now] }
  | _ => s

def afterLogout (s : AuthSys) (frame : Admitted) (result : Except Problem Unit)
    (db' : IdentityDb) : AuthSys :=
  match result with
  | .error _ => { s with db := db', admitted := s.admitted.erase frame }
  | .ok _ =>
    { s with
      db := db'
      admitted := s.admitted.erase frame
      log := s.log ++ [.loggedOut frame.token s.now] }

end AuthSys

section

variable (lang : AuthLang) (settings : AuthSettings)

/-- The state after a step. -/
def AuthSys.perform (s : AuthSys) : AuthAction → AuthSys
  | .tick now => { s with now := now }
  | .login up authorizationUrl secrets returnTo =>
    -- the handshake is stored before the browser is sent away
    let handshake := newHandshake settings s.now secrets returnTo
    s.afterLogin handshake returnTo (storeCall up (createLoginHandshake handshake) s.db).1.isOk
      (login up authorizationUrl handshake s.db).2
  | .callback up state =>
    let (result, db') := callback up s.now state s.db
    s.afterCallback result db'
  | .complete up handshake answer token =>
    let (result, db') := completeCallback lang settings up s.now handshake answer token s.db
    s.afterComplete handshake result db'
  | .request up req =>
    s.afterRequest req (enforceVersionedSessionAndCsrf lang settings up s.now req s.db)
  | .logout up frame =>
    let (result, db') := logout lang up s.now frame.token s.db
    s.afterLogout frame result db'
  -- the operator writes the tables directly
  | .administer users memberships =>
    { s with db := { s.db with appUser := users, membership := memberships } }

/-- The system starts with the tables empty but for the users and memberships the operator made. -/
def AuthSys.Initial (s : AuthSys) : Prop :=
  s.db.sessionIndex = .empty ∧ s.db.loginHandshake = .empty ∧ s.callbacks = [] ∧
    s.admitted = [] ∧ s.log = []

/-- The sign-in machine. -/
def authMachine : Machine AuthSys AuthAction where
  initial := AuthSys.Initial
  enabled s a := a.Enabled s
  perform s a := s.perform lang settings a

end

/-! ## A planner who signs in -/

namespace Planner

/-- The value of the session cookie. -/
def token : String := "q3Zt0Vd8mC5yLw2nRk7xJb4sHf1pGa9uEo6iTj0vXQc"

def csrf : String := "8yy2hRLh5_cw1OcuXEoe_nGJBrwvlDcxysFxiEMehQU"

/-- The primitives, with the digests of the two tokens. -/
def lang : AuthLang where
  url :=
    { lower := fun text => text.map Char.toLower
      bracketedHostOk := fun _ => false
      netlocOk := fun _ => true }
  hashSecret text :=
    if text = token then "ac00c61d107ec86ed49b60505d91ab114bda54a1e1fff49600fb7cabcc4bfad9"
    else if text = csrf then "657a78fb9ba4c15a06b7df09a7d8648720d39dec66d49102366d4f59c1e1ff3a"
    else text
  csrfTokenForSession _ _ := csrf
  csrfTokenForSession_ne := by
    intro _ _
    decide

def settings : AuthSettings :=
  ⟨"http://shiftmind.test", 3600, "shiftmind-local-csrf-secret", ["http://localhost:5173"]⟩

/-- The tables with the seeded planner. -/
def site : AuthSys where
  db :=
    { appUser := .ofRows [⟨1, "seeded-planner", "planner@example.test", none⟩]
      membership := .ofRows [⟨1, 7, none⟩] }

def secrets : LoginSecrets := ⟨"state-1", "nonce-1", "verifier-1"⟩

def identity : OidcIdentity :=
  ⟨"seeded-planner", "planner@example.test", "https://fake-idp.test", 7200000000⟩

def handshake : LoginHandshake := newHandshake settings 0 secrets (some "/scenarios/abc")

def signIn : List AuthAction :=
  [.login true (some "https://fake-idp.test/authorize") secrets (some "/scenarios/abc"),
    .callback true "state-1", .complete true handshake (some identity) token]

/-- The planner has signed in. -/
def signedIn : AuthSys := (authMachine lang settings).performAll site signIn

def established : Established := ⟨handshake, identity, token, ⟨1, 7⟩, 3600000000, 0⟩

def logoutRequest : HttpRequest where
  method := "POST"
  path := logoutPath
  cookie := some token
  origin := some "http://shiftmind.test"
  csrf := some csrf

/-- A logout has passed the gate. -/
def atGate : AuthSys := signedIn.perform lang settings (.request true logoutRequest)

end Planner

end ShiftMind.Auth
