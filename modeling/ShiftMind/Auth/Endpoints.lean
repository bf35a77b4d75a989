import ShiftMind.Auth.Identity
import ShiftMind.UseCases.RequestApproval

/-!
# ShiftMind — signing in, and the gate in front of the API

`api/routers/auth.py`, `api/auth_security.py` and the middleware of `api/main.py`. Each call of the
store is a transaction of its own; what a request does between two of them is a function of what
the first one returned.

* **`login`** — stores a handshake and sends the browser to the provider.
* **`callback`** — consumes the handshake; `completeCallback` establishes the session once the
  provider has answered.
* **`enforceVersionedSessionAndCsrf`** — the middleware: a live session for every request, and for
  an unsafe one the origin and the CSRF token as well.
* **`session`**, **`logout`** — the two endpoints of a signed-in browser.
-/

namespace ShiftMind.Auth

open Relational Transactional

/-! ## Settings and primitives -/

/-- The settings these endpoints read. -/
structure AuthSettings where
  appBaseUrl : String
  sessionTtlS : Int
  csrfSecret : String
  corsOrigins : List String
  deriving DecidableEq, Repr

/-- The primitives of `hashlib`, `hmac` and `urllib`. -/
structure AuthLang where
  url : Url.Tables
  /-- `hash_secret`: SHA-256, in hexadecimal -/
  hashSecret : String → String
  /-- `csrf_token_for_session`: an HMAC, in base64 -/
  csrfTokenForSession : String → String → String
  csrfTokenForSession_ne : ∀ token secret, csrfTokenForSession token secret ≠ ""

/-- `OidcIdentity`: what the provider vouches for. -/
structure OidcIdentity where
  subject : String
  email : String
  issuer : String
  expiresAt : Instant
  deriving DecidableEq, Repr

/-- `_HANDSHAKE_TTL`. -/
def handshakeTtl : Int := 10 * 60 * 1000000

/-- `timedelta(seconds=s)`. -/
def seconds (s : Int) : Int := s * 1000000

/-- `text.rstrip("/")`. -/
def rstripSlash (text : String) : String :=
  String.ofList (text.toList.reverse.dropWhile (· == '/')).reverse

/-- `"://" in text`. -/
def hasSchemeMark : List Char → Bool
  | [] => false
  | c :: rest => [':', '/', '/'].isPrefixOf (c :: rest) || hasSchemeMark rest

/-- `_redirect_target`: a path of the application, or the application itself. -/
def redirectTarget (settings : AuthSettings) (returnTo : Option String) : String :=
  match returnTo with
  | some path =>
    if path ≠ "" ∧ ['/'].isPrefixOf path.toList ∧ ¬ ['/', '/'].isPrefixOf path.toList ∧
        ¬ hasSchemeMark path.toList then
      settings.appBaseUrl ++ path
    else settings.appBaseUrl
  | none => settings.appBaseUrl

/-- A call of the store, in a transaction of its own; `up` says whether the database answers. -/
def storeCall {α : Type} (up : Bool) (body : IdentityTx α) (db : IdentityDb) :
    Except PyError α × IdentityDb :=
  if up then body.commit db else (.error (.databaseError "unreachable"), db)

/-- `versioned_unhandled_problem`. -/
def internalError : Problem :=
  ⟨500, "internal_error", "Internal server error", "The request could not be completed.", none⟩

/-! ## Signing in -/

/-- `secrets.token_urlsafe`, three times. -/
structure LoginSecrets where
  state : String
  nonce : String
  codeVerifier : String
  deriving DecidableEq, Repr

/-- The handshake of a login. -/
def newHandshake (settings : AuthSettings) (now : Instant) (secrets : LoginSecrets)
    (returnTo : Option String) : LoginHandshake where
  state := secrets.state
  nonce := secrets.nonce
  codeVerifier := secrets.codeVerifier
  redirectTarget := redirectTarget settings returnTo
  expiresAt := now + handshakeTtl

def providerUnavailable : Problem :=
  ⟨502, "oidc_provider_unavailable", "Sign-in failed",
    "The identity provider could not be reached.", none⟩

/-- `login`: where the browser is sent. A provider that cannot be reached leaves the handshake
behind. -/
def login (up : Bool) (authorizationUrl : Option String) (handshake : LoginHandshake)
    (db : IdentityDb) : Except Problem String × IdentityDb :=
  match storeCall up (createLoginHandshake handshake) db with
  | (.error _, db') => (.error providerUnavailable, db')
  | (.ok _, db') =>
    match authorizationUrl with
    | none => (.error providerUnavailable, db')
    | some url => (.ok url, db')

def invalidHandshake : Problem :=
  ⟨401, "invalid_login_handshake", "Sign-in failed",
    "The sign-in request is invalid or expired.", none⟩

/-- `callback`, up to the exchange of the code. -/
def callback (up : Bool) (now : Instant) (state : String) (db : IdentityDb) :
    Except Problem LoginHandshake × IdentityDb :=
  match storeCall up (consumeLoginHandshake now state) db with
  | (.error _, db') => (.error internalError, db')
  | (.ok none, db') => (.error invalidHandshake, db')
  | (.ok (some handshake), db') => (.ok handshake, db')

def identityRejected : Problem :=
  ⟨401, "oidc_identity_rejected", "Sign-in failed",
    "The identity provider response could not be accepted.", none⟩

def sessionStoreUnavailable : Problem :=
  ⟨502, "session_store_unavailable", "Sign-in failed",
    "The application session could not be created.", none⟩

def identityNotProvisioned : Problem :=
  ⟨401, "identity_not_provisioned", "Sign-in failed",
    "This identity is not provisioned for the application.", none⟩

/-- A session that a callback created: the answer redirects to the target of the handshake and sets
the cookie to the token. -/
structure Established where
  handshake : LoginHandshake
  identity : OidcIdentity
  token : String
  active : ActiveIdentity
  expiresAt : Instant
  establishedAt : Instant
  deriving DecidableEq, Repr

/-- The end of a session that is created now. -/
def sessionExpiry (settings : AuthSettings) (now : Instant) (identity : OidcIdentity) : Instant :=
  min (now + seconds settings.sessionTtlS) identity.expiresAt

/-- `callback`, from the answer of the provider on. -/
def completeCallback (lang : AuthLang) (settings : AuthSettings) (up : Bool) (now : Instant)
    (handshake : LoginHandshake) (answer : Option OidcIdentity) (token : String)
    (db : IdentityDb) : Except Problem Established × IdentityDb :=
  match answer with
  | none => (.error identityRejected, db)
  | some identity =>
    match storeCall up (establishSessionForSubject identity.subject (lang.hashSecret token)
        (lang.hashSecret (lang.csrfTokenForSession token settings.csrfSecret))
        (sessionExpiry settings now identity)) db with
    | (.error _, db') => (.error sessionStoreUnavailable, db')
    | (.ok none, db') => (.error identityNotProvisioned, db')
    | (.ok (some active), db') =>
      (.ok ⟨handshake, identity, token, active, sessionExpiry settings now identity, now⟩, db')

/-! ## The gate

The middleware lets a public path through, asks for a session, and for an unsafe method for an
allowed origin and the CSRF header as well. -/

/-- What the middleware reads of a request. -/
structure HttpRequest where
  method : String
  path : String
  cookie : Option String := none
  origin : Option String := none
  referer : Option String := none
  csrf : Option String := none
  deriving DecidableEq, Repr

/-- `_UNSAFE_METHODS`. -/
def unsafeMethods : List String := ["POST", "PUT", "PATCH", "DELETE"]

/-- `_PUBLIC_VERSIONED_PATHS`. -/
def publicVersionedPaths : List String :=
  ["/api/v1/auth/login", "/api/v1/auth/callback", "/api/v1/auth/session"]

/-- The path without one trailing slash. -/
def normalPath (path : String) : String :=
  if 1 < path.length ∧ path.toList.getLast? = some '/' then String.ofList path.toList.dropLast
  else path

/-- Whether the middleware lets a path through unseen. -/
def isPublic (path : String) : Bool :=
  !"/api/v1/".toList.isPrefixOf (normalPath path).toList ||
    publicVersionedPaths.contains (normalPath path)

/-- `_request_origin`; the outer none stands for the `ValueError` of `urlsplit`. -/
def requestOrigin (lang : AuthLang) (req : HttpRequest) : Option (Option String) :=
  match req.origin.filter (· ≠ ""), req.referer.filter (· ≠ "") with
  | some origin, _ => some (some (rstripSlash origin))
  | none, none => some none
  | none, some referer =>
    (Url.urlsplit lang.url referer.toList).map fun parts =>
      if parts.scheme ≠ "http".toList ∧ parts.scheme ≠ "https".toList ∨ parts.netloc = [] then none
      else some (rstripSlash (String.ofList (parts.scheme ++ [':', '/', '/'] ++ parts.netloc)))

/-- The origins an unsafe request may come from. -/
def allowedOrigins (settings : AuthSettings) : List String :=
  rstripSlash settings.appBaseUrl :: settings.corsOrigins.map rstripSlash

/-- The CSRF token of a request is the one whose hash the session keeps. -/
def csrfValid (lang : AuthLang) (resolved : ResolvedSession) (supplied : Option String) : Bool :=
  supplied.any fun csrf => csrf ≠ "" && lang.hashSecret csrf == resolved.csrfTokenHash

def authenticationRequired : Problem :=
  ⟨401, "authentication_required", "Authentication required",
    "A valid application session is required.", none⟩

def authenticationUnavailable : Problem :=
  ⟨502, "session_store_unavailable", "Authentication unavailable",
    "The application session could not be verified.", none⟩

def csrfValidationFailed : Problem :=
  ⟨403, "csrf_validation_failed", "Request forbidden", "Origin and CSRF validation failed.", none⟩

/-- `store.resolve_session(hash_secret(token))`, for a cookie that is there; none stands for a
store that does not answer. -/
def resolveCookie (lang : AuthLang) (up : Bool) (now : Instant) (cookie : Option String)
    (db : IdentityDb) : Option (Option (String × ResolvedSession)) :=
  match cookie.filter (· ≠ "") with
  | none => some none
  | some token =>
    if up then
      some ((resolveSession now (lang.hashSecret token) db).map fun resolved => (token, resolved))
    else none

/-- `enforce_versioned_session_and_csrf`: the token and the session that the rest of the request
finds in its state, none on a public path. -/
def enforceVersionedSessionAndCsrf (lang : AuthLang) (settings : AuthSettings) (up : Bool)
    (now : Instant) (req : HttpRequest) (db : IdentityDb) :
    Except Problem (Option (String × ResolvedSession)) :=
  if isPublic req.path then .ok none
  else
    match resolveCookie lang up now req.cookie db with
    | none => .error authenticationUnavailable
    | some none => .error authenticationRequired
    | some (some (token, resolved)) =>
      if req.method ∈ unsafeMethods then
        match requestOrigin lang req with
        | none => .error internalError
        | some origin =>
          if (∀ o ∈ origin, o ∉ allowedOrigins settings) ∨ csrfValid lang resolved req.csrf = false
          then .error csrfValidationFailed
          else .ok (some (token, resolved))
      else .ok (some (token, resolved))

/-! ## Signed in -/

structure AuthSessionOut where
  appUserId : Uuid
  siteId : Uuid
  csrfToken : String
  expiresAt : Instant
  deriving DecidableEq, Repr

/-- `session`: a public path, so the cookie is resolved here. -/
def session (lang : AuthLang) (settings : AuthSettings) (up : Bool) (now : Instant)
    (cookie : Option String) (db : IdentityDb) : Except Problem AuthSessionOut :=
  match resolveCookie lang up now cookie db with
  | none => .error internalError
  | some none => .error authenticationRequired
  | some (some (token, resolved)) =>
    let csrf := lang.csrfTokenForSession token settings.csrfSecret
    if lang.hashSecret csrf == resolved.csrfTokenHash then
      .ok ⟨resolved.appUserId, resolved.siteId, csrf, resolved.expiresAt⟩
    else .error authenticationRequired

/-- `logout`, for the session the middleware left in the state of the request. -/
def logout (lang : AuthLang) (up : Bool) (now : Instant) (token : String) (db : IdentityDb) :
    Except Problem Unit × IdentityDb :=
  match storeCall up (revokeSession now (lang.hashSecret token)) db with
  | (.error _, db') => (.error internalError, db')
  | (.ok _, db') => (.ok (), db')

end ShiftMind.Auth
