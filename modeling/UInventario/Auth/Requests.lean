import UInventario.Auth.AccessControl

/-!
# The requests about sessions, turn by turn

A login looks its user up, verifies the password, and inserts its session in a statement of its own.
Every other request with a session is let in by the guard, which is one look: a refresh and a logout
are one statement each, a change of access is one transaction that locks the user's row. The
requests for a password reset lock the user's tokens, and the completion the user's row as well.
-/

namespace UInventario.Auth

open Outcome

variable (env : AuthEnv)

/-! ### Places -/

inductive Action
  | refresh
  | logout
  | current
  | createRole
  | createUser (email normalizedEmail password : Text) (assignment : AssignmentInput)
  | updateUser (userId : Uuid) (assignment : AssignmentInput)
  | retireUser (userId : Uuid) (confirmationEmail : Text)
  deriving DecidableEq

inductive Request
  | login (email password : Text)
  | guarded (token : Option Token) (action : Action)
  | requestReset (email : Text)
  | completeReset (token : Token) (password : Text)
  | wait (milliseconds : ℕ)
  deriving DecidableEq

inductive Answer
  | loggedIn (sessionId : Uuid) (token : Token) (expiresAt : Timestamp)
  /-- The session has a next token in place of the current one. -/
  | refreshed (currentToken token : Token) (expiresAt : Timestamp)
  | loggedOut (sessionId : Uuid)
  | current (principal : SessionIdentity)
  | roleCreated
  | userCreated
  | userUpdated (userId : Uuid)
  | userRetired (userId : Uuid)
  | resetAccepted
  /-- The token has been used for its user. -/
  | passwordReset (token : Token) (userId : Uuid)
  | waited
  | refused (failure : AuthFailure)
  deriving DecidableEq

inductive Process
  | asked (request : Request)
  /-- The password has been verified. -/
  | verified (identity : LoginIdentity)
  /-- The guard has let the request in. -/
  | admitted (principal : SessionIdentity) (token : Token) (action : Action)
  | done (answer : Answer)
  deriving DecidableEq

/-! ### Turns -/

variable (s : AuthStore)

/-- `login`, up to the verification. -/
def verifyPassword (email password : Text) : Process :=
  let identity := findLoginIdentity env s email
  let passwordMatches := env.verify ((identity.map LoginIdentity.passwordHash).getD env.dummyHash)
    password
  match identity with
  | some identity =>
    if passwordMatches then .verified identity else .done (.refused .INVALID_CREDENTIALS)
  | none => .done (.refused .INVALID_CREDENTIALS)

def authenticate : Option Token → Option SessionIdentity
  | none => none
  | some token => findActiveSession s (env.hashToken token) s.now

def guardTurn (token : Option Token) (action : Action) : Process :=
  match token, authenticate env s token with
  | some token, some principal => .admitted principal token action
  | _, _ => .done (.refused .INVALID_SESSION)

def drawToken : Token × AuthStore :=
  (env.randomBytes s.drawn, { s with drawn := s.drawn + 1 })

/-- `login`, from the verification on. -/
def openSession (identity : LoginIdentity) : AuthStore × Process :=
  let (token, s) := drawToken env s
  let expiresAt := s.now + env.sessionTtl
  match createSession s (env.hashToken token) identity.userId identity.tenantId expiresAt with
  | .ok (s, id) => (s, .done (.loggedIn id token expiresAt))
  | .error failure => (s, .done (.refused failure))

def refresh (principal : SessionIdentity) (currentToken : Token) :
    AuthStore × Process :=
  let (token, s) := drawToken env s
  let expiresAt := s.now + env.sessionTtl
  match rotateSession s principal.sessionId (env.hashToken currentToken) (env.hashToken token)
    expiresAt s.now with
  | .ok (s, true) => (s, .done (.refreshed currentToken token expiresAt))
  | .ok (s, false) => (s, .done (.refused .INVALID_SESSION))
  | .error failure => (s, .done (.refused failure))

def commit (answer : Answer) : Except AuthFailure AuthStore → AuthStore × Process
  | .ok s' => (s', .done answer)
  | .error failure => (s, .done (.refused failure))

def act (principal : SessionIdentity) (token : Token) :
    Action → AuthStore × Process
  | .refresh => refresh env s principal token
  | .logout => (revokeSession s principal.sessionId s.now, .done (.loggedOut principal.sessionId))
  | .current => (s, .done (.current principal))
  | .createRole => (createRole s principal.tenantId, .done .roleCreated)
  | .createUser email normalizedEmail password assignment =>
    let salt := s.drawn
    let s := { s with drawn := s.drawn + 1 }
    commit s .userCreated (createUser env s {
      tenantId := principal.tenantId, email := email, normalizedEmail := normalizedEmail,
      passwordHash := env.hash salt password, assignment := assignment })
  | .updateUser userId assignment =>
    commit s (.userUpdated userId) (updateUser s {
      tenantId := principal.tenantId, actorUserId := principal.userId, userId := userId,
      assignment := assignment })
  | .retireUser userId confirmationEmail =>
    commit s (.userRetired userId) (retireUser s {
      tenantId := principal.tenantId, actorUserId := principal.userId, userId := userId,
      confirmationEmail := confirmationEmail })

/-- `request` of the password reset; the delivery of the token is left out. -/
def requestReset (email : Text) : AuthStore × Process :=
  let (token, s) := drawToken env s
  match createToken env s email (env.hashToken token) (s.now + env.resetTtl) s.now with
  | .ok (s, _) => (s, .done .resetAccepted)
  | .error failure => (s, .done (.refused failure))

/-- `complete` of the password reset. -/
def completeReset (token : Token) (password : Text) : AuthStore × Process :=
  let salt := s.drawn
  let s := { s with drawn := s.drawn + 1 }
  match consumeToken s (env.hashToken token) (env.hash salt password) s.now with
  | (s, some userId) => (s, .done (.passwordReset token userId))
  | (s, none) => (s, .done (.refused .INVALID_PASSWORD_RESET_TOKEN))

/-- **A turn.** -/
def turn : Process → AuthStore → AuthStore × Process
  | .asked (.login email password), s => (s, verifyPassword env s email password)
  | .asked (.guarded token action), s => (s, guardTurn env s token action)
  | .asked (.requestReset email), s => requestReset env s email
  | .asked (.completeReset token password), s => completeReset env s token password
  | .asked (.wait milliseconds), s => ({ s with now := s.now + milliseconds }, .done .waited)
  | .verified identity, s => openSession env s identity
  | .admitted principal token action, s => act env s principal token action
  | .done answer, s => (s, .done answer)

/-- **The requests about sessions.** -/
def system : Processes.System AuthStore Process Request where
  start := .asked
  turn := turn env

end UInventario.Auth
