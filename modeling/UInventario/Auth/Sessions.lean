import UInventario.Foundations.Processes
import UInventario.Inventory.Schema

/-!
# Sessions and password resets

`SessionRepository`, `PasswordResetRepository`, and what of their services decides which statement
is run with what.

## Representation

* Tokens are what `randomBytes(32)` draws. `AuthEnv` has the draws in their order, the digest of a
  token, the hash of a password under a salt, and its verification.
* A row's id is the number of rows before it in its table.
-/

namespace UInventario.Auth

open Outcome

/-! ### Rows -/

/-- What `randomBytes(32)` draws, as text. -/
abbrev Token := ℕ

abbrev TokenHash := ℕ

/-- What `argon2` makes of a password. -/
abbrev PasswordHash := ℕ

structure User where
  (id tenantId : Uuid)
  (email normalizedEmail : Text)
  passwordHash : PasswordHash
  accessRevokedAt : Option Timestamp

instance : Keyed User Uuid := ⟨User.id⟩

structure Session where
  id : Uuid
  tokenHash : TokenHash
  (userId tenantId : Uuid)
  expiresAt : Timestamp
  revokedAt : Option Timestamp

instance : Keyed Session Uuid := ⟨Session.id⟩

structure ResetToken where
  (id userId : Uuid)
  tokenHash : TokenHash
  expiresAt : Timestamp
  usedAt : Option Timestamp

instance : Keyed ResetToken Uuid := ⟨ResetToken.id⟩

/-- A row of `roles`; `admin` says that its code is `ADMIN`. -/
structure Role where
  (id tenantId : Uuid)
  admin : Bool

/-- A row of `branches`. -/
structure Branch where
  (id tenantId : Uuid)
  active : Bool

structure CashRegister where
  (id tenantId branchId : Uuid)

structure UserRole where
  (userId roleId tenantId : Uuid)

structure UserBranchAccess where
  (userId tenantId branchId : Uuid)

structure UserCashRegisterAccess where
  (userId tenantId branchId cashRegisterId : Uuid)

structure AuthEnv where
  /-- The draws of `randomBytes(32)`. -/
  randomBytes : ℕ → Token
  /-- `hashToken`. -/
  hashToken : Token → TokenHash
  /-- `hash` of `argon2`, with the salt it draws. -/
  hash : ℕ → Text → PasswordHash
  /-- `verify` of `argon2`. -/
  verify : PasswordHash → Text → Bool
  dummyHash : PasswordHash
  /-- What the column `normalized_email` compares. -/
  collate : Text → Text
  /-- `ttlMilliseconds` of `sessionConfig`. -/
  sessionTtl : ℕ
  /-- `ttlMilliseconds` of `passwordResetConfig`. -/
  resetTtl : ℕ

/-- The tables, how often random bytes have been drawn, and the time. -/
structure AuthStore where
  users : Table User
  sessions : Table Session
  resetTokens : Table ResetToken
  roles : List Role
  branches : List Branch
  cashRegisters : List CashRegister
  userRoles : List UserRole
  userBranchAccess : List UserBranchAccess
  userCashRegisterAccess : List UserCashRegisterAccess
  drawn : ℕ
  now : Timestamp

inductive AuthFailure
  | INVALID_CREDENTIALS
  | INVALID_SESSION
  | INVALID_PASSWORD_RESET_TOKEN
  | INVALID_ACCESS_ASSIGNMENT
  | ACCESS_USER_NOT_AVAILABLE
  | ACCESS_RETIREMENT_CONFIRMATION_INVALID
  | NotFound
  | duplicateKey
  | foreignKey
  deriving DecidableEq

variable (env : AuthEnv)

/-! ### `SessionRepository` -/

structure LoginIdentity where
  userId : Uuid
  email : Text
  tenantId : Uuid
  passwordHash : PasswordHash
  deriving DecidableEq

structure SessionIdentity where
  sessionId : Uuid
  expiresAt : Timestamp
  userId : Uuid
  email : Text
  tenantId : Uuid
  deriving DecidableEq

variable (s : AuthStore)

def findLoginIdentity (normalizedEmail : Text) : Option LoginIdentity :=
  (s.users.rows.find? fun u ↦
    env.collate u.normalizedEmail = env.collate normalizedEmail ∧ u.accessRevokedAt = none).map
      fun u ↦ {
        userId := u.id, email := u.email, tenantId := u.tenantId, passwordHash := u.passwordHash }

def createSession (tokenHash : TokenHash) (userId tenantId : Uuid)
    (expiresAt : Timestamp) : Except AuthFailure (AuthStore × Uuid) := do
  -- `fk_sessions_user`
  let _ ← demand (s.users.find? userId) .foreignKey
  -- `uq_sessions_token_hash`
  ensure (∀ m ∈ s.sessions.rows, m.tokenHash ≠ tokenHash) .duplicateKey
  let id := s.sessions.rows.length
  let sessions ← demand (s.sessions.insert {
    id := id, tokenHash := tokenHash, userId := userId, tenantId := tenantId,
    expiresAt := expiresAt, revokedAt := none }) .duplicateKey
  pure ({ s with sessions := sessions }, id)

/-- A session that is joined with its user, and the conditions of `findActiveSession`. -/
def Session.active (tokenHash : TokenHash) (now : Timestamp) (m : Session) :
    Option SessionIdentity :=
  match s.users.find? m.userId with
  | some u =>
    if u.tenantId = m.tenantId ∧ m.tokenHash = tokenHash ∧ m.revokedAt = none ∧
        now < m.expiresAt ∧ u.accessRevokedAt = none then
      some {
        sessionId := m.id, expiresAt := m.expiresAt, userId := u.id, email := u.email,
        tenantId := u.tenantId }
    else none
  | none => none

def findActiveSession (tokenHash : TokenHash) (now : Timestamp) :
    Option SessionIdentity :=
  s.sessions.rows.findSome? (Session.active s tokenHash now)

/-- What `rotateSession` writes. -/
def Session.rotate (nextTokenHash : TokenHash) (expiresAt : Timestamp) (m : Session) : Session :=
  { m with tokenHash := nextTokenHash, expiresAt := expiresAt }

/-- The conditions of `rotateSession`. -/
def Session.rotatable (currentTokenHash : TokenHash) (now : Timestamp) (m : Session) : Prop :=
  m.tokenHash = currentTokenHash ∧ m.revokedAt = none ∧ now < m.expiresAt
deriving Decidable

/-- Gives the session its next token, if it still has the current one; says whether it did. -/
def rotateSession (sessionId : Uuid) (currentTokenHash nextTokenHash : TokenHash)
    (expiresAt now : Timestamp) : Except AuthFailure (AuthStore × Bool) :=
  match s.sessions.find? sessionId with
  | none => pure (s, false)
  | some m =>
    if m.rotatable currentTokenHash now then do
      -- `uq_sessions_token_hash`
      ensure (∀ m' ∈ s.sessions.rows, m'.id ≠ sessionId → m'.tokenHash ≠ nextTokenHash)
        .duplicateKey
      pure ({ s with
        sessions := s.sessions.update sessionId (Session.rotate nextTokenHash expiresAt) }, true)
    else pure (s, false)

/-- `SET revoked_at = …`. -/
def Session.revoke (revokedAt : Timestamp) (m : Session) : Session :=
  { m with revokedAt := some revokedAt }

def revokeSession (sessionId : Uuid) (revokedAt : Timestamp) : AuthStore :=
  { s with
    sessions := s.sessions.updateWhere (fun m ↦ m.id = sessionId ∧ m.revokedAt = none)
      (Session.revoke revokedAt) }

/-! ### `PasswordResetRepository` -/

/-- `SET used_at = …`. -/
def ResetToken.use (usedAt : Timestamp) (r : ResetToken) : ResetToken :=
  { r with usedAt := some usedAt }

/-- `UPDATE password_reset_tokens SET used_at = ? WHERE user_id = ? AND used_at IS NULL`. -/
def useTokens (userId : Uuid) (now : Timestamp) : Table ResetToken :=
  s.resetTokens.updateWhere (fun r ↦ r.userId = userId ∧ r.usedAt = none) (ResetToken.use now)

def createToken (normalizedEmail : Text) (tokenHash : TokenHash)
    (expiresAt now : Timestamp) : Except AuthFailure (AuthStore × Option (Text × Uuid)) :=
  match s.users.rows.find? fun u ↦ env.collate u.normalizedEmail = env.collate normalizedEmail with
  | none => pure (s, none)
  | some user => do
    -- `uq_password_reset_token_hash`
    ensure (∀ r ∈ s.resetTokens.rows, r.tokenHash ≠ tokenHash) .duplicateKey
    let resetTokens ← demand ((useTokens s user.id now).insert {
      id := s.resetTokens.rows.length, userId := user.id, tokenHash := tokenHash,
      expiresAt := expiresAt, usedAt := none }) .duplicateKey
    pure ({ s with resetTokens := resetTokens }, some (user.email, user.tenantId))

/-- The token that `consumeToken` locks. -/
def usableToken (tokenHash : TokenHash) (now : Timestamp) : Option ResetToken :=
  s.resetTokens.rows.find? fun r ↦
    r.tokenHash = tokenHash ∧ r.usedAt = none ∧ now < r.expiresAt

/-- `SET password_hash = …`. -/
def User.withPassword (passwordHash : PasswordHash) (u : User) : User :=
  { u with passwordHash := passwordHash }

/-- Writes the password of the user whose token it is, uses up the user's tokens and revokes the
user's sessions; returns the user. -/
def consumeToken (tokenHash : TokenHash) (passwordHash : PasswordHash)
    (now : Timestamp) : AuthStore × Option Uuid :=
  match usableToken s tokenHash now with
  | none => (s, none)
  | some reset =>
    ({ s with
      users := s.users.update reset.userId (User.withPassword passwordHash)
      resetTokens := useTokens s reset.userId now
      sessions := s.sessions.updateWhere (fun m ↦ m.userId = reset.userId ∧ m.revokedAt = none)
        (Session.revoke now) }, some reset.userId)

end UInventario.Auth
