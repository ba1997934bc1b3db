import UInventario.Auth.Sessions

/-!
# Who may come in

`AccessControlRepository`: the users of a tenant, what they are assigned to, and their retirement.
An update of a user and a retirement lock the user's row, and revoke the user's sessions with it.
-/

namespace UInventario.Auth

open Outcome

variable (env : AuthEnv)

structure AssignmentInput where
  (roleIds branchIds cashRegisterIds : List Uuid)
  deriving DecidableEq

variable (s : AuthStore)

/-- `assertAssignment`: what is assigned is there. -/
def assertAssignment (tenantId : Uuid) (input : AssignmentInput) :
    Except AuthFailure Unit :=
  ensure (
    (s.roles.countP fun r ↦ r.tenantId = tenantId ∧ r.admin = false ∧ r.id ∈ input.roleIds) =
      input.roleIds.length ∧
    (s.branches.countP fun b ↦ b.tenantId = tenantId ∧ b.active = true ∧
      b.id ∈ input.branchIds) = input.branchIds.length ∧
    (s.cashRegisters.countP fun c ↦ c.tenantId = tenantId ∧ c.branchId ∈ input.branchIds ∧
      c.id ∈ input.cashRegisterIds) = input.cashRegisterIds.length) .INVALID_ACCESS_ASSIGNMENT

def clearAssignment (tenantId userId : Uuid) : AuthStore :=
  { s with
    userRoles := s.userRoles.filter fun r ↦ ¬(r.userId = userId ∧ r.tenantId = tenantId)
    userBranchAccess := s.userBranchAccess.filter fun b ↦
      ¬(b.userId = userId ∧ b.tenantId = tenantId)
    userCashRegisterAccess := s.userCashRegisterAccess.filter fun c ↦
      ¬(c.userId = userId ∧ c.tenantId = tenantId) }

def replaceAssignment (tenantId userId : Uuid) (input : AssignmentInput) :
    AuthStore :=
  let s := clearAssignment s tenantId userId
  { s with
    userRoles := s.userRoles ++ input.roleIds.map fun roleId ↦
      { userId := userId, roleId := roleId, tenantId := tenantId }
    userBranchAccess := s.userBranchAccess ++ input.branchIds.map fun branchId ↦
      { userId := userId, tenantId := tenantId, branchId := branchId }
    userCashRegisterAccess := s.userCashRegisterAccess ++
      input.cashRegisterIds.flatMap fun cashRegisterId ↦
        (s.cashRegisters.filter fun c ↦ c.id = cashRegisterId ∧ c.tenantId = tenantId).map fun c ↦
          { userId := userId
            tenantId := tenantId
            branchId := c.branchId
            cashRegisterId := c.id } }

/-- A role `ADMIN` is among the user's. -/
def administrator (u : User) : Prop :=
  ∃ ur ∈ s.userRoles, ur.userId = u.id ∧ ur.tenantId = u.tenantId ∧
    ∃ r ∈ s.roles, r.id = ur.roleId ∧ r.tenantId = ur.tenantId ∧ r.admin = true
deriving Decidable

def createRole (tenantId : Uuid) : AuthStore :=
  { s with roles := s.roles ++ [{ id := s.roles.length, tenantId := tenantId, admin := false }] }

structure CreateUserInput where
  tenantId : Uuid
  (email normalizedEmail : Text)
  passwordHash : PasswordHash
  assignment : AssignmentInput

def createUser (input : CreateUserInput) : Except AuthFailure AuthStore := do
  assertAssignment s input.tenantId input.assignment
  -- `uq_users_normalized_email`
  ensure (∀ u ∈ s.users.rows,
    env.collate u.normalizedEmail ≠ env.collate input.normalizedEmail) .ACCESS_USER_NOT_AVAILABLE
  let id := s.users.rows.length
  let users ← demand (s.users.insert {
    id := id, tenantId := input.tenantId, email := input.email,
    normalizedEmail := input.normalizedEmail, passwordHash := input.passwordHash,
    accessRevokedAt := none }) .ACCESS_USER_NOT_AVAILABLE
  pure (replaceAssignment { s with users := users } input.tenantId id input.assignment)

/-- `UPDATE sessions SET revoked_at = … WHERE user_id = ? AND …`. -/
def revokeSessionsOf (tenantId userId : Uuid) : Table Session :=
  s.sessions.updateWhere
    (fun m ↦ m.userId = userId ∧ m.tenantId = tenantId ∧ m.revokedAt = none) (Session.revoke s.now)

structure UpdateUserInput where
  (tenantId actorUserId userId : Uuid)
  assignment : AssignmentInput

def targetUser (tenantId userId : Uuid) : Except AuthFailure User := do
  let target ← demand (s.users.find? userId) .NotFound
  ensure (target.tenantId = tenantId) .NotFound
  ensure (¬administrator s target) .INVALID_ACCESS_ASSIGNMENT
  pure target

/-- `SET access_revoked_at = NULL`. -/
def User.readmit (u : User) : User :=
  { u with accessRevokedAt := none }

def updateUser (input : UpdateUserInput) : Except AuthFailure AuthStore := do
  ensure (input.userId ≠ input.actorUserId) .INVALID_ACCESS_ASSIGNMENT
  let _ ← targetUser s input.tenantId input.userId
  assertAssignment s input.tenantId input.assignment
  let s := replaceAssignment s input.tenantId input.userId input.assignment
  pure { s with
    users := s.users.update input.userId User.readmit
    sessions := revokeSessionsOf s input.tenantId input.userId }

structure RetireUserInput where
  (tenantId actorUserId userId : Uuid)
  confirmationEmail : Text

/-- `SET access_revoked_at = COALESCE(access_revoked_at, CURRENT_TIMESTAMP(6))`. -/
def User.retire (now : Timestamp) (u : User) : User :=
  { u with accessRevokedAt := some (u.accessRevokedAt.getD now) }

def retireUser (input : RetireUserInput) : Except AuthFailure AuthStore := do
  ensure (input.userId ≠ input.actorUserId) .INVALID_ACCESS_ASSIGNMENT
  let target ← targetUser s input.tenantId input.userId
  ensure (target.normalizedEmail = input.confirmationEmail) .ACCESS_RETIREMENT_CONFIRMATION_INVALID
  let s := clearAssignment { s with
    users := s.users.update input.userId (User.retire s.now) } input.tenantId input.userId
  pure { s with sessions := revokeSessionsOf s input.tenantId input.userId }

end UInventario.Auth
