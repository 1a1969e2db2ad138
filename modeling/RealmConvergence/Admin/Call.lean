import RealmConvergence.Admin.Error
import RealmConvergence.Admin.Record
import RealmConvergence.Dialogue

/-!
# Calls to an identity service

The eighteen calls that converging a realm needs, with what each answers. A lookup answers with
nothing where the resource is absent. Calls below a client name it by its internal identifier, never
by its public one. Updates change the present fields of their record and leave the others.
-/

set_option autoImplicit false

namespace RealmConvergence

/-- What a call does. -/
inductive AdminOperation where
  | getRealm
  | createRealm
  | updateRealm
  | findClient
  | createClient
  | updateClient
  | getClientSecret
  | updateClientSecret
  | getServiceAccountUser
  | getRealmRole
  | createRealmRole
  | updateRealmRole
  | getRealmRoleComposites
  | addRealmRoleComposites
  | getClientRole
  | createClientRole
  | updateClientRole
  | assignClientRoles
deriving DecidableEq

namespace AdminOperation

/-- Every operation. -/
def all : List AdminOperation :=
  [.getRealm, .createRealm, .updateRealm, .findClient, .createClient, .updateClient,
    .getClientSecret, .updateClientSecret, .getServiceAccountUser, .getRealmRole, .createRealmRole,
    .updateRealmRole, .getRealmRoleComposites, .addRealmRoleComposites, .getClientRole,
    .createClientRole, .updateClientRole, .assignClientRoles]

/-- The name of an operation in call logs. -/
def name : AdminOperation → String
  | .getRealm => "GetRealm"
  | .createRealm => "CreateRealm"
  | .updateRealm => "UpdateRealm"
  | .findClient => "FindClient"
  | .createClient => "CreateClient"
  | .updateClient => "UpdateClient"
  | .getClientSecret => "GetClientSecret"
  | .updateClientSecret => "UpdateClientSecret"
  | .getServiceAccountUser => "GetServiceAccountUser"
  | .getRealmRole => "GetRealmRole"
  | .createRealmRole => "CreateRealmRole"
  | .updateRealmRole => "UpdateRealmRole"
  | .getRealmRoleComposites => "GetRealmRoleClientComposites"
  | .addRealmRoleComposites => "AddRealmRoleComposites"
  | .getClientRole => "GetClientRole"
  | .createClientRole => "CreateClientRole"
  | .updateClientRole => "UpdateClientRole"
  | .assignClientRoles => "AssignClientRolesToUser"

/-- Whether an operation changes what the service holds. -/
def isMutating : AdminOperation → Bool
  | .createRealm | .updateRealm | .createClient | .updateClient | .updateClientSecret
  | .createRealmRole | .updateRealmRole | .addRealmRoleComposites | .createClientRole
  | .updateClientRole | .assignClientRoles => true
  | .getRealm | .findClient | .getClientSecret | .getServiceAccountUser | .getRealmRole
  | .getRealmRoleComposites | .getClientRole => false

end AdminOperation

/-- A call to an identity service. -/
inductive AdminCall where
  /-- Look up a realm. -/
  | getRealm (realm : String)
  /-- Create the realm that a record names. -/
  | createRealm (record : RealmRecord)
  /-- Change a realm. -/
  | updateRealm (realm : String) (record : RealmRecord)
  /-- Look up a client by its public identifier. -/
  | findClient (realm clientId : String)
  /-- Create a client and learn its internal identifier. -/
  | createClient (realm : String) (record : ClientRecord)
  /-- Change a client. -/
  | updateClient (realm client : String) (record : ClientRecord)
  /-- Read the secret of a client. -/
  | getClientSecret (realm client : String)
  /-- Give a client a secret. -/
  | updateClientSecret (realm client secret : String)
  /-- Read the user that belongs to a client. -/
  | getServiceAccountUser (realm client : String)
  /-- Look up a role of the realm. -/
  | getRealmRole (realm role : String)
  /-- Create a role of the realm. -/
  | createRealmRole (realm : String) (record : RoleRecord)
  /-- Change a role of the realm. -/
  | updateRealmRole (realm role : String) (record : RoleRecord)
  /-- List the roles of one client that come with a role of the realm. -/
  | getRealmRoleComposites (realm role client : String)
  /-- Let client roles come with a role of the realm. -/
  | addRealmRoleComposites (realm role : String) (added : List RoleRecord)
  /-- Look up a role of a client. -/
  | getClientRole (realm client role : String)
  /-- Create a role of a client. -/
  | createClientRole (realm client : String) (record : RoleRecord)
  /-- Change a role of a client. -/
  | updateClientRole (realm client role : String) (record : RoleRecord)
  /-- Grant roles of a client to a user. -/
  | assignClientRoles (realm user client : String) (granted : List RoleRecord)
deriving DecidableEq

namespace AdminCall

/-- What a call answers when it succeeds. -/
@[reducible] def Answer : AdminCall → Type
  | .getRealm _ => Option RealmRecord
  | .findClient _ _ => Option ClientRecord
  | .createClient _ _ => String
  | .getClientSecret _ _ => Option String
  | .getServiceAccountUser _ _ => UserRecord
  | .getRealmRole _ _ => Option RoleRecord
  | .getRealmRoleComposites _ _ _ => List RoleRecord
  | .getClientRole _ _ _ => Option RoleRecord
  | _ => Unit

/-- What a call comes back with: its answer, or why it failed. -/
@[reducible] def Reply (call : AdminCall) : Type := Except AdminError call.Answer

/-- What a call does. -/
def operation : AdminCall → AdminOperation
  | .getRealm _ => .getRealm
  | .createRealm _ => .createRealm
  | .updateRealm _ _ => .updateRealm
  | .findClient _ _ => .findClient
  | .createClient _ _ => .createClient
  | .updateClient _ _ _ => .updateClient
  | .getClientSecret _ _ => .getClientSecret
  | .updateClientSecret _ _ _ => .updateClientSecret
  | .getServiceAccountUser _ _ => .getServiceAccountUser
  | .getRealmRole _ _ => .getRealmRole
  | .createRealmRole _ _ => .createRealmRole
  | .updateRealmRole _ _ _ => .updateRealmRole
  | .getRealmRoleComposites _ _ _ => .getRealmRoleComposites
  | .addRealmRoleComposites _ _ _ => .addRealmRoleComposites
  | .getClientRole _ _ _ => .getClientRole
  | .createClientRole _ _ _ => .createClientRole
  | .updateClientRole _ _ _ _ => .updateClientRole
  | .assignClientRoles _ _ _ _ => .assignClientRoles

/-- The resource that a call is about: a realm, and names below it after slashes. -/
def target : AdminCall → String
  | .getRealm realm => realm
  | .createRealm record => record.realm.getD ""
  | .updateRealm realm _ => realm
  | .findClient realm clientId => s!"{realm}/{clientId}"
  | .createClient realm record => realm ++ "/" ++ record.clientId.getD ""
  | .updateClient realm client _ => s!"{realm}/{client}"
  | .getClientSecret realm client => s!"{realm}/{client}"
  | .updateClientSecret realm client _ => s!"{realm}/{client}"
  | .getServiceAccountUser realm client => s!"{realm}/{client}"
  | .getRealmRole realm role => s!"{realm}/{role}"
  | .createRealmRole realm record => s!"{realm}/{record.nameText}"
  | .updateRealmRole realm role _ => s!"{realm}/{role}"
  | .getRealmRoleComposites realm role client => s!"{realm}/{role}/{client}"
  | .addRealmRoleComposites realm role _ => s!"{realm}/{role}"
  | .getClientRole realm client role => s!"{realm}/{client}/{role}"
  | .createClientRole realm client record => s!"{realm}/{client}/{record.nameText}"
  | .updateClientRole realm client role _ => s!"{realm}/{client}/{role}"
  | .assignClientRoles realm user client _ => s!"{realm}/{user}/{client}"

/-- The entry of a call in a log. -/
def line (call : AdminCall) : String :=
  s!"{call.operation.name} {call.target}"

end AdminCall

/-- A computation that calls an identity service. -/
abbrev Talk := Dialogue AdminCall AdminCall.Reply

end RealmConvergence
