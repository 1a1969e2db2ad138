import RealmConvergence.Blueprint.Basic
import RealmConvergence.Text.Blank

/-!
# Well-formed blueprints

A blueprint can be applied when every name in it is there, no client, realm role or client role
stands in it twice, no public client has a secret, and no composite mapping is empty. The first
violation in the order realm, clients, realm roles, client roles, composites is reported.
-/

set_option autoImplicit false

namespace RealmConvergence.Blueprint

/-- What is wrong with a blueprint. -/
inductive Violation where
  /-- The realm has no name. -/
  | unnamedRealm
  /-- A client has no identifier. -/
  | unnamedClient
  /-- Two clients have one identifier. -/
  | duplicateClient (clientId : String)
  /-- A public client has a secret. -/
  | publicClientSecret (clientId : String)
  /-- A realm role has no name. -/
  | unnamedRealmRole
  /-- Two realm roles have one name. -/
  | duplicateRealmRole (name : String)
  /-- A client role lacks its client or its name. -/
  | unnamedClientRole (clientId name : String)
  /-- Two roles of one client have one name. -/
  | duplicateClientRole (clientId name : String)
  /-- A composite mapping lacks its realm role or its client. -/
  | unnamedComposite
  /-- A composite mapping lists no client role. -/
  | emptyComposite (realmRole clientId : String)
deriving DecidableEq

/-- The words for a violation. -/
def Violation.message : Violation → String
  | .unnamedRealm => "BLUEPRINT_INVALID: realm name must not be empty"
  | .unnamedClient => "BLUEPRINT_INVALID: client with empty clientId"
  | .duplicateClient clientId => s!"BLUEPRINT_INVALID: duplicate clientId '{clientId}'"
  | .publicClientSecret clientId =>
    s!"BLUEPRINT_INVALID: public client '{clientId}' must not carry a secret"
  | .unnamedRealmRole => "BLUEPRINT_INVALID: realm role with empty name"
  | .duplicateRealmRole name => s!"BLUEPRINT_INVALID: duplicate realm role '{name}'"
  | .unnamedClientRole clientId name =>
    s!"BLUEPRINT_INVALID: client role needs both clientId and name (got '{clientId}':'{name}')"
  | .duplicateClientRole clientId name =>
    s!"BLUEPRINT_INVALID: duplicate client role '{name}' on client '{clientId}'"
  | .unnamedComposite => "BLUEPRINT_INVALID: composite mapping needs realm role and clientId"
  | .emptyComposite realmRole clientId =>
    s!"BLUEPRINT_INVALID: composite mapping '{realmRole}' -> '{clientId}' lists no client roles"

/-- The first violation among clients, after the identifiers already seen. -/
def checkClients (seen : List String) : List Client → Except Violation Unit
  | [] => .ok ()
  | client :: rest =>
    if Text.allBlank client.clientId then .error .unnamedClient
    else if client.clientId ∈ seen then .error (.duplicateClient client.clientId)
    else if client.isPublic ∧ client.secret.isSome then
      .error (.publicClientSecret client.clientId)
    else checkClients (client.clientId :: seen) rest

/-- The first violation among realm roles, after the names already seen. -/
def checkRealmRoles (seen : List String) : List Role → Except Violation Unit
  | [] => .ok ()
  | role :: rest =>
    if Text.allBlank role.name then .error .unnamedRealmRole
    else if role.name ∈ seen then .error (.duplicateRealmRole role.name)
    else checkRealmRoles (role.name :: seen) rest

/-- The first violation among client roles, after the pairs already seen. -/
def checkClientRoles (seen : List (String × String)) : List ClientRole → Except Violation Unit
  | [] => .ok ()
  | role :: rest =>
    if Text.allBlank role.clientId ∨ Text.allBlank role.name then
      .error (.unnamedClientRole role.clientId role.name)
    else if (role.clientId, role.name) ∈ seen then
      .error (.duplicateClientRole role.clientId role.name)
    else checkClientRoles ((role.clientId, role.name) :: seen) rest

/-- The first violation among composite mappings. -/
def checkComposites : List Composite → Except Violation Unit
  | [] => .ok ()
  | mapping :: rest =>
    if Text.allBlank mapping.realmRole ∨ Text.allBlank mapping.clientId then
      .error .unnamedComposite
    else if mapping.clientRoles.isEmpty then
      .error (.emptyComposite mapping.realmRole mapping.clientId)
    else checkComposites rest

/-- The first violation of a blueprint, or none. -/
def validate (blueprint : Blueprint) : Except Violation Unit := do
  if Text.allBlank blueprint.realm.name then .error .unnamedRealm
  checkClients [] blueprint.clients
  checkRealmRoles [] blueprint.realmRoles
  checkClientRoles [] blueprint.clientRoles
  checkComposites blueprint.composites

end RealmConvergence.Blueprint
