import RealmConvergence.Collection.NameSet

/-!
# Blueprints

A blueprint is the desired state of one realm: the realm's own settings, the clients registered in
it, its roles, the roles of clients, and which client roles a realm role brings with it. Lists keep
the order in which they were written; attributes and sets of names have none.
-/

set_option autoImplicit false

namespace RealmConvergence

/-- The realm attribute that says that a run has finished. No pass but the last writes it. -/
def initializedMarker : String := "kcb.initialized"

/-- The protocol of a client that names none. -/
def defaultProtocol : String := "openid-connect"

namespace Blueprint

/-- Desired settings of the realm itself. -/
structure Realm where
  /-- The name of the realm. -/
  name : String
  /-- Whether the realm accepts sign-ins. -/
  enabled : Bool := true
  /-- Desired attributes. Attributes of the realm that are not named here stay. -/
  attributes : Table String := ∅
deriving DecidableEq

/-- The desired attributes without the marker of a finished run. -/
def Realm.managedAttributes (realm : Realm) : Table String :=
  realm.attributes.filter fun key _ => key ≠ initializedMarker

/-- A desired client. -/
structure Client where
  /-- The public identifier of the client. -/
  clientId : String
  /-- The sign-in protocol. -/
  protocol : String := defaultProtocol
  /-- Whether the client keeps no secret. -/
  isPublic : Bool := false
  /-- Whether the client has a user of its own. -/
  serviceAccount : Bool := false
  /-- Addresses to which a sign-in may return. -/
  redirectUris : NameSet := ∅
  /-- Origins from which scripts may call. -/
  webOrigins : NameSet := ∅
  /-- Desired attributes. Attributes of the client that are not named here stay. -/
  attributes : Table String := ∅
  /-- The desired secret, where one is given. -/
  secret : Option String := none
deriving DecidableEq

/-- A desired role of the realm. -/
structure Role where
  /-- The name of the role. -/
  name : String
  /-- The desired description, where one is given. -/
  description : Option String := none
deriving DecidableEq

/-- A desired role of one client. -/
structure ClientRole where
  /-- The public identifier of the client that owns the role. -/
  clientId : String
  /-- The name of the role. -/
  name : String
  /-- The desired description, where one is given. -/
  description : Option String := none
deriving DecidableEq

/-- Who holds the realm role also holds these roles of the client. -/
structure Composite where
  /-- The realm role. -/
  realmRole : String
  /-- The public identifier of the client. -/
  clientId : String
  /-- Names of the client's roles. -/
  clientRoles : NameSet
deriving DecidableEq

end Blueprint

/-- The desired state of one realm. -/
structure Blueprint where
  /-- The realm's own settings. -/
  realm : Blueprint.Realm
  /-- Clients, in the order of their registration. -/
  clients : List Blueprint.Client := []
  /-- Roles of the realm. -/
  realmRoles : List Blueprint.Role := []
  /-- Roles of clients. -/
  clientRoles : List Blueprint.ClientRole := []
  /-- Client roles that realm roles bring with them. -/
  composites : List Blueprint.Composite := []
deriving DecidableEq

namespace Blueprint

/-- The clients that own listed roles, in byte order. -/
def roleOwners (blueprint : Blueprint) : List String :=
  (NameSet.ofList (blueprint.clientRoles.map ClientRole.clientId)).toList

/-- The listed roles of one client, in the order of the blueprint. -/
def rolesOf (blueprint : Blueprint) (clientId : String) : List ClientRole :=
  blueprint.clientRoles.filter fun role => role.clientId = clientId

/-- The listed client roles by the client that owns them, clients in byte order. -/
def clientRoleGroups (blueprint : Blueprint) : List (String × List ClientRole) :=
  blueprint.roleOwners.map fun clientId => (clientId, blueprint.rolesOf clientId)

end Blueprint

end RealmConvergence
