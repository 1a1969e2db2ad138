import RealmConvergence.Admin.Call
import RealmConvergence.Blueprint.Basic

/-!
# What an identity service holds

An identity service in memory. A realm has attributes, clients, roles and users. Clients stand under
their internal identifiers, everything else under its name. A composite mapping and a grant refer to
client roles by internal identifiers.

Internal identifiers are drawn from one counter for the whole service, so no two things share one.
-/

set_option autoImplicit false

namespace RealmConvergence.Service

/-- The client through which a realm is administered. -/
def managementClientId : String := "realm-management"

/-- The roles of the client through which a realm is administered. -/
def managementRoles : List String :=
  ["manage-users", "view-users", "query-users", "manage-clients", "view-realm"]

/-- A client and what belongs to it. -/
structure StoredClient where
  /-- The client itself. -/
  record : ClientRecord
  /-- Its roles, by name. -/
  roles : Table RoleRecord := ∅
  /-- The internal identifier of its user. -/
  serviceUser : Option String := none
deriving DecidableEq

/-- A realm and what belongs to it. -/
structure StoredRealm where
  /-- Whether the realm accepts sign-ins. -/
  enabled : Bool
  /-- Attributes. -/
  attributes : Table String
  /-- Clients, by internal identifier. -/
  clients : Table StoredClient := ∅
  /-- Roles, by name. -/
  roles : Table RoleRecord := ∅
  /-- Identifiers of client roles that come with a role, by the name of that role. -/
  composites : Table NameSet := ∅
  /-- Users, by internal identifier. -/
  users : Table UserRecord := ∅
  /-- Identifiers of client roles that a user has, by the user's identifier. -/
  grants : Table NameSet := ∅
deriving DecidableEq

/-- All that the service holds. -/
structure Store where
  /-- Realms, by name. -/
  realms : Table StoredRealm := ∅
  /-- How many internal identifiers have been drawn. -/
  drawn : Nat := 0
  /-- Whether a new realm comes with the client through which it is administered. -/
  providesManagement : Bool := true
deriving DecidableEq

/-! ## Looking things up -/

namespace StoredRealm

/-- A client by its public identifier, with its internal one. -/
def client? (realm : StoredRealm) (clientId : String) : Option (String × StoredClient) :=
  realm.clients.find? fun _ client => client.record.clientId == some clientId

/-- A role of a client by the role's internal identifier, with the client's. -/
def clientRole? (realm : StoredRealm) (roleId : String) : Option (String × RoleRecord) :=
  realm.clients.toList.findSome? fun (client, held) =>
    (held.roles.values.find? fun role => role.id == some roleId).map fun role => (client, role)

/-- The roles of one client among roles given by their internal identifiers. -/
def rolesOfClient (realm : StoredRealm) (client : String) (roleIds : NameSet) : List RoleRecord :=
  ((roleIds.toList.filterMap realm.clientRole?).filter fun found => found.1 == client).map Prod.snd

/-- The identifiers of client roles that come with a role. -/
def compositesOf (realm : StoredRealm) (role : String) : NameSet :=
  (realm.composites.get? role).getD ∅

/-- The identifiers of client roles that a user has. -/
def grantsOf (realm : StoredRealm) (user : String) : NameSet :=
  (realm.grants.get? user).getD ∅

/-- The realm as a record. -/
def record (realm : StoredRealm) (name : String) : RealmRecord :=
  { id := some name, realm := some name, enabled := some realm.enabled
    attributes := some realm.attributes }

end StoredRealm

/-! ## Internal identifiers -/

/-- A number in decimal digits, filled up with zeros to six places. -/
def sixDigits (number : Nat) : String :=
  let digits := Nat.toDigits 10 number
  String.ofList (List.replicate (6 - digits.length) '0' ++ digits)

/-- An internal identifier: what it is for, and a number. -/
def identifier (sort : String) (number : Nat) : String :=
  s!"{sort}-{sixDigits number}"

namespace Store

/-- Draw the next internal identifier. -/
def draw (store : Store) (sort : String) : String × Store :=
  (identifier sort (store.drawn + 1), { store with drawn := store.drawn + 1 })

/-- Put a realm in the place of whatever had its name. -/
def putRealm (store : Store) (name : String) (realm : StoredRealm) : Store :=
  { store with realms := store.realms.insert name realm }

/-- Change a realm, or fail with everything as it was. -/
def edit {α : Type} (store : Store) (name : String)
    (change : StoredRealm → Except AdminError (α × StoredRealm)) : Except AdminError α × Store :=
  match store.realms.get? name with
  | none => (.error (.notFound s!"realm '{name}'"), store)
  | some realm =>
    match change realm with
    | .error problem => (.error problem, store)
    | .ok (answer, changed) => (.ok answer, store.putRealm name changed)

/-- Read from a realm. -/
def read {α : Type} (store : Store) (name : String) (look : StoredRealm → Except AdminError α) :
    Except AdminError α × Store :=
  match store.realms.get? name with
  | none => (.error (.notFound s!"realm '{name}'"), store)
  | some realm => (look realm, store)

end Store

end RealmConvergence.Service
