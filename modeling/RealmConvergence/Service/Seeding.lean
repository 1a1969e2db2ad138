import RealmConvergence.Service.Inspection

/-!
# Preparing an identity service

What a service holds can be prepared without calls, so that the log stays empty. Preparing something
in a realm or on a client that is not there is a mistake of whoever prepares.
-/

set_option autoImplicit false

namespace RealmConvergence.Service

/-- Why something cannot be prepared. -/
inductive SeedError where
  /-- A client cannot be stored. -/
  | client (realm : String) (problem : AdminError)
  /-- A role of the realm cannot be stored. -/
  | realmRole (realm role : String) (problem : AdminError)
  /-- The client that a role is for is missing. -/
  | ownerMissing (realm clientId : String)
  /-- A role of a client cannot be stored. -/
  | clientRole (realm clientId role : String) (problem : AdminError)
  /-- The realm of a composite mapping is missing. -/
  | compositeRealmMissing (realm : String)
  /-- The client role of a composite mapping is missing. -/
  | compositeRoleMissing (clientId role : String)
deriving DecidableEq

/-- The words for something that cannot be prepared. -/
def SeedError.message : SeedError → String
  | .client realm problem => s!"seed_client({realm}): {problem.message}"
  | .realmRole realm role problem => s!"seed_realm_role({realm}, {role}): {problem.message}"
  | .ownerMissing realm clientId =>
    s!"seed_client_role: client '{clientId}' missing in realm '{realm}'"
  | .clientRole realm clientId role problem =>
    s!"seed_client_role({realm}, {clientId}, {role}): {problem.message}"
  | .compositeRealmMissing realm => s!"seed_composite: realm '{realm}' missing"
  | .compositeRoleMissing clientId role =>
    s!"seed_composite: client role '{clientId}:{role}' missing"

namespace Store

/-- Put a realm, in the place of whatever had its name. -/
def seedRealm (store : Store) (realm : String) (enabled : Bool) (attributes : Table String) :
    Store :=
  store.startRealm realm enabled attributes

/-- Store a client and learn its internal identifier. -/
def seedClient (store : Store) (realm : String) (record : ClientRecord) :
    Except SeedError String × Store :=
  let (outcome, store) := store.addClient realm record
  (outcome.mapError (.client realm), store)

/-- Store a role of a realm. -/
def seedRealmRole (store : Store) (realm role : String) (description : Option String) :
    Except SeedError Unit × Store :=
  let (outcome, store) := store.addRealmRole realm { name := some role, description }
  (outcome.mapError (.realmRole realm role), store)

/-- Store a role of a client. -/
def seedClientRole (store : Store) (realm clientId role : String) (description : Option String) :
    Except SeedError Unit × Store :=
  match store.clientInternalId? realm clientId with
  | none => (.error (.ownerMissing realm clientId), store)
  | some client =>
    let (outcome, store) := store.addClientRole realm client { name := some role, description }
    (outcome.mapError (.clientRole realm clientId role), store)

/-- Let a role of a client come with a role of the realm, whether that role is there or not. -/
def seedComposite (store : Store) (realm realmRole clientId role : String) :
    Except SeedError Unit × Store :=
  match store.realms.get? realm with
  | none => (.error (.compositeRealmMissing realm), store)
  | some held =>
    match ((held.client? clientId).bind (·.2.roles.get? role)).bind (·.id) with
    | none => (.error (.compositeRoleMissing clientId role), store)
    | some roleId =>
      let roleIds := (held.compositesOf realmRole).insert roleId
      (.ok (), store.putRealm realm
        { held with composites := held.composites.insert realmRole roleIds })

end Store

end RealmConvergence.Service
