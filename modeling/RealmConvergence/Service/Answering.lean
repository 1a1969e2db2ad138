import RealmConvergence.Service.Store

/-!
# How an identity service answers

Every call checks before it changes anything, so a call that fails leaves all realms as they were.
Some calls draw internal identifiers before they check; the numbers are then lost.

Updates change the present fields of their record. Attributes are added to those that are there. A
client with service accounts gets a user of its own, once, and keeps it.
-/

set_option autoImplicit false

namespace RealmConvergence.Service

/-! ## New resources -/

/-- The client through which a realm is administered, its number and those of its roles following
the numbers drawn before. -/
def managementClient (drawn : Nat) : String × StoredClient :=
  let client := identifier "client" (drawn + 1)
  let roles := managementRoles.mapIdx fun position name =>
    (name, { id := some (identifier "role" (drawn + 2 + position)), name := some name
             clientRole := some true, containerId := some client : RoleRecord })
  (client, {
    record := {
      id := some client, clientId := some managementClientId, enabled := some true
      protocol := some defaultProtocol, publicClient := some false
      serviceAccountsEnabled := some false }
    roles := Table.ofList roles })

/-- Put a new realm with its settings, in the place of whatever had its name. -/
def Store.startRealm (store : Store) (name : String) (enabled : Bool) (attributes : Table String) :
    Store :=
  let realm : StoredRealm := { enabled, attributes }
  if store.providesManagement then
    let (client, held) := managementClient store.drawn
    let started := store.putRealm name { realm with clients := realm.clients.insert client held }
    { started with drawn := store.drawn + 1 + managementRoles.length }
  else store.putRealm name realm

/-- A client as it is stored first. -/
def newClientRecord (client generatedSecret : String) (record : ClientRecord) : ClientRecord :=
  let publicClient := record.publicClient.getD false
  { record with
    id := some client
    enabled := some (record.enabled.getD true)
    protocol := some (record.protocol.getD defaultProtocol)
    publicClient := some publicClient
    serviceAccountsEnabled := some (record.serviceAccountsEnabled.getD false)
    secret := if publicClient then record.secret
      else some (record.secret.getD generatedSecret) }

/-- The user of a client. -/
def serviceAccount (user clientId : String) : UserRecord :=
  { id := some user, username := some s!"service-account-{clientId}" }

/-- Store a new client. -/
def Store.addClient (store : Store) (realm : String) (record : ClientRecord) :
    Except AdminError String × Store :=
  match record.clientId with
  | none => (.error (.api 400 "clientId is required"), store)
  | some clientId =>
    let (client, store) := store.draw "client"
    let (generatedSecret, store) := store.draw "generated-secret"
    let (user, store) := store.draw "user"
    store.edit realm fun held =>
      if (held.client? clientId).isSome then
        .error (.conflict s!"Client {clientId} already exists")
      else
        let stored := newClientRecord client generatedSecret record
        if stored.serviceAccountsEnabled = some true then
          .ok (client, { held with
            clients := held.clients.insert client { record := stored, serviceUser := some user }
            users := held.users.insert user (serviceAccount user clientId) })
        else
          .ok (client, { held with clients := held.clients.insert client { record := stored } })

/-- A role as it is stored first. -/
def newRole (roleId name container : String) (ofClient : Bool) (record : RoleRecord) : RoleRecord :=
  { id := some roleId, name := some name, description := record.description
    composite := some false, clientRole := some ofClient, containerId := some container }

/-- A role put among others, unless its name is taken. -/
def addTo (roles : Table RoleRecord) (name : String) (role : RoleRecord) :
    Except AdminError (Table RoleRecord) :=
  if roles.contains name then .error (.conflict s!"Role with name {name} already exists")
  else .ok (roles.insert name role)

/-- Store a new role of the realm. -/
def Store.addRealmRole (store : Store) (realm : String) (record : RoleRecord) :
    Except AdminError Unit × Store :=
  match record.name with
  | none => (.error (.api 400 "role name is required"), store)
  | some name =>
    let (roleId, store) := store.draw "role"
    store.edit realm fun held =>
      (addTo held.roles name (newRole roleId name realm false record)).map fun roles =>
        ((), { held with roles })

/-- Store a new role of a client. -/
def Store.addClientRole (store : Store) (realm client : String) (record : RoleRecord) :
    Except AdminError Unit × Store :=
  match record.name with
  | none => (.error (.api 400 "role name is required"), store)
  | some name =>
    let (roleId, store) := store.draw "role"
    store.edit realm fun held =>
      match held.clients.get? client with
      | none => .error (.notFound s!"client '{client}'")
      | some owner =>
        (addTo owner.roles name (newRole roleId name client true record)).map fun roles =>
          ((), { held with clients := held.clients.insert client { owner with roles } })

/-! ## Changes -/

/-- A realm with the present fields of a record. -/
def updatedRealm (realm : StoredRealm) (record : RealmRecord) : StoredRealm :=
  { realm with
    enabled := record.enabled.getD realm.enabled
    attributes := realm.attributes.override (record.attributes.getD ∅) }

/-- A client with the present fields of a record. Its identifiers stay. -/
def updatedClient (client record : ClientRecord) : ClientRecord :=
  { client with
    enabled := record.enabled.or client.enabled
    protocol := record.protocol.or client.protocol
    publicClient := record.publicClient.or client.publicClient
    serviceAccountsEnabled := record.serviceAccountsEnabled.or client.serviceAccountsEnabled
    redirectUris := record.redirectUris.or client.redirectUris
    webOrigins := record.webOrigins.or client.webOrigins
    attributes := match record.attributes with
      | none => client.attributes
      | some added => some ((client.attributes.getD ∅).override added)
    secret := record.secret.or client.secret }

/-- A role with the description of a record, where it has one. -/
def updatedRole (role record : RoleRecord) : RoleRecord :=
  { role with description := record.description.or role.description }

/-- Change a stored client. -/
def Store.changeClient (store : Store) (realm client : String) (record : ClientRecord) :
    Except AdminError Unit × Store :=
  let (user, store) := store.draw "user"
  store.edit realm fun held =>
    match held.clients.get? client with
    | none => .error (.notFound s!"client '{client}'")
    | some stored =>
      let changed := updatedClient stored.record record
      if changed.serviceAccountsEnabled = some true ∧ stored.serviceUser.isNone then
        .ok ((), { held with
          clients := held.clients.insert client
            { stored with record := changed, serviceUser := some user }
          users := held.users.insert user (serviceAccount user (changed.clientId.getD "")) })
      else
        .ok ((), { held with
          clients := held.clients.insert client { stored with record := changed } })

/-- The identifiers of roles that are to come with a role. -/
def compositeIds (realm : StoredRealm) : List RoleRecord → Except AdminError (List String)
  | [] => .ok []
  | role :: rest =>
    match role.id with
    | none => .error (.api 400 "composite role without id")
    | some roleId =>
      if (realm.clientRole? roleId).isSome then (compositeIds realm rest).map (roleId :: ·)
      else .error (.notFound s!"role id '{roleId}'")

/-- The identifiers of roles of one client that are to be granted. -/
def grantIds (realm : StoredRealm) (client : String) :
    List RoleRecord → Except AdminError (List String)
  | [] => .ok []
  | role :: rest =>
    let roleId := role.id.getD ""
    match realm.clientRole? roleId with
    | some (container, _) =>
      if container = client then (grantIds realm client rest).map (roleId :: ·)
      else .error (.notFound s!"role '{role.nameText}' on client '{client}'")
    | none => .error (.notFound s!"role '{role.nameText}' on client '{client}'")

/-! ## Answers -/

/-- The answer to a call, and what the service holds afterwards. -/
def Store.answer (store : Store) : (call : AdminCall) → call.Reply × Store
  | .getRealm realm => (.ok ((store.realms.get? realm).map (·.record realm)), store)
  | .createRealm record =>
    let name := record.realm.getD ""
    if name.isEmpty then (.error (.api 400 "realm name is required"), store)
    else if store.realms.contains name then
      (.error (.conflict s!"Realm {name} already exists"), store)
    else (.ok (), store.startRealm name (record.enabled.getD false) (record.attributes.getD ∅))
  | .updateRealm realm record => store.edit realm fun held => .ok ((), updatedRealm held record)
  | .findClient realm clientId =>
    (.ok (((store.realms.get? realm).bind (·.client? clientId)).map fun found =>
      { found.2.record with secret := none }), store)
  | .createClient realm record => store.addClient realm record
  | .updateClient realm client record => store.changeClient realm client record
  | .getClientSecret realm client =>
    (.ok (((store.realms.get? realm).bind (·.clients.get? client)).bind (·.record.secret)), store)
  | .updateClientSecret realm client secret =>
    store.edit realm fun held =>
      match held.clients.get? client with
      | none => .error (.notFound s!"client '{client}'")
      | some stored =>
        let record := { stored.record with secret := some secret }
        .ok ((), { held with clients := held.clients.insert client { stored with record } })
  | .getServiceAccountUser realm client =>
    store.read realm fun held =>
      match ((held.clients.get? client).bind (·.serviceUser)).bind held.users.get? with
      | some user => .ok user
      | none => .error (.notFound s!"service account of client '{client}'")
  | .getRealmRole realm role =>
    (.ok ((store.realms.get? realm).bind (·.roles.get? role)), store)
  | .createRealmRole realm record => store.addRealmRole realm record
  | .updateRealmRole realm role record =>
    store.edit realm fun held =>
      match held.roles.get? role with
      | none => .error (.notFound s!"role '{role}'")
      | some stored =>
        .ok ((), { held with roles := held.roles.insert role (updatedRole stored record) })
  | .getRealmRoleComposites realm role client =>
    store.read realm fun held =>
      if held.roles.contains role then .ok (held.rolesOfClient client (held.compositesOf role))
      else .error (.notFound s!"role '{role}'")
  | .addRealmRoleComposites realm role added =>
    store.edit realm fun held =>
      match held.roles.get? role with
      | none => .error (.notFound s!"role '{role}'")
      | some stored =>
        (compositeIds held added).map fun roleIds => ((), { held with
          composites := held.composites.insert role ((held.compositesOf role).insertAll roleIds)
          roles := held.roles.insert role { stored with composite := some true } })
  | .getClientRole realm client role =>
    (.ok (((store.realms.get? realm).bind (·.clients.get? client)).bind (·.roles.get? role)), store)
  | .createClientRole realm client record => store.addClientRole realm client record
  | .updateClientRole realm client role record =>
    store.edit realm fun held =>
      match held.clients.get? client with
      | none => .error (.notFound s!"client role '{role}'")
      | some owner =>
        match owner.roles.get? role with
        | none => .error (.notFound s!"client role '{role}'")
        | some stored =>
          let roles := owner.roles.insert role (updatedRole stored record)
          .ok ((), { held with clients := held.clients.insert client { owner with roles } })
  | .assignClientRoles realm user client granted =>
    store.edit realm fun held =>
      if held.users.contains user then
        (grantIds held client granted).map fun roleIds => ((), { held with
          grants := held.grants.insert user ((held.grantsOf user).insertAll roleIds) })
      else .error (.notFound s!"user '{user}'")

end RealmConvergence.Service
