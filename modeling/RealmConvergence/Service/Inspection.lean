import RealmConvergence.Service.Answering

/-!
# Looking at what an identity service holds

Everything that can be seen by name, without a call: realms, clients by their public identifiers,
roles, and the names of the client roles that come with a role or are granted to the user of a
client.
-/

set_option autoImplicit false

namespace RealmConvergence.Service.Store

/-- A realm. -/
def realm? (store : Store) (realm : String) : Option RealmRecord :=
  (store.realms.get? realm).map (·.record realm)

/-- A client, with its secret. -/
def client? (store : Store) (realm clientId : String) : Option ClientRecord :=
  ((store.realms.get? realm).bind (·.client? clientId)).map (·.2.record)

/-- The internal identifier of a client. -/
def clientInternalId? (store : Store) (realm clientId : String) : Option String :=
  (store.client? realm clientId).bind (·.id)

/-- A role of a realm. -/
def realmRole? (store : Store) (realm role : String) : Option RoleRecord :=
  (store.realms.get? realm).bind (·.roles.get? role)

/-- A role of a client. -/
def clientRole? (store : Store) (realm clientId role : String) : Option RoleRecord :=
  ((store.realms.get? realm).bind (·.client? clientId)).bind (·.2.roles.get? role)

/-- The names of a client's roles that come with a role of the realm. -/
def compositeNames (store : Store) (realm role clientId : String) : NameSet :=
  match store.realms.get? realm with
  | none => ∅
  | some held =>
    match held.client? clientId with
    | none => ∅
    | some (client, _) =>
      NameSet.ofList ((held.rolesOfClient client (held.compositesOf role)).map RoleRecord.nameText)

/-- The names of one client's roles that are granted to the user of another. -/
def serviceAccountRoleNames (store : Store) (realm clientId roleClientId : String) : NameSet :=
  match store.realms.get? realm with
  | none => ∅
  | some held =>
    match (held.client? clientId).bind (·.2.serviceUser), held.client? roleClientId with
    | some user, some (client, _) =>
      NameSet.ofList ((held.rolesOfClient client (held.grantsOf user)).map RoleRecord.nameText)
    | _, _ => ∅

end RealmConvergence.Service.Store
