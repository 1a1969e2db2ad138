import RealmConvergence.Proofs.Service.Showing

/-!
# Realms that look the same

What can be seen of a realm by name, without a call, is what its view tells: the names of the roles
that come with a role (`compositeNames_contains_iff_attached`) and of those that are granted to the
user of a client (`serviceAccountRoleNames_contains_iff_granted`), beside the things themselves. So
a realm of two sound stores that is viewed alike looks the same in both (`SeenSame.of_view?_eq`).
-/

set_option autoImplicit false

namespace RealmConvergence.Service

/-- The user that belongs to a client. -/
def Store.serviceUser? (store : Store) (realm clientId : String) : Option UserRecord :=
  (store.realms.get? realm).bind fun held =>
    (held.client? clientId).bind fun found => found.2.serviceUser.bind held.users.get?

/-- A realm looks the same in two stores: whatever can be seen of it by name is the same, but for
identifiers and secrets that the lens does not tell. -/
structure Store.SeenSame (lens : Lens) (realm : String) (one other : Store) : Prop where
  settings : one.realm? realm = other.realm? realm
  clients : ∀ clientId, (one.client? realm clientId).map lens.client =
    (other.client? realm clientId).map lens.client
  users : ∀ clientId, (one.serviceUser? realm clientId).map lens.user =
    (other.serviceUser? realm clientId).map lens.user
  realmRoles : ∀ role, (one.realmRole? realm role).map lens.realmRole =
    (other.realmRole? realm role).map lens.realmRole
  clientRoles : ∀ clientId role, (one.clientRole? realm clientId role).map lens.clientRole =
    (other.clientRole? realm clientId role).map lens.clientRole
  composites : ∀ role clientId,
    one.compositeNames realm role clientId = other.compositeNames realm role clientId
  grants : ∀ clientId ownerId,
    one.serviceAccountRoleNames realm clientId ownerId =
      other.serviceAccountRoleNames realm clientId ownerId

namespace Store

variable {lens : Lens} {one other store : Store} {realm : String} {held otherHeld : StoredRealm}

/-- The names that come with a role are those that are seen attached to it. -/
theorem compositeNames_contains_iff_attached (sound : store.Sound)
    (found : store.realms.get? realm = some held) {role clientId name : String} :
    (store.compositeNames realm role clientId).contains name = true ↔
      (held.view lens).attached role clientId name := by
  rw [compositeNames_contains_iff sound found]
  exact StoredRealm.lists_iff.symm

/-- The names of one client's roles that the user of another has are those that are seen granted. -/
theorem serviceAccountRoleNames_contains_iff_granted (sound : store.Sound)
    (found : store.realms.get? realm = some held) {clientId ownerId name : String} :
    (store.serviceAccountRoleNames realm clientId ownerId).contains name = true ↔
      (held.view lens).granted clientId ownerId name := by
  rw [serviceAccountRoleNames_contains_iff sound found]
  constructor
  · rintro ⟨key, client, user, ownerKey, owner, known, own, ownerKnown, among⟩
    refine ⟨user, ?_, StoredRealm.lists_iff.2 ⟨ownerKey, owner, ownerKnown, among⟩⟩
    rw [StoredRealm.account?, known, Option.bind_some, own]
  · rintro ⟨user, account, lists⟩
    obtain ⟨⟨key, client⟩, known, own⟩ := Option.bind_eq_some_iff.1 account
    obtain ⟨ownerKey, owner, ownerKnown, among⟩ := StoredRealm.lists_iff.1 lists
    exact ⟨key, client, user, ownerKey, owner, known, own, ownerKnown, among⟩

theorem client?_map_eq_view (found : store.realms.get? realm = some held) (clientId : String) :
    (store.client? realm clientId).map lens.client =
      ((held.view lens).clients clientId).map (·.record) := by
  rw [client?, found, Option.bind_some]
  show _ = ((held.client? clientId).map _).map _
  rw [Option.map_map, Option.map_map]
  rfl

theorem serviceUser?_map_eq_view (found : store.realms.get? realm = some held)
    (clientId : String) :
    (store.serviceUser? realm clientId).map lens.user =
      ((held.view lens).clients clientId).bind (·.user) := by
  rw [serviceUser?, found, Option.bind_some]
  show _ = ((held.client? clientId).map _).bind _
  cases held.client? clientId <;> rfl

theorem clientRole?_map_eq_view (found : store.realms.get? realm = some held)
    (clientId role : String) :
    (store.clientRole? realm clientId role).map lens.clientRole =
      ((held.view lens).clients clientId).bind (·.roles role) := by
  rw [clientRole?, found, Option.bind_some]
  show _ = ((held.client? clientId).map _).bind _
  cases held.client? clientId <;> rfl

/-- A realm that is there and viewed alike in two sound stores looks the same in both. -/
theorem seenSame_of_view_eq (sound : one.Sound) (otherSound : other.Sound)
    (found : one.realms.get? realm = some held)
    (otherFound : other.realms.get? realm = some otherHeld)
    (alike : held.view lens = otherHeld.view lens) : SeenSame lens realm one other where
  settings := by
    have enabled : held.enabled = otherHeld.enabled := congrArg RealmView.enabled alike
    have attributes : held.attributes = otherHeld.attributes :=
      congrArg RealmView.attributes alike
    simp only [realm?, found, otherFound, Option.map_some, StoredRealm.record, enabled, attributes]
  clients clientId := by
    rw [client?_map_eq_view found, client?_map_eq_view otherFound, alike]
  users clientId := by
    rw [serviceUser?_map_eq_view found, serviceUser?_map_eq_view otherFound, alike]
  realmRoles role := by
    rw [realmRole?, realmRole?, found, otherFound]
    exact congrFun (congrArg RealmView.roles alike) role
  clientRoles clientId role := by
    rw [clientRole?_map_eq_view found, clientRole?_map_eq_view otherFound, alike]
  composites role clientId := by
    refine NameSet.ext_contains fun name => Bool.eq_iff_iff.2 ?_
    rw [compositeNames_contains_iff_attached sound found,
      compositeNames_contains_iff_attached otherSound otherFound, alike]
  grants clientId ownerId := by
    refine NameSet.ext_contains fun name => Bool.eq_iff_iff.2 ?_
    rw [serviceAccountRoleNames_contains_iff_granted sound found,
      serviceAccountRoleNames_contains_iff_granted otherSound otherFound, alike]

/-- A realm that two stores hold alike, or lack both, looks the same in both. -/
theorem seenSame_of_get?_eq (same : one.realms.get? realm = other.realms.get? realm) :
    SeenSame lens realm one other where
  settings := by rw [realm?, realm?, same]
  clients clientId := by rw [client?, client?, same]
  users clientId := by rw [serviceUser?, serviceUser?, same]
  realmRoles role := by rw [realmRole?, realmRole?, same]
  clientRoles clientId role := by rw [clientRole?, clientRole?, same]
  composites role clientId := by rw [compositeNames, compositeNames, same]
  grants clientId ownerId := by rw [serviceAccountRoleNames, serviceAccountRoleNames, same]

/-- **A realm that is viewed alike in two sound stores looks the same in both.** -/
theorem SeenSame.of_view?_eq (sound : one.Sound) (otherSound : other.Sound)
    (alike : one.view? lens realm = other.view? lens realm) : SeenSame lens realm one other := by
  unfold view? at alike
  cases found : one.realms.get? realm with
  | none =>
      rw [found, Option.map_none] at alike
      exact seenSame_of_get?_eq (found.trans (Option.map_eq_none_iff.1 alike.symm).symm)
  | some held =>
      rw [found, Option.map_some] at alike
      obtain ⟨otherHeld, otherFound, same⟩ := Option.map_eq_some_iff.1 alike.symm
      exact seenSame_of_view_eq sound otherSound found otherFound same.symm

end Store

end RealmConvergence.Service
