import RealmConvergence.Proofs.Service.Sound
import RealmConvergence.Service.Inspection

/-!
# Roles seen by their names

Mappings and grants are kept by internal identifiers and seen by names. In a sound realm a client's
role is seen in a set of identifiers exactly when the set holds the role's own identifier
(`names_rolesOfClient_iff`), and so it is in mappings (`compositeNames_contains_iff`) and in grants
(`serviceAccountRoleNames_contains_iff`).
-/

set_option autoImplicit false

namespace RealmConvergence.Service

variable {store : Store} {realm name clientId : String} {held : StoredRealm}

/-- A client has a role of this name, and its identifier is among these. -/
def HasRoleAmong (held : StoredRealm) (key name : String) (roleIds : NameSet) : Prop :=
  ∃ roleId, HasRole held.clients key name roleId ∧ roleIds.contains roleId = true

/-- **In a sound realm, the names seen are those of roles whose identifiers are there.** -/
theorem names_rolesOfClient_iff {drawn : Nat} (sound : held.Sound drawn) {key : String}
    {roleIds : NameSet} :
    (NameSet.ofList ((held.rolesOfClient key roleIds).map RoleRecord.nameText)).contains name =
        true ↔ HasRoleAmong held key name roleIds := by
  rw [NameSet.contains_ofList, List.contains_iff_mem, List.mem_map]
  constructor
  · rintro ⟨role, listed, rfl⟩
    obtain ⟨roleId, among, foundSo⟩ := StoredRealm.mem_rolesOfClient_iff.1 listed
    obtain ⟨owner, ownName, present, there, identified⟩ :=
      StoredRealm.hasRole_of_clientRole? foundSo
    obtain ⟨named, -⟩ := (sound.clients.each key owner present).roles ownName role there
    refine ⟨roleId, ⟨owner, role, present, ?_, identified⟩, among⟩
    rwa [RoleRecord.nameText, named, Option.getD_some]
  · rintro ⟨roleId, ⟨owner, role, present, there, identified⟩, among⟩
    obtain ⟨named, -⟩ := (sound.clients.each key owner present).roles name role there
    refine ⟨role, StoredRealm.mem_rolesOfClient_iff.2 ⟨roleId, among, ?_⟩, ?_⟩
    · exact sound.clientRole?_of_hasRole present there identified
    · rw [RoleRecord.nameText, named, Option.getD_some]

theorem compositeNames_of_absent {role : String} (absent : store.realms.get? realm = none) :
    (store.compositeNames realm role clientId).contains name = false := by
  simp only [Store.compositeNames, absent]
  rfl

theorem compositeNames_contains_iff {role : String} (sound : store.Sound)
    (found : store.realms.get? realm = some held) :
    (store.compositeNames realm role clientId).contains name = true ↔
      ∃ key owner, held.client? clientId = some (key, owner) ∧
        HasRoleAmong held key name (held.compositesOf role) := by
  simp only [Store.compositeNames, found]
  split
  · next unknown =>
    constructor
    · intro impossible
      cases impossible
    · rintro ⟨key, owner, known, -⟩
      rw [unknown] at known
      cases known
  · next client owner known =>
    rw [names_rolesOfClient_iff (sound realm held found)]
    constructor
    · exact fun has => ⟨client, owner, known, has⟩
    · rintro ⟨key, other, otherKnown, has⟩
      rw [known] at otherKnown
      cases otherKnown
      exact has

theorem serviceAccountRoleNames_contains_iff {roleClientId : String} (sound : store.Sound)
    (found : store.realms.get? realm = some held) :
    (store.serviceAccountRoleNames realm clientId roleClientId).contains name = true ↔
      ∃ key client user roleKey owner, held.client? clientId = some (key, client) ∧
        client.serviceUser = some user ∧ held.client? roleClientId = some (roleKey, owner) ∧
        HasRoleAmong held roleKey name (held.grantsOf user) := by
  simp only [Store.serviceAccountRoleNames, found]
  split
  · next user roleKey owner account known =>
    rw [names_rolesOfClient_iff (sound realm held found)]
    obtain ⟨⟨key, client⟩, clientKnown, has⟩ := Option.bind_eq_some_iff.1 account
    constructor
    · exact fun among => ⟨key, client, user, roleKey, owner, clientKnown, has, known, among⟩
    · rintro ⟨otherKey, other, otherUser, otherRoleKey, otherOwner, otherKnown, otherHas,
        ownerKnown, among⟩
      rw [clientKnown] at otherKnown
      cases otherKnown
      rw [has] at otherHas
      cases otherHas
      rw [known] at ownerKnown
      cases ownerKnown
      exact among
  · next nobody =>
    constructor
    · intro impossible
      cases impossible
    · rintro ⟨key, client, user, roleKey, owner, clientKnown, has, known, -⟩
      refine absurd known (nobody user roleKey owner ?_)
      rw [clientKnown, Option.bind_some, has]

end RealmConvergence.Service
