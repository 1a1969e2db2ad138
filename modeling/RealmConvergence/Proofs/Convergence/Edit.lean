import Mathlib.Logic.Relation
import RealmConvergence.Convergence.Passes
import RealmConvergence.Proofs.Convergence.ClientPatch
import RealmConvergence.Proofs.Service.Sound

/-!
# What a run can do to a realm

A blueprint is a list of items: the realm's own settings, its clients, roles, roles of clients,
composite mappings, and last the marker of a finished run. For each item a realm can be settled
(`Settled`): a run finds nothing to do there. And for each item there are a few edits (`Edit`),
which are all that a run does to a realm for that item.

Edits for one item leave other items settled, unless both are about the same thing
(`Settled.of_edits`).
-/

set_option autoImplicit false

namespace RealmConvergence.Convergence

open Service

/-! ## Items -/

/-- One thing that a blueprint desires. -/
inductive Item where
  /-- The settings of the realm. -/
  | realm (desired : Blueprint.Realm)
  /-- A client. -/
  | client (desired : Blueprint.Client)
  /-- A role of the realm. -/
  | realmRole (desired : Blueprint.Role)
  /-- A role of a client. -/
  | clientRole (desired : Blueprint.ClientRole)
  /-- Roles of a client that come with a role of the realm. -/
  | composite (mapping : Blueprint.Composite)
  /-- The marker of a finished run. -/
  | marker

/-- A role has the desired description, where one is desired. -/
def Described (role : RoleRecord) (desired : Option String) : Prop :=
  ∀ description, desired = some description → role.description = some description

theorem newDescription?_eq_none_iff {role : RoleRecord} {desired : Option String} :
    newDescription? role desired = none ↔ Described role desired := by
  cases desired with
  | none =>
      constructor
      · intro _ description impossible
        cases impossible
      · intro _
        rfl
  | some description =>
      simp only [newDescription?, ite_eq_left_iff, reduceCtorEq, imp_false, Classical.not_not,
        Described, Option.some.injEq, forall_eq']

theorem eq_of_newDescription?_eq_some {role : RoleRecord} {desired : Option String}
    {description : String} (differs : newDescription? role desired = some description) :
    desired = some description := by
  cases desired with
  | none => cases differs
  | some wanted =>
      simp only [newDescription?] at differs
      split at differs
      · cases differs
      · exact differs

/-- A role of a client comes with a role of the realm. -/
def Attached (held : StoredRealm) (realmRole : String) (role : RoleRecord) : Prop :=
  ∃ roleId, role.id = some roleId ∧ (held.compositesOf realmRole).contains roleId = true

/-- A run finds nothing to do about an item. -/
def Settled : Item → StoredRealm → Prop
  | .realm desired, held =>
    held.enabled = desired.enabled ∧ Covers held.attributes desired.managedAttributes
  | .client desired, held => ∃ key stored, held.client? desired.clientId = some (key, stored) ∧
      Fits stored.record desired ∧ KeepsSecret stored.record desired
  | .realmRole desired, held => ∃ stored, held.roles.get? desired.name = some stored ∧
      Described stored desired.description
  | .clientRole desired, held => ∀ key owner, held.client? desired.clientId = some (key, owner) →
      ∃ stored, owner.roles.get? desired.name = some stored ∧
        Described stored desired.description
  | .composite mapping, held => ∀ key owner, (held.roles.get? mapping.realmRole).isSome →
      held.client? mapping.clientId = some (key, owner) →
      ∀ name role, mapping.clientRoles.contains name = true →
        owner.roles.get? name = some role → Attached held mapping.realmRole role
  | .marker, held => markerIsSet (held.attributes.get? initializedMarker) = true

/-! ## Edits -/

/-- A role that lets a service account look after users. -/
def ManagementRole (held : StoredRealm) (roleId : String) : Prop :=
  ∃ key owner name role, held.clients.get? key = some owner ∧
    owner.record.clientId = some managementClientId ∧ name ∈ serviceAccountRoles ∧
    owner.roles.get? name = some role ∧ role.id = some roleId

/-- A role of the mapping's client, under a name that the mapping lists. -/
def ListedRole (held : StoredRealm) (mapping : Blueprint.Composite) (roleId : String) : Prop :=
  ∃ key owner name role, held.client? mapping.clientId = some (key, owner) ∧
    mapping.clientRoles.contains name = true ∧ owner.roles.get? name = some role ∧
    role.id = some roleId

/-- Every user is still there. -/
def KeepsUsers (before after : Table UserRecord) : Prop :=
  ∀ key user, before.get? key = some user → after.get? key = some user

/-- One change that a run makes to a realm for an item. -/
inductive Edit : Item → StoredRealm → StoredRealm → Prop where
  | realmSet {desired : Blueprint.Realm} {held : StoredRealm} (name : String) :
      Edit (.realm desired) held (updatedRealm held (realmPatch (held.record name) desired))
  | clientAdded {desired : Blueprint.Client} {held : StoredRealm} {key generatedSecret : String}
      {serviceUser : Option String} {users : Table UserRecord}
      (unknown : held.client? desired.clientId = none) (free : held.clients.get? key = none)
      (keepsUsers : KeepsUsers held.users users) :
      Edit (.client desired) held (held.putClient key
        { record := newClientRecord key generatedSecret (newClient desired), serviceUser } users)
  | clientChanged {desired : Blueprint.Client} {held : StoredRealm} {key : String}
      {stored : StoredClient} {secret serviceUser : Option String} {users : Table UserRecord}
      (found : held.client? desired.clientId = some (key, stored))
      (given : secret = none ∨ secret = desired.secret)
      (keepsUser : ∀ user, stored.serviceUser = some user → serviceUser = some user)
      (keepsUsers : KeepsUsers held.users users) :
      Edit (.client desired) held (held.putClient key
        { stored with
          record := updatedClient stored.record { clientPatch stored.record desired with secret }
          serviceUser } users)
  | granted {desired : Blueprint.Client} {held : StoredRealm} {key user : String}
      {stored : StoredClient} {roleIds : List String}
      (found : held.client? desired.clientId = some (key, stored))
      (account : stored.serviceUser = some user)
      (manages : ∀ roleId ∈ roleIds, ManagementRole held roleId) :
      Edit (.client desired) held
        { held with grants := held.grants.insert user ((held.grantsOf user).insertAll roleIds) }
  | realmRoleAdded {desired : Blueprint.Role} {held : StoredRealm} {roleId realm : String}
      (unknown : held.roles.get? desired.name = none) :
      Edit (.realmRole desired) held
        { held with
          roles := held.roles.insert desired.name (newRole roleId desired.name realm false
            { name := some desired.name, description := desired.description }) }
  | realmRoleDescribed {desired : Blueprint.Role} {held : StoredRealm} {stored : RoleRecord}
      {description : String} (found : held.roles.get? desired.name = some stored)
      (wanted : desired.description = some description) :
      Edit (.realmRole desired) held
        { held with
          roles := held.roles.insert desired.name
            { stored with description := some description } }
  | clientRoleAdded {desired : Blueprint.ClientRole} {held : StoredRealm} {key roleId : String}
      {owner : StoredClient} (found : held.client? desired.clientId = some (key, owner))
      (unknown : owner.roles.get? desired.name = none) :
      Edit (.clientRole desired) held (held.putClient key
        { owner with
          roles := owner.roles.insert desired.name (newRole roleId desired.name key true
            { name := some desired.name, description := desired.description }) } held.users)
  | clientRoleDescribed {desired : Blueprint.ClientRole} {held : StoredRealm} {key : String}
      {owner : StoredClient} {stored : RoleRecord} {description : String}
      (found : held.client? desired.clientId = some (key, owner))
      (there : owner.roles.get? desired.name = some stored)
      (wanted : desired.description = some description) :
      Edit (.clientRole desired) held (held.putClient key
        { owner with
          roles := owner.roles.insert desired.name
            { stored with description := some description } } held.users)
  | compositesAdded {mapping : Blueprint.Composite} {held : StoredRealm} {stored : RoleRecord}
      {roleIds : List String} (found : held.roles.get? mapping.realmRole = some stored)
      (listed : ∀ roleId ∈ roleIds, ListedRole held mapping roleId) :
      Edit (.composite mapping) held
        { held with
          composites := held.composites.insert mapping.realmRole
            ((held.compositesOf mapping.realmRole).insertAll roleIds)
          roles := held.roles.insert mapping.realmRole { stored with composite := some true } }
  | marked {held : StoredRealm} :
      Edit .marker held
        (updatedRealm held { attributes := some (held.attributes.insert initializedMarker "true") })

/-- Changes that a run makes for some items, one after the other. -/
abbrev Edits (items : List Item) : StoredRealm → StoredRealm → Prop :=
  Relation.ReflTransGen fun held after => ∃ item ∈ items, Edit item held after

section Edits

variable {item : Item} {items others : List Item} {held between after : StoredRealm}

theorem Edit.edits (edit : Edit item held after) (member : item ∈ items) :
    Edits items held after :=
  .single ⟨item, member, edit⟩

theorem Edits.mono (edits : Edits items held after) (fewer : items ⊆ others) :
    Edits others held after :=
  Relation.ReflTransGen.mono (fun _ _ ⟨item, member, edit⟩ => ⟨item, fewer member, edit⟩) _ _ edits

theorem Edits.append (first : Edits items held between) (second : Edits others between after) :
    Edits (items ++ others) held after :=
  (first.mono (List.subset_append_left items others)).trans
    (second.mono (List.subset_append_right items others))

/-- What every edit keeps, a run keeps. -/
theorem Edits.keep {kept : StoredRealm → Prop} (edits : Edits items held after)
    (each : ∀ item ∈ items, ∀ before next, Edit item before next → kept before → kept next)
    (holds : kept held) : kept after := by
  induction edits with
  | refl => exact holds
  | tail _ step ih =>
      obtain ⟨item, member, edit⟩ := step
      exact each item member _ _ edit ih

/-- Edits for the realm itself keep its clients and all grants. -/
theorem Edits.ofRealm {desired : Blueprint.Realm} (edits : Edits [.realm desired] held after) :
    after.clients = held.clients ∧ after.grants = held.grants := by
  have keeps (item : Item) (member : item ∈ [Item.realm desired]) (before next : StoredRealm)
      (edit : Edit item before next)
      (same : before.clients = held.clients ∧ before.grants = held.grants) :
      next.clients = held.clients ∧ next.grants = held.grants := by
    rcases List.mem_singleton.1 member with rfl
    cases edit
    exact same
  exact edits.keep keeps ⟨rfl, rfl⟩

end Edits

/-! ## What edits leave settled -/

/-- A client keeps its place under an edit. Its record changes by edits for that client alone. -/
theorem Edit.client? {item : Item} {held after : StoredRealm} {clientId key : String}
    {client : StoredClient} (edit : Edit item held after)
    (found : held.client? clientId = some (key, client)) :
    ∃ kept, after.client? clientId = some (key, kept) ∧
      (kept.record = client.record ∨ ∃ desired, item = .client desired ∧
        desired.clientId = clientId) := by
  cases edit with
  | realmSet | granted | realmRoleAdded | realmRoleDescribed | compositesAdded | marked =>
      exact ⟨client, found, .inl rfl⟩
  | @clientAdded desired _ _ _ _ users unknown free keepsUsers =>
      rw [StoredRealm.client?_putClient_new unknown free (by rfl)]
      split
      · next same =>
        rw [same, unknown] at found
        cases found
      · exact ⟨client, found, .inl rfl⟩
  | @clientChanged desired _ _ _ _ _ users there given keepsUser keepsUsers =>
      rw [StoredRealm.client?_putClient there (by rfl)]
      split
      · next same =>
        rw [same, there] at found
        cases found
        exact ⟨_, rfl, .inr ⟨desired, rfl, same.symm⟩⟩
      · exact ⟨client, found, .inl rfl⟩
  | clientRoleAdded there _ | clientRoleDescribed there _ _ =>
      rw [StoredRealm.client?_putClient there (by rfl)]
      split
      · next same =>
        rw [same, there] at found
        cases found
        exact ⟨_, rfl, .inl rfl⟩
      · exact ⟨client, found, .inl rfl⟩

/-- The pass that an item belongs to. -/
def Item.pass : Item → Nat
  | .realm _ => 1
  | .client _ => 2
  | .realmRole _ => 3
  | .clientRole _ => 4
  | .composite _ => 5
  | .marker => 6

/-- Edits for the later item do not touch what the earlier one desires. -/
def Apart : Item → Item → Prop
  | .client earlier, .client later => earlier.clientId ≠ later.clientId
  | .realmRole earlier, .realmRole later => earlier.name ≠ later.name
  | .clientRole earlier, .clientRole later =>
    earlier.clientId ≠ later.clientId ∨ earlier.name ≠ later.name
  | .composite _, .composite _ => True
  | earlier, later => earlier.pass < later.pass

section Apart

variable {later : Item} {held after : StoredRealm}

theorem settled_realm_of_edit {desired : Blueprint.Realm} (settled : Settled (.realm desired) held)
    (edit : Edit later held after) (apart : Apart (.realm desired) later) :
    Settled (.realm desired) after := by
  obtain ⟨enabled, covers⟩ := settled
  cases edit with
  | realmSet => exact absurd apart (Nat.lt_irrefl 1)
  | clientAdded | clientChanged | granted | realmRoleAdded | realmRoleDescribed | clientRoleAdded
  | clientRoleDescribed | compositesAdded => exact ⟨enabled, covers⟩
  | marked =>
      refine ⟨enabled, fun key value wanted => ?_⟩
      -- The marker is not among the desired attributes.
      have notMarker : key ≠ initializedMarker := by
        have passes := wanted
        rw [Blueprint.Realm.managedAttributes, Table.get?_filter,
          Option.filter_eq_some_iff] at passes
        simpa using passes.2
      show (held.attributes.override (held.attributes.insert initializedMarker "true")).get? key = _
      rw [Table.get?_override, Table.get?_insert, if_neg notMarker, covers key value wanted]
      rfl

theorem settled_client_of_edit {desired : Blueprint.Client}
    (settled : Settled (.client desired) held) (edit : Edit later held after)
    (apart : Apart (.client desired) later) : Settled (.client desired) after := by
  obtain ⟨key, stored, found, fits, keepsSecret⟩ := settled
  obtain ⟨kept, foundAfter, same | ⟨other, isClient, same⟩⟩ := edit.client? found
  · exact ⟨key, kept, foundAfter, same ▸ fits, same ▸ keepsSecret⟩
  · subst isClient
    exact absurd same.symm apart

theorem settled_realmRole_of_edit {desired : Blueprint.Role}
    (settled : Settled (.realmRole desired) held) (edit : Edit later held after)
    (apart : Apart (.realmRole desired) later) : Settled (.realmRole desired) after := by
  obtain ⟨stored, there, described⟩ := settled
  cases edit with
  | realmSet | clientAdded | clientChanged | granted =>
      exact absurd apart (by simp [Apart, Item.pass])
  | realmRoleAdded | realmRoleDescribed =>
      refine ⟨stored, ?_, described⟩
      rw [Table.get?_insert, if_neg apart]
      exact there
  | clientRoleAdded | clientRoleDescribed | marked => exact ⟨stored, there, described⟩
  | @compositesAdded mapping _ other _ found listed =>
      by_cases same : desired.name = mapping.realmRole
      · rw [← same, there] at found
        cases found
        refine ⟨{ stored with composite := some true }, ?_, described⟩
        rw [Table.get?_insert, if_pos same]
      · refine ⟨stored, ?_, described⟩
        rw [Table.get?_insert, if_neg same]
        exact there

/-- A role of a client stays settled when another role of a client is put. -/
theorem settled_clientRole_of_putClient {desired : Blueprint.ClientRole}
    {clientId name key : String} {owner : StoredClient}
    (settled : Settled (.clientRole desired) held)
    (found : held.client? clientId = some (key, owner))
    (apart : desired.clientId ≠ clientId ∨ desired.name ≠ name) (role : RoleRecord) :
    Settled (.clientRole desired) (held.putClient key
      { owner with roles := owner.roles.insert name role } held.users) := by
  intro otherKey other foundAfter
  rw [StoredRealm.client?_putClient found (by rfl)] at foundAfter
  split at foundAfter
  · next same =>
    cases foundAfter
    have different : desired.name ≠ name := apart.resolve_left fun differs => differs same
    rw [Table.get?_insert, if_neg different]
    exact settled key owner (same ▸ found)
  · exact settled otherKey other foundAfter

theorem settled_clientRole_of_edit {desired : Blueprint.ClientRole}
    (settled : Settled (.clientRole desired) held) (edit : Edit later held after)
    (apart : Apart (.clientRole desired) later) : Settled (.clientRole desired) after := by
  cases edit with
  | realmSet | clientAdded | clientChanged | granted | realmRoleAdded | realmRoleDescribed =>
      exact absurd apart (by simp [Apart, Item.pass])
  | clientRoleAdded found _ | clientRoleDescribed found _ _ =>
      exact settled_clientRole_of_putClient settled found apart _
  | compositesAdded | marked => exact settled

theorem settled_composite_of_edit {desired : Blueprint.Composite}
    (settled : Settled (.composite desired) held) (edit : Edit later held after)
    (apart : Apart (.composite desired) later) : Settled (.composite desired) after := by
  cases edit with
  | realmSet | clientAdded | clientChanged | granted | realmRoleAdded | realmRoleDescribed
  | clientRoleAdded | clientRoleDescribed => exact absurd apart (by simp [Apart, Item.pass])
  | @compositesAdded mapping _ stored roleIds found listed =>
      intro key owner roleThere foundClient name role wanted there
      have roleBefore : (held.roles.get? desired.realmRole).isSome := by
        rw [Table.get?_insert] at roleThere
        split at roleThere
        · next same => rw [same, found]; rfl
        · exact roleThere
      obtain ⟨roleId, identified, attached⟩ := settled key owner roleBefore foundClient name role
        wanted there
      exact ⟨roleId, identified, contains_insert_insertAll_iff.2 (.inl attached)⟩
  | marked => exact settled

/-- **What is settled stays so under edits for items that are apart from it.** -/
theorem Settled.of_edit {earlier : Item} (settled : Settled earlier held)
    (edit : Edit later held after) (apart : Apart earlier later) : Settled earlier after := by
  cases earlier with
  | realm desired => exact settled_realm_of_edit settled edit apart
  | client desired => exact settled_client_of_edit settled edit apart
  | realmRole desired => exact settled_realmRole_of_edit settled edit apart
  | clientRole desired => exact settled_clientRole_of_edit settled edit apart
  | composite desired => exact settled_composite_of_edit settled edit apart
  | marker => cases edit <;> exact absurd apart (by simp [Apart, Item.pass])

theorem Settled.of_edits {earlier : Item} {items : List Item} (settled : Settled earlier held)
    (edits : Edits items held after) (apart : ∀ later ∈ items, Apart earlier later) :
    Settled earlier after :=
  edits.keep (fun later member _ _ edit before => before.of_edit edit (apart later member)) settled

end Apart

end RealmConvergence.Convergence
