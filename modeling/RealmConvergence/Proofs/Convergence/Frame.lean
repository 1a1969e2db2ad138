import RealmConvergence.Blueprint.Samples
import RealmConvergence.Proofs.Convergence.Asking
import RealmConvergence.Proofs.Convergence.Run
import RealmConvergence.Proofs.Service.Linked

/-!
# What runs leave alone

A run destroys nothing, and it touches nothing that its blueprint does not list: other realms,
other attributes, other clients, descriptions and secrets that no one asked for. Only the users of
declared clients are granted roles, and only roles that look after users. All of this holds however
the run ends and whatever fails on the way (`apply_keeps`).

Every edit for a blueprint's item keeps a realm in this sense (`Edit.keeps`), and keeping is
transitive (`KeepsRealm.trans`), so runs do as well.
-/

set_option autoImplicit false

namespace RealmConvergence.Convergence

open Service

variable {blueprint : Blueprint}

/-! ## Entries that are kept -/

section Entries

variable {α : Type} {keeps : String → α → α → Prop} {before between after : Table α}

/-- Every entry of a table is still there under its name, and was kept. -/
def KeepsEntries (keeps : String → α → α → Prop) (before after : Table α) : Prop :=
  ∀ name old, before.get? name = some old →
    ∃ kept, after.get? name = some kept ∧ keeps name old kept

theorem KeepsEntries.refl (same : ∀ name old, keeps name old old) (table : Table α) :
    KeepsEntries keeps table table :=
  fun name old there => ⟨old, there, same name old⟩

theorem KeepsEntries.trans
    (both : ∀ name old next kept, keeps name old next → keeps name next kept → keeps name old kept)
    (first : KeepsEntries keeps before between) (second : KeepsEntries keeps between after) :
    KeepsEntries keeps before after := by
  intro name old there
  obtain ⟨next, thereNext, keepsFirst⟩ := first name old there
  obtain ⟨kept, thereKept, keepsSecond⟩ := second name next thereNext
  exact ⟨kept, thereKept, both name old next kept keepsFirst keepsSecond⟩

/-- A new entry keeps the others. -/
theorem keepsEntries_insert_new (same : ∀ name old, keeps name old old) {table : Table α}
    {name : String} (free : table.get? name = none) (value : α) :
    KeepsEntries keeps table (table.insert name value) := by
  intro other old there
  have different : other ≠ name := by
    rintro rfl
    rw [free] at there
    cases there
  refine ⟨old, ?_, same other old⟩
  rw [Table.get?_insert, if_neg different]
  exact there

/-- An entry that keeps the one in its place keeps the others as well. -/
theorem keepsEntries_insert_over (same : ∀ name old, keeps name old old) {table : Table α}
    {name : String} {value old : α} (found : table.get? name = some old)
    (keepsOld : keeps name old value) : KeepsEntries keeps table (table.insert name value) := by
  intro other present there
  rw [Table.get?_insert]
  split
  · next isName =>
    subst isName
    rw [found] at there
    cases there
    exact ⟨value, rfl, keepsOld⟩
  · exact ⟨present, there, same other present⟩

end Entries

/-! ## What is kept of roles and clients -/

/-- A role keeps its identifier and its name, and its description where none was asked for. -/
structure KeepsRole (describes : String → Prop) (key : String) (before after : RoleRecord) :
    Prop where
  ownId : after.id = before.id
  name : after.name = before.name
  description : ¬describes key → after.description = before.description

section Roles

variable {describes : String → Prop} {key : String} {before between after : RoleRecord}

theorem KeepsRole.refl (describes : String → Prop) (key : String) (role : RoleRecord) :
    KeepsRole describes key role role :=
  ⟨rfl, rfl, fun _ => rfl⟩

/-- A description may be written where one was asked for. -/
theorem KeepsRole.described (asked : describes key) (role : RoleRecord) (description : String) :
    KeepsRole describes key role { role with description := some description } :=
  ⟨rfl, rfl, fun free => absurd asked free⟩

theorem KeepsRole.trans (first : KeepsRole describes key before between)
    (second : KeepsRole describes key between after) : KeepsRole describes key before after where
  ownId := second.ownId.trans first.ownId
  name := second.name.trans first.name
  description free := (second.description free).trans (first.description free)

end Roles

/-- A blueprint declares a client. -/
def Declares (blueprint : Blueprint) (record : ClientRecord) (desired : Blueprint.Client) : Prop :=
  desired ∈ blueprint.clients ∧ record.clientId = some desired.clientId

/-- A blueprint describes a role of a client. -/
def DescribesClientRole (blueprint : Blueprint) (record : ClientRecord) (name : String) : Prop :=
  ∃ desired ∈ blueprint.clientRoles, record.clientId = some desired.clientId ∧
    desired.name = name ∧ desired.description.isSome

/-- A client keeps its identifiers, its roles, its user and whatever the blueprint does not ask for;
a client that is not declared keeps all of its record. -/
structure KeepsClient (blueprint : Blueprint) (before after : StoredClient) : Prop where
  ownId : after.record.id = before.record.id
  clientId : after.record.clientId = before.record.clientId
  enabled : after.record.enabled = before.record.enabled
  undeclared : (∀ desired, ¬Declares blueprint before.record desired) → after.record = before.record
  attributes : ∀ key, (∀ desired, Declares blueprint before.record desired →
      desired.attributes.get? key = none) →
    after.record.attributes.bind (·.get? key) = before.record.attributes.bind (·.get? key)
  secret : (∀ desired, Declares blueprint before.record desired → desired.secret = none) →
    after.record.secret = before.record.secret
  roles : KeepsEntries (KeepsRole (DescribesClientRole blueprint before.record)) before.roles
    after.roles
  serviceUser : ∀ user, before.serviceUser = some user → after.serviceUser = some user

theorem KeepsClient.refl (blueprint : Blueprint) (client : StoredClient) :
    KeepsClient blueprint client client where
  ownId := rfl
  clientId := rfl
  enabled := rfl
  undeclared _ := rfl
  attributes _ _ := rfl
  secret _ := rfl
  roles := .refl (KeepsRole.refl _) _
  serviceUser _ has := has

theorem KeepsClient.trans {before between after : StoredClient}
    (first : KeepsClient blueprint before between) (second : KeepsClient blueprint between after) :
    KeepsClient blueprint before after where
  ownId := second.ownId.trans first.ownId
  clientId := second.clientId.trans first.clientId
  enabled := second.enabled.trans first.enabled
  undeclared free := by
    have same := first.undeclared free
    exact (second.undeclared (same ▸ free)).trans same
  attributes key free := by
    refine (second.attributes key ?_).trans (first.attributes key free)
    rintro desired ⟨listed, named⟩
    exact free desired ⟨listed, first.clientId ▸ named⟩
  secret free := by
    refine (second.secret ?_).trans (first.secret free)
    rintro desired ⟨listed, named⟩
    exact free desired ⟨listed, first.clientId ▸ named⟩
  roles := by
    refine first.roles.trans (fun _ _ _ _ => KeepsRole.trans) ?_
    have sameDescribes : DescribesClientRole blueprint between.record =
        DescribesClientRole blueprint before.record := by
      funext name
      simp only [DescribesClientRole, first.clientId]
    exact sameDescribes ▸ second.roles
  serviceUser user has := second.serviceUser user (first.serviceUser user has)

/-! ## What is kept of a realm -/

/-- A user belongs to a client that the blueprint declares. -/
def DeclaredUser (blueprint : Blueprint) (held : StoredRealm) (user : String) : Prop :=
  ∃ key client desired, held.clients.get? key = some client ∧ client.serviceUser = some user ∧
    Declares blueprint client.record desired

/-- A blueprint describes a role of its realm. -/
def DescribesRealmRole (blueprint : Blueprint) (name : String) : Prop :=
  ∃ desired ∈ blueprint.realmRoles, desired.name = name ∧ desired.description.isSome

/-- A realm keeps its clients, roles, users, mappings and grants, and its attributes except those
that the blueprint manages and the marker. New grants go to users of declared clients, and are of
roles that look after users. -/
structure KeepsRealm (blueprint : Blueprint) (before after : StoredRealm) : Prop where
  attributes : ∀ key, blueprint.realm.managedAttributes.get? key = none → key ≠ initializedMarker →
    after.attributes.get? key = before.attributes.get? key
  clients : KeepsEntries (fun _ => KeepsClient blueprint) before.clients after.clients
  roles : KeepsEntries (KeepsRole (DescribesRealmRole blueprint)) before.roles after.roles
  users : KeepsUsers before.users after.users
  composites : ∀ role roleId, (before.compositesOf role).contains roleId = true →
    (after.compositesOf role).contains roleId = true
  grants : ∀ user roleId, (before.grantsOf user).contains roleId = true →
    (after.grantsOf user).contains roleId = true
  granted : ∀ user roleId, (after.grantsOf user).contains roleId = true →
    (before.grantsOf user).contains roleId = true ∨
      (DeclaredUser blueprint after user ∧ ManagementRole after roleId)

theorem keepsClients_refl (blueprint : Blueprint) (clients : Table StoredClient) :
    KeepsEntries (fun _ => KeepsClient blueprint) clients clients :=
  .refl (fun _ => KeepsClient.refl blueprint) clients

theorem keepsRoles_refl (describes : String → Prop) (roles : Table RoleRecord) :
    KeepsEntries (KeepsRole describes) roles roles :=
  .refl (KeepsRole.refl describes) roles

section Realms

variable {before between after : StoredRealm}

/-- A user of a declared client stays one. -/
theorem DeclaredUser.of_keeps {user : String} (declared : DeclaredUser blueprint before user)
    (keeps : KeepsEntries (fun _ => KeepsClient blueprint) before.clients after.clients) :
    DeclaredUser blueprint after user := by
  obtain ⟨key, client, desired, present, account, listed, named⟩ := declared
  obtain ⟨kept, presentAfter, keepsClient⟩ := keeps key client present
  exact ⟨key, kept, desired, presentAfter, keepsClient.serviceUser user account, listed,
    keepsClient.clientId.trans named⟩

/-- A role that looks after users stays one. -/
theorem managementRole_of_keeps {roleId : String} (manages : ManagementRole before roleId)
    (keeps : KeepsEntries (fun _ => KeepsClient blueprint) before.clients after.clients) :
    ManagementRole after roleId := by
  obtain ⟨key, owner, name, role, present, named, wanted, there, identified⟩ := manages
  obtain ⟨kept, presentAfter, keepsClient⟩ := keeps key owner present
  obtain ⟨keptRole, thereAfter, keepsRole⟩ := keepsClient.roles name role there
  exact ⟨key, kept, name, keptRole, presentAfter, keepsClient.clientId.trans named, wanted,
    thereAfter, keepsRole.ownId.trans identified⟩

theorem KeepsRealm.refl (blueprint : Blueprint) (held : StoredRealm) :
    KeepsRealm blueprint held held where
  attributes _ _ _ := rfl
  clients := keepsClients_refl blueprint held.clients
  roles := keepsRoles_refl _ held.roles
  users _ _ there := there
  composites _ _ attached := attached
  grants _ _ has := has
  granted _ _ has := .inl has

theorem KeepsRealm.trans (first : KeepsRealm blueprint before between)
    (second : KeepsRealm blueprint between after) : KeepsRealm blueprint before after where
  attributes key free other := (second.attributes key free other).trans
    (first.attributes key free other)
  clients := first.clients.trans (fun _ _ _ _ => KeepsClient.trans) second.clients
  roles := first.roles.trans (fun _ _ _ _ => KeepsRole.trans) second.roles
  users key user there := second.users key user (first.users key user there)
  composites role roleId attached := second.composites role roleId
    (first.composites role roleId attached)
  grants user roleId has := second.grants user roleId (first.grants user roleId has)
  granted user roleId has := by
    rcases second.granted user roleId has with earlier | isNew
    · rcases first.granted user roleId earlier with old | ⟨declared, manages⟩
      · exact .inl old
      · exact .inr ⟨declared.of_keeps second.clients,
          managementRole_of_keeps manages second.clients⟩
    · exact .inr isNew

end Realms

/-! ## Edits keep realms -/

section Edits

variable {held after : StoredRealm} {key : String} {stored : StoredClient}

/-- A realm that differs in its clients and users alone is kept as they are. -/
theorem keepsRealm_putClient {client : StoredClient} {users : Table UserRecord}
    (keeps : KeepsEntries (fun _ => KeepsClient blueprint) held.clients
      (held.clients.insert key client)) (keepsUsers : KeepsUsers held.users users) :
    KeepsRealm blueprint held (held.putClient key client users) where
  attributes _ _ _ := rfl
  clients := keeps
  roles := keepsRoles_refl _ _
  users := keepsUsers
  composites _ _ attached := attached
  grants _ _ has := has
  granted _ _ has := .inl has

/-- Writing the attributes of a realm keeps it, if those stay that no one manages. -/
theorem keepsRealm_of_attributes {enabled : Bool} {attributes : Table String}
    (keeps : ∀ key, blueprint.realm.managedAttributes.get? key = none → key ≠ initializedMarker →
      attributes.get? key = held.attributes.get? key) :
    KeepsRealm blueprint held { held with enabled, attributes } :=
  { KeepsRealm.refl blueprint held with attributes := keeps }

/-- Writing a role of a realm, and adding to the mappings of roles, keeps the realm. -/
theorem keepsRealm_of_roles {name : String} {role : RoleRecord} {composites : Table NameSet}
    (keeps : KeepsEntries (KeepsRole (DescribesRealmRole blueprint)) held.roles
      (held.roles.insert name role))
    (grows : ∀ other roleId, (held.compositesOf other).contains roleId = true →
      ((composites.get? other).getD ∅).contains roleId = true) :
    KeepsRealm blueprint held { held with roles := held.roles.insert name role, composites } :=
  { KeepsRealm.refl blueprint held with
    roles := keeps
    composites := grows }

/-- A patch for a declared client keeps what the declaration does not ask for. -/
theorem keepsClient_patched {desired : Blueprint.Client} {secret serviceUser : Option String}
    (listed : desired ∈ blueprint.clients) (named : stored.record.clientId = some desired.clientId)
    (given : secret = none ∨ secret = desired.secret)
    (keepsUser : ∀ user, stored.serviceUser = some user → serviceUser = some user) :
    KeepsClient blueprint stored
      { stored with
        record := updatedClient stored.record { clientPatch stored.record desired with secret }
        serviceUser } where
  ownId := rfl
  clientId := rfl
  enabled := rfl
  undeclared free := absurd ⟨listed, named⟩ (free desired)
  attributes key free := by
    have kept := get?_patched_of_unlisted (stored.record.attributes.getD ∅)
      (free desired ⟨listed, named⟩)
    have absentIsEmpty : (stored.record.attributes.getD ∅).get? key =
        stored.record.attributes.bind (·.get? key) := by
      cases stored.record.attributes <;> rfl
    rw [absentIsEmpty] at kept
    simp only [updatedClient, clientPatch]
    cases patched : patchedAttributes (stored.record.attributes.getD ∅) desired.attributes with
    | none => rfl
    | some sent =>
        rw [patched] at kept
        exact kept
  secret free := by
    have noSecret : secret = none := by
      rcases given with none | same
      · exact none
      · exact same.trans (free desired ⟨listed, named⟩)
    rw [noSecret]
    rfl
  roles := keepsRoles_refl _ _
  serviceUser := keepsUser

/-- A role put for a client keeps the realm, if it keeps the roles of the client. -/
theorem keepsRealm_putClientRole {name : String} {role : RoleRecord}
    (present : held.clients.get? key = some stored)
    (keeps : KeepsEntries (KeepsRole (DescribesClientRole blueprint stored.record)) stored.roles
      (stored.roles.insert name role)) :
    KeepsRealm blueprint held (held.putClient key
      { stored with roles := stored.roles.insert name role } held.users) := by
  have keepsClient : KeepsClient blueprint stored
      { stored with roles := stored.roles.insert name role } :=
    { KeepsClient.refl blueprint stored with roles := keeps }
  exact keepsRealm_putClient
    (keepsEntries_insert_over (fun _ => KeepsClient.refl blueprint) present keepsClient)
    fun _ _ there => there

/-- A grant of roles that look after users, to a user of a declared client, keeps the realm. -/
theorem keepsRealm_granted {user : String} {roleIds : List String}
    (declared : DeclaredUser blueprint held user)
    (manages : ∀ roleId ∈ roleIds, ManagementRole held roleId) :
    KeepsRealm blueprint held
      { held with grants := held.grants.insert user ((held.grantsOf user).insertAll roleIds) } :=
  { KeepsRealm.refl blueprint held with
    grants := fun other roleId has => contains_insert_insertAll_iff.2 (.inl has)
    granted := fun other roleId has => by
      rcases contains_insert_insertAll_iff.1 has with old | ⟨isUser, isNew⟩
      · exact .inl old
      · subst isUser
        exact .inr ⟨declared, manages roleId isNew⟩ }

/-- **An edit for an item of a blueprint keeps the realm.** -/
theorem Edit.keeps {item : Item} (edit : Edit item held after) (member : item ∈ blueprint.items) :
    KeepsRealm blueprint held after := by
  cases edit with
  | realmSet name =>
      cases realm_mem_items_iff.1 member
      exact keepsRealm_of_attributes fun key unlisted _ =>
        get?_patched_of_unlisted held.attributes unlisted
  | clientAdded unknown free keepsUsers =>
      exact keepsRealm_putClient
        (keepsEntries_insert_new (fun _ => KeepsClient.refl blueprint) free _) keepsUsers
  | clientChanged found given keepsUser keepsUsers =>
      obtain ⟨present, named⟩ := StoredRealm.get?_of_client? found
      refine keepsRealm_putClient (keepsEntries_insert_over (fun _ => KeepsClient.refl blueprint)
        present ?_) keepsUsers
      exact keepsClient_patched (client_mem_items_iff.1 member) named given keepsUser
  | @granted desired _ key user stored roleIds found account manages =>
      obtain ⟨present, named⟩ := StoredRealm.get?_of_client? found
      exact keepsRealm_granted ⟨key, stored, desired, present, account,
        client_mem_items_iff.1 member, named⟩ manages
  | realmRoleAdded unknown =>
      exact keepsRealm_of_roles (keepsEntries_insert_new (KeepsRole.refl _) unknown _)
        fun _ _ attached => attached
  | @realmRoleDescribed desired _ stored description found wanted =>
      have asked : DescribesRealmRole blueprint desired.name :=
        ⟨desired, realmRole_mem_items_iff.1 member, rfl, Option.isSome_of_eq_some wanted⟩
      exact keepsRealm_of_roles (keepsEntries_insert_over (KeepsRole.refl _) found
        (.described asked stored description)) fun _ _ attached => attached
  | clientRoleAdded found unknown =>
      obtain ⟨present, -⟩ := StoredRealm.get?_of_client? found
      exact keepsRealm_putClientRole present (keepsEntries_insert_new (KeepsRole.refl _) unknown _)
  | @clientRoleDescribed desired _ key owner stored description found there wanted =>
      obtain ⟨present, named⟩ := StoredRealm.get?_of_client? found
      have asked : DescribesClientRole blueprint owner.record desired.name :=
        ⟨desired, clientRole_mem_items_iff.1 member, named, rfl, Option.isSome_of_eq_some wanted⟩
      exact keepsRealm_putClientRole present (keepsEntries_insert_over (KeepsRole.refl _) there
        (.described asked stored description))
  | compositesAdded found listed =>
      refine keepsRealm_of_roles (keepsEntries_insert_over (KeepsRole.refl _) found ?_)
        fun other roleId attached => contains_insert_insertAll_iff.2 (.inl attached)
      exact ⟨rfl, rfl, fun _ => rfl⟩
  | marked =>
      refine keepsRealm_of_attributes fun key _ notMarker => ?_
      show (held.attributes.override (held.attributes.insert initializedMarker "true")).get? key = _
      rw [Table.get?_override, Table.get?_insert, if_neg notMarker, Option.or_self]

theorem Edits.keeps {items : List Item} (edits : Edits items held after)
    (fewer : items ⊆ blueprint.items) : KeepsRealm blueprint held after := by
  refine Edits.keep edits (fun item member before next edit keeps => ?_) (.refl blueprint held)
  exact keeps.trans (edit.keeps (fewer member))

/-- A client is found in its place after the edits of a run. -/
theorem Edits.client? {items : List Item} {clientId : String} (edits : Edits items held after)
    (known : held.client? clientId = some (key, stored)) :
    ∃ kept, after.client? clientId = some (key, kept) := by
  have keeps (item : Item) (_ : item ∈ items) (before next : StoredRealm)
      (edit : Edit item before next) (there : ∃ kept, before.client? clientId = some (key, kept)) :
      ∃ kept, next.client? clientId = some (key, kept) := by
    obtain ⟨kept, found⟩ := there
    obtain ⟨keptNext, foundNext, -⟩ := edit.client? found
    exact ⟨keptNext, foundNext⟩
  exact edits.keep keeps ⟨stored, known⟩

end Edits

/-! ## What a kept realm tells of the one before -/

namespace KeepsRealm

variable {held after : StoredRealm} {key name roleId : String}

theorem hasRole (keeps : KeepsRealm blueprint held after)
    (has : HasRole held.clients key name roleId) : HasRole after.clients key name roleId := by
  obtain ⟨owner, role, present, there, identified⟩ := has
  obtain ⟨kept, presentAfter, keepsClient⟩ := keeps.clients key owner present
  obtain ⟨keptRole, thereAfter, keepsRole⟩ := keepsClient.roles name role there
  exact ⟨kept, keptRole, presentAfter, thereAfter, keepsRole.ownId.trans identified⟩

/-- A role that was there under an identifier is the one that has it afterwards. -/
theorem sameRole (keeps : KeepsRealm blueprint held after) {drawn : Nat} (sound : after.Sound drawn)
    {other otherName : String} (before : HasRole held.clients other otherName roleId)
    (has : HasRole after.clients key name roleId) : other = key ∧ otherName = name :=
  sound.clients.roleIds other otherName key name roleId (keeps.hasRole before) has

/-- A client that was there is found afterwards by what it was found by before. -/
theorem client?_before (keeps : KeepsRealm blueprint held after) (linked : held.Linked)
    {clientId : String} {owner kept : StoredClient} (present : held.clients.get? key = some owner)
    (known : after.client? clientId = some (key, kept)) :
    held.client? clientId = some (key, owner) := by
  obtain ⟨presentAfter, named⟩ := StoredRealm.get?_of_client? known
  obtain ⟨other, presentSo, keepsClient⟩ := keeps.clients key owner present
  rw [presentAfter] at presentSo
  cases presentSo
  exact linked.client?_eq_some_iff.2 ⟨present, keepsClient.clientId.symm.trans named⟩

end KeepsRealm

/-! ## Runs keep realms -/

/-- What a run leaves alone in a store. Other realms stay as they are, the realm of the blueprint is
kept, and where it was absent only users of declared clients come to grants. -/
structure KeepsStore (blueprint : Blueprint) (before after : Store) : Prop where
  elsewhere : ∀ other, other ≠ blueprint.realm.name →
    after.realms.get? other = before.realms.get? other
  here : ∀ held, before.realms.get? blueprint.realm.name = some held →
    ∃ kept, after.realms.get? blueprint.realm.name = some kept ∧ KeepsRealm blueprint held kept
  created : before.realms.get? blueprint.realm.name = none → ∀ held user roleId,
    after.realms.get? blueprint.realm.name = some held →
      (held.grantsOf user).contains roleId = true →
        DeclaredUser blueprint held user ∧ ManagementRole held roleId

theorem KeepsStore.refl (blueprint : Blueprint) (store : Store) :
    KeepsStore blueprint store store where
  elsewhere _ _ := rfl
  here held found := ⟨held, found, .refl blueprint held⟩
  created absent held user roleId found := by
    rw [absent] at found
    cases found

/-- What a run does leaves the rest of the store alone. -/
theorem Runs.keepsStore {α : Type} {faults : Faults} {before later : Store}
    {outcome : Except Failure α} (runs : Runs faults blueprint before outcome later)
    (elsewhere : ∀ other, other ≠ blueprint.realm.name →
      later.realms.get? other = before.realms.get? other) :
    KeepsStore blueprint before later := by
  rcases runs with ⟨start, begins, after, found, edits, -⟩ | ⟨-, rfl, -⟩
  · have keeps := edits.keeps (List.Subset.refl blueprint.items)
    refine ⟨elsewhere, fun held present => ?_, fun absent held user roleId present has => ?_⟩
    · rcases begins with isStart | ⟨absent, -⟩
      · rw [present] at isStart
        cases isStart
        exact ⟨after, found, keeps⟩
      · rw [absent] at present
        cases present
    · rcases begins with isStart | ⟨-, noGrants, -⟩
      · rw [absent] at isStart
        cases isStart
      · rw [found] at present
        cases present
        rcases keeps.granted user roleId has with old | isNew
        · rw [StoredRealm.grantsOf, noGrants] at old
          cases old
        · exact isNew
  · exact .refl blueprint later

/-- **A run destroys nothing and touches nothing outside of its blueprint**, however it ends and
whatever operations are told to fail. -/
theorem apply_keeps {service : Service} (reachable : service.Reachable) (blueprint : Blueprint)
    (faults : Faults) :
    KeepsStore blueprint service.store
      ({ service with faults }.talk (apply blueprint).run).2.store := by
  rw [talk_eq]
  cases valid : blueprint.validate with
  | error violation =>
      have refused : apply blueprint = throw (.blueprint violation) := by
        unfold apply
        rw [valid]
      rw [refused]
      exact .refl blueprint service.store
  | ok _ =>
      have runs : Reaches faults (apply blueprint) service.store _ :=
        reaches_apply valid reachable.sound
      exact runs.keepsStore fun other different =>
        run_elsewhere blueprint faults service.store different

/-- A new service that holds another realm keeps it when the school is applied and the first role
cannot be created. -/
theorem apply_keeps_school :
    KeepsStore Blueprint.school (Store.prepare {} (.realm "other" true ∅))
      ({ store := Store.prepare {} (.realm "other" true ∅), faults := fun operation =>
          if operation = .createRealmRole then some (.api 500 "down") else none : Service }.talk
        (apply Blueprint.school).run).2.store :=
  apply_keeps (.seeded (.realm "other" true ∅) .new) Blueprint.school fun operation =>
    if operation = .createRealmRole then some (.api 500 "down") else none

end RealmConvergence.Convergence
