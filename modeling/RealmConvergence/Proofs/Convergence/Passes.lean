import RealmConvergence.Proofs.Convergence.Clients

/-!
# The other passes at work

The realm, its roles, the roles of clients, the composite mappings and the marker: from every sound
store, each part of these passes works for its item.

A realm that is absent is created as desired, without roles, mappings or grants
(`reaches_realmPass_of_absent`). A composite mapping is settled exactly when every desired role that
is missing from it is absent (`settled_composite_iff`).
-/

set_option autoImplicit false

namespace RealmConvergence.Convergence

open Service

variable {faults : Faults} {store : Store} {realm key : String} {held : StoredRealm}

/-! ## First pass -/

section Realm

variable {desired : Blueprint.Realm}

theorem realmChanges_eq_nil_iff {name : String} :
    realmChanges (held.record name) desired = [] ↔ Settled (.realm desired) held := by
  have isRecord : (held.record name).attributes.getD ∅ = held.attributes := rfl
  have isEnabled : (held.record name).enabled = some held.enabled := rfl
  simp only [realmChanges, Settled, isRecord, isEnabled, List.append_eq_nil_iff,
    Option.some.injEq, ite_eq_left_iff, List.cons_ne_nil, imp_false, Classical.not_not,
    List.isEmpty_iff, changedKeys_eq_nil_iff]

theorem settled_updatedRealm (held : StoredRealm) (desired : Blueprint.Realm) (name : String) :
    Settled (.realm desired) (updatedRealm held (realmPatch (held.record name) desired)) := by
  refine ⟨?_, covers_patched held.attributes desired.managedAttributes⟩
  show (if some held.enabled = some desired.enabled then none else some desired.enabled).getD
    held.enabled = desired.enabled
  split
  · next same => exact Option.some.inj same
  · rfl

/-- The first pass works for a realm that is there. -/
theorem works_realmPass (found : store.realms.get? desired.name = some held) :
    Reaches faults (realmPass desired) store
      (Works faults desired.name [.realm desired] held) := by
  refine reaches_explained_bind (Store.answer_getRealm found)
    (fun _ faulty => works_stopped found faulty) ?_
  dsimp only
  split
  · next nothing =>
    exact works_settled found (realmChanges_eq_nil_iff.1 (List.isEmpty_iff.1 nothing)) _
  · exact works_write found (Store.answer_updateRealm found)
      (Store.putRealm_realms_get?_self _ _ _) (.realmSet desired.name)
      (settled_updatedRealm held desired desired.name)

/-- The first pass creates a realm that is absent as desired, without mappings, grants and service
accounts. -/
theorem reaches_realmPass_of_absent (absent : store.realms.get? desired.name = none)
    (nonempty : desired.name ≠ "") :
    Reaches faults (realmPass desired) store fun outcome later => match outcome with
      | .ok _ => ∃ start, later.realms.get? desired.name = some start ∧ start.grants = ∅ ∧
        start.composites = ∅ ∧ start.attributes = desired.managedAttributes ∧
          Settled (.realm desired) start ∧ ∀ key client, start.clients.get? key = some client →
            client.record.serviceAccountsEnabled ≠ some true
      | .error _ => later = store ∧ faults ≠ Faults.none := by
  refine reaches_explained_bind (Store.answer_getRealm_of_absent absent)
    (fun _ faulty => ⟨rfl, ne_none_of_faulty faulty⟩) ?_
  have created : store.answer (.createRealm {
      realm := some desired.name, enabled := some desired.enabled
      attributes := some desired.managedAttributes }) =
      (.ok (), store.startRealm desired.name desired.enabled desired.managedAttributes) :=
    Store.answer_createRealm rfl nonempty absent
  refine reaches_explained_bind created (fun _ faulty => ⟨rfl, ne_none_of_faulty faulty⟩) ?_
  obtain ⟨clients, started, noAccounts⟩ := store.startRealm_realms_get? desired.name
    desired.enabled desired.managedAttributes
  exact reaches_pure ⟨_, started, rfl, rfl, rfl, ⟨rfl, fun _ _ wanted => wanted⟩, noAccounts⟩

end Realm

/-! ## Third pass -/

/-- Bringing a role of the realm to its desired state works for it. -/
theorem works_convergeRealmRole (desired : Blueprint.Role)
    (found : store.realms.get? realm = some held) :
    Reaches faults (convergeRealmRole realm desired) store
      (Works faults realm [.realmRole desired] held) := by
  refine reaches_explained_bind (Store.answer_getRealmRole found desired.name)
    (fun _ faulty => works_stopped found faulty) ?_
  cases there : held.roles.get? desired.name with
  | none =>
      exact works_write found (Store.answer_createRealmRole found rfl there)
        (Store.putRealm_realms_get?_self _ _ _) (.realmRoleAdded there)
        ⟨_, Table.get?_insert_self _ _ _, fun _ wanted => wanted⟩
  | some stored =>
      dsimp only
      cases differs : newDescription? stored desired.description with
      | none =>
          have settled : Settled (.realmRole desired) held :=
            ⟨stored, there, newDescription?_eq_none_iff.1 differs⟩
          exact works_settled found settled _
      | some description =>
          have wanted := eq_of_newDescription?_eq_some differs
          exact works_write found (Store.answer_updateRealmRole found there)
            (Store.putRealm_realms_get?_self _ _ _) (.realmRoleDescribed there wanted)
            ⟨_, Table.get?_insert_self _ _ _, fun _ other => wanted.symm.trans other⟩

/-! ## Fourth pass -/

/-- A role that was put for a client settles what it was put for. -/
theorem settled_putClientRole {desired : Blueprint.ClientRole} {owner : StoredClient}
    {role : RoleRecord} (found : held.client? desired.clientId = some (key, owner))
    (described : Described role desired.description) :
    Settled (.clientRole desired) (held.putClient key
      { owner with roles := owner.roles.insert desired.name role } held.users) := by
  intro otherKey other foundAfter
  rw [StoredRealm.client?_putClient found (by rfl), if_pos rfl] at foundAfter
  cases foundAfter
  exact ⟨role, Table.get?_insert_self _ _ _, described⟩

/-- Bringing a role of a client that is there to its desired state works for it. -/
theorem works_convergeClientRole {desired : Blueprint.ClientRole} {owner : StoredClient}
    (found : store.realms.get? realm = some held)
    (client : held.client? desired.clientId = some (key, owner)) :
    Reaches faults (convergeClientRole realm key desired) store
      (Works faults realm [.clientRole desired] held) := by
  obtain ⟨present, -⟩ := StoredRealm.get?_of_client? client
  refine reaches_explained_bind (Store.answer_getClientRole found present desired.name)
    (fun _ faulty => works_stopped found faulty) ?_
  cases there : owner.roles.get? desired.name with
  | none =>
      exact works_write found (Store.answer_createClientRole found present rfl there)
        (Store.putRealm_realms_get?_self _ _ _) (.clientRoleAdded client there)
        (settled_putClientRole client fun _ wanted => wanted)
  | some stored =>
      dsimp only
      cases differs : newDescription? stored desired.description with
      | none =>
          have settled : Settled (.clientRole desired) held := by
            intro otherKey other otherFound
            rw [client] at otherFound
            cases otherFound
            exact ⟨stored, there, newDescription?_eq_none_iff.1 differs⟩
          exact works_settled found settled _
      | some description =>
          have wanted := eq_of_newDescription?_eq_some differs
          exact works_write found (Store.answer_updateClientRole found present there)
            (Store.putRealm_realms_get?_self _ _ _) (.clientRoleDescribed client there wanted)
            (settled_putClientRole client fun _ other => wanted.symm.trans other)

/-- The items of the roles of one client. -/
def roleItems (group : String × List Blueprint.ClientRole) : List Item :=
  group.2.flatMap fun role => [.clientRole role]

/-- **Bringing the roles of one client to their desired states works for them.** -/
theorem works_convergeClientRoles {group : String × List Blueprint.ClientRole}
    (owned : ∀ role ∈ group.2, role.clientId = group.1) (apart : (roleItems group).Pairwise Apart)
    (sound : store.Sound) (found : store.realms.get? realm = some held) :
    Reaches faults (convergeClientRoles realm group) store
      (Works faults realm (roleItems group) held) := by
  refine reaches_explained_bind (Store.answer_findClient found group.1)
    (fun _ faulty => works_stopped found faulty) ?_
  cases known : held.client? group.1 with
  | none =>
      refine reaches_pure ⟨held, found, .refl, fun item member => ?_⟩
      obtain ⟨role, listed, isItem⟩ := List.mem_flatMap.1 member
      rcases List.mem_singleton.1 isItem with rfl
      intro key owner there
      rw [owned role listed, known] at there
      cases there
  | some entry =>
      obtain ⟨key, owner⟩ := entry
      have ownId := (sound realm held found).ownId_of_client? known
      dsimp only [Option.map_some, Option.bind_some]
      rw [ownId]
      -- The client keeps its place, so that it is known by its identifier all the way.
      refine works_forEach (fun before => ∃ owner, before.client? group.1 = some (key, owner))
        apart ?_ ?_ store held sound found ⟨owner, known⟩
      · rintro item before after edit ⟨owner, there⟩
        obtain ⟨kept, thereAfter, -⟩ := edit.client? there
        exact ⟨kept, thereAfter⟩
      · rintro role listed store held _ found ⟨owner, there⟩
        rw [← owned role listed] at there
        exact works_convergeClientRole found there

/-! ## Fifth pass -/

section Composite

variable {mapping : Blueprint.Composite} {owner : StoredClient}

/-- The names of a client's roles that come with a role of the realm. -/
def presentNames (held : StoredRealm) (key realmRole : String) : NameSet :=
  NameSet.ofList ((held.rolesOfClient key (held.compositesOf realmRole)).filterMap (·.name))

/-- In a sound realm, the names that come with a role of the realm are those of roles that do. -/
theorem exists_of_presentNames_contains {drawn : Nat} {realmRole name : String}
    (sound : held.Sound drawn) (present : held.clients.get? key = some owner)
    (shown : (presentNames held key realmRole).contains name = true) :
    ∃ role, owner.roles.get? name = some role ∧ Attached held realmRole role := by
  rw [presentNames, NameSet.contains_ofList, List.contains_iff_mem, List.mem_filterMap] at shown
  obtain ⟨role, listed, named⟩ := shown
  obtain ⟨roleId, attached, foundSo⟩ := StoredRealm.mem_rolesOfClient_iff.1 listed
  obtain ⟨client, ownName, presentSo, there, identified⟩ :=
    StoredRealm.hasRole_of_clientRole? foundSo
  rw [present] at presentSo
  cases presentSo
  -- Roles stand under their own names, so the role found is the one under this name.
  obtain ⟨isOwnName, -⟩ := (sound.clients.each key owner present).roles ownName role there
  rw [named] at isOwnName
  cases isOwnName
  exact ⟨role, there, roleId, identified, attached⟩

/-- In a sound realm, a client's role comes with a role of the realm exactly when its name is among
those that do. -/
theorem presentNames_contains_iff {drawn : Nat} {realmRole name : String} {role : RoleRecord}
    (sound : held.Sound drawn) (present : held.clients.get? key = some owner)
    (there : owner.roles.get? name = some role) :
    (presentNames held key realmRole).contains name = true ↔ Attached held realmRole role := by
  constructor
  · intro shown
    obtain ⟨other, otherThere, attached⟩ := exists_of_presentNames_contains sound present shown
    rw [there] at otherThere
    cases otherThere
    exact attached
  · rintro ⟨roleId, identified, attached⟩
    obtain ⟨named, -⟩ := (sound.clients.each key owner present).roles name role there
    rw [presentNames, NameSet.contains_ofList, List.contains_iff_mem, List.mem_filterMap]
    refine ⟨role, StoredRealm.mem_rolesOfClient_iff.2 ⟨roleId, attached, ?_⟩, named⟩
    exact sound.clientRole?_of_hasRole present there identified

/-- **A mapping is settled exactly when every desired role that is missing from it is absent.** -/
theorem settled_composite_iff {drawn : Nat} {stored : RoleRecord} (sound : held.Sound drawn)
    (roleThere : held.roles.get? mapping.realmRole = some stored)
    (client : held.client? mapping.clientId = some (key, owner)) :
    Settled (.composite mapping) held ↔
      ∀ name ∈ mapping.clientRoles.missingFrom (presentNames held key mapping.realmRole),
        owner.roles.get? name = none := by
  obtain ⟨present, -⟩ := StoredRealm.get?_of_client? client
  constructor
  · intro settled name missing
    obtain ⟨wanted, notPresent⟩ := NameSet.mem_missingFrom_iff.1 missing
    rw [Option.eq_none_iff_forall_ne_some]
    intro role there
    have isThere : (held.roles.get? mapping.realmRole).isSome := by
      rw [roleThere]
      rfl
    have attached := settled key owner isThere client name role wanted there
    rw [(presentNames_contains_iff sound present there).2 attached] at notPresent
    cases notPresent
  · intro absent otherKey other _ otherFound name role wanted there
    rw [client] at otherFound
    cases otherFound
    refine (presentNames_contains_iff sound present there).1 ?_
    rw [← Bool.not_eq_false]
    intro notPresent
    rw [absent name (NameSet.mem_missingFrom_iff.2 ⟨wanted, notPresent⟩)] at there
    cases there

/-- The warning about a role that a mapping lists and its client lacks. -/
def leftOutWarning (mapping : Blueprint.Composite) (name : String) : String :=
  let key := roleKey mapping.clientId name
  s!"client role '{key}' not found; left out of composite mapping '{compositeKey mapping}'"

/-- What is found out about the names that are none of a client's roles. -/
def absentRoles (mapping : Blueprint.Composite) (owner : StoredClient) (names : List String) :
    Findings where
  warnings :=
    (names.filter fun name => (owner.roles.get? name).isNone).map (leftOutWarning mapping)

theorem absentRoles_cons_of_absent {name : String} (absent : owner.roles.get? name = none)
    (rest : List String) : absentRoles mapping owner (name :: rest) =
      .warning (leftOutWarning mapping name) ++ absentRoles mapping owner rest := by
  unfold absentRoles
  rw [List.filter_cons_of_pos (by rw [absent]; rfl)]
  rfl

theorem absentRoles_cons_of_present {name : String} {role : RoleRecord}
    (there : owner.roles.get? name = some role) (rest : List String) :
    absentRoles mapping owner (name :: rest) = absentRoles mapping owner rest := by
  unfold absentRoles
  rw [List.filter_cons_of_neg (by rw [there]; simp)]

/-- Roles are resolved without a write: those that are there, in order. Those that are absent are
warned about. -/
theorem reaches_resolveRoles (found : store.realms.get? realm = some held)
    (present : held.clients.get? key = some owner) (names : List String) :
    Reaches faults (resolveRoles realm key mapping names) store fun outcome later =>
      later = store ∧ match outcome with
        | .ok (resolved, findings) => resolved = names.filterMap owner.roles.get? ∧
          findings = absentRoles mapping owner names
        | .error _ => faults ≠ Faults.none := by
  induction names with
  | nil => exact reaches_pure ⟨rfl, rfl, rfl⟩
  | cons name rest ih =>
      refine reaches_explained_bind (Store.answer_getClientRole found present name)
        (fun _ faulty => ⟨rfl, ne_none_of_faulty faulty⟩) ?_
      refine ih.bind (fun _ _ stop => stop) ?_
      rintro ⟨others, findings⟩ later ⟨rfl, rfl, rfl⟩
      cases there : owner.roles.get? name with
      | none =>
          refine reaches_pure ⟨rfl, ?_, ?_⟩
          · rw [List.filterMap_cons_none there]
          · rw [absentRoles_cons_of_absent there]
            rfl
      | some role =>
          refine reaches_pure ⟨rfl, ?_, ?_⟩
          · rw [List.filterMap_cons_some there]
          · rw [absentRoles_cons_of_present there]

/-- In a sound realm, roles of a client can come with a role of the realm. -/
theorem known_of_mem_filterMap {drawn : Nat} {role : RoleRecord} (sound : held.Sound drawn)
    (present : held.clients.get? key = some owner) {names : List String}
    (member : role ∈ names.filterMap owner.roles.get?) :
    ∃ roleId, role.id = some roleId ∧ (held.clientRole? roleId).isSome := by
  obtain ⟨roleId, identified, found⟩ := sound.clientRole?_of_mem_filterMap present member
  exact ⟨roleId, identified, Option.isSome_of_eq_some found⟩

/-- The roles that are missing from a mapping and are there are roles that the mapping lists. -/
theorem listedRole_of_missing (client : held.client? mapping.clientId = some (key, owner)) :
    ∀ roleId ∈ ((mapping.clientRoles.missingFrom
        (presentNames held key mapping.realmRole)).filterMap owner.roles.get?).filterMap (·.id),
      ListedRole held mapping roleId := by
  intro roleId member
  obtain ⟨role, resolved, identified⟩ := List.mem_filterMap.1 member
  obtain ⟨name, missing, there⟩ := List.mem_filterMap.1 resolved
  exact ⟨key, owner, name, role, client, (NameSet.mem_missingFrom_iff.1 missing).1, there,
    identified⟩

/-- A mapping is settled once the roles that were missing from it were attached. -/
theorem settled_compositesAdded {drawn : Nat} (sound : held.Sound drawn)
    (client : held.client? mapping.clientId = some (key, owner)) (roles : Table RoleRecord) :
    Settled (.composite mapping) { held with
      composites := held.composites.insert mapping.realmRole
        ((held.compositesOf mapping.realmRole).insertAll (((mapping.clientRoles.missingFrom
          (presentNames held key mapping.realmRole)).filterMap owner.roles.get?).filterMap (·.id)))
      roles } := by
  intro otherKey other _ otherFound name role wanted there
  obtain ⟨present, -⟩ := StoredRealm.get?_of_client? client
  have sameClient := client.symm.trans otherFound
  cases sameClient
  by_cases before : (presentNames held key mapping.realmRole).contains name = true
  · obtain ⟨roleId, identified, attached⟩ :=
      (presentNames_contains_iff sound present there).1 before
    exact ⟨roleId, identified, contains_insert_insertAll_iff.2 (.inl attached)⟩
  · have missing := NameSet.mem_missingFrom_iff.2 ⟨wanted, Bool.not_eq_true _ ▸ before⟩
    have resolved := List.mem_filterMap.2 ⟨name, missing, there⟩
    obtain ⟨roleId, identified, -⟩ := known_of_mem_filterMap sound present resolved
    exact ⟨roleId, identified, contains_insert_insertAll_iff.2
      (.inr ⟨rfl, List.mem_filterMap.2 ⟨role, resolved, identified⟩⟩)⟩

/-- Attaching the roles that are missing from a mapping works for it. -/
theorem works_attachRoles {stored : RoleRecord} (sound : store.Sound)
    (found : store.realms.get? realm = some held)
    (roleThere : held.roles.get? mapping.realmRole = some stored)
    (client : held.client? mapping.clientId = some (key, owner)) :
    Reaches faults (attachRoles realm key mapping
        (mapping.clientRoles.missingFrom (presentNames held key mapping.realmRole)))
      store (Works faults realm [.composite mapping] held) := by
  obtain ⟨present, -⟩ := StoredRealm.get?_of_client? client
  have soundHeld := sound realm held found
  refine (reaches_resolveRoles found present _).bind ?_ ?_
  · rintro failure later ⟨rfl, faulty⟩
    exact ⟨held, found, .refl, faulty⟩
  rintro ⟨resolved, findings⟩ later ⟨rfl, rfl, -⟩
  dsimp only
  split
  · next nothing =>
    have settled : Settled (.composite mapping) held :=
      (settled_composite_iff soundHeld roleThere client).2
        (List.filterMap_eq_nil_iff.1 (List.isEmpty_iff.1 nothing))
    exact works_settled found settled _
  · exact works_write found (Store.answer_addRealmRoleComposites found roleThere
        fun role member => known_of_mem_filterMap soundHeld present member)
      (Store.putRealm_realms_get?_self _ _ _)
      (.compositesAdded roleThere (listedRole_of_missing client))
      (settled_compositesAdded soundHeld client _)

/-- **Bringing a composite mapping to its desired state works for it.** -/
theorem works_convergeComposite (mapping : Blueprint.Composite) (sound : store.Sound)
    (found : store.realms.get? realm = some held) :
    Reaches faults (convergeComposite realm mapping) store
      (Works faults realm [.composite mapping] held) := by
  refine reaches_explained_bind (Store.answer_getRealmRole found mapping.realmRole)
    (fun _ faulty => works_stopped found faulty) ?_
  cases roleThere : held.roles.get? mapping.realmRole with
  | none =>
      have settled : Settled (.composite mapping) held := by
        intro key owner isThere
        rw [roleThere] at isThere
        cases isThere
      exact works_settled found settled _
  | some stored =>
      show Reaches faults (explained _ _ >>= _) store _
      refine reaches_explained_bind (Store.answer_findClient found mapping.clientId)
        (fun _ faulty => works_stopped found faulty) ?_
      cases known : held.client? mapping.clientId with
      | none =>
          have settled : Settled (.composite mapping) held := by
            intro key owner _ there
            rw [known] at there
            cases there
          exact works_settled found settled _
      | some entry =>
          obtain ⟨key, owner⟩ := entry
          have ownId := (sound realm held found).ownId_of_client? known
          dsimp only [Option.map_some, Option.bind_some]
          rw [ownId]
          refine reaches_explained_bind (Store.answer_getRealmRoleComposites found roleThere key)
            (fun _ faulty => works_stopped found faulty) ?_
          show Reaches faults (if (mapping.clientRoles.missingFrom
              (presentNames held key mapping.realmRole)).isEmpty then _ else _) store _
          split
          · next nothing =>
            have settled : Settled (.composite mapping) held := by
              refine (settled_composite_iff (sound realm held found) roleThere known).2 ?_
              rw [List.isEmpty_iff.1 nothing]
              exact fun name member => by cases member
            exact works_settled found settled _
          · exact works_attachRoles sound found roleThere known

end Composite

/-! ## Sixth pass -/

/-- Marking a realm that is there works for the marker. -/
theorem works_markerPass (found : store.realms.get? realm = some held) :
    Reaches faults (markerPass realm) store (Works faults realm [.marker] held) := by
  refine reaches_explained_bind (Store.answer_getRealm found)
    (fun _ faulty => works_stopped found faulty) ?_
  dsimp only
  split
  · next isSet =>
    have settled : Settled .marker held := isSet
    exact works_settled found settled _
  · refine works_write found (Store.answer_updateRealm found)
      (Store.putRealm_realms_get?_self _ _ _) .marked ?_
    show markerIsSet ((held.attributes.override
      (held.attributes.insert initializedMarker "true")).get? initializedMarker) = true
    rw [Table.get?_override, Table.get?_insert_self, Option.some_or]
    decide

end RealmConvergence.Convergence
