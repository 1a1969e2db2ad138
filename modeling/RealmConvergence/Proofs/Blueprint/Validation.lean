import RealmConvergence.Blueprint.Validation
import RealmConvergence.Proofs.Collection.Table
import RealmConvergence.Proofs.Outcome

/-!
# What well-formed blueprints promise

A blueprint without a violation names its realm, and no client, realm role or client role stands in
it twice (`validate_eq_ok`). Grouping client roles by their clients keeps them distinct and gives
every group the roles of one client (`owner_of_mem_clientRoleGroups`).
-/

set_option autoImplicit false

namespace RealmConvergence.Blueprint

/-! ## Distinct names -/

/-- Items with distinct names, none of which was seen before. -/
def DistinctAfter {Name α : Type} (seen : List Name) (nameOf : α → Name) (items : List α) : Prop :=
  items.Pairwise (fun one other => nameOf one ≠ nameOf other) ∧ ∀ item ∈ items, nameOf item ∉ seen

theorem DistinctAfter.cons {Name α : Type} {seen : List Name} {nameOf : α → Name} {item : α}
    {rest : List α} (isNew : nameOf item ∉ seen)
    (others : DistinctAfter (nameOf item :: seen) nameOf rest) :
    DistinctAfter seen nameOf (item :: rest) := by
  obtain ⟨distinct, unseen⟩ := others
  refine ⟨List.pairwise_cons.2 ⟨fun other member same => ?_, distinct⟩, fun other member => ?_⟩
  · exact unseen other member (List.mem_cons.2 (.inl same.symm))
  · rcases List.mem_cons.1 member with rfl | later
    · exact isNew
    · exact fun wasSeen => unseen other later (List.mem_cons_of_mem _ wasSeen)

theorem distinctAfter_nil {Name α : Type} (seen : List Name) (nameOf : α → Name) :
    DistinctAfter seen nameOf [] :=
  ⟨.nil, fun _ member => by cases member⟩

theorem distinctAfter_cons_iff {Name α : Type} {seen : List Name} {nameOf : α → Name} {item : α}
    {rest : List α} :
    DistinctAfter seen nameOf (item :: rest) ↔
      nameOf item ∉ seen ∧ DistinctAfter (nameOf item :: seen) nameOf rest := by
  refine ⟨fun ⟨distinct, unseen⟩ => ?_, fun ⟨isNew, others⟩ => .cons isNew others⟩
  obtain ⟨apart, restDistinct⟩ := List.pairwise_cons.1 distinct
  refine ⟨unseen item List.mem_cons_self, restDistinct, fun other member wasSeen => ?_⟩
  rcases List.mem_cons.1 wasSeen with same | earlier
  · exact apart other member same.symm
  · exact unseen other (List.mem_cons_of_mem _ member) earlier

/-- **A list of clients passes exactly when every client has an identifier of its own and no public
client has a secret.** -/
theorem checkClients_eq_ok_iff {seen : List String} {clients : List Client} :
    checkClients seen clients = .ok () ↔
      DistinctAfter seen Client.clientId clients ∧
        (∀ client ∈ clients, Text.allBlank client.clientId = false) ∧
          ∀ client ∈ clients, client.isPublic = true → client.secret = none := by
  induction clients generalizing seen with
  | nil => simp [checkClients, distinctAfter_nil]
  | cons client rest ih =>
      simp only [checkClients, distinctAfter_cons_iff, List.forall_mem_cons]
      by_cases blank : Text.allBlank client.clientId = true
      · simp [blank]
      · by_cases wasSeen : client.clientId ∈ seen
        · simp [blank, wasSeen]
        · by_cases revealed : client.isPublic = true ∧ client.secret.isSome = true
          · obtain ⟨isPublic, hasSecret⟩ := revealed
            obtain ⟨secret, held⟩ := Option.isSome_iff_exists.1 hasSecret
            simp [blank, wasSeen, isPublic, held]
          · have kept : client.isPublic = true → client.secret = none := by
              simpa using revealed
            simpa [blank, wasSeen, revealed, ih] using fun _ _ _ => kept

theorem checkRealmRoles_eq_ok {seen : List String} {roles : List Role}
    (checked : checkRealmRoles seen roles = .ok ()) : DistinctAfter seen Role.name roles := by
  induction roles generalizing seen with
  | nil => exact distinctAfter_nil seen _
  | cons role rest ih =>
      unfold checkRealmRoles at checked
      split at checked
      · cases checked
      · split at checked
        · cases checked
        · next isNew => exact .cons isNew (ih checked)

theorem checkClientRoles_eq_ok {seen : List (String × String)} {roles : List ClientRole}
    (checked : checkClientRoles seen roles = .ok ()) :
    DistinctAfter seen (fun role => (role.clientId, role.name)) roles := by
  induction roles generalizing seen with
  | nil => exact distinctAfter_nil seen _
  | cons role rest ih =>
      unfold checkClientRoles at checked
      split at checked
      · cases checked
      · split at checked
        · cases checked
        · next isNew => exact .cons isNew (ih checked)

/-! ## Whole blueprints -/

/-- What a run relies on: a name for the realm, and distinct clients and roles. -/
structure Distinct (blueprint : Blueprint) : Prop where
  named : blueprint.realm.name ≠ ""
  clients : blueprint.clients.Pairwise fun one other => one.clientId ≠ other.clientId
  realmRoles : blueprint.realmRoles.Pairwise fun one other => one.name ≠ other.name
  clientRoles : blueprint.clientRoles.Pairwise fun one other =>
    (one.clientId, one.name) ≠ (other.clientId, other.name)

/-- A blueprint has no violation exactly when none of its parts has one. -/
theorem validate_eq_ok_iff {blueprint : Blueprint} :
    blueprint.validate = .ok () ↔
      Text.allBlank blueprint.realm.name = false ∧
        checkClients [] blueprint.clients = .ok () ∧
          checkRealmRoles [] blueprint.realmRoles = .ok () ∧
            checkClientRoles [] blueprint.clientRoles = .ok () ∧
              checkComposites blueprint.composites = .ok () := by
  unfold validate
  cases Text.allBlank blueprint.realm.name <;> simp [check_bind_eq_ok_iff]

/-- **A blueprint without a violation names its realm and lists nothing twice.** -/
theorem validate_eq_ok {blueprint : Blueprint} (valid : blueprint.validate = .ok ()) :
    blueprint.Distinct := by
  obtain ⟨named, clients, realmRoles, clientRoles, -⟩ := validate_eq_ok_iff.1 valid
  refine ⟨fun empty => ?_, (checkClients_eq_ok_iff.1 clients).1.1,
    (checkRealmRoles_eq_ok realmRoles).1, (checkClientRoles_eq_ok clientRoles).1⟩
  rw [empty] at named
  cases named

/-! ## Client roles in groups -/

variable {blueprint : Blueprint} {group : String × List ClientRole}

theorem owner_of_mem_clientRoleGroups (member : group ∈ blueprint.clientRoleGroups) :
    ∀ role ∈ group.2, role.clientId = group.1 := by
  obtain ⟨clientId, -, rfl⟩ := List.mem_map.1 member
  intro role listed
  simpa using (List.mem_filter.1 listed).2

/-- A group is there because some listed client role belongs to its client. -/
theorem exists_of_mem_clientRoleGroups (member : group ∈ blueprint.clientRoleGroups) :
    ∃ role ∈ blueprint.clientRoles, role.clientId = group.1 := by
  obtain ⟨clientId, isOwner, rfl⟩ := List.mem_map.1 member
  rw [roleOwners, NameSet.mem_toList_iff, NameSet.contains_ofList, List.contains_iff_mem] at isOwner
  exact List.mem_map.1 isOwner

/-- Different groups are about different clients. -/
theorem pairwise_clientRoleGroups (blueprint : Blueprint) :
    blueprint.clientRoleGroups.Pairwise fun one other => one.1 ≠ other.1 :=
  List.pairwise_map.2 (NameSet.toList_nodup _)

/-- The roles of a group are listed in the blueprint, in the same order. -/
theorem sublist_of_mem_clientRoleGroups (member : group ∈ blueprint.clientRoleGroups) :
    group.2.Sublist blueprint.clientRoles := by
  obtain ⟨clientId, -, rfl⟩ := List.mem_map.1 member
  exact List.filter_sublist

/-- Every listed client role stands in the group of its client. -/
theorem mem_clientRoleGroups {role : ClientRole} (listed : role ∈ blueprint.clientRoles) :
    ∃ group ∈ blueprint.clientRoleGroups, role ∈ group.2 := by
  refine ⟨(role.clientId, blueprint.rolesOf role.clientId), List.mem_map.2 ⟨role.clientId, ?_, rfl⟩,
    List.mem_filter.2 ⟨listed, by simp⟩⟩
  rw [roleOwners, NameSet.mem_toList_iff, NameSet.contains_ofList, List.contains_iff_mem]
  exact List.mem_map.2 ⟨role, listed, rfl⟩

end RealmConvergence.Blueprint
