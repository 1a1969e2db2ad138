import RealmConvergence.Proofs.Blueprint.Validation

/-!
# Client roles in the order of their owners

Client roles are gone through client by client, clients in byte order. The list that this makes of
them has every listed role once, ascends by owners, and keeps the roles of one owner in the order of
the blueprint (`rolesByOwner_ordered`). These three properties leave no other list.
-/

set_option autoImplicit false

namespace RealmConvergence.Blueprint

variable {blueprint : Blueprint}

/-- The listed client roles, one client after the other. -/
def rolesByOwner (blueprint : Blueprint) : List ClientRole :=
  blueprint.clientRoleGroups.flatMap Prod.snd

/-- The listed client roles, ascending by owners and otherwise in the order of the blueprint. -/
structure OrderedByOwner (blueprint : Blueprint) (roles : List ClientRole) : Prop where
  perm : roles.Perm blueprint.clientRoles
  ascending : roles.Pairwise fun one other => one.clientId ≤ other.clientId
  stable : ∀ clientId, (roles.filter fun role => role.clientId = clientId) =
    blueprint.rolesOf clientId

theorem mem_roleOwners_iff {clientId : String} :
    clientId ∈ blueprint.roleOwners ↔ ∃ role ∈ blueprint.clientRoles, role.clientId = clientId := by
  rw [roleOwners, NameSet.mem_toList_iff, NameSet.contains_ofList, List.contains_iff_mem,
    List.mem_map]

theorem rolesByOwner_eq (blueprint : Blueprint) :
    blueprint.rolesByOwner = blueprint.roleOwners.flatMap blueprint.rolesOf := by
  rw [rolesByOwner, clientRoleGroups, List.flatMap_map]

theorem owner_of_mem_rolesOf {owner : String} {role : ClientRole}
    (member : role ∈ blueprint.rolesOf owner) : role.clientId = owner := by
  simpa using (List.mem_filter.1 member).2

theorem filter_flatMap_rolesOf_of_notMem {owners : List String} {clientId : String}
    (isNone : clientId ∉ owners) :
    ((owners.flatMap blueprint.rolesOf).filter fun role => role.clientId = clientId) = [] := by
  refine List.filter_eq_nil_iff.2 fun role member => ?_
  obtain ⟨owner, isOwner, ofOwner⟩ := List.mem_flatMap.1 member
  rw [owner_of_mem_rolesOf ofOwner, decide_eq_true_eq]
  rintro rfl
  exact isNone isOwner

/-- The roles of one owner are all in one group, and no other group has any of them. -/
theorem filter_flatMap_rolesOf {owners : List String} (distinct : owners.Nodup) {clientId : String}
    (isOwner : clientId ∈ owners) :
    ((owners.flatMap blueprint.rolesOf).filter fun role => role.clientId = clientId) =
      blueprint.rolesOf clientId := by
  induction owners with
  | nil => cases isOwner
  | cons owner rest ih =>
      obtain ⟨isNew, restDistinct⟩ := List.nodup_cons.1 distinct
      rw [List.flatMap_cons, List.filter_append]
      by_cases same : clientId = owner
      · subst same
        rw [filter_flatMap_rolesOf_of_notMem isNew, List.append_nil, rolesOf, List.filter_filter]
        simp only [Bool.and_self]
      · have others :
            ((blueprint.rolesOf owner).filter fun role => role.clientId = clientId) = [] :=
          List.filter_eq_nil_iff.2 fun role member => by
            simpa [owner_of_mem_rolesOf member] using fun equal => same equal.symm
        rw [others, List.nil_append]
        exact ih restDistinct ((List.mem_cons.1 isOwner).resolve_left same)

/-- Within the list, the roles of one owner are in the order of the blueprint. -/
theorem filter_rolesByOwner (blueprint : Blueprint) (clientId : String) :
    (blueprint.rolesByOwner.filter fun role => role.clientId = clientId) =
      blueprint.rolesOf clientId := by
  rw [rolesByOwner_eq]
  by_cases isOwner : clientId ∈ blueprint.roleOwners
  · exact filter_flatMap_rolesOf (NameSet.toList_nodup _) isOwner
  · have ownsNone : blueprint.rolesOf clientId = [] := by
      refine List.filter_eq_nil_iff.2 fun role listed => ?_
      simpa using fun same => isOwner (mem_roleOwners_iff.2 ⟨role, listed, same⟩)
    rw [filter_flatMap_rolesOf_of_notMem isOwner, ownsNone]

/-- **Going client by client loses no role, repeats none, and mixes up none.** -/
theorem rolesByOwner_ordered (blueprint : Blueprint) :
    blueprint.OrderedByOwner blueprint.rolesByOwner where
  perm := by
    refine List.perm_iff_count.2 fun role => ?_
    have counted (roles : List ClientRole) :
        (roles.filter fun other => other.clientId = role.clientId).count role = roles.count role :=
      List.count_filter (p := fun other : ClientRole => decide (other.clientId = role.clientId))
        (decide_eq_true rfl)
    rw [← counted, filter_rolesByOwner, rolesOf, counted]
  ascending := by
    have ascending : blueprint.roleOwners.Pairwise (· < ·) :=
      List.pairwise_map.2 (NameSet.ofList _).table.ascending
    rw [rolesByOwner_eq, List.pairwise_flatMap]
    refine ⟨fun owner _ => ?_, ascending.imp fun before role member other otherMember => ?_⟩
    · refine List.pairwise_of_forall_mem_list fun role member other otherMember => ?_
      have same := (owner_of_mem_rolesOf member).trans (owner_of_mem_rolesOf otherMember).symm
      exact same ▸ String.le_refl _
    · rw [owner_of_mem_rolesOf member, owner_of_mem_rolesOf otherMember]
      exact String.not_lt.1 fun after => String.lt_irrefl _ (String.lt_trans before after)
  stable := filter_rolesByOwner blueprint

end RealmConvergence.Blueprint
