import RealmConvergence.Blueprint.References
import RealmConvergence.Proofs.Convergence.Viewing

/-!
# What is there after a run

A run takes away neither clients nor roles of the realm, and adds none but those of its items
(`Edit.isSome_client?_iff`, `Edit.isSome_role_iff`). So after a run that came to its end a client is
there exactly if it is declared or came with the realm, and a role of the realm exactly if it is
declared or was there before (`passes_know`).
-/

set_option autoImplicit false

namespace RealmConvergence.Convergence

open Service

variable {faults : Faults} {store : Store} {items : List Item} {held after : StoredRealm}
  {blueprint : Blueprint}

/-! ## Edits -/

/-- The client that an item desires. -/
def Item.clientId? : Item → Option String
  | .client desired => some desired.clientId
  | _ => none

/-- The role of the realm that an item desires. -/
def Item.realmRole? : Item → Option String
  | .realmRole desired => some desired.name
  | _ => none

/-- After an edit a client is there if it was before or if the edit was for it. -/
theorem Edit.isSome_client?_iff {item : Item} (edit : Edit item held after) (clientId : String) :
    (after.client? clientId).isSome = true ↔
      (held.client? clientId).isSome = true ∨ item.clientId? = some clientId := by
  cases edit with
  | realmSet | realmRoleAdded | realmRoleDescribed | compositesAdded | marked =>
      exact ⟨.inl, fun known => known.resolve_right fun never => nomatch never⟩
  | clientRoleAdded found | clientRoleDescribed found =>
      rw [StoredRealm.client?_putClient found (by rfl)]
      split
      · next same => simp [same, found]
      · simp [Item.clientId?]
  | clientAdded unknown free =>
      rw [StoredRealm.client?_putClient_new unknown free (by rfl)]
      split
      · next same => simp [same, Item.clientId?]
      · next different => simp [Item.clientId?, Ne.symm different]
  | clientChanged found =>
      rw [StoredRealm.client?_putClient found (by rfl)]
      split
      · next same => simp [same, Item.clientId?]
      · next different => simp [Item.clientId?, Ne.symm different]
  | granted found =>
      refine ⟨.inl, fun known => known.elim id ?_⟩
      rintro ⟨⟩
      exact Option.isSome_of_eq_some found

/-- After an edit a role of the realm is there if it was before or if the edit was for it. -/
theorem Edit.isSome_role_iff {item : Item} (edit : Edit item held after) (role : String) :
    (after.roles.get? role).isSome = true ↔
      (held.roles.get? role).isSome = true ∨ item.realmRole? = some role := by
  cases edit with
  | realmSet | clientAdded | clientChanged | granted | clientRoleAdded | clientRoleDescribed
  | marked => exact ⟨.inl, fun there => there.resolve_right fun never => nomatch never⟩
  | realmRoleAdded =>
      rw [Table.get?_insert]
      split
      · next same => simp [same, Item.realmRole?]
      · next different => simp [Item.realmRole?, Ne.symm different]
  | realmRoleDescribed found =>
      rw [Table.get?_insert]
      split
      · next same => simp [same, Item.realmRole?]
      · next different => simp [Item.realmRole?, Ne.symm different]
  | compositesAdded found =>
      rw [Table.get?_insert]
      split
      · next same => simp [same, found]
      · simp [Item.realmRole?]

/-- What every edit adds for its item and nothing else, edits add for their items. -/
theorem Edits.there_iff {there : StoredRealm → Prop} {adds : Item → Prop}
    (edits : Edits items held after)
    (each : ∀ item before next, Edit item before next → (there next ↔ there before ∨ adds item))
    (settled : ∀ item ∈ items, adds item → there after) :
    there after ↔ there held ∨ ∃ item ∈ items, adds item := by
  constructor
  · refine @Edits.keep items held after
      (fun realm => there realm → there held ∨ ∃ item ∈ items, adds item) edits
      (fun item member before next edit known came => ?_) .inl
    rcases (each item before next edit).1 came with already | added
    · exact known already
    · exact .inr ⟨item, member, added⟩
  · rintro (already | ⟨item, member, added⟩)
    · exact edits.keep (fun item _ before next edit known => (each item before next edit).2
        (.inl known)) already
    · exact settled item member added

section Settled

variable (edits : Edits items held after) (settled : ∀ item ∈ items, Settled item after)
include edits settled

/-- Once its items are settled, a realm has the clients it had and those that are desired. -/
theorem Edits.isSome_client?_iff (clientId : String) :
    (after.client? clientId).isSome = true ↔ (held.client? clientId).isSome = true ∨
      ∃ item ∈ items, item.clientId? = some clientId := by
  refine edits.there_iff (fun item before next edit => edit.isSome_client?_iff clientId) ?_
  rintro (_ | desired | _ | _ | _ | _) member ⟨⟩
  obtain ⟨key, stored, there, -⟩ := settled _ member
  exact Option.isSome_of_eq_some there

/-- Once its items are settled, a realm has the roles it had and those that are desired. -/
theorem Edits.isSome_role_iff (role : String) :
    (after.roles.get? role).isSome = true ↔ (held.roles.get? role).isSome = true ∨
      ∃ item ∈ items, item.realmRole? = some role := by
  refine edits.there_iff (fun item before next edit => edit.isSome_role_iff role) ?_
  rintro (_ | _ | desired | _ | _ | _) member ⟨⟩
  obtain ⟨stored, there, -⟩ := settled _ member
  exact Option.isSome_of_eq_some there

end Settled

/-! ## Runs -/

/-- The first pass leaves the roles of the realm, and a new realm has none. -/
theorem reaches_realmPass_roles {desired : Blueprint.Realm} (nonempty : desired.name ≠ "") :
    Reaches faults (realmPass desired) store fun outcome later => ∀ found, outcome = .ok found →
      ∃ start, later.realms.get? desired.name = some start ∧
        ∀ role, (start.roles.get? role).isSome = (store.realmRole? desired.name role).isSome := by
  unfold Store.realmRole?
  cases present : store.realms.get? desired.name with
  | some held =>
      refine (works_realmPass present).mono ?_
      rintro outcome later ⟨after, found, edits, settled⟩ _ rfl
      refine ⟨after, found, fun role => Bool.eq_iff_iff.2 ?_⟩
      rw [edits.isSome_role_iff settled role]
      simp [Item.realmRole?]
  | none =>
      refine reaches_explained_bind (Store.answer_getRealm_of_absent present)
        (fun _ _ _ never => nomatch never) ?_
      refine reaches_explained_bind (Store.answer_createRealm rfl nonempty present)
        (fun _ _ _ never => nomatch never) ?_
      obtain ⟨clients, started, -⟩ := store.startRealm_realms_get? desired.name desired.enabled
        desired.managedAttributes
      exact reaches_pure fun _ _ => ⟨_, started, fun _ => rfl⟩

/-- A realm has the clients and the roles that are declared, or that it began with. -/
structure Knows (blueprint : Blueprint) (store : Store) (after : StoredRealm) : Prop where
  /-- Clients are declared, or were there as soon as the realm was. -/
  clients : ∀ clientId, (after.client? clientId).isSome = true ↔
    blueprint.declares clientId = true ∨ comesWith store blueprint.realm.name clientId = true
  /-- Roles of the realm are declared, or were there before. -/
  realmRoles : ∀ role, (after.roles.get? role).isSome = true ↔
    (∃ desired ∈ blueprint.realmRoles, desired.name = role) ∨
      (store.realmRole? blueprint.realm.name role).isSome = true

theorem exists_clientId?_iff {clientId : String} :
    (∃ item ∈ laterItems blueprint, item.clientId? = some clientId) ↔
      blueprint.declares clientId = true := by
  simp [laterItems, roleItems, Item.clientId?, or_and_right, exists_or, Blueprint.declares]

theorem exists_realmRole?_iff {role : String} :
    (∃ item ∈ laterItems blueprint, item.realmRole? = some role) ↔
      ∃ desired ∈ blueprint.realmRoles, desired.name = role := by
  simp [laterItems, roleItems, Item.realmRole?, or_and_right, exists_or]

/-- **A run that comes to its end adds the declared clients and roles, and takes none away.** -/
theorem passes_know (distinct : blueprint.Distinct) (sound : store.Sound) :
    Reaches faults (passes blueprint) store fun outcome later => ∀ found, outcome = .ok found →
      ∃ after, later.realms.get? blueprint.realm.name = some after ∧
        Knows blueprint store after := by
  obtain ⟨-, apart, -⟩ := List.pairwise_append.1 (apart_items distinct)
  rw [passes_eq]
  refine (((reaches_realmPass_comesWith distinct.named).and
    (reaches_realmPass_roles distinct.named)).sound sound).bind
      (fun _ _ _ _ never => nomatch never) ?_
  rintro realm begun ⟨⟨comes, keeps⟩, soundBegun⟩
  obtain ⟨start, found, sameClients⟩ := comes realm rfl
  obtain ⟨same, foundSame, sameRoles⟩ := keeps realm rfl
  rw [found] at foundSame
  cases foundSame
  refine (works_laterPasses apart realm soundBegun found).mono ?_
  rintro outcome later ⟨after, foundAfter, edits, settled⟩ _ rfl
  refine ⟨after, foundAfter, fun clientId => ?_, fun role => ?_⟩
  · rw [edits.isSome_client?_iff settled, exists_clientId?_iff, sameClients, or_comm]
  · rw [edits.isSome_role_iff settled, exists_realmRole?_iff, sameRoles, or_comm]

end RealmConvergence.Convergence
