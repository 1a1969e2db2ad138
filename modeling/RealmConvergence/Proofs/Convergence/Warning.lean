import RealmConvergence.Proofs.Convergence.Attaching
import RealmConvergence.Proofs.Convergence.Shortfall
import RealmConvergence.Proofs.Convergence.Telling

/-!
# Reports warn about what was left undone

The shortfalls of client roles and of composite mappings do not change after their part of the run
(`groupShortfall_of_edits`, `mappingShortfall_of_edits`). So the warnings of a report are those of
the grants that it skipped and of the shortfalls of the realm as the run leaves it, in order
(`Told.warnings_eq`).

From that it is read off when a report has no warnings: exactly when what the blueprint desires is
there to the last role (`apply_warns`).
-/

set_option autoImplicit false

namespace RealmConvergence.Convergence

open Service

variable {α : Type} {faults : Faults} {store : Store} {realm : String} {items : List Item}
  {held after : StoredRealm} {blueprint : Blueprint}

/-! ## Shortfalls under later edits -/

theorem groupShortfall_of_edits (edits : Edits items held after)
    (later : ∀ item ∈ items, 2 < item.pass) : groupShortfall after = groupShortfall held := by
  funext group
  simp only [groupShortfall, edits.client?_isSome later]

theorem mappingShortfall_of_edits (edits : Edits items held after)
    (later : ∀ item ∈ items, 4 < item.pass) : mappingShortfall after = mappingShortfall held := by
  obtain ⟨clients, roles⟩ := edits.keepsNeeds later
  funext mapping
  simp only [mappingShortfall, clients, roles]

theorem GroupTold.of_edits {group : String × List Blueprint.ClientRole} {found : Findings}
    (told : GroupTold held group found) (edits : Edits items held after)
    (later : ∀ item ∈ items, 2 < item.pass) : GroupTold after group found := by
  obtain ⟨warnings, steps⟩ := told
  rw [← groupShortfall_of_edits edits later] at warnings steps
  exact ⟨warnings, steps⟩

theorem MappingTold.of_edits {mapping : Blueprint.Composite} {found : Findings}
    (told : MappingTold held mapping found) (edits : Edits items held after)
    (later : ∀ item ∈ items, 4 < item.pass) : MappingTold after mapping found := by
  obtain ⟨clients, roles⟩ := edits.keepsNeeds later
  obtain ⟨warnings, step, only, kind, key, skipped, updated⟩ := told
  rw [← mappingShortfall_of_edits edits later] at warnings skipped
  rw [← roles, ← clients] at updated
  exact ⟨warnings, step, only, kind, key, skipped, updated⟩

/-! ## Whole runs -/

/-- What a run found out is told by the realm as the run leaves it. -/
inductive ToldBy (blueprint : Blueprint) (after : StoredRealm) : Findings → Prop where
  | passes {early marker : Findings} {groups mappings : List Findings} (regular : Regular early)
      (clientRoles : List.Forall₂ (GroupTold after) blueprint.clientRoleGroups groups)
      (composites : List.Forall₂ (MappingTold after) blueprint.composites mappings)
      (smooth : Smooth .initializationFlag marker) :
      ToldBy blueprint after (early ++ .join groups ++ .join mappings ++ marker)

section ToldBy

variable {found : Findings}

/-- **The warnings of a run are those of skipped grants and of the shortfalls that it leaves.** -/
theorem ToldBy.warnings_eq (told : ToldBy blueprint after found) :
    found.warnings = missedGrants found.steps ++
      blueprint.clientRoleGroups.flatMap (groupShortfall after) ++
      blueprint.composites.flatMap (mappingShortfall after) := by
  obtain ⟨regular, clientRoles, composites, smooth⟩ := told
  rename_i early marker groups mappings
  have noneInGroups : missedGrants (Findings.join groups).steps = [] := by
    refine missedGrants_eq_nil_iff.2 fun step member isGrant => ?_
    obtain ⟨group, -, found, told, here⟩ := exists_of_mem_join clientRoles member
    rw [(told.steps step here).1] at isGrant
    cases isGrant
  have noneInMappings : missedGrants (Findings.join mappings).steps = [] := by
    refine missedGrants_eq_nil_iff.2 fun step member isGrant => ?_
    obtain ⟨mapping, -, found, told, here⟩ := exists_of_mem_join composites member
    obtain ⟨only, same, isStep⟩ := told.step
    rw [same, List.mem_singleton] at here
    rw [here, isStep.kind] at isGrant
    cases isGrant
  have groupWarnings := warnings_join (clientRoles.imp fun _ _ told => told.warnings)
  have mappingWarnings := warnings_join (composites.imp fun _ _ told => told.warnings)
  simp only [Findings.warnings_append, Findings.steps_append, missedGrants_append, noneInGroups,
    noneInMappings, smooth.missedGrants, smooth.warnings, regular.warnings, groupWarnings,
    mappingWarnings, List.append_nil]

/-- **Every skipped step is explained by a warning.** -/
theorem ToldBy.explained (told : ToldBy blueprint after found) {step : Step}
    (member : step ∈ found.steps) (skipped : step.action = .skipped) :
    ∃ warning ∈ found.warnings, Explains warning step := by
  have inGroups {group : String × List Blueprint.ClientRole} {warning : String}
      (listed : group ∈ blueprint.clientRoleGroups) (lacks : warning ∈ groupShortfall after group) :
      warning ∈ found.warnings := by
    rw [told.warnings_eq]
    exact List.mem_append_left _ (List.mem_append_right _ (List.mem_flatMap_of_mem listed lacks))
  have inMappings {mapping : Blueprint.Composite} {warning : String}
      (listed : mapping ∈ blueprint.composites) (lacks : warning ∈ mappingShortfall after mapping) :
      warning ∈ found.warnings := by
    rw [told.warnings_eq]
    exact List.mem_append_right _ (List.mem_flatMap_of_mem listed lacks)
  have inGrants (isGrant : step.kind = .serviceAccountGrant) :
      grantWarning step ∈ found.warnings := by
    rw [told.warnings_eq]
    exact List.mem_append_left _ (List.mem_append_left _ (mem_missedGrants member isGrant skipped))
  obtain ⟨regular, clientRoles, composites, smooth⟩ := told
  rcases List.mem_append.1 member with others | inMarker
  · rcases List.mem_append.1 others with others | inComposites
    · rcases List.mem_append.1 others with inEarly | inRoles
      · have isGrant := (regular.steps step inEarly).2 skipped
        exact ⟨_, inGrants isGrant, .grant isGrant⟩
      · obtain ⟨group, listed, found, told, here⟩ := exists_of_mem_join clientRoles inRoles
        obtain ⟨warning, lacks, explains⟩ := (told.steps step here).2 skipped
        exact ⟨warning, inGroups listed lacks, explains⟩
    · obtain ⟨mapping, listed, found, told, here⟩ := exists_of_mem_join composites inComposites
      obtain ⟨only, same, isStep⟩ := told.step
      rw [same, List.mem_singleton] at here
      subst here
      obtain ⟨warning, lacks, explains⟩ := isStep.skipped skipped
      exact ⟨warning, inMappings listed lacks, explains⟩
  · exact absurd skipped (smooth.steps step inMarker).2

/-- Every mapping has one step, in order. -/
theorem ToldBy.mappings (told : ToldBy blueprint after found) :
    List.Forall₂ (MappingStep after) blueprint.composites
      (found.steps.filter fun step => step.kind == .composite) := by
  obtain ⟨regular, clientRoles, composites, smooth⟩ := told
  rename_i early marker groups mappings
  have none {steps : List Step} (others : ∀ step ∈ steps, step.kind ≠ .composite) :
      (steps.filter fun step => step.kind == .composite) = [] :=
    List.filter_eq_nil_iff.2 fun step member same => others step member (by simpa using same)
  have noneInGroups : ∀ step ∈ (Findings.join groups).steps, step.kind ≠ .composite := by
    intro step member
    obtain ⟨group, -, found, told, here⟩ := exists_of_mem_join clientRoles member
    rw [(told.steps step here).1]
    decide
  have noneInMarker : ∀ step ∈ marker.steps, step.kind ≠ .composite := by
    intro step member
    rw [(smooth.steps step member).1]
    decide
  have single {mapping : Blueprint.Composite} {found : Findings}
      (told : MappingTold after mapping found) :
      List.Forall₂ (MappingStep after) [mapping] found.steps := by
    obtain ⟨step, only, isStep⟩ := told.step
    rw [only]
    exact .cons isStep .nil
  have steps := single_steps_join (composites.imp fun _ _ told => single told)
  have allInMappings : ∀ step ∈ (Findings.join mappings).steps,
      (step.kind == .composite) = true := by
    intro step member
    obtain ⟨mapping, -, found, told, here⟩ := exists_of_mem_join composites member
    obtain ⟨only, same, isStep⟩ := told.step
    rw [same, List.mem_singleton] at here
    rw [here, isStep.kind]
    rfl
  simp only [Findings.steps_append, List.filter_append, none noneInGroups, none noneInMarker,
    none fun step member => (regular.steps step member).1, List.nil_append, List.append_nil,
    List.filter_eq_self.2 allInMappings]
  exact steps

end ToldBy

theorem groups_tell (blueprint : Blueprint) (faults : Faults) :
    TellsByRealm faults blueprint.realm.name 2 blueprint.clientRoleGroups
      (convergeClientRoles blueprint.realm.name) fun group held found =>
        GroupTold held group found where
  tells _ _ _ _ sound found := told_convergeClientRoles sound found
  stays _ _ _ _ _ edits later told := told.of_edits edits later

theorem mappings_tell (blueprint : Blueprint) (faults : Faults) :
    TellsByRealm faults blueprint.realm.name 4 blueprint.composites
      (convergeComposite blueprint.realm.name) fun mapping held found =>
        MappingTold held mapping found where
  tells _ _ _ _ sound found := told_convergeComposite sound found
  stays _ _ _ _ _ edits later told := told.of_edits edits later

/-- **What all passes find out is told by the realm as they leave it.** -/
theorem toldBy_passes (distinct : blueprint.Distinct) (sound : store.Sound) :
    Reaches faults (passes blueprint) store fun outcome later => ∀ found, outcome = .ok found →
      ∃ after, later.realms.get? blueprint.realm.name = some after ∧
        ToldBy blueprint after found := by
  have clientsRegular : Finds (clientPass blueprint) fun _ found => Regular found :=
    finds_forEach regular_empty (fun _ _ _ _ => Regular.append)
      fun client _ => regular_convergeClient client
  have realmRolesSmooth : Finds (realmRolePass blueprint) fun _ found => Smooth .realmRole found :=
    finds_forEach (smooth_empty _) (fun _ _ _ _ => Smooth.append)
      fun role _ => smooth_convergeRealmRole role
  refine (passes_tell (groups_tell blueprint faults) (mappings_tell blueprint faults) distinct
    sound).mono fun outcome later told found came => ?_
  obtain ⟨after, foundAfter, realmCame, clientsCame, realmRolesCame, -, clientRoles, -, composites,
    markerCame⟩ := told found came
  have realm := ((smooth_realmPass _).of_comesTo realmCame).regular (by decide)
  have realmRoles := (realmRolesSmooth.of_comesTo realmRolesCame).regular (by decide)
  exact ⟨after, foundAfter, .passes ((realm.append (clientsRegular.of_comesTo clientsCame)).append
    realmRoles) clientRoles composites (smooth_markerPass.of_comesTo markerCame)⟩

/-! ## What is there without a shortfall -/

section Settled

variable (sound : store.Sound) (found : store.realms.get? blueprint.realm.name = some held)
  (settled : ∀ item ∈ blueprint.items, Settled item held)
include found settled

/-- Nothing has to be left undone about client roles exactly if every one is there. -/
theorem groupShortfalls_eq_nil_iff :
    blueprint.clientRoleGroups.flatMap (groupShortfall held) = [] ↔
      ∀ role ∈ blueprint.clientRoles,
        (store.clientRole? blueprint.realm.name role.clientId role.name).isSome := by
  have nothing (group : String × List Blueprint.ClientRole) :
      groupShortfall held group = [] ↔ (held.client? group.1).isSome := by
    simp [groupShortfall, Option.isSome_iff_ne_none]
  simp only [List.flatMap_eq_nil_iff, nothing, Store.clientRole?, found, Option.bind_some]
  constructor
  · intro clients role listed
    obtain ⟨group, member, inGroup⟩ := Blueprint.mem_clientRoleGroups listed
    have known := clients group member
    rw [← Blueprint.owner_of_mem_clientRoleGroups member role inGroup] at known
    obtain ⟨⟨key, owner⟩, known⟩ := Option.isSome_iff_exists.1 known
    obtain ⟨stored, there, -⟩ := settled _ (clientRole_mem_items_iff.2 listed) key owner known
    rw [known, Option.bind_some, there]
    rfl
  · intro roles group member
    obtain ⟨role, listed, same⟩ := Blueprint.exists_of_mem_clientRoleGroups member
    obtain ⟨stored, there⟩ := Option.isSome_iff_exists.1 (roles role listed)
    obtain ⟨⟨key, owner⟩, known, -⟩ := Option.bind_eq_some_iff.1 there
    rw [← same, known]
    rfl

variable {mapping : Blueprint.Composite} {key : String} {owner : StoredClient}

include sound in
/-- A name that a mapping lists is shown as attached exactly if its client has a role of it. -/
theorem compositeNames_contains_iff_owned (listed : mapping ∈ blueprint.composites)
    (roleThere : (held.roles.get? mapping.realmRole).isSome)
    (known : held.client? mapping.clientId = some (key, owner)) {name : String}
    (wanted : mapping.clientRoles.contains name = true) :
    (store.compositeNames blueprint.realm.name mapping.realmRole mapping.clientId).contains name =
      true ↔ (owner.roles.get? name).isSome := by
  obtain ⟨present, -⟩ := StoredRealm.get?_of_client? known
  rw [compositeNames_contains_iff sound found]
  constructor
  · rintro ⟨otherKey, other, otherKnown, roleId, ⟨kept, role, keptPresent, there, -⟩, -⟩
    rw [known] at otherKnown
    cases otherKnown
    rw [present] at keptPresent
    cases keptPresent
    rw [there]
    rfl
  · intro owned
    obtain ⟨role, there⟩ := Option.isSome_iff_exists.1 owned
    obtain ⟨roleId, identified, attached⟩ :=
      settled _ (composite_mem_items_iff.2 listed) key owner roleThere known name role wanted there
    exact ⟨key, owner, known, roleId, ⟨owner, role, present, there, identified⟩, attached⟩

include sound in
/-- Nothing has to be left undone about a mapping exactly if all that it desires is attached. -/
theorem mappingShortfall_eq_nil_iff (listed : mapping ∈ blueprint.composites) :
    mappingShortfall held mapping = [] ↔
      (store.realmRole? blueprint.realm.name mapping.realmRole).isSome ∧
      (store.client? blueprint.realm.name mapping.clientId).isSome ∧
      ∀ name, mapping.clientRoles.contains name = true →
        (store.compositeNames blueprint.realm.name mapping.realmRole mapping.clientId).contains
          name = true := by
  have roleSeen : store.realmRole? blueprint.realm.name mapping.realmRole =
      held.roles.get? mapping.realmRole := by
    rw [Store.realmRole?, found, Option.bind_some]
  have clientSeen : (store.client? blueprint.realm.name mapping.clientId).isSome =
      (held.client? mapping.clientId).isSome := by
    rw [Store.client?, found, Option.bind_some, Option.isSome_map]
  rw [roleSeen, clientSeen]
  by_cases roleThere : (held.roles.get? mapping.realmRole).isSome
  · cases known : held.client? mapping.clientId with
    | none => simp [mappingShortfall, roleThere, known]
    | some entry =>
        obtain ⟨key, owner⟩ := entry
        rw [mappingShortfall_of_present roleThere known]
        have names {name : String} (wanted : mapping.clientRoles.contains name = true) :=
          compositeNames_contains_iff_owned sound found settled listed roleThere known wanted
        simp only [absentRoles, List.map_eq_nil_iff, List.filter_eq_nil_iff,
          NameSet.mem_toList_iff, roleThere, Option.isSome_some, true_and]
        refine forall_congr' fun name => imp_congr_right fun wanted => ?_
        rw [names wanted]
        cases owner.roles.get? name <;> simp
  · simp [mappingShortfall, roleThere]

include sound in
/-- A name that a mapping lists and that is not shown afterwards has been warned about, if the
mapping was updated. -/
theorem leftOutWarning_mem_mappingShortfall (listed : mapping ∈ blueprint.composites)
    (there : (held.roles.get? mapping.realmRole).isSome ∧ (held.client? mapping.clientId).isSome)
    {name : String} (wanted : mapping.clientRoles.contains name = true)
    (notShown : (store.compositeNames blueprint.realm.name mapping.realmRole
      mapping.clientId).contains name = false) :
    leftOutWarning mapping name ∈ mappingShortfall held mapping := by
  obtain ⟨roleThere, isKnown⟩ := there
  obtain ⟨⟨key, owner⟩, known⟩ := Option.isSome_iff_exists.1 isKnown
  rw [mappingShortfall_of_present roleThere known]
  have absent : (owner.roles.get? name).isNone = true := by
    rw [← Option.not_isSome, Bool.not_eq_true', ← Bool.not_eq_true,
      ← compositeNames_contains_iff_owned sound found settled listed roleThere known wanted,
      notShown]
    exact Bool.false_ne_true
  exact List.mem_map.2 ⟨name, List.mem_filter.2 ⟨NameSet.mem_toList_iff.2 wanted, absent⟩, rfl⟩

end Settled

/-- The report of a run is told by the realm as the run leaves it, with every item settled. -/
theorem toldBy_of_report (sound : store.Sound) {report : Report}
    (finished : ((apply blueprint).run.run (respond faults) store).1 = .ok report) :
    ∃ after, ((apply blueprint).run.run (respond faults) store).2.realms.get?
        blueprint.realm.name = some after ∧ (∀ item ∈ blueprint.items, Settled item after) ∧
      ToldBy blueprint after report.findings := by
  obtain ⟨after, found, isTold⟩ :=
    findings_of_report (fun distinct => toldBy_passes distinct sound) finished
  obtain ⟨same, foundSame, settled⟩ := settled_of_report sound finished
  rw [found] at foundSame
  cases foundSame
  exact ⟨after, found, settled, isTold⟩

/-- **A report without warnings means full convergence.** After a run that came to a report,
whatever operations were told to fail, the report has no warnings exactly if every client role of
the blueprint is there, every composite mapping has its role of the realm and its client and shows
all its client roles as attached, and no grant was skipped. Every skipped step is explained by a
warning. Every mapping has one step, in order, and one that was updated and leaves a name out has
warned about this name. -/
theorem apply_warns {service : Service} (reachable : service.Reachable) (blueprint : Blueprint)
    (faults : Faults) {report : Report}
    (finished : ({ service with faults }.talk (apply blueprint).run).1 = .ok report) :
    let realm := blueprint.realm.name
    let later := ({ service with faults }.talk (apply blueprint).run).2
    let attached (mapping : Blueprint.Composite) :=
      later.store.compositeNames realm mapping.realmRole mapping.clientId
    (report.warnings = [] ↔
      (∀ role ∈ blueprint.clientRoles,
        (later.store.clientRole? realm role.clientId role.name).isSome) ∧
      (∀ mapping ∈ blueprint.composites,
        (later.store.realmRole? realm mapping.realmRole).isSome ∧
        (later.store.client? realm mapping.clientId).isSome ∧
        ∀ name, mapping.clientRoles.contains name = true →
          (attached mapping).contains name = true) ∧
      ∀ step ∈ report.steps, step.kind = .serviceAccountGrant → step.action ≠ .skipped) ∧
    (∀ step ∈ report.steps, step.action = .skipped →
      ∃ warning ∈ report.warnings, Explains warning step) ∧
    List.Forall₂ (fun mapping step => step.key = compositeKey mapping ∧
        (step.action = .updated → ∀ name, mapping.clientRoles.contains name = true →
          (attached mapping).contains name = false →
            leftOutWarning mapping name ∈ report.warnings))
      blueprint.composites (report.stepsOf .composite) := by
  intro realm later attached
  rw [talk_value] at finished
  have laterStore : later.store =
      ((apply blueprint).run.run (respond faults) service.store).2 := talk_store _ _
  obtain ⟨after, found, settled, told⟩ := toldBy_of_report reachable.sound finished
  have soundLater : later.store.Sound := laterStore ▸ reachable.sound.run faults _
  rw [← laterStore] at found
  refine ⟨?_, fun step member skipped => told.explained member skipped, ?_⟩
  · show report.findings.warnings = [] ↔ _
    rw [told.warnings_eq, List.append_eq_nil_iff, List.append_eq_nil_iff, missedGrants_eq_nil_iff,
      groupShortfalls_eq_nil_iff found settled, List.flatMap_eq_nil_iff]
    have mappings (mapping : Blueprint.Composite) (listed : mapping ∈ blueprint.composites) :=
      mappingShortfall_eq_nil_iff soundLater found settled listed
    constructor
    · rintro ⟨⟨grants, roles⟩, composites⟩
      exact ⟨roles, fun mapping listed => (mappings mapping listed).1 (composites mapping listed),
        grants⟩
    · rintro ⟨roles, composites, grants⟩
      exact ⟨⟨grants, roles⟩, fun mapping listed =>
        (mappings mapping listed).2 (composites mapping listed)⟩
  · obtain ⟨sameLength, each⟩ := List.forall₂_iff_zip.1 told.mappings
    refine List.forall₂_iff_zip.2 ⟨sameLength, fun {mapping step} paired => ?_⟩
    have listed := (List.of_mem_zip paired).1
    have isStep := each paired
    refine ⟨isStep.key, fun updated name wanted notShown => ?_⟩
    have lacks := leftOutWarning_mem_mappingShortfall soundLater found settled listed
      (isStep.updated updated) wanted notShown
    show leftOutWarning mapping name ∈ report.findings.warnings
    rw [told.warnings_eq]
    exact List.mem_append_right _ (List.mem_flatMap_of_mem listed lacks)

/-- A mapping of the school's role to a role that is declared and one that is not. -/
def exportingTeacher : Blueprint.Composite :=
  { realmRole := "TEACHER", clientId := "reporting"
    clientRoles := NameSet.ofList ["EXPORT", "VIEW_REPORTS"] }

/-- The school, with a mapping that can be met in part. -/
def exportingSchool : Blueprint :=
  { Blueprint.school with composites := [exportingTeacher] }

/-- On a new service the mapping is updated, attaches one of its roles and warns about the other. -/
theorem apply_warns_exporting :
    let later := (({} : Service).talk (apply exportingSchool).run).2
    ∃ report, (({} : Service).talk (apply exportingSchool).run).1 = .ok report ∧
      report.steps.countP (·.action == .skipped) = 0 ∧
      (later.store.compositeNames "school" "TEACHER" "reporting").contains "VIEW_REPORTS" = true ∧
      (later.store.compositeNames "school" "TEACHER" "reporting").contains "EXPORT" = false ∧
      leftOutWarning exportingTeacher "EXPORT" ∈ report.warnings := by
  intro later
  have told : (({} : Service).talk (apply exportingSchool).run).1.map
      (fun report : Report => (report.steps.countP (·.action == .skipped),
        (report.stepsOf .composite).map Step.action)) = .ok (0, [.updated]) := by
    decide +kernel
  have notShown : (later.store.compositeNames "school" "TEACHER" "reporting").contains "EXPORT" =
      false := by decide +kernel
  obtain ⟨report, finished, same⟩ := exists_of_map_eq_ok told
  obtain ⟨noneSkipped, actions⟩ := Prod.mk.inj same
  obtain ⟨-, -, mappings⟩ := apply_warns .new exportingSchool .none finished
  generalize report.stepsOf .composite = steps at actions mappings
  refine ⟨report, finished, noneSkipped, by decide +kernel, notShown, ?_⟩
  cases mappings with
  | cons first rest =>
      exact first.2 (List.cons.inj actions).1 "EXPORT" (by decide +kernel) notShown

end RealmConvergence.Convergence
