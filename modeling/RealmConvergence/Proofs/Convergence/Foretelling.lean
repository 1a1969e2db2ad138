import RealmConvergence.Proofs.Collection.Place
import RealmConvergence.Proofs.Convergence.AllOrNothing
import RealmConvergence.Proofs.Convergence.Coverage
import RealmConvergence.Proofs.Convergence.Presence
import RealmConvergence.Proofs.Convergence.Warning

/-!
# What is skipped can be foretold

A role of a client is skipped exactly if its client is absent (`RoleFate`), and a mapping tells of a
client that was not found exactly if its role of the realm is there and its client is absent
(`MappingFate`). What a run leaves there is known beforehand: what was declared, and what the realm
began with. So before a first run the references to undeclared clients foretell what will be
skipped, but for those to the client that a new realm comes with (`apply_foretold`).
-/

set_option autoImplicit false

namespace RealmConvergence.Convergence

open Service

variable {α : Type} {faults : Faults} {store : Store} {realm : String} {held after : StoredRealm}
  {blueprint : Blueprint} {found : Findings}

/-! ## Steps and what the realm holds -/

/-- What becomes of a role of a client: it is skipped exactly if the client is absent. -/
structure RoleFate (held : StoredRealm) (role : Blueprint.ClientRole) (step : Step) : Prop where
  key : step.key = roleKey role.clientId role.name
  skipped_iff : step.action = .skipped ↔ (held.client? role.clientId).isSome = false

/-- What becomes of a mapping: its client is missed exactly if the client is absent and the role of
the realm is not. -/
structure MappingFate (held : StoredRealm) (mapping : Blueprint.Composite) (step : Step) :
    Prop where
  key : step.key = compositeKey mapping
  missed_iff : step.detail = some "client not found" ↔
    (held.roles.get? mapping.realmRole).isSome = true ∧
      (held.client? mapping.clientId).isSome = false

/-- Steps are about items one by one if their subjects are. -/
theorem forall₂_of_subjects {items : List α} (subjectOf : α → Subject)
    {isStep : α → Step → Prop} (about : found.subjects = items.map subjectOf)
    (each : ∀ item ∈ items, ∀ step ∈ found.steps, step.subject = subjectOf item →
      isStep item step) : List.Forall₂ isStep items found.steps := by
  have same : List.Forall₂ (· = ·) (items.map subjectOf) (found.steps.map Step.subject) := by
    rw [List.forall₂_eq_eq_eq]
    exact about.symm
  rw [List.forall₂_map_left_iff, List.forall₂_map_right_iff] at same
  exact forall₂_imp_of_mem same fun item listed step isFound equal =>
    each item listed step isFound equal.symm

/-! ## Roles of clients -/

section ClientRoles

variable {group : String × List Blueprint.ClientRole}

/-- The roles of one client are skipped exactly if the client is absent. -/
theorem skipped_iff_convergeClientRoles (sound : store.Sound)
    (present : store.realms.get? realm = some held) :
    Reaches faults (convergeClientRoles realm group) store fun outcome _ =>
      ∀ found, outcome = .ok found → ∀ step ∈ found.steps,
        (step.action = .skipped ↔ (held.client? group.1).isSome = false) := by
  cases known : held.client? group.1 with
  | none =>
      refine reaches_explained_bind (Store.answer_findClient present group.1)
        (fun _ _ _ never => nomatch never) ?_
      rw [known]
      refine reaches_pure ?_
      rintro found ⟨⟩ step member
      obtain ⟨steps, listed, isStep⟩ := List.mem_flatMap.1 member
      obtain ⟨role, -, rfl⟩ := List.mem_map.1 listed
      rcases List.mem_singleton.1 isStep with rfl
      exact ⟨fun _ => rfl, fun _ => rfl⟩
  | some entry =>
      -- What is skipped is warned about, and there is nothing to warn about.
      refine (told_convergeClientRoles sound present).mono ?_
      intro outcome later told found came step member
      refine ⟨fun skipped => ?_, nofun⟩
      obtain ⟨warning, lacks, -⟩ := ((told found came).steps step member).2 skipped
      rw [groupShortfall, known] at lacks
      cases lacks

theorem fates_tell_groups (blueprint : Blueprint) (faults : Faults) :
    TellsByRealm faults blueprint.realm.name 2 blueprint.clientRoleGroups
      (convergeClientRoles blueprint.realm.name) fun group held found =>
        List.Forall₂ (RoleFate held) group.2 found.steps where
  tells group member store held sound present := by
    have owned := Blueprint.owner_of_mem_clientRoleGroups member
    refine ((skipped_iff_convergeClientRoles sound present).and
      ((findsAbout_convergeClientRoles owned).reaches faults store)).mono ?_
    rintro outcome later ⟨skipped, about⟩ found came
    refine forall₂_of_subjects _ (about found came) fun role listed step isFound same => ?_
    refine ⟨congrArg Prod.snd same, ?_⟩
    rw [owned role listed]
    exact skipped found came step isFound
  stays group items before after found edits later fates := by
    refine fates.imp fun role step fate => ⟨fate.key, ?_⟩
    rw [edits.client?_isSome later]
    exact fate.skipped_iff

end ClientRoles

/-! ## Composite mappings -/

section Composites

variable {client : String} {mapping : Blueprint.Composite}

/-- What is told of roles that were attached begins otherwise than what is told of a client that was
not found. -/
theorem added_ne_clientNotFound (names : String) :
    some s!"added {names}" ≠ some "client not found" := by
  intro same
  have begins : s!"added {names}".toList.head? = some 'a' := head_append rfl names
  rw [Option.some.inj same] at begins
  cases begins

/-- Attaching roles misses no client. -/
theorem attachRoles_misses_none (missing : List String) :
    Finds (attachRoles realm client mapping missing) fun _ found =>
      ∀ step ∈ found.steps, step.detail ≠ some "client not found" := by
  refine (resolveRoles_finds_no_steps mapping missing).bind fun _ resolved none => ?_
  have noSteps : resolved.2.steps = [] := List.map_eq_nil_iff.1 none
  dsimp only
  split
  · refine finds_pure fun step member => ?_
    rw [Findings.steps_append, noSteps] at member
    rcases List.mem_singleton.1 member with rfl
    show some "no desired client role resolved" ≠ some "client not found"
    decide
  · refine finds_explained_bind fun _ => finds_pure fun step member => ?_
    rw [Findings.steps_append, noSteps] at member
    rcases List.mem_singleton.1 member with rfl
    exact added_ne_clientNotFound _

/-- A mapping misses its client exactly if the client is absent and the role of the realm is not. -/
theorem missed_iff_convergeComposite (sound : store.Sound)
    (present : store.realms.get? realm = some held) :
    Reaches faults (convergeComposite realm mapping) store fun outcome _ =>
      ∀ found, outcome = .ok found → ∀ step ∈ found.steps,
        (step.detail = some "client not found" ↔
          (held.roles.get? mapping.realmRole).isSome = true ∧
            (held.client? mapping.clientId).isSome = false) := by
  refine reaches_explained_bind (Store.answer_getRealmRole present mapping.realmRole)
    (fun _ _ _ never => nomatch never) ?_
  cases roleThere : held.roles.get? mapping.realmRole with
  | none =>
      refine reaches_pure ?_
      rintro found ⟨⟩ step member
      rcases List.mem_singleton.1 member with rfl
      have otherwise : some "realm role not found" ≠ some "client not found" := by decide
      exact ⟨fun missed => absurd missed otherwise, nofun⟩
  | some stored =>
      refine reaches_explained_bind (Store.answer_findClient present mapping.clientId)
        (fun _ _ _ never => nomatch never) ?_
      cases known : held.client? mapping.clientId with
      | none =>
          refine reaches_pure ?_
          rintro found ⟨⟩ step member
          rcases List.mem_singleton.1 member with rfl
          exact ⟨fun _ => ⟨rfl, rfl⟩, fun _ => rfl⟩
      | some entry =>
          obtain ⟨key, owner⟩ := entry
          dsimp only [Option.map_some, Option.bind_some]
          rw [(sound realm held present).ownId_of_client? known]
          refine Finds.reaches (finds_explained_bind fun attached => ?_) faults store
          split
          · refine finds_pure fun step member => ?_
            rcases List.mem_singleton.1 member with rfl
            exact ⟨nofun, nofun⟩
          · refine (attachRoles_misses_none _).mono fun _ found missesNone step member => ?_
            exact ⟨fun missed => absurd missed (missesNone step member), nofun⟩

theorem fates_tell_mappings (blueprint : Blueprint) (faults : Faults) :
    TellsByRealm faults blueprint.realm.name 4 blueprint.composites
      (convergeComposite blueprint.realm.name) fun mapping held found =>
        List.Forall₂ (MappingFate held) [mapping] found.steps where
  tells mapping _ store held sound present := by
    refine ((missed_iff_convergeComposite sound present).and
      ((findsAbout_convergeComposite mapping).reaches faults store)).mono ?_
    rintro outcome later ⟨missed, about⟩ found came
    refine forall₂_of_subjects (fun mapping => (.composite, compositeKey mapping))
      (about found came) fun other listed step isFound same => ?_
    rcases List.mem_singleton.1 listed with rfl
    exact ⟨congrArg Prod.snd same, missed found came step isFound⟩
  stays mapping items before after found edits later fates := by
    obtain ⟨clients, roles⟩ := edits.keepsNeeds later
    refine fates.imp fun mapping step fate => ⟨fate.key, ?_⟩
    rw [clients, roles]
    exact fate.missed_iff

end Composites

/-! ## Whole runs -/

section Kinds

variable (pass : Pass) (kind : ResourceKind) (came : ComesTo (pass.part blueprint) found)
include came

theorem passOf_of_comesTo {step : Step} (member : step ∈ found.steps) :
    passOf step.kind = pass := by
  obtain ⟨exchanges, course⟩ := came
  exact passOf_of_course course (List.mem_map_of_mem (f := Step.subject) member)

/-- A pass has no steps of kinds that another pass tells of. -/
theorem filter_kind_of_other (other : passOf kind ≠ pass) :
    (found.steps.filter fun step => step.kind == kind) = [] := by
  refine List.filter_eq_nil_iff.2 fun step member same => other ?_
  rw [← eq_of_beq same]
  exact passOf_of_comesTo pass came member

/-- A pass that tells of one kind has steps of this kind alone. -/
theorem filter_kind_of_own (only : ∀ own, passOf own = pass → own = kind) :
    (found.steps.filter fun step => step.kind == kind) = found.steps := by
  refine List.filter_eq_self.2 fun step member => beq_iff_eq.2 ?_
  exact only step.kind (passOf_of_comesTo pass came member)

end Kinds

/-- The steps about roles of clients and about mappings tell what the realm holds. -/
structure TellsFates (blueprint : Blueprint) (after : StoredRealm) (steps : List Step) : Prop where
  clientRoles : List.Forall₂ (RoleFate after) blueprint.rolesByOwner
    (steps.filter fun step => step.kind == .clientRole)
  composites : List.Forall₂ (MappingFate after) blueprint.composites
    (steps.filter fun step => step.kind == .composite)

theorem ToldInPasses.tellsFates
    (told : ToldInPasses
      (fun group held found => List.Forall₂ (RoleFate held) group.2 found.steps)
      (fun mapping held found => List.Forall₂ (MappingFate held) [mapping] found.steps)
      blueprint after found) : TellsFates blueprint after found.steps := by
  obtain ⟨realm, clients, realmRoles, clientRoles, groupsTold, composites, mappingsTold, marker⟩ :=
    told
  have onlyRoles (own : ResourceKind) : passOf own = .clientRoles → own = .clientRole := by
    cases own <;> decide
  have onlyMappings (own : ResourceKind) : passOf own = .composites → own = .composite := by
    cases own <;> decide
  constructor
  · simp only [Findings.steps_append, List.filter_append,
      filter_kind_of_other .realm .clientRole realm (by decide),
      filter_kind_of_other .clients .clientRole clients (by decide),
      filter_kind_of_other .realmRoles .clientRole realmRoles (by decide),
      filter_kind_of_own .clientRoles .clientRole clientRoles onlyRoles,
      filter_kind_of_other .composites .clientRole composites (by decide),
      filter_kind_of_other .marker .clientRole marker (by decide),
      List.nil_append, List.append_nil]
    exact steps_join groupsTold
  · simp only [Findings.steps_append, List.filter_append,
      filter_kind_of_other .realm .composite realm (by decide),
      filter_kind_of_other .clients .composite clients (by decide),
      filter_kind_of_other .realmRoles .composite realmRoles (by decide),
      filter_kind_of_other .clientRoles .composite clientRoles (by decide),
      filter_kind_of_own .composites .composite composites onlyMappings,
      filter_kind_of_other .marker .composite marker (by decide),
      List.nil_append, List.append_nil]
    exact single_steps_join mappingsTold

/-- **What all passes find out tells what the realm holds after them**, which is what was declared
and what the realm began with. -/
theorem passes_tell_fates (distinct : blueprint.Distinct) (sound : store.Sound) :
    Reaches faults (passes blueprint) store fun outcome _ => ∀ found, outcome = .ok found →
      ∃ after, Knows blueprint store after ∧ TellsFates blueprint after found.steps := by
  refine ((passes_know distinct sound).and (passes_tell (fates_tell_groups blueprint faults)
    (fates_tell_mappings blueprint faults) distinct sound)).mono ?_
  rintro outcome later ⟨knows, told⟩ found came
  obtain ⟨after, foundAfter, knows⟩ := knows found came
  obtain ⟨same, foundSame, told⟩ := told found came
  rw [foundAfter] at foundSame
  cases foundSame
  exact ⟨after, knows, told.tellsFates⟩

/-! ## Before a first run -/

/-- The client that a reference names. -/
def clientOf : Blueprint.UndeclaredReference → String
  | .clientRole clientId _ => clientId
  | .composite clientId _ => clientId

/-- What a reference needs is foreseen to be missing: the reference is listed, and is not to the
client that a new realm comes with. -/
def Foreseen (blueprint : Blueprint) (providesManagement : Bool)
    (reference : Blueprint.UndeclaredReference) : Prop :=
  reference ∈ blueprint.undeclaredReferences ∧
    ¬(providesManagement = true ∧ clientOf reference = managementClientId)

/-- Reports say what was foreseen. -/
structure Foretold (blueprint : Blueprint) (providesManagement : Bool) (report : Report) :
    Prop where
  /-- Those roles of clients are skipped that are foreseen to lack their client, and no role of a
  declared client is. -/
  clientRoles : ∃ roles, blueprint.OrderedByOwner roles ∧
    List.Forall₂ (fun role step => step.key = roleKey role.clientId role.name ∧
        (step.action = .skipped ↔
          Foreseen blueprint providesManagement (.clientRole role.clientId role.name)) ∧
        (blueprint.declares role.clientId = true → step.action ≠ .skipped))
      roles (report.stepsOf .clientRole)
  /-- Those mappings miss their client whose role of the realm is declared and that are foreseen to
  lack their client, and no mapping to a declared client does. -/
  composites : List.Forall₂ (fun mapping step => step.key = compositeKey mapping ∧
        (step.detail = some "client not found" ↔
          (∃ role ∈ blueprint.realmRoles, role.name = mapping.realmRole) ∧
            Foreseen blueprint providesManagement
              (.composite mapping.clientId mapping.realmRole)) ∧
        (blueprint.declares mapping.clientId = true → step.detail ≠ some "client not found"))
      blueprint.composites (report.stepsOf .composite)

/-- A blueprint makes a reference to a client, declared or not. -/
def Refers (blueprint : Blueprint) : Blueprint.UndeclaredReference → Prop
  | .clientRole clientId name =>
    ∃ role ∈ blueprint.clientRoles, role.clientId = clientId ∧ role.name = name
  | .composite clientId realmRole =>
    ∃ mapping ∈ blueprint.composites, mapping.clientId = clientId ∧ mapping.realmRole = realmRole

/-- The references that a blueprint makes are listed where their client is not declared. -/
theorem mem_undeclaredReferences_iff {reference : Blueprint.UndeclaredReference} :
    reference ∈ blueprint.undeclaredReferences ↔
      Refers blueprint reference ∧ blueprint.declares (clientOf reference) = false := by
  cases reference with
  | clientRole clientId name =>
      simp [Blueprint.undeclaredReferences, Refers, clientOf, List.mem_mergeSort, and_comm]
  | composite clientId realmRole =>
      simp [Blueprint.undeclaredReferences, Refers, clientOf, List.mem_mergeSort, and_comm]

theorem foreseen_iff {providesManagement : Bool} {reference : Blueprint.UndeclaredReference}
    (made : Refers blueprint reference) :
    Foreseen blueprint providesManagement reference ↔
      blueprint.declares (clientOf reference) = false ∧
        ¬(providesManagement = true ∧ clientOf reference = managementClientId) := by
  rw [Foreseen, mem_undeclaredReferences_iff, and_iff_right made]

/-- **Undeclared references foretell what the first run skips.** Without faults, a blueprint without
a violation is applied to a service that can be reached and does not have its realm yet. Of the
roles of clients, each with its step, those are skipped whose reference is listed as undeclared, and
of the composite mappings those miss their client whose reference is listed and whose role of the
realm is declared. References to the client that the service brings with a new realm are excepted.
Nothing is skipped for want of a client that is declared. -/
theorem apply_foretold {service : Service} (reachable : service.Reachable)
    (faultless : service.faults = .none) (valid : blueprint.validate = .ok ())
    (absent : service.store.realm? blueprint.realm.name = none) :
    ∃ report, (service.talk (apply blueprint).run).1 = .ok report ∧
      Foretold blueprint service.store.providesManagement report := by
  have runs : Reaches service.faults (apply blueprint) service.store _ :=
    reaches_apply valid reachable.sound
  rw [faultless] at runs
  obtain ⟨report, -, finished, -⟩ := Runs.finished runs
  obtain ⟨after, knows, fates⟩ :=
    findings_of_report (fun distinct => passes_tell_fates distinct reachable.sound) finished
  have noRealm : service.store.realms.get? blueprint.realm.name = none :=
    Option.map_eq_none_iff.1 absent
  have missing (clientId : String) : (after.client? clientId).isSome = false ↔
      blueprint.declares clientId = false ∧
        ¬(service.store.providesManagement = true ∧ clientId = managementClientId) := by
    rw [← Bool.not_eq_true, knows.clients, comesWith, noRealm, not_or, Bool.not_eq_true,
      Bool.and_eq_true, beq_iff_eq]
  have declared (role : String) : (after.roles.get? role).isSome = true ↔
      ∃ desired ∈ blueprint.realmRoles, desired.name = role := by
    rw [knows.realmRoles, Store.realmRole?, noRealm]
    exact or_iff_left Bool.false_ne_true
  refine ⟨report, by rw [talk_value, faultless]; exact finished, ?_, ?_⟩
  · refine ⟨_, blueprint.rolesByOwner_ordered, ?_⟩
    refine forall₂_imp_of_mem fates.clientRoles fun role member step _ fate => ?_
    have listed := blueprint.rolesByOwner_ordered.perm.mem_iff.1 member
    have made : Refers blueprint (.clientRole role.clientId role.name) := ⟨role, listed, rfl, rfl⟩
    have skipped := fate.skipped_iff.trans (missing role.clientId)
    refine ⟨fate.key, skipped.trans (foreseen_iff made).symm, fun isDeclared isSkipped => ?_⟩
    · rw [(skipped.1 isSkipped).1] at isDeclared
      cases isDeclared
  · refine forall₂_imp_of_mem fates.composites fun mapping listed step _ fate => ?_
    have missed := fate.missed_iff.trans (and_congr (declared mapping.realmRole)
      (missing mapping.clientId))
    have made : Refers blueprint (.composite mapping.clientId mapping.realmRole) :=
      ⟨mapping, listed, rfl, rfl⟩
    refine ⟨fate.key, missed.trans (and_congr_right' (foreseen_iff made).symm),
      fun isDeclared isMissed => ?_⟩
    · rw [(missed.1 isMissed).2.1] at isDeclared
      cases isDeclared

/-- The school, with references to a client that it does not declare and to the client that a new
realm comes with, and a mapping of a role that it does not declare. -/
def borrowingSchool : Blueprint :=
  { Blueprint.school with
    clientRoles := [{ clientId := "portal", name := "VIEW" },
      { clientId := "realm-management", name := "AUDIT" },
      { clientId := "reporting", name := "VIEW_REPORTS" }]
    composites := [
      { realmRole := "TEACHER", clientId := "portal", clientRoles := NameSet.ofList ["VIEW"] },
      { realmRole := "TEACHER", clientId := "realm-management"
        clientRoles := NameSet.ofList ["AUDIT"] },
      { realmRole := "PUPIL", clientId := "portal", clientRoles := NameSet.ofList ["VIEW"] }] }

/-- A new service skips what needs the undeclared client. It comes with the other one, and the role
that is not declared is what the last mapping misses first. -/
theorem apply_foretold_borrowing :
    ∃ report, (({} : Service).talk (apply borrowingSchool).run).1 = .ok report ∧
      (report.stepsOf .clientRole).map Step.action = [.skipped, .created, .created] ∧
      (report.stepsOf .composite).map Step.detail =
        [some "client not found", some "added AUDIT", some "realm role not found"] ∧
      Foretold borrowingSchool true report := by
  have told : (({} : Service).talk (apply borrowingSchool).run).1.map
      (fun report : Report => ((report.stepsOf .clientRole).map Step.action,
        (report.stepsOf .composite).map Step.detail)) = .ok ([.skipped, .created, .created],
          [some "client not found", some "added AUDIT", some "realm role not found"]) := by
    decide +kernel
  have valid : borrowingSchool.validate = .ok () := by decide
  obtain ⟨report, finished, foretold⟩ := apply_foretold .new rfl valid rfl
  rw [finished] at told
  obtain ⟨actions, details⟩ := Prod.mk.inj (Except.ok.inj told)
  exact ⟨report, finished, actions, details, foretold⟩

end RealmConvergence.Convergence
