import RealmConvergence.Proofs.Convergence.Leading
import RealmConvergence.Proofs.Convergence.Run

/-!
# What parts of a run warn about

Of three things a run can only say that it had to leave them undone. A grant may fail. The roles of
a client are skipped while the client is absent (`groupShortfall`). A composite mapping is skipped
while its role of the realm or its client is absent, and leaves out the roles that its client lacks
(`mappingShortfall`). The last two are told by what the realm holds.

Every part warns about its shortfall and nothing else, and explains each step that it skips
(`Regular`, `GroupTold`, `MappingTold`). The edits of later parts do not change a shortfall, so the
warnings are those of the realm after the run.
-/

set_option autoImplicit false

namespace RealmConvergence.Convergence

open Service

variable {faults : Faults} {store : Store} {realm client : String}
  {held after : StoredRealm}

/-! ## Warnings -/

/-- The warning about a grant that was skipped. -/
def grantWarning (step : Step) : String :=
  let why := step.detail.getD ""
  s!"service account role grant for client '{step.key}' failed: {why}"

/-- The warnings about the grants that were skipped, in order. -/
def missedGrants (steps : List Step) : List String :=
  (steps.filter fun step => step.kind == .serviceAccountGrant && step.action == .skipped).map
    grantWarning

/-- The warning about the roles of a client that is absent. -/
def rolesWarning (clientId : String) (count : Nat) : String :=
  s!"client '{clientId}' not found; {count} client role(s) skipped"

/-- The warning about a mapping whose role of the realm is absent. -/
def roleWarning (mapping : Blueprint.Composite) : String :=
  let key := compositeKey mapping
  s!"realm role '{mapping.realmRole}' not found; composite mapping '{key}' skipped"

/-- The warning about a mapping whose client is absent. -/
def clientWarning (mapping : Blueprint.Composite) : String :=
  let key := compositeKey mapping
  s!"client '{mapping.clientId}' not found; composite mapping '{key}' skipped"

/-- What has to be left undone about the roles of one client. -/
def groupShortfall (held : StoredRealm) (group : String × List Blueprint.ClientRole) :
    List String :=
  if (held.client? group.1).isSome then [] else [rolesWarning group.1 group.2.length]

/-- What has to be left undone about a mapping. -/
def mappingShortfall (held : StoredRealm) (mapping : Blueprint.Composite) : List String :=
  if (held.roles.get? mapping.realmRole).isSome then
    match held.client? mapping.clientId with
    | none => [clientWarning mapping]
    | some (_, owner) => (absentRoles mapping owner mapping.clientRoles.toList).warnings
  else [roleWarning mapping]

/-- A warning says why a step was skipped. -/
inductive Explains : String → Step → Prop where
  | grant {step : Step} (isGrant : step.kind = .serviceAccountGrant) :
      Explains (grantWarning step) step
  | clientRole (clientId role : String) (count : Nat) :
      Explains (rolesWarning clientId count)
        ⟨.clientRole, roleKey clientId role, .skipped, some "client not found"⟩
  | realmRole (mapping : Blueprint.Composite) :
      Explains (roleWarning mapping)
        ⟨.composite, compositeKey mapping, .skipped, some "realm role not found"⟩
  | client (mapping : Blueprint.Composite) :
      Explains (clientWarning mapping)
        ⟨.composite, compositeKey mapping, .skipped, some "client not found"⟩
  | leftOut (mapping : Blueprint.Composite) (name : String) :
      Explains (leftOutWarning mapping name)
        ⟨.composite, compositeKey mapping, .skipped, some "no desired client role resolved"⟩

theorem missedGrants_append (first second : List Step) :
    missedGrants (first ++ second) = missedGrants first ++ missedGrants second := by
  simp [missedGrants]

theorem mem_missedGrants {steps : List Step} {step : Step} (member : step ∈ steps)
    (isGrant : step.kind = .serviceAccountGrant) (skipped : step.action = .skipped) :
    grantWarning step ∈ missedGrants steps := by
  refine List.mem_map.2 ⟨step, List.mem_filter.2 ⟨member, ?_⟩, rfl⟩
  simp [isGrant, skipped]

theorem missedGrants_eq_nil_iff {steps : List Step} :
    missedGrants steps = [] ↔
      ∀ step ∈ steps, step.kind = .serviceAccountGrant → step.action ≠ .skipped := by
  simp [missedGrants]

/-! ## Parts that need nothing from elsewhere -/

/-- Steps of one kind, none of them skipped, and no warning. -/
structure Smooth (kind : ResourceKind) (found : Findings) : Prop where
  warnings : found.warnings = []
  steps : ∀ step ∈ found.steps, step.kind = kind ∧ step.action ≠ .skipped

/-- Nothing but grants is skipped and warned about. -/
structure Regular (found : Findings) : Prop where
  warnings : found.warnings = missedGrants found.steps
  steps : ∀ step ∈ found.steps, step.kind ≠ .composite ∧
    (step.action = .skipped → step.kind = .serviceAccountGrant)

theorem smooth_step {kind : ResourceKind} {key : String} {action : StepAction}
    {detail : Option String} (done : action ≠ .skipped) :
    Smooth kind (.step kind key action detail) where
  warnings := rfl
  steps step member := by
    rcases List.mem_singleton.1 member with rfl
    exact ⟨rfl, done⟩

theorem smooth_empty (kind : ResourceKind) : Smooth kind {} where
  warnings := rfl
  steps _ member := nomatch member

theorem Smooth.append {kind : ResourceKind} {first second : Findings} (smooth : Smooth kind first)
    (later : Smooth kind second) : Smooth kind (first ++ second) where
  warnings := by rw [Findings.warnings_append, smooth.warnings, later.warnings]; rfl
  steps step member := by
    rcases List.mem_append.1 member with early | late
    · exact smooth.steps step early
    · exact later.steps step late

theorem Smooth.missedGrants {kind : ResourceKind} {found : Findings} (smooth : Smooth kind found) :
    missedGrants found.steps = [] :=
  missedGrants_eq_nil_iff.2 fun step member _ => (smooth.steps step member).2

theorem Smooth.regular {kind : ResourceKind} {found : Findings} (smooth : Smooth kind found)
    (simple : kind ≠ .composite) : Regular found where
  warnings := by rw [smooth.warnings, smooth.missedGrants]
  steps step member := by
    obtain ⟨same, done⟩ := smooth.steps step member
    exact ⟨same ▸ simple, fun skipped => absurd skipped done⟩

theorem regular_step {kind : ResourceKind} {key : String} {action : StepAction}
    {detail : Option String} (simple : kind ≠ .composite) (done : action ≠ .skipped) :
    Regular (.step kind key action detail) :=
  (smooth_step done).regular simple

theorem regular_empty : Regular {} :=
  (smooth_empty .realm).regular (by decide)

theorem Regular.append {first second : Findings} (regular : Regular first)
    (later : Regular second) : Regular (first ++ second) where
  warnings := by
    rw [Findings.warnings_append, Findings.steps_append, missedGrants_append, regular.warnings,
      later.warnings]
  steps step member := by
    rcases List.mem_append.1 member with early | late
    · exact regular.steps step early
    · exact later.steps step late

/-- **A grant that fails is skipped with one warning, which tells why.** -/
theorem regular_grantFindings (clientId : String) (outcome : Except GrantFailure Unit) :
    Regular (grantFindings clientId outcome) := by
  cases outcome with
  | ok assigned => exact regular_step (by decide) (by decide)
  | error failure =>
      refine ⟨rfl, fun step member => ?_⟩
      rcases List.mem_singleton.1 member with rfl
      exact ⟨(fun never => nomatch never), fun _ => rfl⟩

/-! ## Passes that need nothing from elsewhere -/

/-- A write and its step. -/
theorem smooth_write {explain : AdminError → Failure} {call : AdminCall} {kind : ResourceKind}
    {key : String} {action : StepAction} {detail : Option String} (done : action ≠ .skipped) :
    Finds (explained explain call >>= fun _ => pure (.step kind key action detail))
      fun _ found => Smooth kind found :=
  finds_explained_bind fun _ => finds_pure (smooth_step done)

theorem smooth_realmPass (desired : Blueprint.Realm) :
    Finds (realmPass desired) fun _ found => Smooth .realm found := by
  refine finds_explained_bind fun current => ?_
  cases current with
  | none => exact smooth_write (by decide)
  | some current =>
      dsimp only
      split
      · exact finds_pure (smooth_step (by decide))
      · exact smooth_write (by decide)

theorem smooth_convergeRealmRole (desired : Blueprint.Role) :
    Finds (convergeRealmRole realm desired) fun _ found => Smooth .realmRole found := by
  refine finds_explained_bind fun current => ?_
  cases current with
  | none => exact smooth_write (by decide)
  | some current =>
      dsimp only
      split
      · exact finds_pure (smooth_step (by decide))
      · exact smooth_write (by decide)

theorem smooth_convergeClientRole (desired : Blueprint.ClientRole) :
    Finds (convergeClientRole realm client desired) fun _ found => Smooth .clientRole found := by
  refine finds_explained_bind fun current => ?_
  cases current with
  | none => exact smooth_write (by decide)
  | some current =>
      dsimp only
      split
      · exact finds_pure (smooth_step (by decide))
      · exact smooth_write (by decide)

theorem smooth_markerPass :
    Finds (markerPass realm) fun _ found => Smooth .initializationFlag found := by
  refine finds_explained_bind fun current => ?_
  cases current with
  | none => exact finds_throw
  | some current =>
      dsimp only
      split
      · exact finds_pure (smooth_step (by decide))
      · exact smooth_write (by decide)

/-- What is found out about a client, with a grant or nothing in its place. -/
theorem regular_grantIf {found : Findings} (regular : Regular found)
    (needed : Bool) (clientId : String) :
    Finds (if needed then do
        let granted ← tolerate (grantToServiceAccount realm client clientId)
        pure (found ++ granted)
      else pure found : Part Findings) fun _ found => Regular found :=
  finds_grantIf (leads_any _) needed regular
    fun _ outcome _ => regular.append (regular_grantFindings clientId outcome)

theorem regular_createClient (desired : Blueprint.Client) :
    Finds (createClient realm desired) fun _ found => Regular found :=
  finds_explained_bind fun _ => regular_grantIf (regular_step (by decide) (by decide)) _ _

theorem regular_updateClient (desired : Blueprint.Client) (patch : ClientRecord) (rotates : Bool) :
    Finds (updateClient realm client desired patch rotates) fun _ found => Regular found := by
  refine finds_explained_bind fun updated => regular_grantIf ?_ _ _
  refine (regular_step (by decide) (by decide)).append ?_
  cases rotates with
  | false => exact regular_empty
  | true => exact regular_step (by decide) (by decide)

theorem regular_rotateSecret (desired : Blueprint.Client) (rotates : Bool) :
    Finds (rotateSecret realm client desired rotates) fun _ found => Regular found := by
  have unchanged : Regular (.step .client desired.clientId .unchanged) :=
    regular_step (by decide) (by decide)
  unfold rotateSecret
  split
  · exact finds_explained_bind fun rotated => finds_pure <|
      unchanged.append (regular_step (by decide) (by decide))
  · exact finds_pure unchanged

theorem regular_convergeClient (desired : Blueprint.Client) :
    Finds (convergeClient realm desired) fun _ found => Regular found := by
  refine finds_explained_bind fun current => ?_
  cases current with
  | none => exact regular_createClient desired
  | some current =>
      dsimp only
      split
      · exact finds_throw
      · refine (finds_any _).bind fun _ rotates _ => ?_
        split
        · exact regular_rotateSecret desired rotates
        · exact regular_updateClient desired _ rotates

/-! ## Client roles -/

section ClientRoles

variable {group : String × List Blueprint.ClientRole}

/-- What is found out about the roles of one client: the shortfall is warned about, and explains
what was skipped. -/
structure GroupTold (held : StoredRealm) (group : String × List Blueprint.ClientRole)
    (found : Findings) : Prop where
  warnings : found.warnings = groupShortfall held group
  steps : ∀ step ∈ found.steps, step.kind = .clientRole ∧ (step.action = .skipped →
    ∃ warning ∈ groupShortfall held group, Explains warning step)

theorem groupTold_skippedRoles (absent : held.client? group.1 = none) :
    GroupTold held group (skippedRoles group.1 group.2) := by
  have shortfall : groupShortfall held group = [rolesWarning group.1 group.2.length] := by
    unfold groupShortfall
    rw [absent]
    rfl
  constructor
  · rw [shortfall]
    show [rolesWarning group.1 group.2.length] ++ (group.2.map _).flatMap _ = _
    rw [List.flatMap_map]
    simp [Findings.step]
  · intro step member
    obtain ⟨found, listed, isStep⟩ := List.mem_flatMap.1 member
    obtain ⟨role, -, rfl⟩ := List.mem_map.1 listed
    rcases List.mem_singleton.1 isStep with rfl
    refine ⟨rfl, fun _ => ⟨_, ?_, .clientRole group.1 role.name group.2.length⟩⟩
    rw [shortfall]
    exact List.mem_singleton_self _

/-- The fourth pass tells of the roles of one client by what the realm holds. -/
theorem told_convergeClientRoles (sound : store.Sound)
    (found : store.realms.get? realm = some held) :
    Reaches faults (convergeClientRoles realm group) store fun outcome _ =>
      ∀ told, outcome = .ok told → GroupTold held group told := by
  refine reaches_explained_bind (Store.answer_findClient found group.1)
    (fun _ _ _ never => nomatch never) ?_
  cases known : held.client? group.1 with
  | none =>
      refine reaches_pure fun told same => ?_
      cases same
      exact groupTold_skippedRoles known
  | some entry =>
      obtain ⟨key, owner⟩ := entry
      dsimp only [Option.map_some, Option.bind_some]
      rw [(sound realm held found).ownId_of_client? known]
      have smooth : Finds (forEach group.2 (convergeClientRole realm key))
          fun _ found => Smooth .clientRole found :=
        finds_forEach (smooth_empty _) (fun _ _ _ _ => Smooth.append)
          fun role _ => smooth_convergeClientRole role
      refine (smooth.reaches faults store).mono fun outcome later told findings came => ?_
      obtain ⟨noWarnings, steps⟩ := told findings came
      refine ⟨?_, fun step member => ⟨(steps step member).1, fun skipped => ?_⟩⟩
      · rw [noWarnings, groupShortfall, known]
        rfl
      · exact absurd skipped (steps step member).2

end ClientRoles

/-! ## Composite mappings -/

section Composites

variable {mapping : Blueprint.Composite} {key : String} {owner : StoredClient}

/-- What the single step about a mapping says. -/
structure MappingStep (held : StoredRealm) (mapping : Blueprint.Composite) (step : Step) :
    Prop where
  kind : step.kind = .composite
  key : step.key = compositeKey mapping
  skipped : step.action = .skipped →
    ∃ warning ∈ mappingShortfall held mapping, Explains warning step
  updated : step.action = .updated →
    (held.roles.get? mapping.realmRole).isSome ∧ (held.client? mapping.clientId).isSome

/-- What is found out about a mapping: its shortfall is warned about, and explains a skipped
step. -/
structure MappingTold (held : StoredRealm) (mapping : Blueprint.Composite) (found : Findings) :
    Prop where
  warnings : found.warnings = mappingShortfall held mapping
  step : ∃ step, found.steps = [step] ∧ MappingStep held mapping step

theorem mappingShortfall_of_present (roleThere : (held.roles.get? mapping.realmRole).isSome)
    (known : held.client? mapping.clientId = some (key, owner)) :
    mappingShortfall held mapping =
      (absentRoles mapping owner mapping.clientRoles.toList).warnings := by
  unfold mappingShortfall
  rw [if_pos roleThere, known]

/-- Roles that are shown as attached are there, so the absent ones are among those missing. -/
theorem absentRoles_missingFrom {drawn : Nat} (sound : held.Sound drawn)
    (present : held.clients.get? key = some owner) (mapping : Blueprint.Composite) :
    absentRoles mapping owner
        (mapping.clientRoles.missingFrom (presentNames held key mapping.realmRole)) =
      absentRoles mapping owner mapping.clientRoles.toList := by
  unfold absentRoles NameSet.missingFrom
  rw [List.filter_filter]
  congr 2
  refine List.filter_congr fun name _ => ?_
  by_cases absent : owner.roles.get? name = none
  · have notShown : (presentNames held key mapping.realmRole).contains name = false := by
      rw [← Bool.not_eq_true]
      intro shown
      obtain ⟨role, there, -⟩ := exists_of_presentNames_contains sound present shown
      rw [absent] at there
      cases there
    rw [absent, notShown]
    rfl
  · obtain ⟨role, there⟩ := Option.ne_none_iff_exists'.1 absent
    rw [there]
    rfl

/-- A part that comes to these findings about a mapping tells of it. -/
def TellsOfMapping (held : StoredRealm) (mapping : Blueprint.Composite)
    (outcome : Except Failure Findings) : Prop :=
  ∀ found, outcome = .ok found → MappingTold held mapping found

/-- A mapping is told of by a skipped step, if what is warned about is its shortfall and one of the
warnings explains the step. -/
theorem told_skipped {found : Findings} {warning detail : String} (quiet : found.steps = [])
    (warned : found.warnings = mappingShortfall held mapping) (listed : warning ∈ found.warnings)
    (explains : Explains warning ⟨.composite, compositeKey mapping, .skipped, some detail⟩) :
    MappingTold held mapping
      (found ++ .step .composite (compositeKey mapping) .skipped (some detail)) := by
  constructor
  · rw [Findings.warnings_append, warned]
    exact List.append_nil _
  · refine ⟨_, ?_, rfl, rfl, fun _ => ⟨warning, warned ▸ listed, explains⟩,
      fun never => nomatch never⟩
    rw [Findings.steps_append, quiet]
    rfl

theorem told_unresolved {names : List String} {name : String}
    (warned : (absentRoles mapping owner names).warnings = mappingShortfall held mapping)
    (missing : name ∈ names) (absent : owner.roles.get? name = none) :
    MappingTold held mapping (absentRoles mapping owner names ++
      .step .composite (compositeKey mapping) .skipped
        (some "no desired client role resolved")) := by
  refine told_skipped rfl warned (List.mem_map.2 ⟨name, List.mem_filter.2 ⟨missing, ?_⟩, rfl⟩)
    (.leftOut mapping name)
  rw [absent]
  rfl

/-- Attaching what is missing tells of a mapping whose role and client are there. -/
theorem told_attachRoles (sound : store.Sound) (found : store.realms.get? realm = some held)
    (roleThere : (held.roles.get? mapping.realmRole).isSome)
    (known : held.client? mapping.clientId = some (key, owner))
    (something : mapping.clientRoles.missingFrom (presentNames held key mapping.realmRole) ≠ []) :
    Reaches faults (attachRoles realm key mapping
        (mapping.clientRoles.missingFrom (presentNames held key mapping.realmRole)))
      store fun outcome _ => TellsOfMapping held mapping outcome := by
  obtain ⟨present, -⟩ := StoredRealm.get?_of_client? known
  have warned := congrArg Findings.warnings
    (absentRoles_missingFrom (sound realm held found) present mapping)
  rw [← mappingShortfall_of_present roleThere known] at warned
  refine (reaches_resolveRoles found present _).bind (fun _ _ _ _ never => nomatch never) ?_
  rintro ⟨resolved, findings⟩ later ⟨-, rfl, rfl⟩
  dsimp only
  split
  · next nothing =>
    obtain ⟨name, missing⟩ := List.exists_mem_of_ne_nil _ something
    have absent := List.filterMap_eq_nil_iff.1 (List.isEmpty_iff.1 nothing) name missing
    refine reaches_pure fun told same => ?_
    cases same
    exact told_unresolved warned missing absent
  · refine Finds.reaches (finds_explained_bind fun added => finds_pure ?_) faults later
    constructor
    · rw [Findings.warnings_append, warned]
      exact List.append_nil _
    · refine ⟨_, rfl, rfl, rfl, (fun never => nomatch never), fun _ => ⟨roleThere, ?_⟩⟩
      rw [known]
      rfl

/-- **The fifth pass tells of a mapping by what the realm holds.** -/
theorem told_convergeComposite (sound : store.Sound)
    (found : store.realms.get? realm = some held) :
    Reaches faults (convergeComposite realm mapping) store fun outcome _ =>
      TellsOfMapping held mapping outcome := by
  have never {failure : Failure} : TellsOfMapping held mapping (.error failure) :=
    fun _ impossible => nomatch impossible
  refine reaches_explained_bind (Store.answer_getRealmRole found mapping.realmRole)
    (fun _ _ => never) ?_
  cases roleThere : held.roles.get? mapping.realmRole with
  | none =>
      refine reaches_pure fun told same => ?_
      cases same
      refine told_skipped rfl ?_ (List.mem_singleton_self _) (.realmRole mapping)
      rw [mappingShortfall, roleThere]
      rfl
  | some stored =>
      have isThere := Option.isSome_of_eq_some roleThere
      refine reaches_explained_bind (Store.answer_findClient found mapping.clientId)
        (fun _ _ => never) ?_
      cases known : held.client? mapping.clientId with
      | none =>
          refine reaches_pure fun told same => ?_
          cases same
          refine told_skipped rfl ?_ (List.mem_singleton_self _) (.client mapping)
          rw [mappingShortfall, if_pos isThere, known]
          rfl
      | some entry =>
          obtain ⟨key, owner⟩ := entry
          obtain ⟨present, -⟩ := StoredRealm.get?_of_client? known
          dsimp only [Option.map_some, Option.bind_some]
          rw [(sound realm held found).ownId_of_client? known]
          refine reaches_explained_bind (Store.answer_getRealmRoleComposites found roleThere key)
            (fun _ _ => never) ?_
          show Reaches faults (if (mapping.clientRoles.missingFrom
              (presentNames held key mapping.realmRole)).isEmpty then _ else _) store _
          split
          · next nothing =>
            refine reaches_pure fun told same => ?_
            cases same
            refine ⟨?_, _, rfl, rfl, rfl, (fun never => nomatch never), fun never => nomatch never⟩
            rw [mappingShortfall_of_present isThere known,
              ← absentRoles_missingFrom (sound realm held found) present mapping,
              List.isEmpty_iff.1 nothing]
            rfl
          · next something =>
            refine told_attachRoles sound found isThere known fun nothing => something ?_
            rw [nothing]
            rfl

end Composites

end RealmConvergence.Convergence
