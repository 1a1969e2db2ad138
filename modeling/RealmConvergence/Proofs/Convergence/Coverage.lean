import Mathlib.Data.List.Perm.Subperm
import RealmConvergence.Blueprint.Samples
import RealmConvergence.Proofs.Blueprint.Grouping
import RealmConvergence.Proofs.Convergence.Provenance

/-!
# Reports cover the blueprint

Every step of a report has a subject, the kind and the key of the resource that it decides about.
Whoever replies, what a part of a run finds has the subjects of its items in order: one for the
realm and for the marker, one for each role and mapping, and for a client one, followed by at most
one for its secret and at most one for its grant (`ClientSubjects`). Groups that are skipped as a
whole and items that stay as they are have their steps like all others.

So a run that comes to a report has covered the blueprint (`CoversBlueprint`): no resource is lost,
and none is told of twice (`apply_covers`).
-/

set_option autoImplicit false

namespace RealmConvergence

/-! ## Subjects -/

/-- What a step is about: a kind of resource and a key. -/
abbrev Subject := ResourceKind × String

/-- What a step is about. -/
def Step.subject (step : Step) : Subject := (step.kind, step.key)

/-- What the steps found are about, in order. -/
def Findings.subjects (found : Findings) : List Subject := found.steps.map Step.subject

@[simp] theorem Findings.subjects_append (found others : Findings) :
    (found ++ others).subjects = found.subjects ++ others.subjects :=
  List.map_append

@[simp] theorem Findings.subjects_empty : ({} : Findings).subjects = [] := rfl

@[simp] theorem Findings.subjects_step (kind : ResourceKind) (key : String) (action : StepAction)
    (detail : Option String) : (Findings.step kind key action detail).subjects = [(kind, key)] :=
  rfl

/-- The keys of one kind, in order. -/
def keysOf (kind : ResourceKind) (subjects : List Subject) : List String :=
  subjects.filterMap fun subject => if subject.1 = kind then some subject.2 else none

theorem keysOf_append (kind : ResourceKind) (subjects others : List Subject) :
    keysOf kind (subjects ++ others) = keysOf kind subjects ++ keysOf kind others :=
  List.filterMap_append

/-- Of subjects that are of one kind, all have that kind or none has. -/
theorem keysOf_map {α : Type} (kind own : ResourceKind) (keyOf : α → String) (items : List α) :
    keysOf kind (items.map fun item => (own, keyOf item)) =
      if own = kind then items.map keyOf else [] := by
  unfold keysOf
  rw [List.filterMap_map]
  split
  · next same => simp [same]
  · next different => simp [different]

theorem keysOf_singleton (kind : ResourceKind) (subject : Subject) :
    keysOf kind [subject] = if subject.1 = kind then [subject.2] else [] :=
  keysOf_map kind subject.1 (fun _ => subject.2) [()]

/-- The keys of the steps about one kind of resource are those of the subjects of this kind. -/
theorem Report.map_key_stepsOf (report : Report) (kind : ResourceKind) :
    (report.stepsOf kind).map Step.key = keysOf kind (report.steps.map Step.subject) := by
  unfold Report.stepsOf keysOf
  induction report.steps with
  | nil => rfl
  | cons step rest ih =>
      by_cases same : step.kind = kind <;> simp [Step.subject, same] at ih ⊢ <;> exact ih

/-- Every step has one of the four actions. -/
theorem Report.count_add (report : Report) :
    report.count .created + report.count .updated + report.count .unchanged +
      report.count .skipped = report.steps.length := by
  unfold Report.count
  induction report.steps with
  | nil => rfl
  | cons step rest ih =>
      obtain ⟨kind, key, action, detail⟩ := step
      cases action <;> simp at ih ⊢ <;> omega

namespace Convergence

open Dialogue (Course)

/-! ## The subjects of a blueprint -/

/-- What a run tells of clients. Each has one step, then perhaps one for its secret, and then
perhaps one for its grant. -/
inductive ClientSubjects : List Blueprint.Client → List Subject → Prop where
  /-- There is no client left. -/
  | nil : ClientSubjects [] []
  /-- The steps of a client are followed by those of the others. -/
  | cons {client : Blueprint.Client} {rest : List Blueprint.Client} {extras others : List Subject}
      (own : extras.Sublist
        [(.clientSecret, client.clientId), (.serviceAccountGrant, client.clientId)])
      (later : ClientSubjects rest others) :
      ClientSubjects (client :: rest) ((.client, client.clientId) :: extras ++ others)

/-- The steps tell of all that a blueprint lists, and of nothing else, in order. -/
def CoversBlueprint (blueprint : Blueprint) (steps : List Step) : Prop :=
  ∃ clients roles, ClientSubjects blueprint.clients clients ∧ blueprint.OrderedByOwner roles ∧
    steps.map Step.subject =
      [(.realm, blueprint.realm.name)] ++ clients ++
        (blueprint.realmRoles.map fun role => (.realmRole, role.name)) ++
        (roles.map fun role => (.clientRole, roleKey role.clientId role.name)) ++
        (blueprint.composites.map fun mapping => (.composite, compositeKey mapping)) ++
        [(.initializationFlag, blueprint.realm.name)]

/-- The keys of all that a blueprint lists of one kind. A secret or a grant has the key of its
client. -/
def keysListed (blueprint : Blueprint) : ResourceKind → List String
  | .realm | .initializationFlag => [blueprint.realm.name]
  | .client | .clientSecret | .serviceAccountGrant =>
    blueprint.clients.map Blueprint.Client.clientId
  | .realmRole => blueprint.realmRoles.map Blueprint.Role.name
  | .clientRole => blueprint.clientRoles.map fun role => roleKey role.clientId role.name
  | .composite => blueprint.composites.map compositeKey

/-- Whether everything of a kind has a step, whatever is found. -/
def alwaysTold : ResourceKind → Bool
  | .clientSecret | .serviceAccountGrant => false
  | _ => true

/-- The steps of clients are of three kinds. Every client has its own step, and secrets and grants
stand in the order of their clients, each at most once. -/
theorem ClientSubjects.keys {clients : List Blueprint.Client} {subjects : List Subject}
    (told : ClientSubjects clients subjects) :
    keysOf .client subjects = clients.map Blueprint.Client.clientId ∧
      (keysOf .clientSecret subjects).Sublist (clients.map Blueprint.Client.clientId) ∧
      (keysOf .serviceAccountGrant subjects).Sublist (clients.map Blueprint.Client.clientId) ∧
      ∀ kind, kind ≠ .client → kind ≠ .clientSecret → kind ≠ .serviceAccountGrant →
        keysOf kind subjects = [] := by
  induction told with
  | nil => exact ⟨rfl, .slnil, .slnil, fun _ _ _ _ => rfl⟩
  | @cons client rest extras others own later ih =>
      obtain ⟨ids, secrets, grants, nothing⟩ := ih
      have extra (kind : ResourceKind) : (keysOf kind extras).Sublist (keysOf kind
          [(.clientSecret, client.clientId), (.serviceAccountGrant, client.clientId)]) :=
        own.filterMap _
      have split (kind : ResourceKind) :
          keysOf kind ((.client, client.clientId) :: extras ++ others) =
            keysOf kind [(.client, client.clientId)] ++ keysOf kind extras ++
              keysOf kind others := by
        rw [← keysOf_append, ← keysOf_append]
        rfl
      refine ⟨?_, ?_, ?_, fun kind notClient notSecret notGrant => ?_⟩
      · rw [split, List.sublist_nil.1 (extra .client), ids]
        rfl
      · rw [split]
        exact (extra .clientSecret).append secrets
      · rw [split]
        exact (extra .serviceAccountGrant).append grants
      · have none : keysOf kind extras = [] := by
          have within := extra kind
          rw [← List.singleton_append, keysOf_append, keysOf_singleton, keysOf_singleton,
            if_neg notSecret.symm, if_neg notGrant.symm] at within
          exact List.sublist_nil.1 within
        rw [split, none, nothing kind notClient notSecret notGrant, keysOf_singleton,
          if_neg notClient.symm]
        rfl

/-- **What covers a blueprint loses nothing of it and repeats nothing.** -/
theorem CoversBlueprint.keys {blueprint : Blueprint} {steps : List Step}
    (covers : CoversBlueprint blueprint steps) (kind : ResourceKind) :
    (keysOf kind (steps.map Step.subject)).Subperm (keysListed blueprint kind) ∧
      (alwaysTold kind = true →
        (keysOf kind (steps.map Step.subject)).Perm (keysListed blueprint kind)) := by
  obtain ⟨clients, roles, clientsTold, ordered, told⟩ := covers
  obtain ⟨ids, secrets, grants, nothing⟩ := clientsTold.keys
  have rolesTold := ordered.perm.map fun role : Blueprint.ClientRole =>
    roleKey role.clientId role.name
  have whole {keys : List String} (same : keys.Perm (keysListed blueprint kind)) :
      keys.Subperm (keysListed blueprint kind) ∧
        (alwaysTold kind = true → keys.Perm (keysListed blueprint kind)) :=
    ⟨same.subperm, fun _ => same⟩
  simp only [told, keysOf_append, keysOf_map, keysOf_singleton]
  cases kind with
  | client => exact whole (by simp [ids, keysListed])
  | clientSecret => exact ⟨by simpa [keysListed] using secrets.subperm, nofun⟩
  | serviceAccountGrant => exact ⟨by simpa [keysListed] using grants.subperm, nofun⟩
  | clientRole => exact whole (by simpa [nothing, keysListed] using rolesTold)
  | realm => exact whole (by simp [nothing, keysListed])
  | realmRole => exact whole (by simp [nothing, keysListed])
  | composite => exact whole (by simp [nothing, keysListed])
  | initializationFlag => exact whole (by simp [nothing, keysListed])

/-! ## What parts find -/

/-- Whoever replies, what the part finds is about these subjects. -/
def FindsAbout (part : Part Findings) (subjects : List Subject) : Prop :=
  Finds part fun _ found => found.subjects = subjects

variable {realm client : String}

theorem findsAbout_explained_bind {explain : AdminError → Failure} {call : AdminCall}
    {next : call.Answer → Part Findings} {subjects : List Subject}
    (goesOn : ∀ answer, FindsAbout (next answer) subjects) :
    FindsAbout (explained explain call >>= next) subjects :=
  finds_explained_bind goesOn

theorem findsAbout_pure {found : Findings} : FindsAbout (pure found) found.subjects :=
  finds_pure rfl

/-- What is found for a list is about the subjects of its items in order. -/
theorem findsAbout_forEach {α : Type} {items : List α} {part : α → Part Findings}
    {subjectsOf : α → List Subject}
    (each : ∀ item ∈ items, FindsAbout (part item) (subjectsOf item)) :
    FindsAbout (forEach items part) (items.flatMap subjectsOf) := by
  refine (finds_forEach_inTurns each).mono fun exchanges found turns => ?_
  induction turns with
  | finished => rfl
  | goesOn turn later ih =>
      rw [Findings.subjects_append, turn, List.flatMap_cons,
        ih fun item member => each item (List.mem_cons_of_mem _ member)]

theorem findsAbout_realmPass (desired : Blueprint.Realm) :
    FindsAbout (realmPass desired) [(.realm, desired.name)] := by
  refine findsAbout_explained_bind fun current => ?_
  cases current with
  | none => exact findsAbout_explained_bind fun _ => findsAbout_pure
  | some current =>
      dsimp only
      split
      · exact findsAbout_pure
      · exact findsAbout_explained_bind fun _ => findsAbout_pure

theorem findsAbout_convergeRealmRole (desired : Blueprint.Role) :
    FindsAbout (convergeRealmRole realm desired) [(.realmRole, desired.name)] := by
  refine findsAbout_explained_bind fun current => ?_
  cases current with
  | none => exact findsAbout_explained_bind fun _ => findsAbout_pure
  | some current =>
      dsimp only
      split
      · exact findsAbout_pure
      · exact findsAbout_explained_bind fun _ => findsAbout_pure

theorem findsAbout_convergeClientRole (desired : Blueprint.ClientRole) :
    FindsAbout (convergeClientRole realm client desired)
      [(.clientRole, roleKey desired.clientId desired.name)] := by
  refine findsAbout_explained_bind fun current => ?_
  cases current with
  | none => exact findsAbout_explained_bind fun _ => findsAbout_pure
  | some current =>
      dsimp only
      split
      · exact findsAbout_pure
      · exact findsAbout_explained_bind fun _ => findsAbout_pure

/-- The roles of a client that is absent are skipped as a whole, with a step for each. -/
theorem findsAbout_convergeClientRoles {group : String × List Blueprint.ClientRole}
    (owned : ∀ role ∈ group.2, role.clientId = group.1) :
    FindsAbout (convergeClientRoles realm group)
      (group.2.map fun role => (.clientRole, roleKey role.clientId role.name)) := by
  refine findsAbout_explained_bind fun current => ?_
  split
  · have skipped : (skippedRoles group.1 group.2).subjects =
        group.2.map fun role => (.clientRole, roleKey role.clientId role.name) := by
      show ([] ++ (group.2.map _).flatMap _).map Step.subject = _
      rw [List.nil_append, List.flatMap_map, List.map_flatMap, List.map_eq_flatMap]
      exact List.flatMap_congr fun role listed => by rw [owned role listed]; rfl
    exact skipped ▸ findsAbout_pure
  · rw [List.map_eq_flatMap]
    exact findsAbout_forEach fun role _ => findsAbout_convergeClientRole role

/-- Resolving roles finds no steps. -/
theorem resolveRoles_finds_no_steps (mapping : Blueprint.Composite) (names : List String) :
    Finds (resolveRoles realm client mapping names) fun _ resolved => resolved.2.subjects = [] := by
  induction names with
  | nil => exact finds_pure rfl
  | cons name rest ih =>
      refine finds_explained_bind fun found => ih.bind fun _ resolved none => ?_
      cases found with
      | none => exact finds_pure none
      | some role => exact finds_pure none

theorem findsAbout_convergeComposite (mapping : Blueprint.Composite) :
    FindsAbout (convergeComposite realm mapping) [(.composite, compositeKey mapping)] := by
  refine findsAbout_explained_bind fun role => ?_
  dsimp only
  split
  · exact findsAbout_pure
  refine findsAbout_explained_bind fun current => ?_
  split
  · exact findsAbout_pure
  refine findsAbout_explained_bind fun attached => ?_
  split
  · exact findsAbout_pure
  refine (resolveRoles_finds_no_steps mapping _).bind fun _ resolved none => ?_
  dsimp only
  split
  · refine finds_pure ?_
    rw [Findings.subjects_append, none]
    rfl
  · refine finds_explained_bind fun _ => finds_pure ?_
    rw [Findings.subjects_append, none]
    rfl

theorem findsAbout_markerPass (realm : String) :
    FindsAbout (markerPass realm) [(.initializationFlag, realm)] := by
  refine findsAbout_explained_bind fun current => ?_
  cases current with
  | none => exact finds_throw
  | some current =>
      dsimp only
      split
      · exact findsAbout_pure
      · exact findsAbout_explained_bind fun _ => findsAbout_pure

/-! ## Clients -/

/-- The step of a client, then perhaps one for its secret, and then perhaps one for its grant. -/
def AboutClient (clientId : String) (found : Findings) : Prop :=
  ∃ extras : List Subject,
    extras.Sublist [(.clientSecret, clientId), (.serviceAccountGrant, clientId)] ∧
      found.subjects = (.client, clientId) :: extras

theorem subjects_grantFindings (clientId : String) (outcome : Except GrantFailure Unit) :
    (grantFindings clientId outcome).subjects = [(.serviceAccountGrant, clientId)] := by
  cases outcome <;> rfl

/-- A grant, if there is one, is told of after the client and its secret. -/
theorem aboutClient_grantIf {clientId : String} {found : Findings} (needed : Bool)
    {secrets : List Subject} (own : secrets.Sublist [(.clientSecret, clientId)])
    (told : found.subjects = (.client, clientId) :: secrets) :
    Finds (if needed then do
        let granted ← tolerate (grantToServiceAccount realm client clientId)
        pure (found ++ granted)
      else pure found : Part Findings) fun _ found => AboutClient clientId found := by
  refine finds_grantIf (leads_any _) needed ⟨secrets, own.trans ?_, told⟩ fun _ outcome _ => ?_
  · exact (List.nil_sublist _).cons_cons _
  · refine ⟨secrets ++ [(.serviceAccountGrant, clientId)], own.append_right _, ?_⟩
    rw [Findings.subjects_append, told, subjects_grantFindings]
    rfl

theorem aboutClient_convergeClient (desired : Blueprint.Client) :
    Finds (convergeClient realm desired) fun _ found => AboutClient desired.clientId found := by
  refine finds_explained_bind fun current => ?_
  cases current with
  | none =>
      exact finds_explained_bind fun _ => aboutClient_grantIf _ (List.nil_sublist _) rfl
  | some current =>
      dsimp only
      split
      · exact finds_throw
      · refine (finds_any _).bind fun _ rotates _ => ?_
        split
        · unfold rotateSecret
          split
          · exact finds_explained_bind fun _ =>
              finds_pure ⟨_, .cons_cons _ (List.nil_sublist _), rfl⟩
          · exact finds_pure ⟨[], List.nil_sublist _, rfl⟩
        · refine finds_explained_bind fun _ => ?_
          cases rotates with
          | false => exact aboutClient_grantIf _ (List.nil_sublist _) rfl
          | true => exact aboutClient_grantIf _ (List.Sublist.refl _) rfl

/-- What is found for a client is told under its key. -/
theorem AboutClient.key {clientId : String} {found : Findings} (about : AboutClient clientId found)
    {subject : Subject} (member : subject ∈ found.subjects) : subject.2 = clientId := by
  obtain ⟨extras, own, told⟩ := about
  rw [told] at member
  rcases List.mem_cons.1 member with rfl | extra
  · rfl
  · have among := own.subset extra
    simp only [List.mem_cons, List.not_mem_nil, or_false] at among
    rcases among with rfl | rfl <;> rfl

/-- What is found for clients is about each of them in order. -/
theorem clientSubjects_forEach (clients : List Blueprint.Client) :
    Finds (forEach clients (convergeClient realm)) fun _ found =>
      ClientSubjects clients found.subjects := by
  refine (finds_forEach_inTurns fun desired _ =>
    aboutClient_convergeClient desired).mono fun exchanges found turns => ?_
  induction turns with
  | finished => exact .nil
  | goesOn turn later ih =>
      obtain ⟨extras, own, told⟩ := turn
      rw [Findings.subjects_append, told]
      exact .cons own ih

/-! ## Who tells of a subject -/

/-- **Where no two items own a subject, the owner's turn tells of it or no turn does.** -/
theorem goesThrough_of_foundInTurns {α : Type} {told : α → Transcript → Findings → Prop}
    {owns : α → Subject → Prop}
    (ownOnly : ∀ item piece found, told item piece found →
      ∀ subject ∈ found.subjects, owns item subject)
    {items : List α} {exchanges : Transcript} {total : Findings}
    (turns : FoundInTurns told items exchanges total)
    (apart : items.Pairwise fun one other => ∀ subject, owns one subject → ¬owns other subject) :
    GoesThrough (fun isWhole item piece => isWhole = true ∧ ∃ found, told item piece found ∧
      ∀ subject, owns item subject → (subject ∈ total.subjects ↔ subject ∈ found.subjects))
      items true exchanges ∧
      ∀ subject ∈ total.subjects, ∃ item ∈ items, owns item subject := by
  induction turns with
  | finished => exact ⟨.finished, nofun⟩
  | @goesOn item rest early late found others turn later ih =>
      obtain ⟨headApart, restApart⟩ := List.pairwise_cons.1 apart
      obtain ⟨onward, owned⟩ := ih restApart
      have own := ownOnly item early found turn
      simp only [Findings.subjects_append, List.mem_append]
      refine ⟨.goesOn ⟨rfl, found, turn, fun subject owns => ?_⟩ (onward.imp ?_), ?_⟩
      · refine ⟨fun member => member.resolve_right fun elsewhere => ?_, .inl⟩
        obtain ⟨other, listed, otherOwns⟩ := owned subject elsewhere
        exact headApart other listed subject owns otherOwns
      · rintro isWhole other listed piece ⟨whole, otherFound, otherTurn, tells⟩
        refine ⟨whole, otherFound, otherTurn, fun subject otherOwns => ?_⟩
        rw [← tells subject otherOwns]
        refine ⟨fun member => member.resolve_left fun here => ?_, .inr⟩
        exact headApart other listed subject (own subject here) otherOwns
      · rintro subject (here | elsewhere)
        · exact ⟨item, List.mem_cons_self, own subject here⟩
        · obtain ⟨other, listed, otherOwns⟩ := owned subject elsewhere
          exact ⟨other, List.mem_cons_of_mem _ listed, otherOwns⟩

/-- The pass that tells of a kind of resource. -/
def passOf : ResourceKind → Pass
  | .realm => .realm
  | .client | .clientSecret | .serviceAccountGrant => .clients
  | .realmRole => .realmRoles
  | .clientRole => .clientRoles
  | .composite => .composites
  | .initializationFlag => .marker

theorem ClientSubjects.passOf_eq {clients : List Blueprint.Client} {subjects : List Subject}
    (told : ClientSubjects clients subjects) {subject : Subject} (member : subject ∈ subjects) :
    passOf subject.1 = .clients := by
  induction told with
  | nil => cases member
  | cons own later ih =>
      rcases List.mem_append.1 member with here | elsewhere
      · rcases List.mem_cons.1 here with rfl | extra
        · rfl
        · have among := own.subset extra
          simp only [List.mem_cons, List.not_mem_nil, or_false] at among
          rcases among with rfl | rfl <;> rfl
      · exact ih elsewhere

/-- A pass tells of its own kinds alone. -/
theorem passOf_of_course {blueprint : Blueprint} {pass : Pass} {exchanges : Transcript}
    {found : Findings} (course : Course (pass.part blueprint).run exchanges (.ok found))
    {subject : Subject} (member : subject ∈ found.subjects) : passOf subject.1 = pass := by
  have items {α : Type} {subjects : List α} {kind : ResourceKind} {keyOf : α → String}
      (told : found.subjects = subjects.map fun item => (kind, keyOf item)) :
      passOf subject.1 = passOf kind := by
    rw [told] at member
    obtain ⟨item, -, rfl⟩ := List.mem_map.1 member
    rfl
  cases pass with
  | realm =>
      have told := findsAbout_realmPass blueprint.realm _ _ course found rfl
      rw [told, List.mem_singleton] at member
      subst member
      rfl
  | clients =>
      exact (clientSubjects_forEach blueprint.clients _ _ course found rfl).passOf_eq member
  | realmRoles =>
      have told := findsAbout_forEach (fun role _ => findsAbout_convergeRealmRole role) _ _ course
        found rfl
      exact items (told.trans List.map_eq_flatMap.symm)
  | clientRoles =>
      have told := findsAbout_forEach (fun group member => findsAbout_convergeClientRoles
        (Blueprint.owner_of_mem_clientRoleGroups member)) _ _ course found rfl
      exact items (told.trans List.map_flatMap.symm)
  | composites =>
      have told := findsAbout_forEach (fun mapping _ => findsAbout_convergeComposite mapping) _ _
        course found rfl
      exact items (told.trans List.map_eq_flatMap.symm)
  | marker =>
      have told := findsAbout_markerPass blueprint.realm.name _ _ course found rfl
      rw [told, List.mem_singleton] at member
      subst member
      rfl

/-- In passes that come to an end, a subject is told of by the pass of its kind. -/
theorem goesThrough_passes_telling {blueprint : Blueprint} {exchanges : Transcript}
    {total : Findings} (course : Course (passes blueprint).run exchanges (.ok total)) :
    GoesThrough (fun isFinished pass piece => isFinished = true ∧ ∃ found,
      Course (pass.part blueprint).run piece (.ok found) ∧ ∀ subject : Subject,
        passOf subject.1 = pass → (subject ∈ total.subjects ↔ subject ∈ found.subjects))
      Pass.all true exchanges := by
  rw [passes_eq_forEach_all] at course
  refine (goesThrough_of_foundInTurns ?_
    (finds_forEach_inTurns (fun pass _ => finds_course (pass.part blueprint)) _ _ course total rfl)
    ?_).1
  · exact fun pass piece found passCourse subject => passOf_of_course passCourse
  · have distinct : Pass.all.Pairwise (· ≠ ·) := by decide
    exact distinct.imp fun different subject isOne isOther =>
      different (isOne.symm.trans isOther)

/-- In a pass through clients that comes to an end, a subject of a client is told of in its turn. -/
theorem goesThrough_clients_telling {clients : List Blueprint.Client}
    (distinct : clients.Pairwise fun one other => one.clientId ≠ other.clientId)
    {exchanges : Transcript} {total : Findings}
    (course : Course (forEach clients (convergeClient realm)).run exchanges (.ok total)) :
    GoesThrough (fun isWhole desired turn => isWhole = true ∧ ∃ found,
      Course (convergeClient realm desired).run turn (.ok found) ∧ ∀ subject : Subject,
        subject.2 = desired.clientId → (subject ∈ total.subjects ↔ subject ∈ found.subjects))
      clients true exchanges := by
  refine (goesThrough_of_foundInTurns ?_
    (finds_forEach_inTurns (fun desired _ => finds_course (convergeClient realm desired)) _ _ course
      total rfl) ?_).1
  · intro desired piece found turnCourse subject member
    exact (aboutClient_convergeClient desired _ _ turnCourse found rfl).key member
  · exact distinct.imp fun different subject isOne isOther =>
      different (isOne.symm.trans isOther)

/-! ## Whole runs -/

/-- **Whoever replies, what the passes find covers the blueprint.** -/
theorem covers_passes (blueprint : Blueprint) :
    Finds (passes blueprint) fun _ found => CoversBlueprint blueprint found.steps := by
  refine (findsAbout_realmPass blueprint.realm).bind fun _ _ realm => ?_
  refine (clientSubjects_forEach blueprint.clients).bind fun _ _ clients => ?_
  refine (findsAbout_forEach fun role _ =>
    findsAbout_convergeRealmRole role).bind fun _ _ realmRoles => ?_
  refine (findsAbout_forEach fun group member => findsAbout_convergeClientRoles
    (Blueprint.owner_of_mem_clientRoleGroups member)).bind fun _ _ clientRoles => ?_
  refine (findsAbout_forEach fun mapping _ =>
    findsAbout_convergeComposite mapping).bind fun _ _ composites => ?_
  refine (findsAbout_markerPass blueprint.realm.name).bind fun _ _ marker => finds_pure ?_
  refine ⟨_, _, clients, blueprint.rolesByOwner_ordered, ?_⟩
  rw [← List.map_eq_flatMap] at realmRoles composites
  rw [← List.map_flatMap] at clientRoles
  show Findings.subjects _ = _
  simp only [Findings.subjects_append, realm, realmRoles, clientRoles, composites, marker]
  rfl

/-- **A report covers the blueprint, in order.** Whoever replies, a run that comes to a report has
finished it, and the steps tell of the realm, of each client, with at most one step for its secret
and at most one for its grant, of each role of the realm, of each role of a client, ordered by the
owners and otherwise as listed, of each composite mapping, and of the marker. So every resource that
is listed is told of once, except that secrets and grants may be left out. The summary names the
realm, the numbers of steps by action and the number of warnings, and the numbers of steps add up to
that of all steps. -/
theorem apply_covers {blueprint : Blueprint} {exchanges : Transcript} {report : Report}
    (course : Course (apply blueprint).run exchanges (.ok report)) :
    report.realm = blueprint.realm.name ∧ report.finished = true ∧
      CoversBlueprint blueprint report.steps ∧ blueprint.Distinct ∧
      (∀ kind, ((report.stepsOf kind).map Step.key).Subperm (keysListed blueprint kind) ∧
        (alwaysTold kind = true →
          ((report.stepsOf kind).map Step.key).Perm (keysListed blueprint kind))) ∧
      report.summary =
        s!"realm={report.realm} created={report.count .created} updated={report.count .updated} " ++
          s!"unchanged={report.count .unchanged} skipped={report.count .skipped} " ++
          s!"warnings={report.warnings.length}" ∧
      report.count .created + report.count .updated + report.count .unchanged +
        report.count .skipped = report.steps.length := by
  cases checked : blueprint.validate with
  | error violation =>
      rw [apply_of_violation checked] at course
      cases course
  | ok _ =>
      rw [apply_of_valid checked] at course
      obtain ⟨inner, passesCourse, finished⟩ := course_bind_pure.1 course
      cases inner with
      | error failure => cases finished
      | ok found =>
          cases finished
          have covers : CoversBlueprint blueprint found.steps :=
            covers_passes blueprint _ _ passesCourse found rfl
          refine ⟨rfl, rfl, covers, Blueprint.validate_eq_ok checked, fun kind => ?_, rfl,
            Report.count_add _⟩
          rw [Report.map_key_stepsOf]
          exact covers.keys kind

/-- With a service that has nothing, the school's report tells of the realm, of its client and the
grant, of the roles, of the mapping and of the marker, and sums them up. -/
theorem apply_covers_school :
    ∃ exchanges report, Course (apply Blueprint.school).run exchanges (.ok report) ∧
      report.steps.map Step.subject =
        [(.realm, "school"), (.client, "reporting"), (.serviceAccountGrant, "reporting"),
          (.realmRole, "TEACHER"), (.clientRole, "reporting:VIEW_REPORTS"),
          (.composite, "TEACHER -> reporting"), (.initializationFlag, "school")] ∧
      CoversBlueprint Blueprint.school report.steps ∧
      report.summary = "realm=school created=4 updated=3 unchanged=0 skipped=0 warnings=0" ∧
      report.count .created + report.count .updated + report.count .unchanged +
        report.count .skipped = report.steps.length := by
  have told : ((apply Blueprint.school).run.run (Service.respond Service.Faults.none) {}).1.map
      (fun report : Report => (report.steps.map Step.subject, report.summary)) =
        .ok ([(.realm, "school"), (.client, "reporting"), (.serviceAccountGrant, "reporting"),
          (.realmRole, "TEACHER"), (.clientRole, "reporting:VIEW_REPORTS"),
          (.composite, "TEACHER -> reporting"), (.initializationFlag, "school")],
          "realm=school created=4 updated=3 unchanged=0 skipped=0 warnings=0") := by
    decide +kernel
  have course := Dialogue.course_exchanged (Service.respond Service.Faults.none)
    (apply Blueprint.school).run {}
  obtain ⟨report, finished, same⟩ := exists_of_map_eq_ok told
  obtain ⟨subjects, summary⟩ := Prod.mk.inj same
  rw [finished] at course
  obtain ⟨-, -, covers, -, -, -, counts⟩ := apply_covers course
  exact ⟨_, report, course, subjects, covers, summary, counts⟩

end Convergence

end RealmConvergence
