import RealmConvergence.Blueprint.Samples
import RealmConvergence.Proofs.Convergence.Creating
import RealmConvergence.Proofs.Convergence.Turns

/-!
# Where identifiers come from

Calls below a client name it by its internal identifier, so a run has to learn identifiers before it
can use them. Whoever replies, the exchanges of a run go through the passes in order, and those of a
pass through its items (`apply_goes_through`). The specification of each turn says which calls are
allowed in it and what must have been answered before them: an internal identifier by the lookup or
the creation of the very client (`Answered`), the user of a grant by the lookup of the user of that
client (`UserOf`), and the roles that are attached by lookups of the missing names, each once and in
byte order (`AttachesAnswered`).
-/

set_option autoImplicit false

namespace RealmConvergence.Convergence

open Dialogue (Course)
open Service (managementClientId)

/-! ## What answers give -/

/-- A lookup or the creation of the client has answered with this internal identifier. -/
def Answered (realm clientId id : String) (earlier : Transcript) : Prop :=
  (∃ record : ClientRecord, ⟨.findClient realm clientId, .ok (some record)⟩ ∈ earlier ∧
    record.id = some id) ∨
  ∃ record : ClientRecord, ⟨.createClient realm record, .ok id⟩ ∈ earlier ∧
    record.clientId = some clientId

/-- The lookup of the user of a client has answered with this user. -/
def UserOf (realm client user : String) (earlier : Transcript) : Prop :=
  ∃ record : UserRecord, ⟨.getServiceAccountUser realm client, .ok record⟩ ∈ earlier ∧
    record.id = some user

/-- Roles of a client are looked up by their names in turn, and these come back. -/
inductive LookedUp (realm client : String) :
    List String → Transcript → List RoleRecord → Prop where
  /-- No name is left. -/
  | none : LookedUp realm client [] [] []
  /-- The role of a name comes back. -/
  | found {name : String} {role : RoleRecord} {names : List String} {rest : Transcript}
      {roles : List RoleRecord} (others : LookedUp realm client names rest roles) :
      LookedUp realm client (name :: names)
        (⟨.getClientRole realm client name, .ok (some role)⟩ :: rest) (role :: roles)
  /-- There is no role of a name. -/
  | absent {name : String} {names : List String} {rest : Transcript} {roles : List RoleRecord}
      (others : LookedUp realm client names rest roles) :
      LookedUp realm client (name :: names)
        (⟨.getClientRole realm client name, .ok none⟩ :: rest) roles

/-- The roles that are attached for a mapping have come back from the client of the mapping. They
were looked up by the desired names that are not among those just read as attached, by each once and
in byte order. -/
def AttachesAnswered (realm : String) (mapping : Blueprint.Composite) (earlier : Transcript)
    (added : List RoleRecord) : Prop :=
  ∃ role record client attached missing asked,
    earlier = ⟨.getRealmRole realm mapping.realmRole, .ok (some role)⟩ ::
      ⟨.findClient realm mapping.clientId, .ok (some record)⟩ ::
      ⟨.getRealmRoleComposites realm mapping.realmRole client, .ok attached⟩ :: asked ∧
    record.id = some client ∧
    (∀ name, name ∈ missing ↔
      mapping.clientRoles.contains name = true ∧ ∀ role ∈ attached, role.name ≠ some name) ∧
    missing.Pairwise (· < ·) ∧ LookedUp realm client missing asked added

/-! ## The turns of a run -/

/-- What may be called for the realm itself. -/
def RealmCall (realm : String) (earlier : Transcript) : AdminCall → Prop
  | .getRealm name => name = realm ∧ earlier = []
  | .createRealm record => record.realm = some realm ∧ earlier = [⟨.getRealm realm, .ok none⟩]
  | .updateRealm name _ => name = realm ∧
    ∃ record, earlier = [⟨.getRealm realm, .ok (some record)⟩]
  | _ => False

/-- What may be called for a client. The first call looks it up; a later lookup is that of the
client that owns the roles of grants. -/
def ClientCall (realm clientId : String) (earlier : Transcript) : AdminCall → Prop
  | .findClient name other => name = realm ∧
    other = if earlier = [] then clientId else managementClientId
  | .createClient name record => name = realm ∧ record.clientId = some clientId ∧
    earlier = [⟨.findClient realm clientId, .ok none⟩]
  | .getClientSecret name client | .updateClientSecret name client _ | .updateClient name client _
  | .getServiceAccountUser name client => name = realm ∧ Answered realm clientId client earlier
  | .getClientRole name owner role => name = realm ∧
    Answered realm managementClientId owner earlier ∧ role ∈ serviceAccountRoles
  | .assignClientRoles name user owner _ => name = realm ∧
    Answered realm managementClientId owner earlier ∧
    ∃ client, Answered realm clientId client earlier ∧ UserOf realm client user earlier
  | _ => False

/-- What may be called for a role of the realm. -/
def RealmRoleCall (realm role : String) (earlier : Transcript) : AdminCall → Prop
  | .getRealmRole name other => name = realm ∧ other = role ∧ earlier = []
  | .createRealmRole name record => name = realm ∧ record.name = some role ∧
    earlier = [⟨.getRealmRole realm role, .ok none⟩]
  | .updateRealmRole name other _ => name = realm ∧ other = role ∧
    ∃ found, earlier = [⟨.getRealmRole realm role, .ok (some found)⟩]
  | _ => False

/-- What may be called for the roles of a client. -/
def ClientRoleCall (realm clientId : String) (roles : List Blueprint.ClientRole)
    (earlier : Transcript) : AdminCall → Prop
  | .findClient name other => name = realm ∧ other = clientId ∧ earlier = []
  | .getClientRole name client role | .updateClientRole name client role _ => name = realm ∧
    Answered realm clientId client earlier ∧ role ∈ roles.map (·.name)
  | .createClientRole name client record => name = realm ∧
    Answered realm clientId client earlier ∧ ∃ role ∈ roles, record.name = some role.name
  | _ => False

/-- What may be called for a composite mapping. -/
def CompositeCall (realm : String) (mapping : Blueprint.Composite) (earlier : Transcript) :
    AdminCall → Prop
  | .getRealmRole name role => name = realm ∧ role = mapping.realmRole ∧ earlier = []
  | .findClient name other => name = realm ∧ other = mapping.clientId ∧
    ∃ role, earlier = [⟨.getRealmRole realm mapping.realmRole, .ok (some role)⟩]
  | .getRealmRoleComposites name role client => name = realm ∧ role = mapping.realmRole ∧
    Answered realm mapping.clientId client earlier
  | .getClientRole name client role => name = realm ∧
    Answered realm mapping.clientId client earlier ∧ mapping.clientRoles.contains role = true
  | .addRealmRoleComposites name role added => name = realm ∧ role = mapping.realmRole ∧
    AttachesAnswered realm mapping earlier added
  | _ => False

/-- What may be called for the marker of a finished run. -/
def MarkerCall (realm : String) (earlier : Transcript) : AdminCall → Prop
  | .getRealm name => name = realm ∧ earlier = []
  | .updateRealm name _ => name = realm ∧
    ∃ record, earlier = [⟨.getRealm realm, .ok (some record)⟩]
  | _ => False

/-- The passes of a run. -/
inductive Pass where
  | realm
  | clients
  | realmRoles
  | clientRoles
  | composites
  | marker
deriving DecidableEq

namespace Pass

/-- The passes, in order. -/
def all : List Pass := [.realm, .clients, .realmRoles, .clientRoles, .composites, .marker]

/-- The part of a run that makes a pass. -/
def part (blueprint : Blueprint) : Pass → Part Findings
  | .realm => realmPass blueprint.realm
  | .clients => clientPass blueprint
  | .realmRoles => realmRolePass blueprint
  | .clientRoles => clientRolePass blueprint
  | .composites => compositePass blueprint
  | .marker => markerPass blueprint.realm.name

/-- What is exchanged in a pass: a turn, or one for each item in order. -/
def Segment (blueprint : Blueprint) (isFinished : Bool) : Pass → Transcript → Prop
  | .realm => TurnOf (RealmCall blueprint.realm.name)
  | .clients =>
    GoesThrough (fun _ desired => TurnOf (ClientCall blueprint.realm.name desired.clientId))
      blueprint.clients isFinished
  | .realmRoles =>
    GoesThrough (fun _ desired => TurnOf (RealmRoleCall blueprint.realm.name desired.name))
      blueprint.realmRoles isFinished
  | .clientRoles =>
    GoesThrough (fun _ group => TurnOf (ClientRoleCall blueprint.realm.name group.1 group.2))
      blueprint.clientRoleGroups isFinished
  | .composites =>
    GoesThrough (fun _ mapping => TurnOf (CompositeCall blueprint.realm.name mapping))
      blueprint.composites isFinished
  | .marker => TurnOf (MarkerCall blueprint.realm.name)

end Pass

/-! ## Identifiers that are known -/

variable {realm clientId client : String} {earlier more : Transcript}

theorem Answered.append {id : String} (answered : Answered realm clientId id earlier) :
    Answered realm clientId id (earlier ++ more) := by
  rcases answered with ⟨record, member, isId⟩ | ⟨record, member, isClient⟩
  · exact .inl ⟨record, List.mem_append_left more member, isId⟩
  · exact .inr ⟨record, List.mem_append_left more member, isClient⟩

theorem UserOf.append {user : String} (isUser : UserOf realm client user earlier) :
    UserOf realm client user (earlier ++ more) := by
  obtain ⟨record, member, isId⟩ := isUser
  exact ⟨record, List.mem_append_left more member, isId⟩

/-! ## The passes -/

theorem turn_realmPass (desired : Blueprint.Realm) :
    Leads (realmPass desired) fun exchanges _ => TurnOf (RealmCall desired.name) exchanges := by
  refine turn_explained_bind ⟨rfl, rfl⟩ fun current => ?_
  cases current with
  | none => exact draws_explained_bind ⟨rfl, rfl⟩ fun _ => draws_pure _
  | some current =>
      dsimp only
      split
      · exact draws_pure _
      · exact draws_explained_bind ⟨rfl, current, rfl⟩ fun _ => draws_pure _

theorem draws_readRoles {owner : String} (isOwner : Answered realm managementClientId owner earlier)
    (roles : List String) (granted : ∀ role ∈ roles, role ∈ serviceAccountRoles) :
    Draws (ClientCall realm clientId) earlier (readRoles realm owner roles) := by
  induction roles generalizing earlier with
  | nil => exact draws_pure _
  | cons role rest ih =>
      obtain ⟨isGranted, others⟩ := List.forall_mem_cons.1 granted
      refine draws_explained_bind ⟨rfl, isOwner, isGranted⟩ fun found => ?_
      refine draws_expect_bind fun _ _ => ?_
      exact (ih isOwner.append others).bind fun _ _ => draws_pure _

/-- **A grant draws on the identifiers of its client, of the owner and of the user.** -/
theorem draws_grantRoles (own : Answered realm clientId client earlier) :
    Draws (ClientCall realm clientId) earlier (grantRoles realm client) := by
  refine draws_explained_bind ⟨rfl, own⟩ fun user => draws_expect_bind fun userId isUser => ?_
  have userOf : UserOf realm client userId
      (earlier ++ [⟨.getServiceAccountUser realm client, .ok user⟩]) :=
    ⟨user, List.mem_concat_self, isUser⟩
  refine draws_explained_bind ⟨rfl, ?_⟩ fun found => draws_expect_bind fun owner isFound =>
    draws_expect_bind fun ownerId isOwner => ?_
  · rw [if_neg (List.append_ne_nil_of_right_ne_nil _ (List.cons_ne_nil _ _))]
  · subst isFound
    have owns : Answered realm managementClientId ownerId
        (earlier ++ [⟨.getServiceAccountUser realm client, .ok user⟩] ++
          [⟨.findClient realm managementClientId, .ok (some owner)⟩]) :=
      .inl ⟨owner, List.mem_concat_self, isOwner⟩
    refine (draws_readRoles owns serviceAccountRoles fun _ => id).bind fun more granted => ?_
    refine draws_explained ⟨rfl, owns.append, client, ?_, userOf.append.append⟩
    exact own.append.append.append

theorem turn_convergeClient (desired : Blueprint.Client) :
    Leads (convergeClient realm desired) fun exchanges _ =>
      TurnOf (ClientCall realm desired.clientId) exchanges := by
  refine turn_explained_bind ⟨rfl, rfl⟩ fun current => ?_
  cases current with
  | none =>
      refine draws_explained_bind ⟨rfl, rfl, rfl⟩ fun client => ?_
      refine draws_grantIf (draws_grantRoles (.inr ⟨newClient desired, ?_, rfl⟩)) _ _
      exact List.mem_concat_self
  | some current =>
      dsimp only
      split
      · exact draws_throw _
      · next client isId =>
        have own : Answered realm desired.clientId client
            [⟨.findClient realm desired.clientId, .ok (some current)⟩] :=
          .inl ⟨current, List.mem_cons_self, isId⟩
        have reads : Draws (ClientCall realm desired.clientId)
            [⟨.findClient realm desired.clientId, .ok (some current)⟩]
            (secretDiffers realm client desired) := by
          unfold secretDiffers
          split
          · exact draws_pure _
          · exact draws_explained_bind ⟨rfl, own⟩ fun _ => draws_pure _
        refine reads.bind fun more rotates => ?_
        split
        · unfold rotateSecret
          split
          · exact draws_explained_bind ⟨rfl, own.append⟩ fun _ => draws_pure _
          · exact draws_pure _
        · refine draws_explained_bind ⟨rfl, own.append⟩ fun _ => ?_
          exact draws_grantIf (draws_grantRoles own.append.append) _ _

theorem turn_convergeRealmRole (desired : Blueprint.Role) :
    Leads (convergeRealmRole realm desired) fun exchanges _ =>
      TurnOf (RealmRoleCall realm desired.name) exchanges := by
  refine turn_explained_bind ⟨rfl, rfl, rfl⟩ fun current => ?_
  cases current with
  | none => exact draws_explained_bind ⟨rfl, rfl, rfl⟩ fun _ => draws_pure _
  | some current =>
      dsimp only
      split
      · exact draws_pure _
      · exact draws_explained_bind ⟨rfl, rfl, current, rfl⟩ fun _ => draws_pure _

theorem draws_convergeClientRole {roles : List Blueprint.ClientRole}
    {desired : Blueprint.ClientRole} (own : Answered realm clientId client earlier)
    (isDesired : desired ∈ roles) :
    Draws (ClientRoleCall realm clientId roles) earlier
      (convergeClientRole realm client desired) := by
  have named : desired.name ∈ roles.map (·.name) := List.mem_map_of_mem isDesired
  refine draws_explained_bind ⟨rfl, own, named⟩ fun current => ?_
  cases current with
  | none =>
      exact draws_explained_bind ⟨rfl, own.append, desired, isDesired, rfl⟩ fun _ => draws_pure _
  | some current =>
      dsimp only
      split
      · exact draws_pure _
      · exact draws_explained_bind ⟨rfl, own.append, named⟩ fun _ => draws_pure _

theorem turn_convergeClientRoles (group : String × List Blueprint.ClientRole) :
    Leads (convergeClientRoles realm group) fun exchanges _ =>
      TurnOf (ClientRoleCall realm group.1 group.2) exchanges := by
  refine turn_explained_bind ⟨rfl, rfl, rfl⟩ fun current => ?_
  split
  · exact draws_pure _
  · next client isId =>
    obtain ⟨record, rfl, isId⟩ := Option.bind_eq_some_iff.1 isId
    have own : Answered realm group.1 client [⟨.findClient realm group.1, .ok (some record)⟩] :=
      .inl ⟨record, List.mem_cons_self, isId⟩
    exact draws_forEach fun desired isDesired more => draws_convergeClientRole own.append isDesired

/-- **Roles that are resolved have been looked up** by their names in turn. -/
theorem lookedUp_resolveRoles (mapping : Blueprint.Composite) (names : List String) :
    Finds (resolveRoles realm client mapping names) fun exchanges resolved =>
      LookedUp realm client names exchanges resolved.1 := by
  induction names with
  | nil => exact finds_pure .none
  | cons name rest ih =>
      refine finds_explained_bind fun found => ih.bind fun exchanges resolved lookedUp => ?_
      cases found with
      | none =>
          refine finds_pure ?_
          rw [List.append_nil]
          exact .absent lookedUp
      | some role =>
          refine finds_pure ?_
          rw [List.append_nil]
          exact .found lookedUp

theorem draws_resolveRoles {mapping : Blueprint.Composite}
    (own : Answered realm mapping.clientId client earlier) (names : List String)
    (desired : ∀ name ∈ names, mapping.clientRoles.contains name = true) :
    Draws (CompositeCall realm mapping) earlier (resolveRoles realm client mapping names) := by
  induction names generalizing earlier with
  | nil => exact draws_pure _
  | cons name rest ih =>
      obtain ⟨isDesired, others⟩ := List.forall_mem_cons.1 desired
      refine draws_explained_bind ⟨rfl, own, isDesired⟩ fun found => ?_
      refine (ih own.append others).bind fun more resolved => ?_
      dsimp only
      split <;> exact draws_pure _

/-- A set lists its missing names in byte order. -/
theorem pairwise_missingFrom (names other : NameSet) :
    (names.missingFrom other).Pairwise (· < ·) := by
  have ascending : names.toList.Pairwise (· < ·) := List.pairwise_map.2 names.table.ascending
  exact ascending.filter _

/-- The names that are missing from a mapping. -/
theorem mem_missing_iff {desired : NameSet} {attached : List RoleRecord} {name : String} :
    name ∈ desired.missingFrom (NameSet.ofList (attached.filterMap (·.name))) ↔
      desired.contains name = true ∧ ∀ role ∈ attached, role.name ≠ some name := by
  rw [NameSet.mem_missingFrom_iff, NameSet.contains_ofList]
  refine and_congr_right fun _ => ?_
  simp only [List.contains_eq_mem, decide_eq_false_iff_not, List.mem_filterMap, not_exists, not_and]

/-- **What is attached has been looked up** by the names that are missing. -/
theorem draws_attachRoles {mapping : Blueprint.Composite} {role : RoleRecord}
    {record : ClientRecord} {attached : List RoleRecord} {missing : List String}
    (isId : record.id = some client)
    (isMissing : ∀ name, name ∈ missing ↔
      mapping.clientRoles.contains name = true ∧ ∀ role ∈ attached, role.name ≠ some name)
    (ascending : missing.Pairwise (· < ·)) :
    Draws (CompositeCall realm mapping)
      [⟨.getRealmRole realm mapping.realmRole, .ok (some role)⟩,
        ⟨.findClient realm mapping.clientId, .ok (some record)⟩,
        ⟨.getRealmRoleComposites realm mapping.realmRole client, .ok attached⟩]
      (attachRoles realm client mapping missing) := by
  have own : Answered realm mapping.clientId client
      [⟨.getRealmRole realm mapping.realmRole, .ok (some role)⟩,
        ⟨.findClient realm mapping.clientId, .ok (some record)⟩,
        ⟨.getRealmRoleComposites realm mapping.realmRole client, .ok attached⟩] :=
    .inl ⟨record, List.mem_cons_of_mem _ List.mem_cons_self, isId⟩
  have resolving := draws_resolveRoles own missing fun name member => ((isMissing name).1 member).1
  have both : Leads (resolveRoles realm client mapping missing) fun exchanges outcome =>
      Drawn _ _ exchanges ∧
        ∀ resolved, outcome = .ok resolved → LookedUp realm client missing exchanges resolved.1 :=
    fun exchanges outcome course => ⟨resolving exchanges outcome course,
      lookedUp_resolveRoles mapping missing exchanges outcome course⟩
  refine both.bind (fun _ _ stopped => stopped.1) fun asked resolved came => ?_
  obtain ⟨drawn, lookedUp⟩ := came
  dsimp only
  split
  · refine leads_pure ?_
    rw [List.append_nil]
    exact drawn
  · refine (draws_explained_bind ⟨rfl, rfl, ?_⟩ fun _ => draws_pure _).mono fun _ _ rest =>
      drawn.append rest
    exact ⟨role, record, client, attached, missing, asked, rfl, isId, isMissing, ascending,
      lookedUp resolved rfl⟩

theorem turn_convergeComposite (mapping : Blueprint.Composite) :
    Leads (convergeComposite realm mapping) fun exchanges _ =>
      TurnOf (CompositeCall realm mapping) exchanges := by
  refine turn_explained_bind ⟨rfl, rfl, rfl⟩ fun role => ?_
  cases role with
  | none => exact draws_pure _
  | some role =>
      refine draws_explained_bind ⟨rfl, rfl, role, rfl⟩ fun current => ?_
      split
      · exact draws_pure _
      · next client isId =>
        obtain ⟨record, rfl, isId⟩ := Option.bind_eq_some_iff.1 isId
        have own : Answered realm mapping.clientId client
            [⟨.getRealmRole realm mapping.realmRole, .ok (some role)⟩,
              ⟨.findClient realm mapping.clientId, .ok (some record)⟩] :=
          .inl ⟨record, List.mem_cons_of_mem _ List.mem_cons_self, isId⟩
        refine draws_explained_bind ⟨rfl, rfl, own⟩ fun attached => ?_
        dsimp only
        split
        · exact draws_pure _
        · exact draws_attachRoles isId (fun _ => mem_missing_iff) (pairwise_missingFrom _ _)

theorem turn_markerPass (realm : String) :
    Leads (markerPass realm) fun exchanges _ => TurnOf (MarkerCall realm) exchanges := by
  refine turn_explained_bind ⟨rfl, rfl⟩ fun current => ?_
  cases current with
  | none => exact draws_throw _
  | some current =>
      dsimp only
      split
      · exact draws_pure _
      · exact draws_explained_bind ⟨rfl, current, rfl⟩ fun _ => draws_pure _

/-! ## The run -/

/-- What is done for each item of a pass takes a turn for each. -/
theorem segment_forEach {α : Type} {items : List α} {part : α → Part Findings}
    {allowed : α → Transcript → AdminCall → Prop} {exchanges : Transcript}
    {outcome : Except Failure Findings}
    (each : ∀ item, Leads (part item) fun exchanges _ => TurnOf (allowed item) exchanges)
    (course : Course (forEach items part).run exchanges outcome) :
    GoesThrough (fun _ item => TurnOf (allowed item)) items outcome.isOk exchanges :=
  (goesThrough_forEach course).imp fun _ item _ piece ⟨came, _, itemCourse⟩ =>
    each item piece came itemCourse

/-- **Every pass keeps to its segment.** -/
theorem segment_of_course {blueprint : Blueprint} (pass : Pass) {exchanges : Transcript}
    {outcome : Except Failure Findings}
    (course : Course (pass.part blueprint).run exchanges outcome) :
    pass.Segment blueprint outcome.isOk exchanges := by
  cases pass with
  | realm => exact turn_realmPass blueprint.realm exchanges outcome course
  | clients => exact segment_forEach turn_convergeClient course
  | realmRoles => exact segment_forEach turn_convergeRealmRole course
  | clientRoles => exact segment_forEach turn_convergeClientRoles course
  | composites => exact segment_forEach turn_convergeComposite course
  | marker => exact turn_markerPass blueprint.realm.name exchanges outcome course

/-- All passes are made one after the other. -/
theorem passes_eq_forEach_all (blueprint : Blueprint) :
    passes blueprint = forEach Pass.all (Pass.part blueprint) :=
  passes_eq_passList blueprint

/-- **A run goes through the passes in order, and draws on what it was answered.** Whoever replies,
the exchanges are those of the six passes one after the other, up to the one in which the run stops,
if it does; a run for a blueprint that is not well-formed exchanges nothing. In a pass each item has
its turn in order. Every call below a client passes an internal identifier that the lookup or the
creation of this very client has answered earlier in the turn, every grant is for the user that was
read for that client, and what is attached are the roles that came back for the missing names of the
mapping, each looked up once and in byte order. -/
theorem apply_goes_through {blueprint : Blueprint} {exchanges : Transcript}
    {outcome : Except Failure Report} (course : Course (apply blueprint).run exchanges outcome) :
    (∃ violation, blueprint.validate = .error violation ∧
        outcome = .error (.blueprint violation) ∧ exchanges = []) ∨
      GoesThrough (fun isFinished pass => pass.Segment blueprint isFinished) Pass.all outcome.isOk
        exchanges := by
  cases checked : blueprint.validate with
  | error violation =>
      rw [apply_of_violation checked] at course
      cases course with
      | conclude => exact .inl ⟨violation, rfl, rfl, rfl⟩
  | ok _ =>
      rw [apply_of_valid checked] at course
      obtain ⟨inner, passesCourse, rfl⟩ := course_bind_pure.1 course
      rw [passes_eq_forEach_all] at passesCourse
      rw [isOk_map]
      refine .inr ((goesThrough_forEach passesCourse).imp ?_)
      rintro isFinished pass - piece ⟨came, rfl, passCourse⟩
      exact segment_of_course pass passCourse

/-- With a service that has nothing, the school goes through all passes, with a grant and an
attachment. -/
theorem apply_goes_through_school :
    ∃ exchanges outcome, Course (apply Blueprint.school).run exchanges outcome ∧
      exchanges.map (fun exchange => exchange.1.operation) =
        [.getRealm, .createRealm, .findClient, .createClient, .getServiceAccountUser, .findClient,
          .getClientRole, .getClientRole, .assignClientRoles, .getRealmRole, .createRealmRole,
          .findClient, .getClientRole, .createClientRole, .getRealmRole, .findClient,
          .getRealmRoleComposites, .getClientRole, .addRealmRoleComposites, .getRealm,
          .updateRealm] ∧
      GoesThrough (fun isFinished pass => pass.Segment Blueprint.school isFinished) Pass.all true
        exchanges := by
  have course := Dialogue.course_exchanged (Service.respond Service.Faults.none)
    (apply Blueprint.school).run {}
  obtain ⟨report, finished⟩ : ∃ report, ((apply Blueprint.school).run.run
      (Service.respond Service.Faults.none) {}).1 = .ok report := ⟨_, rfl⟩
  rw [finished] at course
  refine ⟨_, _, course, by decide +kernel, ?_⟩
  rcases apply_goes_through course with ⟨violation, -, failed, -⟩ | through
  · cases failed
  · exact through

end RealmConvergence.Convergence
