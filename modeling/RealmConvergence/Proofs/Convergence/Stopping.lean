import RealmConvergence.Blueprint.Samples
import RealmConvergence.Proofs.Convergence.Accounting

/-!
# Runs stop at failures

Whoever replies, every part of a run stops at a failed call outside of grants and nowhere else, but
for two reasons (`Contradicted`): the second pass finds a client without an internal identifier, or
the realm is absent in the last pass. So whole runs stop at failures, except within grants
(`apply_stops`).
-/

set_option autoImplicit false

namespace RealmConvergence.Convergence

open Dialogue (Course)

variable {realm client : String} {blueprint : Blueprint}

/-! ## Passes -/

section Passes

variable {why : Reason}

theorem stops_realmPass (desired : Blueprint.Realm) : Stops realm why (realmPass desired) := by
  refine stops_explained_bind rfl fun current => ?_
  cases current with
  | none => exact stops_explained_bind rfl fun _ => stops_pure rfl
  | some current =>
      dsimp only
      split
      · exact stops_pure rfl
      · exact stops_explained_bind rfl fun _ => stops_pure rfl

theorem stops_createClient (desired : Blueprint.Client) :
    Stops realm why (createClient realm desired) :=
  stops_explained_bind rfl fun _ => stops_grantIf _ _ rfl

theorem stops_updateClient (desired : Blueprint.Client) (patch : ClientRecord) (rotates : Bool) :
    Stops realm why (updateClient realm client desired patch rotates) := by
  refine stops_explained_bind rfl fun _ => stops_grantIf _ _ ?_
  cases rotates <;> rfl

theorem stops_rotateSecret (desired : Blueprint.Client) (rotates : Bool) :
    Stops realm why (rotateSecret realm client desired rotates) := by
  unfold rotateSecret
  split
  · exact stops_explained_bind rfl fun _ => stops_pure rfl
  · exact stops_pure rfl

/-- Asking for the secret stops as what follows it. -/
theorem stops_secretDiffers_bind {desired : Blueprint.Client} {next : Bool → Part Findings}
    (goesOn : ∀ (why : Reason) rotates, Stops realm why (next rotates)) :
    Stops realm why (secretDiffers realm client desired >>= next) := by
  unfold secretDiffers
  split
  · exact goesOn why false
  · rw [bind_assoc]
    exact stops_explained_bind rfl fun stored => goesOn _ _

/-- A client that is found without an internal identifier may be a reason to stop. -/
theorem stops_convergeClient {desired : Blueprint.Client}
    (withoutId : ∀ record : ClientRecord, record.id = none →
      why [⟨.findClient realm desired.clientId, .ok (some record)⟩]
        (.clientWithoutId desired.clientId)) :
    Stops realm why (convergeClient realm desired) := by
  refine stops_explained_bind rfl fun current => ?_
  cases current with
  | none => exact stops_createClient desired
  | some current =>
      dsimp only
      split
      · next missing => exact stops_throw (withoutId current missing)
      · refine stops_secretDiffers_bind fun why rotates => ?_
        split
        · exact stops_rotateSecret desired rotates
        · exact stops_updateClient desired _ rotates

theorem stops_convergeRealmRole (desired : Blueprint.Role) :
    Stops realm why (convergeRealmRole realm desired) := by
  refine stops_explained_bind rfl fun current => ?_
  cases current with
  | none => exact stops_explained_bind rfl fun _ => stops_pure rfl
  | some current =>
      dsimp only
      split
      · exact stops_pure rfl
      · exact stops_explained_bind rfl fun _ => stops_pure rfl

theorem stops_convergeClientRole (desired : Blueprint.ClientRole) :
    Stops realm why (convergeClientRole realm client desired) := by
  refine stops_explained_bind rfl fun current => ?_
  cases current with
  | none => exact stops_explained_bind rfl fun _ => stops_pure rfl
  | some current =>
      dsimp only
      split
      · exact stops_pure rfl
      · exact stops_explained_bind rfl fun _ => stops_pure rfl

/-- Skipped roles tell nothing about grants. -/
theorem grantSteps_skippedRoles (clientId : String) (roles : List Blueprint.ClientRole) :
    grantSteps (skippedRoles clientId roles) = [] := by
  refine List.filter_eq_nil_iff.2 fun step member => ?_
  simp only [skippedRoles, Findings.warning, Findings.join, Findings.step, Findings.steps_append,
    List.nil_append, List.flatMap_map, List.mem_flatMap, List.mem_singleton] at member
  obtain ⟨role, -, rfl⟩ := member
  show ¬(ResourceKind.clientRole == .serviceAccountGrant) = true
  decide

theorem stops_convergeClientRoles (group : String × List Blueprint.ClientRole) :
    Stops realm why (convergeClientRoles realm group) := by
  refine stops_explained_bind rfl fun current => ?_
  split
  · exact stops_pure (grantSteps_skippedRoles _ _)
  · exact stops_forEach fun _ desired _ _ _ _ _ => stops_convergeClientRole desired

/-- Resolving roles stops as what follows it, and tells nothing about grants. -/
theorem stops_resolveRoles_bind {mapping : Blueprint.Composite} {names : List String}
    {next : List RoleRecord × Findings → Part Findings}
    (goesOn : ∀ (why : Reason) resolved, grantSteps resolved.2 = [] →
      Stops realm why (next resolved)) :
    Stops realm why (resolveRoles realm client mapping names >>= next) := by
  induction names generalizing why next with
  | nil => exact goesOn why ([], {}) rfl
  | cons name rest ih =>
      rw [resolveRoles, bind_assoc]
      refine stops_explained_bind rfl fun found => ?_
      rw [bind_assoc]
      refine ih fun why others quiet => ?_
      cases found with
      | none => exact goesOn why _ ((grantSteps_append _ _).trans quiet)
      | some role => exact goesOn why _ quiet

theorem stops_convergeComposite (mapping : Blueprint.Composite) :
    Stops realm why (convergeComposite realm mapping) := by
  refine stops_explained_bind rfl fun role => ?_
  dsimp only
  split
  · exact stops_pure rfl
  refine stops_explained_bind rfl fun current => ?_
  split
  · exact stops_pure rfl
  refine stops_explained_bind rfl fun attached => ?_
  split
  · exact stops_pure rfl
  refine stops_resolveRoles_bind fun why resolved quiet => ?_
  dsimp only
  split
  · refine stops_pure ?_
    rw [grantSteps_append, quiet]
    rfl
  · refine stops_explained_bind rfl fun _ => stops_pure ?_
    rw [grantSteps_append, quiet]
    rfl

/-- A realm that is absent in the last pass may be a reason to stop. -/
theorem stops_markerPass (gone : why [⟨.getRealm realm, .ok none⟩] (.realmGone realm)) :
    Stops realm why (markerPass realm) := by
  refine stops_explained_bind rfl fun current => ?_
  cases current with
  | none => exact stops_throw gone
  | some current =>
      dsimp only
      split
      · exact stops_pure rfl
      · exact stops_explained_bind rfl fun _ => stops_pure rfl

end Passes

/-! ## Whole runs -/

/-- Why a run may stop although no call failed. -/
inductive Contradicted (blueprint : Blueprint) : Reason where
  /-- The second pass finds a client that has no internal identifier, after the first pass and the
  clients listed before came to their ends. -/
  | clientWithoutId {done rest : List Blueprint.Client} {desired : Blueprint.Client}
      {before : List (Sigma AdminCall.Reply)} {found : Findings} {record : ClientRecord}
      (listed : blueprint.clients = done ++ desired :: rest)
      (earlier : Course (followedBy (realmPass blueprint.realm)
        (forEach done (convergeClient blueprint.realm.name))).run before (.ok found))
      (missing : record.id = none) :
      Contradicted blueprint
        (before ++ [⟨.findClient blueprint.realm.name desired.clientId, .ok (some record)⟩])
        (.clientWithoutId desired.clientId)
  /-- The realm is absent in the last pass, after the earlier passes came to their ends. -/
  | realmGone {before : List (Sigma AdminCall.Reply)} {found : Findings}
      (earlier : Course (earlierPasses blueprint).run before (.ok found)) :
      Contradicted blueprint (before ++ [⟨.getRealm blueprint.realm.name, .ok none⟩])
        (.realmGone blueprint.realm.name)

theorem earlierPasses_eq_followedBy (blueprint : Blueprint) :
    earlierPasses blueprint =
      followedBy (followedBy (followedBy (followedBy (realmPass blueprint.realm)
        (clientPass blueprint)) (realmRolePass blueprint)) (clientRolePass blueprint))
          (compositePass blueprint) := by
  simp only [earlierPasses, followedBy, bind_assoc, pure_bind]
  rfl

theorem stops_earlierPasses (blueprint : Blueprint) :
    Stops blueprint.realm.name (Contradicted blueprint) (earlierPasses blueprint) := by
  rw [earlierPasses_eq_followedBy]
  refine Stops.followedBy (Stops.followedBy (Stops.followedBy
    (Stops.followedBy (stops_realmPass _) ?clients) ?realmRoles) ?clientRoles) ?composites
  case clients =>
    intro early found course
    refine stops_forEach fun done desired rest listed between more onward => ?_
    refine stops_convergeClient fun record missing => ?_
    have stopped := Contradicted.clientWithoutId listed (course_followedBy_ok course onward) missing
    exact List.append_assoc _ _ _ ▸ stopped
  case realmRoles =>
    exact fun _ _ _ => stops_forEach fun _ desired _ _ _ _ _ => stops_convergeRealmRole desired
  case clientRoles =>
    exact fun _ _ _ => stops_forEach fun _ group _ _ _ _ _ => stops_convergeClientRoles group
  case composites =>
    exact fun _ _ _ => stops_forEach fun _ mapping _ _ _ _ _ => stops_convergeComposite mapping

/-- All passes stop at failed calls alone, or where they are contradicted. -/
theorem stops_passes (blueprint : Blueprint) :
    Stops blueprint.realm.name (Contradicted blueprint) (passes blueprint) := by
  rw [passes_eq_earlierPasses]
  exact (stops_earlierPasses blueprint).followedBy fun early found earlier =>
    stops_markerPass (.realmGone earlier)

/-- The report that findings make. -/
def reportOf (blueprint : Blueprint) (found : Findings) : Report :=
  { realm := blueprint.realm.name, findings := found, finished := true }

/-- **Runs stop at failures, except within grants.** Whoever replies, a run for a blueprint that is
not well-formed makes no call and fails with the violation. Every other run falls, in one way only,
into calls outside of grants and grants that take their courses. A failed call outside of grants is
the last one, and the run fails with its problem. However a grant goes, the run goes on and ends as
it would have otherwise, up to what is found out about this grant: a failed grant is one warning and
one skipped step. The only other reasons to fail are a client without an internal identifier in the
second pass and a realm that is absent in the last. -/
theorem apply_stops {exchanges : List (Sigma AdminCall.Reply)} {outcome : Except Failure Report}
    (course : Course (apply blueprint).run exchanges outcome) :
    match blueprint.validate with
    | .error violation => exchanges = [] ∧ outcome = .error (.blueprint violation)
    | .ok () => ∃ events : List (Event blueprint.realm.name), exchanges = exchangesOf events ∧
        Accounts (apply blueprint).run (reportOf blueprint) (Contradicted blueprint) events
          outcome ∧
        (∀ went failure, .grant went ∈ events → went.outcome = .error failure →
          went.findings = missedGrant went.clientId failure) ∧
        ∀ others : List (Event blueprint.realm.name), exchanges = exchangesOf others →
          OutsideGrants others → others.map Event.exchanges = events.map Event.exchanges := by
  cases checked : blueprint.validate with
  | error violation =>
      rw [apply_of_violation checked] at course
      cases course with
      | conclude => exact ⟨rfl, rfl⟩
  | ok _ =>
      rw [apply_of_valid checked] at course ⊢
      obtain ⟨inner, innerCourse, rfl⟩ := course_bind_pure.1 course
      obtain ⟨events, rfl, accounts⟩ := stops_passes blueprint exchanges inner innerCourse
      exact ⟨events, rfl, accounts.told, fun _ _ _ failed => findings_of_failed failed,
        fun _ same outside => (exchangesOf_inj accounts.outside outside same).symm⟩

/-- On a new service that cannot assign roles, a run for the school comes to a report with one
warning and one skipped step. -/
theorem apply_stops_school :
    ∃ (exchanges : List (Sigma AdminCall.Reply)) (report : Report),
      Course (apply Blueprint.school).run exchanges (.ok report) ∧
      report.warnings.length = 1 ∧ report.count .skipped = 1 ∧
      ∃ events : List (Event "school"), exchanges = exchangesOf events ∧
        Accounts (apply Blueprint.school).run (reportOf Blueprint.school)
          (Contradicted Blueprint.school) events (.ok report) ∧
        (∀ went failure, .grant went ∈ events → went.outcome = .error failure →
          went.findings = missedGrant went.clientId failure) ∧
        ∀ others : List (Event "school"), exchanges = exchangesOf others →
          OutsideGrants others → others.map Event.exchanges = events.map Event.exchanges := by
  let faults : Service.Faults := fun operation =>
    if operation = .assignClientRoles then some (.api 500 "down") else none
  have told : ((apply Blueprint.school).run.run (Service.respond faults) {}).1.map
      (fun report => (report.warnings.length, report.count .skipped)) = .ok (1, 1) := by rfl
  obtain ⟨exchanges, course⟩ :=
    Dialogue.course_of_run (Service.respond faults) (apply Blueprint.school).run {}
  generalize ((apply Blueprint.school).run.run (Service.respond faults) {}).1 = outcome
    at told course
  cases outcome with
  | error failure => cases told
  | ok report =>
      obtain ⟨warned, skipped⟩ := Prod.mk.inj (Except.ok.inj told)
      exact ⟨exchanges, report, course, warned, skipped, apply_stops course⟩

end RealmConvergence.Convergence
