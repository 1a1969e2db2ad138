import Mathlib.Data.List.Forall2
import RealmConvergence.Blueprint.Samples
import RealmConvergence.Proofs.Convergence.Asking
import RealmConvergence.Proofs.Convergence.Leading

/-!
# Reports recount what was written

A report and the exchanges of its run are read side by side (`Recounts`). Calls that only read leave
no trace in the report, steps that changed nothing have no call, and every successful write stands
opposite the step that tells of it (`TellsOf`). Two things bend the correspondence: a new secret
that was sent along with other changes of its client has a step but no call of its own, and a grant
whose roles could not be assigned has a failed call and a skipped step.

Whoever replies, every part of a run finds what recounts its exchanges, and so does a run
(`recounted_apply`). What a reader of reports relies on follows by induction on the reading:
successful writes and steps correspond one to one (`Recounts.writes`), combined rotations follow the
step of their client (`Recounts.rotations`), and a failed write is a grant's (`Recounts.refusals`).
-/

set_option autoImplicit false

namespace RealmConvergence

open Dialogue (Course)

/-! ## Steps and exchanges -/

/-- Whether something was created or updated. -/
def Step.changes (step : Step) : Bool :=
  step.action == .created || step.action == .updated

/-- Whether a new secret was sent along with other changes of its client. -/
def Step.isCombinedRotation (step : Step) : Bool :=
  step.kind == .clientSecret && step.detail == some "rotated with field update"

/-- Whether the change was a call of its own. -/
def Step.isWrite (step : Step) : Bool :=
  step.changes && !step.isCombinedRotation

/-- Steps that changed the realm are those that created something and those that updated it. -/
theorem Report.mutationCount_eq_countP (report : Report) :
    report.mutationCount = report.steps.countP Step.changes := by
  unfold Report.mutationCount Report.count
  induction report.steps with
  | nil => rfl
  | cons step rest ih =>
      obtain ⟨kind, key, action, detail⟩ := step
      cases action <;> simp [Step.changes] at ih ⊢ <;> omega

namespace Convergence

/-- Whether a call wrote: it changes what the service holds, and succeeded. -/
def wrote (exchange : Sigma AdminCall.Reply) : Bool :=
  exchange.1.operation.isMutating && exchange.2.isOk

/-- Whether a call that would have written failed. -/
def refused (exchange : Sigma AdminCall.Reply) : Bool :=
  exchange.1.operation.isMutating && !exchange.2.isOk

variable {realm : String}

/-- A step tells of a successful call that writes. -/
inductive TellsOf (realm : String) : AdminCall → Step → Prop where
  | realmCreated {record : RealmRecord} (named : record.realm = some realm) :
      TellsOf realm (.createRealm record) ⟨.realm, realm, .created, none⟩
  | realmUpdated {record : RealmRecord} {detail : Option String} :
      TellsOf realm (.updateRealm realm record) ⟨.realm, realm, .updated, detail⟩
  | markerSet {record : RealmRecord} :
      TellsOf realm (.updateRealm realm record) ⟨.initializationFlag, realm, .updated, none⟩
  | clientCreated {record : ClientRecord} {clientId : String}
      (named : record.clientId = some clientId) :
      TellsOf realm (.createClient realm record) ⟨.client, clientId, .created, none⟩
  | clientUpdated {client clientId : String} {record : ClientRecord} {detail : Option String} :
      TellsOf realm (.updateClient realm client record) ⟨.client, clientId, .updated, detail⟩
  | secretRotated {client clientId secret : String} :
      TellsOf realm (.updateClientSecret realm client secret)
        ⟨.clientSecret, clientId, .updated, some "rotated"⟩
  | granted {user owner clientId : String} {roles : List RoleRecord} {detail : Option String} :
      TellsOf realm (.assignClientRoles realm user owner roles)
        ⟨.serviceAccountGrant, clientId, .updated, detail⟩
  | realmRoleCreated {record : RoleRecord} {role : String} (named : record.name = some role) :
      TellsOf realm (.createRealmRole realm record) ⟨.realmRole, role, .created, none⟩
  | realmRoleUpdated {record : RoleRecord} {role : String} {detail : Option String} :
      TellsOf realm (.updateRealmRole realm role record) ⟨.realmRole, role, .updated, detail⟩
  | clientRoleCreated {client clientId role : String} {record : RoleRecord}
      (named : record.name = some role) :
      TellsOf realm (.createClientRole realm client record)
        ⟨.clientRole, roleKey clientId role, .created, none⟩
  | clientRoleUpdated {client clientId role : String} {record : RoleRecord}
      {detail : Option String} :
      TellsOf realm (.updateClientRole realm client role record)
        ⟨.clientRole, roleKey clientId role, .updated, detail⟩
  | attached {mapping : Blueprint.Composite} {added : List RoleRecord} {detail : Option String} :
      TellsOf realm (.addRealmRoleComposites realm mapping.realmRole added)
        ⟨.composite, compositeKey mapping, .updated, detail⟩

theorem TellsOf.isMutating {call : AdminCall} {step : Step} (tells : TellsOf realm call step) :
    call.operation.isMutating = true := by
  cases tells <;> rfl

theorem TellsOf.isWrite {call : AdminCall} {step : Step} (tells : TellsOf realm call step) :
    step.isWrite = true := by
  cases tells <;> rfl

theorem TellsOf.not_isCombinedRotation {call : AdminCall} {step : Step}
    (tells : TellsOf realm call step) : step.isCombinedRotation = false := by
  cases tells <;> rfl

/-- A skipped step tells of a grant whose roles could not be assigned. -/
inductive TellsOfRefusal (realm : String) : Sigma AdminCall.Reply → Step → Prop where
  | ungranted {user owner clientId : String} {roles : List RoleRecord} {problem : AdminError} :
      TellsOfRefusal realm ⟨.assignClientRoles realm user owner roles, .error problem⟩
        ⟨.serviceAccountGrant, clientId, .skipped, some (GrantFailure.assign problem).message⟩

/-- Every combined rotation directly follows the step of its client, which was updated. -/
def RotationsFollow (steps : List Step) : Prop :=
  ∀ before step after, steps = before ++ step :: after → step.isCombinedRotation = true →
    step.action = .updated ∧
      ∃ earlier detail, before = earlier ++ [⟨.client, step.key, .updated, detail⟩]

/-- A step that is no combined rotation may come first. -/
theorem RotationsFollow.cons {first : Step} {rest : List Step} (follow : RotationsFollow rest)
    (notFirst : first.isCombinedRotation = false) : RotationsFollow (first :: rest) := by
  intro before step after place rotates
  cases before with
  | nil =>
      cases place
      rw [notFirst] at rotates
      cases rotates
  | cons other before =>
      rw [List.cons_append, List.cons.injEq] at place
      obtain ⟨rfl, place⟩ := place
      obtain ⟨updated, earlier, detail, rfl⟩ := follow before step after place rotates
      exact ⟨updated, first :: earlier, detail, rfl⟩

/-- The step of a client and its combined rotation may come first. -/
theorem RotationsFollow.combined {rest : List Step} (follow : RotationsFollow rest)
    (clientId : String) (detail : Option String) :
    RotationsFollow (⟨.client, clientId, .updated, detail⟩ ::
      ⟨.clientSecret, clientId, .updated, some "rotated with field update"⟩ :: rest) := by
  intro before step after place rotates
  cases before with
  | nil =>
      cases place
      cases rotates
  | cons client before =>
      rw [List.cons_append, List.cons.injEq] at place
      obtain ⟨rfl, place⟩ := place
      cases before with
      | nil =>
          cases place
          exact ⟨rfl, [], detail, rfl⟩
      | cons rotation before =>
          rw [List.cons_append, List.cons.injEq] at place
          obtain ⟨rfl, place⟩ := place
          obtain ⟨updated, earlier, told, rfl⟩ := follow before step after place rotates
          exact ⟨updated, _ :: _ :: earlier, told, rfl⟩

/-! ## Reading exchanges and steps side by side -/

/-- These steps recount these exchanges. -/
inductive Recounts (realm : String) : List (Sigma AdminCall.Reply) → List Step → Prop where
  | done : Recounts realm [] []
  /-- A call that only reads, whatever its reply, is not told. -/
  | read {exchange : Sigma AdminCall.Reply} {exchanges : List (Sigma AdminCall.Reply)}
      {steps : List Step} (reads : exchange.1.operation.isMutating = false)
      (later : Recounts realm exchanges steps) : Recounts realm (exchange :: exchanges) steps
  /-- A step that changed nothing has no call. -/
  | idle {exchanges : List (Sigma AdminCall.Reply)} {step : Step} {steps : List Step}
      (changesNot : step.changes = false) (notCombined : step.isCombinedRotation = false)
      (later : Recounts realm exchanges steps) : Recounts realm exchanges (step :: steps)
  /-- A successful write stands opposite its step. -/
  | write {call : AdminCall} {answer : call.Answer} {exchanges : List (Sigma AdminCall.Reply)}
      {step : Step} {steps : List Step} (tells : TellsOf realm call step)
      (later : Recounts realm exchanges steps) :
      Recounts realm (⟨call, .ok answer⟩ :: exchanges) (step :: steps)
  /-- A client was changed and given a new secret at once. -/
  | combined {client clientId : String} {record : ClientRecord} {detail : Option String}
      {exchanges : List (Sigma AdminCall.Reply)} {steps : List Step}
      (later : Recounts realm exchanges steps) :
      Recounts realm (⟨.updateClient realm client record, .ok ()⟩ :: exchanges)
        (⟨.client, clientId, .updated, detail⟩ ::
          ⟨.clientSecret, clientId, .updated, some "rotated with field update"⟩ :: steps)
  /-- Roles could not be assigned, and the grant was skipped. -/
  | refusal {exchange : Sigma AdminCall.Reply} {exchanges : List (Sigma AdminCall.Reply)}
      {step : Step} {steps : List Step} (tells : TellsOfRefusal realm exchange step)
      (later : Recounts realm exchanges steps) :
      Recounts realm (exchange :: exchanges) (step :: steps)

namespace Recounts

variable {exchanges others : List (Sigma AdminCall.Reply)} {steps more : List Step}

theorem append (first : Recounts realm exchanges steps) (second : Recounts realm others more) :
    Recounts realm (exchanges ++ others) (steps ++ more) := by
  induction first with
  | done => exact second
  | read reads _ ih => exact .read reads ih
  | idle changesNot notCombined _ ih => exact .idle changesNot notCombined ih
  | write tells _ ih => exact .write tells ih
  | combined _ ih => exact .combined ih
  | refusal tells _ ih => exact .refusal tells ih

/-- Calls that only read may come first. -/
theorem reads_append (reads : ∀ exchange ∈ exchanges, exchange.1.operation.isMutating = false)
    (later : Recounts realm others steps) : Recounts realm (exchanges ++ others) steps := by
  induction exchanges with
  | nil => exact later
  | cons exchange rest ih =>
      refine .read (reads exchange List.mem_cons_self) (ih fun other member => ?_)
      exact reads other (List.mem_cons_of_mem exchange member)

/-- **Successful writes and the steps that tell of them correspond one to one and in order.** -/
theorem writes (recounts : Recounts realm exchanges steps) :
    List.Forall₂ (fun exchange step => TellsOf realm exchange.1 step)
      (exchanges.filter wrote) (steps.filter Step.isWrite) := by
  induction recounts with
  | done => exact .nil
  | read reads _ ih =>
      rw [List.filter_cons_of_neg (by simp [wrote, reads])]
      exact ih
  | idle changesNot _ _ ih =>
      rw [List.filter_cons_of_neg (by simp [Step.isWrite, changesNot])]
      exact ih
  | write tells _ ih =>
      rw [List.filter_cons_of_pos (by simp [wrote, tells.isMutating, Except.isOk, Except.toBool]),
        List.filter_cons_of_pos tells.isWrite]
      exact .cons tells ih
  | combined _ ih => exact .cons .clientUpdated ih
  | refusal tells _ ih =>
      cases tells
      exact ih

/-- **A combined rotation directly follows the step of its client.** -/
theorem rotations (recounts : Recounts realm exchanges steps) : RotationsFollow steps := by
  induction recounts with
  | done =>
      intro before step after place
      cases before <;> cases place
  | read _ _ ih => exact ih
  | idle _ notCombined _ ih => exact ih.cons notCombined
  | write tells _ ih => exact ih.cons tells.not_isCombinedRotation
  | combined _ ih => exact ih.combined _ _
  | refusal tells _ ih =>
      refine ih.cons ?_
      cases tells
      rfl

/-- Every changing step is a successful write or a combined rotation. -/
theorem count (recounts : Recounts realm exchanges steps) :
    steps.countP Step.changes = exchanges.countP wrote + steps.countP Step.isCombinedRotation := by
  induction recounts with
  | done => rfl
  | read reads _ ih => simp [wrote, reads, ih]
  | idle changesNot notCombined _ ih => simp [changesNot, notCombined, ih]
  | write tells _ ih =>
      have changes := (Bool.and_eq_true_iff.1 tells.isWrite).1
      simp [wrote, tells.isMutating, Except.isOk, Except.toBool, changes,
        tells.not_isCombinedRotation, ih]
      omega
  | combined _ ih =>
      simp [wrote, AdminCall.operation, AdminOperation.isMutating, Except.isOk,
        Except.toBool, Step.changes, Step.isCombinedRotation, ih]
      omega
  | refusal tells _ ih =>
      cases tells
      simpa [wrote, Except.isOk, Except.toBool, Step.changes,
        Step.isCombinedRotation] using ih

/-- **A write that failed is a grant's, and its step was skipped.** -/
theorem refusals (recounts : Recounts realm exchanges steps) :
    ∃ skipped, skipped.Sublist steps ∧
      List.Forall₂ (TellsOfRefusal realm) (exchanges.filter refused) skipped := by
  induction recounts with
  | done => exact ⟨[], .slnil, .nil⟩
  | read reads _ ih =>
      rw [List.filter_cons_of_neg (by simp [refused, reads])]
      exact ih
  | idle _ _ _ ih =>
      obtain ⟨skipped, among, told⟩ := ih
      exact ⟨skipped, among.cons _, told⟩
  | write _ _ ih =>
      rw [List.filter_cons_of_neg (by simp [refused, Except.isOk, Except.toBool])]
      obtain ⟨skipped, among, told⟩ := ih
      exact ⟨skipped, among.cons _, told⟩
  | combined _ ih =>
      obtain ⟨skipped, among, told⟩ := ih
      exact ⟨skipped, (among.cons _).cons _, told⟩
  | refusal tells _ ih =>
      obtain ⟨skipped, among, told⟩ := ih
      cases tells
      exact ⟨_ :: skipped, among.cons_cons _, .cons .ungranted told⟩

end Recounts

/-! ## Single parts -/

section Parts

variable {client : String}

/-- The steps found recount what is exchanged. -/
def Recounted (realm : String) (exchanges : List (Sigma AdminCall.Reply)) (found : Findings) :
    Prop :=
  Recounts realm exchanges found.steps

theorem Recounted.append {early late : List (Sigma AdminCall.Reply)} {found others : Findings}
    (first : Recounted realm early found) (second : Recounted realm late others) :
    Recounted realm (early ++ late) (found ++ others) :=
  Recounts.append first second

/-- A call that only reads is followed by what recounts the rest. -/
theorem recounted_read {explain : AdminError → Failure} {call : AdminCall}
    {next : call.Answer → Part Findings} (reads : call.operation.isMutating = false)
    (goesOn : ∀ answer, Finds (next answer) (Recounted realm)) :
    Finds (explained explain call >>= next) (Recounted realm) :=
  finds_explained_bind fun answer => (goesOn answer).mono fun _ _ later => .read reads later

/-- A write and the step that tells of it. -/
theorem recounted_write {explain : AdminError → Failure} {call : AdminCall} {kind : ResourceKind}
    {key : String} {action : StepAction} {detail : Option String}
    (tells : TellsOf realm call ⟨kind, key, action, detail⟩) :
    Finds (explained explain call >>= fun _ => pure (.step kind key action detail))
      (Recounted realm) :=
  finds_explained_bind fun _ => finds_pure (.write tells .done)

/-- A step that changed nothing is all that there is to tell. -/
theorem recounted_idle {kind : ResourceKind} {key : String} {action : StepAction}
    {detail : Option String} (changesNot : (Step.mk kind key action detail).changes = false)
    (notCombined : (Step.mk kind key action detail).isCombinedRotation = false) :
    Finds (pure (.step kind key action detail) : Part Findings) (Recounted realm) :=
  finds_pure (.idle changesNot notCombined .done)

theorem recounted_realmPass (desired : Blueprint.Realm) :
    Finds (realmPass desired) (Recounted desired.name) := by
  refine recounted_read rfl fun current => ?_
  cases current with
  | none => exact recounted_write (.realmCreated rfl)
  | some current =>
      dsimp only
      split
      · exact recounted_idle rfl rfl
      · exact recounted_write .realmUpdated

/-- **A grant reads, and then either assigns the roles or is skipped.** -/
theorem recounts_grantRoles (clientId : String) :
    Leads (grantRoles realm client) fun exchanges outcome =>
      Recounts realm exchanges (grantFindings clientId outcome).steps := by
  have skipped (failure : GrantFailure) :
      Recounts realm [] (grantFindings clientId (.error failure)).steps :=
    .idle rfl rfl .done
  refine leads_explained_bind (fun _ => .read rfl (skipped _)) fun user => ?_
  refine leads_expect_bind (.read rfl (skipped _)) fun userId => ?_
  refine leads_explained_bind (fun _ => .read rfl (.read rfl (skipped _))) fun current => ?_
  refine leads_expect_bind (.read rfl (.read rfl (skipped _))) fun owner => ?_
  refine leads_expect_bind (.read rfl (.read rfl (skipped _))) fun ownerId => ?_
  have asks : Asks (fun call => call.operation.isMutating = false)
      (readRoles realm ownerId serviceAccountRoles) := asks_readRoles_of fun _ => rfl
  have reads := leads_of_asks asks
  refine reads.bind (fun exchanges failure onlyReads => ?_) fun early granted onlyReads => ?_
  · have told := Recounts.reads_append onlyReads (skipped failure)
    rw [List.append_nil] at told
    exact .read rfl (.read rfl told)
  · refine leads_explained fun reply => .read rfl (.read rfl (Recounts.reads_append onlyReads ?_))
    cases reply with
    | ok assigned => exact .write .granted .done
    | error problem => exact .refusal .ungranted .done

theorem recounted_createClient (desired : Blueprint.Client) :
    Finds (createClient realm desired) (Recounted realm) := by
  refine finds_explained_bind fun created => ?_
  refine finds_grantIf (recounts_grantRoles desired.clientId) _ ?_ fun exchanges outcome told => ?_
  · exact .write (.clientCreated rfl) .done
  · exact .write (.clientCreated rfl) told

theorem recounted_updateClient (desired : Blueprint.Client) (patch : ClientRecord)
    (rotates : Bool) :
    Finds (updateClient realm client desired patch rotates) (Recounted realm) := by
  refine finds_explained_bind fun updated => ?_
  refine finds_grantIf (recounts_grantRoles desired.clientId) _ ?_ fun exchanges outcome told => ?_
  · cases rotates with
    | false => exact .write .clientUpdated .done
    | true => exact .combined .done
  · cases rotates with
    | false => exact .write .clientUpdated told
    | true => exact .combined told

theorem recounted_rotateSecret (desired : Blueprint.Client) (rotates : Bool) :
    Finds (rotateSecret realm client desired rotates) (Recounted realm) := by
  unfold rotateSecret
  split
  · exact finds_explained_bind fun _ =>
      finds_pure (.idle rfl rfl (.write .secretRotated .done))
  · exact recounted_idle rfl rfl

/-- Whether the secret differs is found out by reading. -/
theorem recounted_secretDiffers_bind {desired : Blueprint.Client} {next : Bool → Part Findings}
    (goesOn : ∀ rotates, Finds (next rotates) (Recounted realm)) :
    Finds (secretDiffers realm client desired >>= next) (Recounted realm) := by
  unfold secretDiffers
  split
  · exact goesOn false
  · rw [bind_assoc]
    exact recounted_read rfl fun stored => goesOn _

theorem recounted_convergeClient (desired : Blueprint.Client) :
    Finds (convergeClient realm desired) (Recounted realm) := by
  refine recounted_read rfl fun current => ?_
  cases current with
  | none => exact recounted_createClient desired
  | some current =>
      dsimp only
      split
      · exact finds_throw
      · refine recounted_secretDiffers_bind fun rotates => ?_
        split
        · exact recounted_rotateSecret desired rotates
        · exact recounted_updateClient desired _ rotates

theorem recounted_convergeRealmRole (desired : Blueprint.Role) :
    Finds (convergeRealmRole realm desired) (Recounted realm) := by
  refine recounted_read rfl fun current => ?_
  cases current with
  | none => exact recounted_write (.realmRoleCreated rfl)
  | some current =>
      dsimp only
      split
      · exact recounted_idle rfl rfl
      · exact recounted_write .realmRoleUpdated

theorem recounted_convergeClientRole (desired : Blueprint.ClientRole) :
    Finds (convergeClientRole realm client desired) (Recounted realm) := by
  refine recounted_read rfl fun current => ?_
  cases current with
  | none => exact recounted_write (.clientRoleCreated rfl)
  | some current =>
      dsimp only
      split
      · exact recounted_idle rfl rfl
      · exact recounted_write .clientRoleUpdated

/-- Roles of a client that is absent are skipped without a call. -/
theorem recounts_skippedRoles (clientId : String) (roles : List Blueprint.ClientRole) :
    Recounted realm [] (skippedRoles clientId roles) := by
  show Recounts realm [] ([] ++ (roles.map _).flatMap _)
  rw [List.nil_append]
  induction roles with
  | nil => exact .done
  | cons role rest ih => exact .idle rfl rfl ih

theorem recounted_convergeClientRoles (group : String × List Blueprint.ClientRole) :
    Finds (convergeClientRoles realm group) (Recounted realm) := by
  refine recounted_read rfl fun current => ?_
  split
  · exact finds_pure (recounts_skippedRoles _ _)
  · exact finds_forEach .done (fun _ _ _ _ => Recounted.append)
      fun role _ => recounted_convergeClientRole role

/-- Resolving roles reads, and finds no steps. -/
theorem recounted_resolveRoles_bind {mapping : Blueprint.Composite} {names : List String}
    {next : List RoleRecord × Findings → Part Findings}
    (goesOn : ∀ resolved : List RoleRecord × Findings, resolved.2.steps = [] →
      Finds (next resolved) (Recounted realm)) :
    Finds (resolveRoles realm client mapping names >>= next) (Recounted realm) := by
  induction names generalizing next with
  | nil => exact goesOn ([], {}) rfl
  | cons name rest ih =>
      rw [resolveRoles, bind_assoc]
      refine recounted_read rfl fun found => ?_
      rw [bind_assoc]
      refine ih fun others noSteps => ?_
      cases found with
      | none => exact goesOn _ noSteps
      | some role => exact goesOn _ noSteps

theorem recounted_convergeComposite (mapping : Blueprint.Composite) :
    Finds (convergeComposite realm mapping) (Recounted realm) := by
  refine recounted_read rfl fun role => ?_
  dsimp only
  split
  · exact finds_pure (.idle rfl rfl .done)
  refine recounted_read rfl fun current => ?_
  split
  · exact finds_pure (.idle rfl rfl .done)
  refine recounted_read rfl fun attached => ?_
  split
  · exact recounted_idle rfl rfl
  refine recounted_resolveRoles_bind fun resolved noSteps => ?_
  dsimp only
  split
  · refine finds_pure ?_
    rw [Recounted, Findings.steps_append, noSteps]
    exact .idle rfl rfl .done
  · refine finds_explained_bind fun added => finds_pure ?_
    rw [Recounted, Findings.steps_append, noSteps]
    exact .write .attached .done

theorem recounted_markerPass : Finds (markerPass realm) (Recounted realm) := by
  refine recounted_read rfl fun current => ?_
  cases current with
  | none => exact finds_throw
  | some current =>
      dsimp only
      split
      · exact recounted_idle rfl rfl
      · exact recounted_write .markerSet

end Parts

/-! ## Whole runs -/

/-- **Whoever replies, what the passes find recounts what was exchanged.** -/
theorem recounted_passes (blueprint : Blueprint) :
    Finds (passes blueprint) (Recounted blueprint.realm.name) := by
  have appends (early late : List (Sigma AdminCall.Reply)) (found others : Findings)
      (first : Recounted blueprint.realm.name early found)
      (second : Recounted blueprint.realm.name late others) :=
    first.append second
  refine (recounted_realmPass blueprint.realm).bind fun _ _ realm => ?_
  refine (finds_forEach .done appends
    fun client _ => recounted_convergeClient client).bind fun _ _ clients => ?_
  refine (finds_forEach .done appends
    fun role _ => recounted_convergeRealmRole role).bind fun _ _ realmRoles => ?_
  refine (finds_forEach .done appends
    fun group _ => recounted_convergeClientRoles group).bind fun _ _ clientRoles => ?_
  refine (finds_forEach .done appends
    fun mapping _ => recounted_convergeComposite mapping).bind fun _ _ composites => ?_
  refine recounted_markerPass.bind fun _ _ marker => finds_pure ?_
  have all := ((((realm.append clients).append realmRoles).append clientRoles).append
    composites).append marker
  simpa only [List.append_assoc, List.append_nil] using all

/-- The report of a run recounts what was exchanged. -/
theorem recounts_apply (blueprint : Blueprint) :
    Finds (apply blueprint) fun exchanges report =>
      Recounts blueprint.realm.name exchanges report.steps := by
  unfold apply
  split
  · exact finds_throw
  · refine (recounted_passes blueprint).bind fun exchanges found told => finds_pure ?_
    rw [List.append_nil]
    exact told

/-- **The report tells the truth about writes.** After a run that came to a report, whatever
operations were told to fail, the calls of the run that wrote correspond one to one and in order to
the steps that created or updated something, but for combined rotations, each of which directly
follows the step of its client. So the steps that changed something are as many as the calls that
wrote and the combined rotations together. Calls that would have written and failed are those of
grants that were skipped, one step for each and in order. -/
theorem apply_recounts (service : Service) (blueprint : Blueprint) (faults : Service.Faults)
    {report : Report}
    (finished : ({ service with faults }.talk (apply blueprint).run).1 = .ok report) :
    let exchanges := Service.exchanges { service with faults } (apply blueprint).run
    ({ service with faults }.talk (apply blueprint).run).2.calls =
        service.calls ++ exchanges.map Sigma.fst ∧
      List.Forall₂ (fun exchange step => TellsOf blueprint.realm.name exchange.1 step)
        (exchanges.filter wrote) (report.steps.filter Step.isWrite) ∧
      RotationsFollow report.steps ∧
      report.mutationCount =
        exchanges.countP wrote + report.steps.countP Step.isCombinedRotation ∧
      ∃ skipped, skipped.Sublist report.steps ∧
        List.Forall₂ (TellsOfRefusal blueprint.realm.name) (exchanges.filter refused) skipped := by
  intro exchanges
  have course := Dialogue.course_exchanged Service.answer (apply blueprint).run
    { service with faults }
  have recounts : Recounts blueprint.realm.name exchanges report.steps :=
    recounts_apply blueprint _ _ course report finished
  refine ⟨Service.talk_calls_eq_exchanges _ _, recounts.writes, recounts.rotations, ?_,
    recounts.refusals⟩
  rw [report.mutationCount_eq_countP]
  exact recounts.count

/-- A service on which the school's client has another secret and no service account. -/
def outdatedSchool : Service :=
  { store := (({} : Service.Store).prepare (.realm "school" true ∅)).prepare
      (.client "school" { clientId := some "reporting", secret := some "old" }) }

/-- The school, with a secret for its client. -/
def schoolWithSecret : Blueprint :=
  { Blueprint.school with
    clients := [{ clientId := "reporting", serviceAccount := true, secret := some "new" }] }

/-- On a service where the client is outdated and roles cannot be assigned, five calls write, one of
them changes the client and gives it its new secret at once, and one grant is skipped. -/
theorem apply_recounts_outdated :
    let faults : Service.Faults := fun operation =>
      if operation = .assignClientRoles then some (.api 500 "down") else none
    let exchanges := Service.exchanges { outdatedSchool with faults }
      (apply schoolWithSecret).run
    ∃ report,
      ({ outdatedSchool with faults }.talk (apply schoolWithSecret).run).1 = .ok report ∧
      report.steps.countP Step.isCombinedRotation = 1 ∧ exchanges.countP wrote = 5 ∧
      exchanges.countP refused = 1 ∧ report.mutationCount = 6 ∧
      RotationsFollow report.steps := by
  intro faults exchanges
  have told : ({ outdatedSchool with faults }.talk (apply schoolWithSecret).run).1.map
      (fun report : Report => report.steps.countP Step.isCombinedRotation) = .ok 1 := by
    decide +kernel
  have wrote : exchanges.countP wrote = 5 := by decide +kernel
  have refused : exchanges.countP refused = 1 := by decide +kernel
  obtain ⟨report, finished, once⟩ := exists_of_map_eq_ok told
  obtain ⟨-, -, follow, count, -⟩ :=
    apply_recounts outdatedSchool schoolWithSecret faults finished
  refine ⟨report, finished, once, wrote, refused, ?_, follow⟩
  rw [count, once, wrote]

end Convergence

end RealmConvergence
