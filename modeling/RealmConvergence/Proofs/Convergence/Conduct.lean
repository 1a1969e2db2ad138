import RealmConvergence.Convergence.Run
import RealmConvergence.Proofs.Service.Reachable

/-!
# How a part of a run is conducted

Three judgements on parts of runs, each with one rule for every way to build a part.

**Asking.** `Asks kind part`: whatever is replied, the part makes only calls of this kind. Nothing
is said about who replies.

**Reaching.** `Reaches faults part store goal`: with a service that holds the store and has these
faults, the part comes to an outcome and a store that meet the goal.

**Resting.** `Rests faults part store goal`: with such a service the part makes no call that writes,
so the store stays (`Rests.run_store`), and its outcome meets the goal.

With the replies left open, a course of two parts is one of the first, and one of the second if the
first came to its end (`course_bind`, `course_followedBy`).
-/

set_option autoImplicit false

namespace RealmConvergence.Convergence

open Service (Faults Store respond respond_of_faulty respond_of_faultless)

variable {ε α β : Type}

/-! ## Parts as dialogues -/

/-- What follows a part: the next one after a value, nothing after a failure. -/
def afterOutcome (next : α → ExceptT ε Talk β) : Except ε α → Talk (Except ε β)
  | .ok value => (next value).run
  | .error failure => .conclude (.error failure)

theorem run_bind (part : ExceptT ε Talk α) (next : α → ExceptT ε Talk β) :
    (part >>= next).run = part.run.andThen (afterOutcome next) := rfl

/-- A value made of the value of a part. -/
theorem run_bind_pure (part : ExceptT ε Talk α) (finish : α → β) :
    (part >>= fun value => pure (finish value)).run =
      part.run.andThen fun outcome => .conclude (outcome.map finish) := by
  rw [run_bind]
  congr 1
  funext outcome
  cases outcome <;> rfl

/-- A call whose failure is explained. The attempts of passes and of grants are such calls by
definition, so what holds of these calls holds of attempts as they stand. -/
def explained (explain : AdminError → ε) (call : AdminCall) : ExceptT ε Talk call.Answer :=
  ExceptT.mk <| .ask call fun reply => .conclude (reply.mapError explain)

/-- Findings that a tolerated grant is appended to. -/
theorem run_tolerate_grant (realm client clientId : String) (found : Findings) :
    (tolerate (grantToServiceAccount realm client clientId) >>= fun granted =>
        pure (found ++ granted) : Part Findings).run =
      (grantRoles realm client).run.andThen fun outcome =>
        .conclude (.ok (found ++ grantFindings clientId outcome)) := by
  rw [run_bind_pure]
  show (((grantRoles realm client).run.andThen fun outcome =>
    .conclude (grantFindings clientId outcome)).andThen fun granted =>
      .conclude (Except.ok granted)).andThen _ = _
  rw [Dialogue.andThen_assoc, Dialogue.andThen_assoc]
  rfl

theorem findings_append_assoc (first second third : Findings) :
    first ++ second ++ third = first ++ (second ++ third) := by
  show Findings.mk (first.steps ++ second.steps ++ third.steps)
    (first.warnings ++ second.warnings ++ third.warnings) = _
  rw [List.append_assoc, List.append_assoc]
  rfl

theorem findings_append_empty (found : Findings) : found ++ {} = found := by
  show Findings.mk _ _ = found
  rw [List.append_nil, List.append_nil]

/-- Two parts, and the findings of both. -/
def followedBy (first rest : Part Findings) : Part Findings := do
  let found ← first
  let others ← rest
  pure (found ++ others)

/-- A run for a blueprint without a violation is that of its passes. -/
theorem apply_of_valid {blueprint : Blueprint} (valid : blueprint.validate = .ok ()) :
    apply blueprint = passes blueprint >>= fun findings =>
      pure { realm := blueprint.realm.name, findings, finished := true } := by
  unfold apply
  rw [valid]

theorem apply_of_violation {blueprint : Blueprint} {violation : Blueprint.Violation}
    (invalid : blueprint.validate = .error violation) :
    apply blueprint = throw (.blueprint violation) := by
  unfold apply
  rw [invalid]

/-! ## Asking -/

/-- Whatever is replied, the part makes only calls of this kind. -/
def Asks (kind : AdminCall → Prop) (part : ExceptT ε Talk α) : Prop :=
  part.run.AsksOnly kind

section Asks

variable {kind : AdminCall → Prop}

theorem asks_pure (value : α) : Asks kind (pure value : ExceptT ε Talk α) := trivial

theorem asks_throw (failure : ε) : Asks kind (throw failure : ExceptT ε Talk α) := trivial

theorem asks_explained {explain : AdminError → ε} {call : AdminCall} (isKind : kind call) :
    Asks kind (explained explain call) :=
  ⟨isKind, fun _ => trivial⟩

theorem Asks.mono {wider : AdminCall → Prop} {part : ExceptT ε Talk α} (asks : Asks kind part)
    (wide : ∀ call, kind call → wider call) : Asks wider part :=
  Dialogue.AsksOnly.mono wide asks

theorem Asks.bind {part : ExceptT ε Talk α} {next : α → ExceptT ε Talk β}
    (first : Asks kind part) (later : ∀ value, Asks kind (next value)) :
    Asks kind (part >>= next) := by
  unfold Asks
  rw [run_bind]
  refine Dialogue.AsksOnly.andThen first fun outcome => ?_
  cases outcome with
  | ok value => exact later value
  | error failure => trivial

theorem asks_forEach {items : List α} {part : α → Part Findings}
    (each : ∀ item ∈ items, Asks kind (part item)) : Asks kind (forEach items part) := by
  induction items with
  | nil => exact asks_pure _
  | cons item rest ih =>
      refine (each item List.mem_cons_self).bind fun found => ?_
      refine (ih fun other member => each other (List.mem_cons_of_mem _ member)).bind fun _ => ?_
      exact asks_pure _

theorem asks_tolerate {talk : Talk α} (only : talk.AsksOnly kind) : Asks kind (tolerate talk) :=
  Dialogue.AsksOnly.andThen only fun _ => trivial

theorem asks_expect {failure : GrantFailure} (value : Option α) :
    Asks kind (expect failure value) := by
  cases value <;> trivial

end Asks

/-! ## Courses of parts -/

section Courses

variable {exchanges : List (Sigma AdminCall.Reply)}

theorem course_pure {value : α} {outcome : Except ε α}
    (course : Dialogue.Course (pure value : ExceptT ε Talk α).run exchanges outcome) :
    exchanges = [] ∧ outcome = .ok value := by
  cases course with
  | conclude => exact ⟨rfl, rfl⟩

/-- A course of a part and the next one is one of the part alone, if that fails, and otherwise one
of each. -/
theorem course_bind {part : ExceptT ε Talk α} {next : α → ExceptT ε Talk β}
    {outcome : Except ε β} (course : Dialogue.Course (part >>= next).run exchanges outcome) :
    (∃ failure, Dialogue.Course part.run exchanges (.error failure) ∧ outcome = .error failure) ∨
      ∃ first value second, Dialogue.Course part.run first (.ok value) ∧
        Dialogue.Course (next value).run second outcome ∧ exchanges = first ++ second := by
  rw [run_bind] at course
  obtain ⟨first, between, second, firstCourse, secondCourse, rfl⟩ :=
    Dialogue.course_of_andThen course
  cases between with
  | ok value => exact .inr ⟨first, value, second, firstCourse, secondCourse, rfl⟩
  | error failure =>
      cases secondCourse with
      | conclude => exact .inl ⟨failure, (List.append_nil first).symm ▸ firstCourse, rfl⟩

/-- A course that begins with a call ends there if it fails, and goes on with its answer if not. -/
theorem course_explained_bind {explain : AdminError → ε} {call : AdminCall}
    {next : call.Answer → ExceptT ε Talk β} {outcome : Except ε β}
    (course : Dialogue.Course (explained explain call >>= next).run exchanges outcome) :
    (∃ problem, exchanges = [⟨call, .error problem⟩] ∧ outcome = .error (explain problem)) ∨
      ∃ answer rest, exchanges = ⟨call, .ok answer⟩ :: rest ∧
        Dialogue.Course (next answer).run rest outcome := by
  cases course with
  | ask reply later =>
      cases reply with
      | ok answer => exact .inr ⟨answer, _, rfl, later⟩
      | error problem =>
          cases later with
          | conclude => exact .inl ⟨problem, rfl, rfl⟩

theorem course_bind_ok {part : ExceptT ε Talk α} {next : α → ExceptT ε Talk β}
    {first second : List (Sigma AdminCall.Reply)} {value : α} {outcome : Except ε β}
    (firstCourse : Dialogue.Course part.run first (.ok value))
    (secondCourse : Dialogue.Course (next value).run second outcome) :
    Dialogue.Course (part >>= next).run (first ++ second) outcome :=
  Dialogue.Course.andThen firstCourse secondCourse

theorem course_bind_error {part : ExceptT ε Talk α} {next : α → ExceptT ε Talk β} {failure : ε}
    (course : Dialogue.Course part.run exchanges (.error failure)) :
    Dialogue.Course (part >>= next).run exchanges (.error failure) := by
  have stops : Dialogue.Course (afterOutcome next (.error failure)) [] (.error failure) :=
    .conclude _
  exact List.append_nil exchanges ▸ course.andThen stops

theorem course_explained_bind_ok {explain : AdminError → ε} {call : AdminCall}
    {next : call.Answer → ExceptT ε Talk β} {answer : call.Answer} {outcome : Except ε β}
    (course : Dialogue.Course (next answer).run exchanges outcome) :
    Dialogue.Course (explained explain call >>= next).run (⟨call, .ok answer⟩ :: exchanges)
      outcome := by
  apply Dialogue.Course.ask
  exact course

/-- A value made of the value of a part adds nothing to its courses. -/
theorem course_bind_pure {part : ExceptT ε Talk α} {finish : α → β} {outcome : Except ε β} :
    Dialogue.Course (part >>= fun value => pure (finish value)).run exchanges outcome ↔
      ∃ inner, Dialogue.Course part.run exchanges inner ∧ outcome = inner.map finish := by
  rw [run_bind_pure]
  constructor
  · intro course
    obtain ⟨first, inner, second, firstCourse, secondCourse, rfl⟩ :=
      Dialogue.course_of_andThen course
    cases secondCourse with
    | conclude => exact ⟨inner, (List.append_nil first).symm ▸ firstCourse, rfl⟩
  · rintro ⟨inner, course, rfl⟩
    exact List.append_nil exchanges ▸ course.andThen (.conclude (inner.map finish))

/-- A course of two parts is one of the first alone, if that fails, and otherwise one of each. -/
theorem course_followedBy {first rest : Part Findings} {outcome : Except Failure Findings}
    (course : Dialogue.Course (followedBy first rest).run exchanges outcome) :
    (∃ failure, Dialogue.Course first.run exchanges (.error failure) ∧
        outcome = .error failure) ∨
      ∃ early found late others, Dialogue.Course first.run early (.ok found) ∧
        Dialogue.Course rest.run late others ∧ exchanges = early ++ late ∧
          outcome = others.map (found ++ ·) := by
  rcases course_bind course with stopped | ⟨early, found, late, firstCourse, onward, rfl⟩
  · exact .inl stopped
  · obtain ⟨others, restCourse, rfl⟩ := course_bind_pure.1 onward
    exact .inr ⟨early, found, late, others, firstCourse, restCourse, rfl, rfl⟩

theorem course_followedBy_ok {first rest : Part Findings}
    {early late : List (Sigma AdminCall.Reply)} {found : Findings}
    {others : Except Failure Findings} (firstCourse : Dialogue.Course first.run early (.ok found))
    (restCourse : Dialogue.Course rest.run late others) :
    Dialogue.Course (followedBy first rest).run (early ++ late) (others.map (found ++ ·)) :=
  course_bind_ok firstCourse (course_bind_pure.2 ⟨others, restCourse, rfl⟩)

/-- A course of a single call is that call with its reply. -/
theorem course_explained_pure {explain : AdminError → ε} {call : AdminCall} {value : α}
    {outcome : Except ε α}
    (course : Dialogue.Course (explained explain call >>= fun _ => pure value).run exchanges
      outcome) : ∃ reply, exchanges = [⟨call, reply⟩] := by
  rcases course_explained_bind course with ⟨problem, same, -⟩ | ⟨answer, rest, same, later⟩
  · exact ⟨.error problem, same⟩
  · obtain ⟨rfl, -⟩ := course_pure later
    exact ⟨.ok answer, same⟩

end Courses

/-! ## Reaching -/

section Reaches

variable {faults : Faults} {store : Store}

/-- With these faults, the part comes to an outcome and a store that meet the goal. -/
def Reaches (faults : Faults) (part : ExceptT ε Talk α) (store : Store)
    (goal : Except ε α → Store → Prop) : Prop :=
  goal (part.run.run (respond faults) store).1 (part.run.run (respond faults) store).2

theorem reaches_pure {value : α} {goal : Except ε α → Store → Prop}
    (holds : goal (.ok value) store) : Reaches faults (pure value) store goal := holds

theorem reaches_throw {failure : ε} {goal : Except ε α → Store → Prop}
    (holds : goal (.error failure) store) : Reaches faults (throw failure) store goal := holds

theorem Reaches.mono {part : ExceptT ε Talk α} {goal wider : Except ε α → Store → Prop}
    (reaches : Reaches faults part store goal)
    (wide : ∀ outcome later, goal outcome later → wider outcome later) :
    Reaches faults part store wider :=
  wide _ _ reaches

theorem Reaches.and {part : ExceptT ε Talk α} {goal other : Except ε α → Store → Prop}
    (reaches : Reaches faults part store goal) (reachesOther : Reaches faults part store other) :
    Reaches faults part store fun outcome later => goal outcome later ∧ other outcome later :=
  ⟨reaches, reachesOther⟩

/-- **A part reaches what the next one reaches from wherever it comes to.** -/
theorem Reaches.bind {part : ExceptT ε Talk α} {next : α → ExceptT ε Talk β}
    {between : Except ε α → Store → Prop} {goal : Except ε β → Store → Prop}
    (first : Reaches faults part store between)
    (stops : ∀ failure later, between (.error failure) later → goal (.error failure) later)
    (goesOn : ∀ value later, between (.ok value) later → Reaches faults (next value) later goal) :
    Reaches faults (part >>= next) store goal := by
  unfold Reaches at first ⊢
  rw [run_bind, Dialogue.run_andThen]
  generalize part.run.run (respond faults) store = reached at first
  obtain ⟨outcome, later⟩ := reached
  cases outcome with
  | ok value => exact goesOn value later first
  | error failure => exact stops failure later first

/-- Two parts at work, one after the other. -/
theorem run_followedBy (first rest : Part Findings) (faults : Faults) (store : Store) :
    (followedBy first rest).run.run (respond faults) store =
      match first.run.run (respond faults) store with
      | (.ok found, later) =>
        ((rest.run.run (respond faults) later).1.map (found ++ ·),
          (rest.run.run (respond faults) later).2)
      | (.error failure, later) => (.error failure, later) := by
  unfold followedBy
  rw [run_bind, Dialogue.run_andThen]
  generalize first.run.run (respond faults) store = came
  obtain ⟨outcome, later⟩ := came
  cases outcome with
  | error failure => rfl
  | ok found =>
      show (rest >>= fun others => pure (found ++ others) : Part Findings).run.run
        (respond faults) later = _
      rw [run_bind_pure, Dialogue.run_andThen]
      rfl

theorem reaches_explained {explain : AdminError → ε} {call : AdminCall}
    {goal : Except ε call.Answer → Store → Prop}
    (faulty : ∀ problem, faults call.operation = some problem →
      goal (.error (explain problem)) store)
    (answered : faults call.operation = none →
      goal ((store.answer call).1.mapError explain) (store.answer call).2) :
    Reaches faults (explained explain call) store goal := by
  show goal ((respond faults call store).1.mapError explain) (respond faults call store).2
  cases isFaulty : faults call.operation with
  | none =>
      rw [respond_of_faultless isFaulty]
      exact answered isFaulty
  | some problem =>
      rw [respond_of_faulty isFaulty]
      exact faulty problem isFaulty

/-- A call that the service answers leads to what follows the answer, unless it is told to fail. -/
theorem reaches_explained_bind {explain : AdminError → ε} {call : AdminCall}
    {next : call.Answer → ExceptT ε Talk β} {goal : Except ε β → Store → Prop}
    {answer : call.Answer} {later : Store} (answers : store.answer call = (.ok answer, later))
    (faulty : ∀ problem, faults call.operation = some problem →
      goal (.error (explain problem)) store)
    (goesOn : Reaches faults (next answer) later goal) :
    Reaches faults (explained explain call >>= next) store goal := by
  have called : Reaches faults (explained explain call) store fun outcome reached =>
      (∃ problem, faults call.operation = some problem ∧ outcome = .error (explain problem) ∧
        reached = store) ∨ (outcome = .ok answer ∧ reached = later) := by
    refine reaches_explained (fun problem isFaulty => .inl ⟨problem, isFaulty, rfl, rfl⟩) ?_
    intro _
    rw [answers]
    exact .inr ⟨rfl, rfl⟩
  refine called.bind ?_ ?_
  · rintro failure reached (⟨problem, isFaulty, same, rfl⟩ | ⟨impossible, -⟩)
    · cases same
      exact faulty problem isFaulty
    · cases impossible
  · rintro value reached (⟨problem, -, impossible, -⟩ | ⟨same, rfl⟩)
    · cases impossible
    · cases same
      exact goesOn

/-- An expected value leads to what follows it. -/
theorem reaches_expect_bind {failure : GrantFailure} {value : Option α} {next : α → GrantPart β}
    {goal : Except GrantFailure β → Store → Prop}
    (missing : goal (.error failure) store)
    (there : ∀ found, value = some found → Reaches faults (next found) store goal) :
    Reaches faults (expect failure value >>= next) store goal := by
  cases value with
  | none => exact missing
  | some found => exact there found rfl

/-- A tolerated talk always comes to a value. -/
theorem reaches_tolerate {talk : Talk α} {goal : Except Failure α → Store → Prop}
    (holds : goal (.ok (talk.run (respond faults) store).1) (talk.run (respond faults) store).2) :
    Reaches faults (tolerate talk) store goal := by
  have lifted : (tolerate talk : Part α).run =
      talk.andThen fun value => .conclude (Except.ok value) := rfl
  unfold Reaches
  rw [lifted, Dialogue.run_andThen]
  exact holds

end Reaches

/-! ## Resting -/

section Rests

variable {faults : Faults} {store : Store}

/-- With these faults, the part makes no call that writes and comes to an outcome that meets the
goal. -/
structure Rests (faults : Faults) (part : ExceptT ε Talk α) (store : Store)
    (goal : Except ε α → Prop) : Prop where
  reads : ∀ call ∈ part.run.asked (respond faults) store, call.operation.isMutating = false
  meets : goal (part.run.run (respond faults) store).1

/-- A talk without a call that writes leaves the store as it is. -/
theorem run_store_of_reads {talk : Talk α}
    (reads : ∀ call ∈ talk.asked (respond faults) store, call.operation.isMutating = false) :
    (talk.run (respond faults) store).2 = store := by
  induction talk with
  | conclude value => rfl
  | ask call resume ih =>
      have stays : (respond faults call store).2 = store :=
        Service.respond_keeps (· = store) rfl
          (Store.answer_of_not_mutating (reads call List.mem_cons_self))
      have later := ih (respond faults call store).1 fun other member => by
        refine reads other (List.mem_cons_of_mem _ ?_)
        rwa [stays]
      show ((resume (respond faults call store).1).run (respond faults)
        (respond faults call store).2).2 = store
      rw [stays]
      exact later

theorem Rests.run_store {part : ExceptT ε Talk α} {goal : Except ε α → Prop}
    (rests : Rests faults part store goal) : (part.run.run (respond faults) store).2 = store :=
  run_store_of_reads rests.reads

theorem rests_pure {value : α} {goal : Except ε α → Prop} (holds : goal (.ok value)) :
    Rests faults (pure value) store goal where
  reads call member := by cases member
  meets := holds

/-- **After a part that rests, the next one starts from the same store.** -/
theorem Rests.bind {part : ExceptT ε Talk α} {next : α → ExceptT ε Talk β}
    {between : Except ε α → Prop} {goal : Except ε β → Prop}
    (first : Rests faults part store between)
    (stops : ∀ failure, between (.error failure) → goal (.error failure))
    (goesOn : ∀ value, between (.ok value) → Rests faults (next value) store goal) :
    Rests faults (part >>= next) store goal := by
  have stays := first.run_store
  obtain ⟨reads, meets⟩ := first
  constructor
  · rw [run_bind, Dialogue.asked_andThen, stays]
    intro call member
    rcases List.mem_append.1 member with earlier | later
    · exact reads call earlier
    · generalize (part.run.run (respond faults) store).1 = outcome at later meets
      cases outcome with
      | ok value => exact (goesOn value meets).reads call later
      | error failure => cases later
  · rw [run_bind, Dialogue.run_andThen, stays]
    generalize (part.run.run (respond faults) store).1 = outcome at meets
    cases outcome with
    | ok value => exact (goesOn value meets).meets
    | error failure => exact stops failure meets

/-- A call that reads leads to what follows its answer, unless it is told to fail. -/
theorem rests_explained_bind {explain : AdminError → ε} {call : AdminCall}
    {next : call.Answer → ExceptT ε Talk β} {goal : Except ε β → Prop} {answer : call.Answer}
    (reads : call.operation.isMutating = false) (answers : store.answer call = (.ok answer, store))
    (faulty : ∀ problem, faults call.operation = some problem → goal (.error (explain problem)))
    (goesOn : Rests faults (next answer) store goal) :
    Rests faults (explained explain call >>= next) store goal := by
  have called : Rests faults (explained explain call) store fun outcome =>
      (∃ problem, faults call.operation = some problem ∧ outcome = .error (explain problem)) ∨
        outcome = .ok answer := by
    constructor
    · intro other member
      rcases List.mem_singleton.1 member with rfl
      exact reads
    · have outcome : ((explained explain call).run.run (respond faults) store).1 =
          (respond faults call store).1.mapError explain := rfl
      rw [outcome]
      cases isFaulty : faults call.operation with
      | none =>
          rw [respond_of_faultless isFaulty, answers]
          exact .inr rfl
      | some problem =>
          rw [respond_of_faulty isFaulty]
          exact .inl ⟨problem, rfl, rfl⟩
  refine called.bind ?_ ?_
  · rintro failure (⟨problem, isFaulty, same⟩ | impossible)
    · cases same
      exact faulty problem isFaulty
    · cases impossible
  · rintro value (⟨problem, -, impossible⟩ | same)
    · cases impossible
    · cases same
      exact goesOn

end Rests

end RealmConvergence.Convergence
