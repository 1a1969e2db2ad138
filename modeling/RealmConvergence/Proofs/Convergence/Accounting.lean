import RealmConvergence.Proofs.Convergence.MarkerFence

/-!
# Events account for outcomes

What is asked and replied in a run falls into events (`Event`): a call outside of grants is replied
to, or a grant takes its whole course. It does so in one way only, because every grant begins with a
call that is made nowhere else (`exchangesOf_inj`).

The events account for the outcome (`Accounts`). A failed call outside of grants is the last event,
and its problem is what the run fails with. However a grant goes, what follows is the same, and
nothing but what is found out about this grant changes in the report. Whoever replies, a part falls
into such events (`Stops`); there is one rule for every way to build a part.
-/

set_option autoImplicit false

namespace RealmConvergence

/-- Whether nothing but a grant makes a call. Every grant begins with such a call. -/
def AdminCall.onlyInGrants : AdminCall → Bool
  | .getServiceAccountUser _ _ | .assignClientRoles _ _ _ _ => true
  | _ => false

namespace Convergence

open Dialogue (Course)

variable {α : Type} {realm client : String}

/-! ## Events -/

/-- A grant to the service account of a client, and the way it went. -/
structure GrantCourse (realm : String) where
  /-- The internal identifier of the client. -/
  client : String
  /-- The public identifier of the client. -/
  clientId : String
  /-- What was asked and replied. -/
  exchanges : List (Sigma AdminCall.Reply)
  /-- What became of the grant. -/
  outcome : Except GrantFailure Unit
  /-- The grant went this way. -/
  course : Course (grantRoles realm client).run exchanges outcome

namespace GrantCourse

/-- A grant begins with a call that is made nowhere else. -/
theorem begins (went : GrantCourse realm) :
    ∃ reply rest, went.exchanges = ⟨.getServiceAccountUser realm went.client, reply⟩ :: rest := by
  have course := went.course
  unfold grantRoles at course
  rcases course_explained_bind course with ⟨problem, same, -⟩ | ⟨user, rest, same, -⟩
  · exact ⟨.error problem, [], same⟩
  · exact ⟨.ok user, rest, same⟩

/-- What is found out about the grant. -/
def findings (went : GrantCourse realm) : Findings :=
  grantFindings went.clientId went.outcome

/-- The same grant, possibly gone another way. -/
def SameGrant (went instead : GrantCourse realm) : Prop :=
  instead.client = went.client ∧ instead.clientId = went.clientId

end GrantCourse

/-- What happens in a run. -/
inductive Event (realm : String) where
  /-- A call outside of grants is replied to. -/
  | call (exchange : Sigma AdminCall.Reply)
  /-- A grant takes its course. -/
  | grant (went : GrantCourse realm)

namespace Event

/-- What is asked and replied in an event. -/
def exchanges : Event realm → List (Sigma AdminCall.Reply)
  | .call exchange => [exchange]
  | .grant went => went.exchanges

/-- The steps about grants that an event adds to a report. -/
def grantSteps : Event realm → List Step
  | .call _ => []
  | .grant went => went.findings.steps

end Event

/-- What is asked and replied in events, in order. -/
def exchangesOf (events : List (Event realm)) : List (Sigma AdminCall.Reply) :=
  events.flatMap Event.exchanges

@[simp] theorem exchangesOf_append (first rest : List (Event realm)) :
    exchangesOf (first ++ rest) = exchangesOf first ++ exchangesOf rest :=
  List.flatMap_append

@[simp] theorem exchangesOf_cons (first : Event realm) (rest : List (Event realm)) :
    exchangesOf (first :: rest) = first.exchanges ++ exchangesOf rest :=
  List.flatMap_cons

/-- The calls among the events are made outside of grants. -/
def OutsideGrants (events : List (Event realm)) : Prop :=
  ∀ exchange, .call exchange ∈ events → exchange.1.onlyInGrants = false

theorem OutsideGrants.tail {first : Event realm} {rest : List (Event realm)}
    (outside : OutsideGrants (first :: rest)) : OutsideGrants rest :=
  fun exchange member => outside exchange (List.mem_cons_of_mem first member)

/-- A call outside of grants is not the first of a grant. -/
theorem OutsideGrants.not_grant {exchange : Sigma AdminCall.Reply} {rest : List (Event realm)}
    {went : GrantCourse realm} {others after : List (Sigma AdminCall.Reply)}
    (outside : OutsideGrants (.call exchange :: rest)) :
    exchange :: others ≠ went.exchanges ++ after := by
  intro same
  obtain ⟨reply, more, begins⟩ := went.begins
  rw [begins] at same
  obtain ⟨rfl, -⟩ := List.cons.inj same
  have never : true = false := outside _ List.mem_cons_self
  cases never

theorem exchangesOf_cons_ne_nil (event : Event realm) (rest : List (Event realm)) :
    exchangesOf (event :: rest) ≠ [] := by
  cases event with
  | call exchange => exact List.cons_ne_nil _ _
  | grant went =>
      obtain ⟨reply, more, begins⟩ := went.begins
      rw [exchangesOf_cons, Event.exchanges, begins]
      exact List.cons_ne_nil _ _

/-- What was asked and replied shows where its first event ends. -/
theorem OutsideGrants.first_unique {event other : Event realm} {rest more : List (Event realm)}
    {after others : List (Sigma AdminCall.Reply)} (outside : OutsideGrants (event :: rest))
    (otherOutside : OutsideGrants (other :: more))
    (same : event.exchanges ++ after = other.exchanges ++ others) :
    event.exchanges = other.exchanges ∧ after = others := by
  cases event with
  | call exchange =>
      cases other with
      | call other =>
          obtain ⟨rfl, sameRest⟩ := List.cons.inj same
          exact ⟨rfl, sameRest⟩
      | grant went => exact absurd same outside.not_grant
  | grant went =>
      cases other with
      | call other => exact absurd same.symm otherOutside.not_grant
      | grant instead =>
          -- The first call of a grant tells whose grant it is.
          have sameClient : went.client = instead.client := by
            obtain ⟨reply, tail, begins⟩ := went.begins
            obtain ⟨otherReply, otherTail, otherBegins⟩ := instead.begins
            simp only [Event.exchanges, begins, otherBegins, List.cons_append, List.cons.injEq,
              Sigma.mk.injEq, AdminCall.getServiceAccountUser.injEq] at same
            exact same.1.1.2
          exact went.course.unique (sameClient ▸ instead.course) same

/-- **What was asked and replied falls into events in one way only.** -/
theorem exchangesOf_inj {events others : List (Event realm)} (outside : OutsideGrants events)
    (otherOutside : OutsideGrants others) (same : exchangesOf events = exchangesOf others) :
    events.map Event.exchanges = others.map Event.exchanges := by
  induction events generalizing others with
  | nil =>
      cases others with
      | nil => rfl
      | cons other more => exact absurd same.symm (exchangesOf_cons_ne_nil other more)
  | cons event rest ih =>
      cases others with
      | nil => exact absurd same (exchangesOf_cons_ne_nil event rest)
      | cons other more =>
          rw [exchangesOf_cons, exchangesOf_cons] at same
          obtain ⟨first, onward⟩ := outside.first_unique otherOutside same
          rw [List.map_cons, List.map_cons, first, ih outside.tail otherOutside.tail onward]

/-! ## What is told of grants -/

/-- The steps about grants among findings. -/
def grantSteps (found : Findings) : List Step :=
  found.steps.filter fun step => step.kind == .serviceAccountGrant

theorem grantSteps_append (first rest : Findings) :
    grantSteps (first ++ rest) = grantSteps first ++ grantSteps rest :=
  List.filter_append _ _

/-- All steps of a grant are about grants. -/
theorem grantSteps_findings (went : GrantCourse realm) :
    grantSteps went.findings = went.findings.steps := by
  unfold GrantCourse.findings
  cases went.outcome <;> rfl

/-- One warning and one skipped step. -/
def missedGrant (clientId : String) (failure : GrantFailure) : Findings where
  steps := [⟨.serviceAccountGrant, clientId, .skipped, some failure.message⟩]
  warnings := [s!"service account role grant for client '{clientId}' failed: {failure.message}"]

/-- **A failed grant is one warning and one skipped step.** -/
theorem findings_of_failed {went : GrantCourse realm} {failure : GrantFailure}
    (failed : went.outcome = .error failure) :
    went.findings = missedGrant went.clientId failure := by
  unfold GrantCourse.findings
  rw [failed]
  rfl

/-! ## Events account for outcomes -/

/-- The problem of a failed call is told by this failure. -/
def Failure.Carries (failure : Failure) (problem : AdminError) : Prop :=
  failure.adminError? = some problem ∧ problem.message ∈ failure.chain

theorem Failure.carries_call (pass : Nat) (deed : Deed) (problem : AdminError) :
    (Failure.call pass deed problem).Carries problem :=
  ⟨rfl, List.mem_cons_of_mem _ (List.mem_singleton_self _)⟩

/-- What may stop a talk besides a failed call: the failure, and all that was asked and replied. -/
abbrev Reason := List (Sigma AdminCall.Reply) → Failure → Prop

/-- These events of a talk account for its outcome. What is found out is told as a value. -/
structure Accounts (talk : Talk (Except Failure α)) (told : Findings → α) (why : Reason)
    (events : List (Event realm)) (outcome : Except Failure α) : Prop where
  /-- The talk takes this course. -/
  course : Course talk (exchangesOf events) outcome
  /-- Calls outside of grants are no calls of grants. -/
  outside : OutsideGrants events
  /-- After a failed call outside of grants nothing more is said, and its problem is carried on. -/
  stops : ∀ before made problem after,
    events = before ++ .call ⟨made, .error problem⟩ :: after →
      after = [] ∧ ∃ failure, outcome = .error failure ∧ failure.Carries problem
  /-- However a grant goes, what follows is the same, and what is found out around it. -/
  tolerates : ∀ before went after, events = before ++ .grant went :: after →
    ∃ (early : Findings) (late : Except Failure Findings),
      grantSteps early = before.flatMap Event.grantSteps ∧
      outcome = late.map (fun rest => told (early ++ went.findings ++ rest)) ∧
      ∀ instead, went.SameGrant instead →
        Course talk (exchangesOf (before ++ .grant instead :: after))
          (late.map fun rest => told (early ++ instead.findings ++ rest))
  /-- Every grant is told by its own step. -/
  reports : ∀ value, outcome = .ok value → ∃ found, value = told found ∧
    grantSteps found = events.flatMap Event.grantSteps
  /-- A failure has a reason, or a failed call outside of grants is the last event. -/
  explains : ∀ failure, outcome = .error failure → why (exchangesOf events) failure ∨
    ∃ before made problem, events = before ++ [.call ⟨made, .error problem⟩] ∧
      failure.Carries problem

/-- Whoever replies, the part falls into events that account for its outcome. -/
def Stops (realm : String) (why : Reason) (part : Part Findings) : Prop :=
  ∀ exchanges outcome, Course part.run exchanges outcome →
    ∃ events : List (Event realm), exchanges = exchangesOf events ∧
      Accounts part.run id why events outcome

section Rules

variable {why : Reason}

/-- Where nothing happens, there is nothing to account for but the outcome. -/
theorem accounts_nil {talk : Talk (Except Failure α)} {told : Findings → α}
    {outcome : Except Failure α} (course : Course talk [] outcome)
    (reports : ∀ value, outcome = .ok value → ∃ found, value = told found ∧ grantSteps found = [])
    (explains : ∀ failure, outcome = .error failure → why [] failure) :
    Accounts talk told why ([] : List (Event realm)) outcome where
  course := course
  outside := fun _ member => nomatch member
  stops := fun _ _ _ _ place => (not_place_in_nil place).elim
  tolerates := fun _ _ _ place => (not_place_in_nil place).elim
  reports := reports
  explains := fun failure same => .inl (explains failure same)

theorem stops_pure {found : Findings} (quiet : grantSteps found = []) :
    Stops realm why (pure found) := by
  intro exchanges outcome course
  obtain ⟨rfl, rfl⟩ := course_pure course
  refine ⟨[], rfl, accounts_nil course ?_ fun _ never => nomatch never⟩
  exact fun _ same => ⟨found, (Except.ok.inj same).symm, quiet⟩

theorem stops_throw {failure : Failure} (reason : why [] failure) :
    Stops realm why (throw failure) := by
  intro exchanges outcome course
  cases course with
  | conclude =>
      refine ⟨[], rfl, accounts_nil (.conclude _) (fun _ never => nomatch never) ?_⟩
      exact fun _ same => Except.error.inj same ▸ reason

section Calls

variable {pass : Nat} {deed : Deed} {call : AdminCall} {next : call.Answer → Part Findings}
  {events : List (Event realm)} {outcome : Except Failure Findings}

/-- A failed call is the last thing that happens. -/
theorem accounts_failed {problem : AdminError} (outside : call.onlyInGrants = false)
    (course : Course (explained (.call pass deed) call >>= next).run [⟨call, .error problem⟩]
      (.error (.call pass deed problem))) :
    Accounts (explained (.call pass deed) call >>= next).run id why
      [(.call ⟨call, .error problem⟩ : Event realm)] (.error (.call pass deed problem)) where
  course := course
  outside exchange member := by
    cases List.mem_singleton.1 member
    exact outside
  stops before made told after place := by
    obtain ⟨-, same, rfl⟩ := place_in_singleton place
    cases same
    exact ⟨rfl, _, rfl, Failure.carries_call pass deed problem⟩
  tolerates before went after place := by
    obtain ⟨-, never, -⟩ := place_in_singleton place
    cases never
  reports := fun _ never => nomatch never
  explains failure same := by
    cases same
    exact .inr ⟨[], call, problem, rfl, Failure.carries_call pass deed problem⟩

/-- An answered call happens before what follows it. -/
theorem Accounts.answered {answer : call.Answer} (outside : call.onlyInGrants = false)
    (accounts : Accounts (next answer).run id (fun later => why (⟨call, .ok answer⟩ :: later))
      events outcome) :
    Accounts (explained (.call pass deed) call >>= next).run id why
      (.call ⟨call, .ok answer⟩ :: events) outcome where
  course := course_explained_bind_ok accounts.course
  outside exchange member := by
    rcases List.mem_cons.1 member with same | inRest
    · cases same
      exact outside
    · exact accounts.outside exchange inRest
  stops before made problem after place := by
    rcases List.cons_eq_append_iff.1 place with ⟨-, same⟩ | ⟨less, -, onward⟩
    · cases same
    · exact accounts.stops less made problem after onward
  tolerates before went after place := by
    rcases List.cons_eq_append_iff.1 place with ⟨-, same⟩ | ⟨less, rfl, onward⟩
    · cases same
    · obtain ⟨early, late, steps, isOutcome, instead⟩ := accounts.tolerates less went after onward
      exact ⟨early, late, steps, isOutcome, fun other sameGrant =>
        course_explained_bind_ok (instead other sameGrant)⟩
  reports := accounts.reports
  explains failure same := by
    rcases accounts.explains failure same with reason | ⟨before, made, problem, rfl, carries⟩
    · exact .inl reason
    · exact .inr ⟨.call ⟨call, .ok answer⟩ :: before, made, problem, rfl, carries⟩

/-- **A call outside of grants stops a part if it fails.** -/
theorem stops_explained_bind (outside : call.onlyInGrants = false)
    (goesOn : ∀ answer, Stops realm (fun later => why (⟨call, .ok answer⟩ :: later))
      (next answer)) :
    Stops realm why (explained (.call pass deed) call >>= next) := by
  intro exchanges outcome course
  rcases course_explained_bind course with ⟨problem, rfl, rfl⟩ | ⟨answer, rest, rfl, later⟩
  · exact ⟨[.call ⟨call, .error problem⟩], rfl, accounts_failed outside course⟩
  · obtain ⟨events, rfl, accounts⟩ := goesOn answer rest outcome later
    exact ⟨.call ⟨call, .ok answer⟩ :: events, rfl, accounts.answered outside⟩

end Calls

section Grants

variable {found : Findings}

theorem course_tolerate_grant (went : GrantCourse realm) (found : Findings) :
    Course (tolerate (grantToServiceAccount realm went.client went.clientId) >>= fun granted =>
        pure (found ++ granted) : Part Findings).run
      (exchangesOf [.grant went]) (.ok (found ++ went.findings)) := by
  rw [run_tolerate_grant]
  exact went.course.andThen (.conclude _)

/-- A tolerated grant happens, and nothing else. -/
theorem accounts_grant (went : GrantCourse realm) (quiet : grantSteps found = []) :
    Accounts (tolerate (grantToServiceAccount realm went.client went.clientId) >>= fun granted =>
        pure (found ++ granted) : Part Findings).run id why [.grant went]
      (.ok (found ++ went.findings)) where
  course := course_tolerate_grant went found
  outside exchange member := by
    cases List.mem_singleton.1 member
  stops before made problem after place := by
    obtain ⟨-, never, -⟩ := place_in_singleton place
    cases never
  tolerates before told after place := by
    obtain ⟨rfl, same, rfl⟩ := place_in_singleton place
    cases same
    refine ⟨found, .ok {}, quiet, congrArg Except.ok (findings_append_empty _).symm, ?_⟩
    rintro instead ⟨isClient, isReported⟩
    have gone := course_tolerate_grant instead found
    rw [isClient, isReported, ← findings_append_empty (found ++ instead.findings)] at gone
    exact gone
  reports value same := by
    cases same
    refine ⟨_, rfl, ?_⟩
    show grantSteps (found ++ went.findings) = went.findings.steps ++ []
    rw [grantSteps_append, quiet, grantSteps_findings, List.nil_append, List.append_nil]
  explains := fun _ never => nomatch never

/-- **A tolerated grant, or nothing in its place, stops no part.** -/
theorem stops_grantIf (needed : Bool) (clientId : String) (quiet : grantSteps found = []) :
    Stops realm why (if needed then do
        let granted ← tolerate (grantToServiceAccount realm client clientId)
        pure (found ++ granted)
      else pure found : Part Findings) := by
  cases needed with
  | false => exact stops_pure quiet
  | true =>
      intro exchanges outcome course
      rw [if_pos rfl, run_tolerate_grant] at course
      obtain ⟨first, granted, second, granting, later, rfl⟩ := Dialogue.course_of_andThen course
      cases later with
      | conclude =>
          let went : GrantCourse realm := ⟨client, clientId, first, granted, granting⟩
          exact ⟨[.grant went], rfl, accounts_grant went quiet⟩

end Grants

/-- Findings are put in front of an outcome one after the other. -/
theorem map_findings_append (others : Except Failure Findings) (first second : Findings) :
    others.map (first ++ second ++ ·) = (others.map (second ++ ·)).map (first ++ ·) := by
  cases others with
  | error failure => rfl
  | ok found => exact congrArg Except.ok (findings_append_assoc first second found)

section FollowedBy

variable {first rest : Part Findings} {events more : List (Event realm)} {found : Findings}
  {others : Except Failure Findings}

/-- Where a part fails, what follows it is not begun. -/
theorem Accounts.followedBy_error {failure : Failure}
    (accounts : Accounts first.run id why events (.error failure)) :
    Accounts (followedBy first rest).run id why events (.error failure) where
  course := course_bind_error accounts.course
  outside := accounts.outside
  stops := accounts.stops
  tolerates before went after place := by
    obtain ⟨early, late, steps, isOutcome, instead⟩ := accounts.tolerates before went after place
    cases late with
    | ok _ => cases isOutcome
    | error _ => exact ⟨early, _, steps, isOutcome, fun other sameGrant =>
        course_bind_error (instead other sameGrant)⟩
  reports := fun _ never => nomatch never
  explains := accounts.explains

/-- Where a part comes to its end, its events are followed by those of the next part. -/
theorem Accounts.followedBy_ok (accounts : Accounts first.run id why events (.ok found))
    (onward : Accounts rest.run id (fun late => why (exchangesOf events ++ late)) more others) :
    Accounts (followedBy first rest).run id why (events ++ more) (others.map (found ++ ·)) where
  course := by
    rw [exchangesOf_append]
    exact course_followedBy_ok accounts.course onward.course
  outside exchange member := (List.mem_append.1 member).elim (accounts.outside exchange)
    (onward.outside exchange)
  stops before made problem after place := by
    rcases append_eq_append_cons place with ⟨tail, isFirst, -⟩ | ⟨less, -, isRest⟩
    · obtain ⟨-, failure, never, -⟩ := accounts.stops before made problem tail isFirst
      cases never
    · obtain ⟨isLast, failure, rfl, carries⟩ := onward.stops less made problem after isRest
      exact ⟨isLast, failure, rfl, carries⟩
  tolerates before went after place := by
    rcases append_eq_append_cons place with ⟨tail, isFirst, rfl⟩ | ⟨less, rfl, isRest⟩
    · obtain ⟨early, late, steps, isOutcome, instead⟩ := accounts.tolerates before went tail isFirst
      cases late with
      | error _ => cases isOutcome
      | ok between =>
          cases isOutcome
          refine ⟨early, others.map (between ++ ·), steps, map_findings_append _ _ _, ?_⟩
          intro other sameGrant
          have both := course_followedBy_ok (instead other sameGrant) onward.course
          rw [← exchangesOf_append, List.append_assoc, List.cons_append] at both
          exact map_findings_append _ _ _ ▸ both
    · obtain ⟨early, late, steps, rfl, instead⟩ := onward.tolerates less went after isRest
      obtain ⟨_, rfl, firstSteps⟩ := accounts.reports found rfl
      refine ⟨found ++ early, late, ?_, ?_, ?_⟩
      · rw [grantSteps_append, firstSteps, steps, List.flatMap_append]
      · show _ = late.map (found ++ early ++ went.findings ++ ·)
        rw [findings_append_assoc]
        exact (map_findings_append late found _).symm
      · intro other sameGrant
        have both := course_followedBy_ok accounts.course (instead other sameGrant)
        rw [← exchangesOf_append, ← List.append_assoc] at both
        show Course _ _ (late.map (found ++ early ++ other.findings ++ ·))
        rw [findings_append_assoc]
        exact (map_findings_append late found _).symm ▸ both
  reports value same := by
    cases others with
    | error _ => cases same
    | ok rest =>
        cases same
        obtain ⟨_, rfl, firstSteps⟩ := accounts.reports found rfl
        obtain ⟨_, rfl, restSteps⟩ := onward.reports rest rfl
        refine ⟨_, rfl, ?_⟩
        show grantSteps (found ++ rest) = _
        rw [grantSteps_append, List.flatMap_append, ← firstSteps, ← restSteps]
  explains failure same := by
    cases others with
    | ok _ => cases same
    | error _ =>
        rcases onward.explains failure same with reason | ⟨before, made, problem, rfl, carries⟩
        · exact .inl ((exchangesOf_append events more).symm ▸ reason)
        · exact .inr ⟨events ++ before, made, problem, (List.append_assoc _ _ _).symm, carries⟩

/-- **Two parts stop so one after the other.** -/
theorem Stops.followedBy (one : Stops realm why first)
    (other : ∀ early found, Course first.run early (.ok found) →
      Stops realm (fun late => why (early ++ late)) rest) :
    Stops realm why (followedBy first rest) := by
  intro exchanges outcome course
  rcases course_followedBy course with
    ⟨failure, stopped, rfl⟩ | ⟨early, found, late, others, firstCourse, restCourse, rfl, rfl⟩
  · obtain ⟨events, same, accounts⟩ := one exchanges _ stopped
    exact ⟨events, same, accounts.followedBy_error⟩
  · obtain ⟨events, rfl, accounts⟩ := one early _ firstCourse
    obtain ⟨more, rfl, onward⟩ := other _ found firstCourse late others restCourse
    exact ⟨events ++ more, (exchangesOf_append events more).symm, accounts.followedBy_ok onward⟩

/-- Parts for each item stop so one after the other. What may stop one of them may depend on what
was asked and replied before. -/
theorem stops_forEach {items : List α} {part : α → Part Findings}
    (each : ∀ done item rest, items = done ++ item :: rest →
      ∀ early found, Course (forEach done part).run early (.ok found) →
        Stops realm (fun late => why (early ++ late)) (part item)) :
    Stops realm why (forEach items part) := by
  induction items generalizing why with
  | nil => exact stops_pure rfl
  | cons item rest ih =>
      refine Stops.followedBy (each [] item rest rfl [] {} (.conclude _)) ?_
      intro early found course
      refine ih fun done next others same between more onward => ?_
      have both := course_followedBy_ok course onward
      have stops := each (item :: done) next others (congrArg (item :: ·) same)
        (early ++ between) _ both
      simp only [List.append_assoc] at stops
      exact stops

end FollowedBy

/-- Events account for what is told of the findings as they do for the findings. -/
theorem Accounts.told {part : Part Findings} {told : Findings → α}
    {events : List (Event realm)} {outcome : Except Failure Findings}
    (accounts : Accounts part.run id why events outcome) :
    Accounts (part >>= fun found => pure (told found)).run told why events (outcome.map told) where
  course := course_bind_pure.2 ⟨outcome, accounts.course, rfl⟩
  outside := accounts.outside
  stops before made problem after place := by
    obtain ⟨isLast, failure, rfl, carries⟩ := accounts.stops before made problem after place
    exact ⟨isLast, failure, rfl, carries⟩
  tolerates before went after place := by
    obtain ⟨early, late, steps, rfl, instead⟩ := accounts.tolerates before went after place
    refine ⟨early, late, steps, ?_, fun other sameGrant =>
      course_bind_pure.2 ⟨_, instead other sameGrant, ?_⟩⟩
    all_goals cases late <;> rfl
  reports value same := by
    cases outcome with
    | error _ => cases same
    | ok found =>
        cases same
        obtain ⟨_, rfl, steps⟩ := accounts.reports found rfl
        exact ⟨_, rfl, steps⟩
  explains failure same := by
    cases outcome with
    | ok _ => cases same
    | error _ =>
        cases same
        exact accounts.explains failure rfl

end Rules

end Convergence

end RealmConvergence
