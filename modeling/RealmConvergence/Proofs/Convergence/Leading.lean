import RealmConvergence.Proofs.Convergence.Conduct

/-!
# Where a part of a run leads

Two more judgements on parts of runs, beside those of `RealmConvergence.Proofs.Convergence.Conduct`,
again with one rule for every way to build a part. Nothing is said about who replies, so with a
service they hold whatever it holds and whatever it was told to fail (`Leads.reaches`).

**Leading.** `Leads part goal`: whoever replies, what is exchanged and the outcome meet the goal.

**Finding.** `Finds part met`: whoever replies, if the part comes to a value, what is exchanged and
the value are as told. Failures are left aside.
-/

set_option autoImplicit false

namespace RealmConvergence.Convergence

open Dialogue (Course)
open Service (Faults Store respond)

variable {ε α β : Type}

/-! ## Leading -/

/-- Whoever replies, what is exchanged and what the part comes to meet the goal. -/
def Leads (part : ExceptT ε Talk α)
    (goal : List (Sigma AdminCall.Reply) → Except ε α → Prop) : Prop :=
  ∀ exchanges outcome, Course part.run exchanges outcome → goal exchanges outcome

section Leads

variable {goal : List (Sigma AdminCall.Reply) → Except ε α → Prop}

theorem Leads.mono {part : ExceptT ε Talk α}
    {wider : List (Sigma AdminCall.Reply) → Except ε α → Prop} (leads : Leads part goal)
    (wide : ∀ exchanges outcome, goal exchanges outcome → wider exchanges outcome) :
    Leads part wider :=
  fun exchanges outcome course => wide exchanges outcome (leads exchanges outcome course)

/-- **With a service, a part leads there from whatever the service holds.** -/
theorem Leads.reaches {part : ExceptT ε Talk α} (leads : Leads part goal) (faults : Faults)
    (store : Store) : Reaches faults part store fun outcome _ =>
      goal (part.run.exchanged (respond faults) store) outcome :=
  leads _ _ (Dialogue.course_exchanged (respond faults) part.run store)

theorem leads_any (part : ExceptT ε Talk α) : Leads part fun _ _ => True :=
  fun _ _ _ => trivial

theorem leads_pure {value : α} (holds : goal [] (.ok value)) : Leads (pure value) goal := by
  intro exchanges outcome course
  obtain ⟨rfl, rfl⟩ := course_pure course
  exact holds

theorem leads_throw {failure : ε} (holds : goal [] (.error failure)) :
    Leads (throw failure) goal := by
  intro exchanges outcome course
  cases course with
  | conclude => exact holds

/-- **A part leads to where the next one leads from wherever it comes to.** -/
theorem Leads.bind {part : ExceptT ε Talk β} {next : β → ExceptT ε Talk α}
    {between : List (Sigma AdminCall.Reply) → Except ε β → Prop} (first : Leads part between)
    (stops : ∀ exchanges failure, between exchanges (.error failure) →
      goal exchanges (.error failure))
    (goesOn : ∀ early value, between early (.ok value) →
      Leads (next value) fun late outcome => goal (early ++ late) outcome) :
    Leads (part >>= next) goal := by
  intro exchanges outcome course
  rcases course_bind course with ⟨failure, stopped, rfl⟩ | ⟨early, value, late, earlyCourse,
    lateCourse, rfl⟩
  · exact stops exchanges failure (first exchanges _ stopped)
  · exact goesOn early value (first early _ earlyCourse) late outcome lateCourse

/-- A call leads to what follows its answer, or to its failure. -/
theorem leads_explained_bind {explain : AdminError → ε} {call : AdminCall}
    {next : call.Answer → ExceptT ε Talk α}
    (fails : ∀ problem, goal [⟨call, .error problem⟩] (.error (explain problem)))
    (goesOn : ∀ answer, Leads (next answer) fun rest outcome =>
      goal (⟨call, .ok answer⟩ :: rest) outcome) :
    Leads (explained explain call >>= next) goal := by
  intro exchanges outcome course
  rcases course_explained_bind course with ⟨problem, rfl, rfl⟩ | ⟨answer, rest, rfl, later⟩
  · exact fails problem
  · exact goesOn answer rest outcome later

/-- A call alone leads to its reply. -/
theorem leads_explained {explain : AdminError → ε} {call : AdminCall}
    {goal : List (Sigma AdminCall.Reply) → Except ε call.Answer → Prop}
    (replied : ∀ reply : call.Reply, goal [⟨call, reply⟩] (reply.mapError explain)) :
    Leads (explained explain call) goal := by
  intro exchanges outcome course
  cases course with
  | ask reply later =>
      cases later with
      | conclude => exact replied reply

/-- A part that asks only calls of one kind exchanges nothing else. -/
theorem leads_of_asks {kind : AdminCall → Prop} {part : ExceptT ε Talk α} (asks : Asks kind part) :
    Leads part fun exchanges _ => ∀ exchange ∈ exchanges, kind exchange.1 :=
  fun _ _ course => Dialogue.AsksOnly.course asks course

theorem leads_expect_bind {failure : GrantFailure} {value : Option β} {next : β → GrantPart α}
    {goal : List (Sigma AdminCall.Reply) → Except GrantFailure α → Prop}
    (missing : goal [] (.error failure)) (there : ∀ found, Leads (next found) goal) :
    Leads (expect failure value >>= next) goal := by
  cases value with
  | none => exact leads_throw missing
  | some found => exact there found

/-- A tolerated grant never fails, and neither does nothing in its place. What comes of it depends
on what became of the grant. -/
theorem leads_grantIf {realm client clientId : String}
    {grants : List (Sigma AdminCall.Reply) → Except GrantFailure Unit → Prop}
    {goal : List (Sigma AdminCall.Reply) → Except Failure Findings → Prop} {found : Findings}
    (granting : Leads (grantRoles realm client) grants) (needed : Bool)
    (without : goal [] (.ok found))
    (told : ∀ exchanges outcome, grants exchanges outcome →
      goal exchanges (.ok (found ++ grantFindings clientId outcome))) :
    Leads (if needed then do
        let granted ← tolerate (grantToServiceAccount realm client clientId)
        pure (found ++ granted)
      else pure found : Part Findings) goal := by
  by_cases isNeeded : needed = true
  · rw [if_pos isNeeded]
    intro exchanges outcome course
    rw [run_tolerate_grant] at course
    obtain ⟨first, granted, second, grantCourse, later, rfl⟩ := Dialogue.course_of_andThen course
    cases later with
    | conclude =>
        rw [List.append_nil]
        exact told first granted (granting first granted grantCourse)
  · rw [if_neg isNeeded]
    exact leads_pure without

end Leads

/-! ## Finding -/

/-- Whoever replies, if the part comes to a value, what is exchanged and the value are as told. -/
def Finds (part : ExceptT ε Talk α) (met : List (Sigma AdminCall.Reply) → α → Prop) : Prop :=
  Leads part fun exchanges outcome => ∀ value, outcome = .ok value → met exchanges value

section Finds

variable {met : List (Sigma AdminCall.Reply) → α → Prop}

theorem Finds.mono {part : ExceptT ε Talk α} {wider : List (Sigma AdminCall.Reply) → α → Prop}
    (finds : Finds part met)
    (wide : ∀ exchanges value, met exchanges value → wider exchanges value) : Finds part wider :=
  Leads.mono finds fun exchanges _ told value came => wide exchanges value (told value came)

/-- With a service, a part that comes to a value comes to one that is as told. -/
theorem Finds.reaches {part : ExceptT ε Talk α} {told : α → Prop}
    (finds : Finds part fun _ value => told value) (faults : Faults) (store : Store) :
    Reaches faults part store fun outcome _ => ∀ value, outcome = .ok value → told value :=
  Leads.reaches finds faults store

/-- A part finds what it comes to on one of its courses. -/
theorem finds_course (part : ExceptT ε Talk α) :
    Finds part fun exchanges value => Course part.run exchanges (.ok value) := by
  rintro exchanges outcome course value rfl
  exact course

theorem finds_any (part : ExceptT ε Talk α) : Finds part fun _ _ => True :=
  fun _ _ _ _ _ => trivial

theorem finds_pure {value : α} (holds : met [] value) :
    Finds (pure value : ExceptT ε Talk α) met := by
  refine leads_pure fun other same => ?_
  cases same
  exact holds

theorem finds_throw {failure : ε} : Finds (throw failure : ExceptT ε Talk α) met :=
  leads_throw fun _ never => nomatch never

/-- **What a part finds and what the next one finds from there is what both find.** -/
theorem Finds.bind {part : ExceptT ε Talk β} {next : β → ExceptT ε Talk α}
    {between : List (Sigma AdminCall.Reply) → β → Prop} (first : Finds part between)
    (goesOn : ∀ early value, between early value →
      Finds (next value) fun late final => met (early ++ late) final) :
    Finds (part >>= next) met :=
  Leads.bind first (fun _ _ _ _ never => nomatch never)
    fun early value told => goesOn early value (told value rfl)

theorem finds_explained_bind {explain : AdminError → ε} {call : AdminCall}
    {next : call.Answer → ExceptT ε Talk α}
    (goesOn : ∀ answer, Finds (next answer) fun rest value =>
      met (⟨call, .ok answer⟩ :: rest) value) :
    Finds (explained explain call >>= next) met :=
  leads_explained_bind (fun _ _ never => nomatch never) goesOn

/-- A tolerated grant, or nothing in its place. What is found out about the grant depends on what
became of it. -/
theorem finds_grantIf {realm client clientId : String}
    {grants : List (Sigma AdminCall.Reply) → Except GrantFailure Unit → Prop}
    {met : List (Sigma AdminCall.Reply) → Findings → Prop} {found : Findings}
    (granting : Leads (grantRoles realm client) grants) (needed : Bool) (without : met [] found)
    (told : ∀ exchanges outcome, grants exchanges outcome →
      met exchanges (found ++ grantFindings clientId outcome)) :
    Finds (if needed then do
        let granted ← tolerate (grantToServiceAccount realm client clientId)
        pure (found ++ granted)
      else pure found : Part Findings) met := by
  refine leads_grantIf granting needed ?_ fun exchanges outcome grants => ?_
  · rintro value ⟨⟩
    exact without
  · rintro value ⟨⟩
    exact told exchanges outcome grants

/-- What parts find one after the other, if what they find can be put together. -/
theorem finds_forEach {items : List β} {part : β → Part Findings}
    {met : List (Sigma AdminCall.Reply) → Findings → Prop} (nothing : met [] {})
    (append : ∀ early late found others, met early found → met late others →
      met (early ++ late) (found ++ others))
    (each : ∀ item ∈ items, Finds (part item) met) : Finds (forEach items part) met := by
  induction items with
  | nil => exact finds_pure nothing
  | cons item rest ih =>
      refine (each item List.mem_cons_self).bind fun early found metEarly => ?_
      have others := ih fun other member => each other (List.mem_cons_of_mem item member)
      refine others.bind fun late others metLate => ?_
      refine finds_pure ?_
      rw [List.append_nil]
      exact append early late found others metEarly metLate

end Finds

end RealmConvergence.Convergence
