import RealmConvergence.Proofs.Convergence.Leading
import RealmConvergence.Proofs.Collection.Place

/-!
# Turns of a run

What is exchanged in a run falls into turns, one for each item of a list, in the order of the list.
A run that stops ends within a turn, and has none for the items after it (`GoesThrough`). Doing
something for each item of a list goes through the list (`goesThrough_forEach`).

Within a turn a call may depend on what has been exchanged before it. A judgement on parts of runs,
beside those of `RealmConvergence.Proofs.Convergence.Leading`, says so of every call: `Draws allowed
earlier part` holds if, whoever replies, the part makes only calls that are allowed by what was
exchanged up to them, `earlier` included.
-/

set_option autoImplicit false

namespace RealmConvergence.Convergence

open Dialogue (Course)

/-- Calls with their replies, in order. -/
abbrev Transcript := List (Sigma AdminCall.Reply)

variable {ε α β : Type}

/-! ## One item after the other -/

/-- The exchanges are turns for the items in order: for all of them if the turns are finished, and
otherwise up to one in which they end. -/
inductive GoesThrough (turn : Bool → α → Transcript → Prop) :
    List α → Bool → Transcript → Prop where
  /-- There is no item left. -/
  | finished : GoesThrough turn [] true []
  /-- The exchanges end in the turn of an item. -/
  | ends {item : α} {rest : List α} {exchanges : Transcript}
      (unfinished : turn false item exchanges) :
      GoesThrough turn (item :: rest) false exchanges
  /-- The turn of an item is finished, and the others follow. -/
  | goesOn {item : α} {rest : List α} {isFinished : Bool} {early late : Transcript}
      (whole : turn true item early) (later : GoesThrough turn rest isFinished late) :
      GoesThrough turn (item :: rest) isFinished (early ++ late)

theorem GoesThrough.imp {turn wider : Bool → α → Transcript → Prop} {items : List α}
    {isFinished : Bool} {exchanges : Transcript}
    (through : GoesThrough turn items isFinished exchanges)
    (wide : ∀ isWhole, ∀ item ∈ items, ∀ piece,
      turn isWhole item piece → wider isWhole item piece) :
    GoesThrough wider items isFinished exchanges := by
  induction through with
  | finished => exact .finished
  | ends unfinished => exact .ends (wide false _ List.mem_cons_self _ unfinished)
  | goesOn whole later ih =>
      refine .goesOn (wide true _ List.mem_cons_self _ whole) (ih fun isWhole item member => ?_)
      exact wide isWhole item (List.mem_cons_of_mem _ member)

theorem isOk_map (outcome : Except ε α) (f : α → β) : (outcome.map f).isOk = outcome.isOk := by
  cases outcome <;> rfl

/-- **What is done for each item of a list goes through the list.** -/
theorem goesThrough_forEach {items : List α} {part : α → Part Findings} {exchanges : Transcript}
    {outcome : Except Failure Findings}
    (course : Course (forEach items part).run exchanges outcome) :
    GoesThrough (fun isWhole item piece => ∃ came : Except Failure Findings,
      came.isOk = isWhole ∧ Course (part item).run piece came) items outcome.isOk exchanges := by
  induction items generalizing exchanges outcome with
  | nil =>
      obtain ⟨rfl, rfl⟩ := course_pure course
      exact .finished
  | cons item rest ih =>
      rcases course_followedBy course with ⟨failure, stopped, rfl⟩ | ⟨early, found, late, others,
        itemCourse, restCourse, rfl, rfl⟩
      · exact .ends ⟨_, rfl, stopped⟩
      · rw [isOk_map]
        exact .goesOn ⟨_, rfl, itemCourse⟩ (ih restCourse)

/-- The exchanges are finished turns for all items in order, and what is found is what each turn has
found. -/
inductive FoundInTurns (told : α → Transcript → Findings → Prop) :
    List α → Transcript → Findings → Prop where
  /-- There is no item left. -/
  | finished : FoundInTurns told [] [] {}
  /-- The turn of an item has found something, and so have those that follow. -/
  | goesOn {item : α} {rest : List α} {early late : Transcript} {found others : Findings}
      (turn : told item early found) (later : FoundInTurns told rest late others) :
      FoundInTurns told (item :: rest) (early ++ late) (found ++ others)

/-- **What is found for a list is found turn by turn.** -/
theorem finds_forEach_inTurns {items : List α} {part : α → Part Findings}
    {told : α → Transcript → Findings → Prop}
    (each : ∀ item ∈ items, Finds (part item) (told item)) :
    Finds (forEach items part) (FoundInTurns told items) := by
  induction items with
  | nil => exact finds_pure .finished
  | cons item rest ih =>
      refine (each item List.mem_cons_self).bind fun early found turn => ?_
      have later := ih fun other member => each other (List.mem_cons_of_mem item member)
      refine later.bind fun late others turns => finds_pure ?_
      rw [List.append_nil]
      exact .goesOn turn turns

/-! ## Calls that draw on what was exchanged -/

/-- Every call is allowed by what was exchanged before it. -/
def Drawn (allowed : Transcript → AdminCall → Prop) (earlier exchanges : Transcript) : Prop :=
  ∀ before exchange after, exchanges = before ++ exchange :: after →
    allowed (earlier ++ before) exchange.1

section Drawn

variable {allowed : Transcript → AdminCall → Prop} {earlier exchanges : Transcript}

theorem drawn_nil : Drawn allowed earlier [] :=
  fun _ _ _ place => (not_place_in_nil place).elim

theorem Drawn.append {early late : Transcript} (first : Drawn allowed earlier early)
    (rest : Drawn allowed (earlier ++ early) late) : Drawn allowed earlier (early ++ late) := by
  intro before exchange after place
  rcases append_eq_append_cons place with ⟨more, isEarly, -⟩ | ⟨less, rfl, isLate⟩
  · exact first before exchange more isEarly
  · rw [← List.append_assoc]
    exact rest less exchange after isLate

theorem drawn_cons {exchange : Sigma AdminCall.Reply} (isAllowed : allowed earlier exchange.1)
    (rest : Drawn allowed (earlier ++ [exchange]) exchanges) :
    Drawn allowed earlier (exchange :: exchanges) := by
  have alone : Drawn allowed earlier [exchange] := by
    intro before other after place
    obtain ⟨rfl, rfl, -⟩ := place_in_singleton place
    rwa [List.append_nil]
  exact alone.append rest

end Drawn

/-- Whoever replies, every call of the part is allowed by what was exchanged before it. -/
def Draws (allowed : Transcript → AdminCall → Prop) (earlier : Transcript)
    (part : ExceptT ε Talk α) : Prop :=
  Leads part fun exchanges _ => Drawn allowed earlier exchanges

section Draws

variable {allowed : Transcript → AdminCall → Prop} {earlier : Transcript}

theorem draws_pure (value : α) : Draws allowed earlier (pure value : ExceptT ε Talk α) :=
  leads_pure drawn_nil

theorem draws_throw (failure : ε) : Draws allowed earlier (throw failure : ExceptT ε Talk α) :=
  leads_throw drawn_nil

/-- **A call draws on what was exchanged before it**, and what follows also on its answer. -/
theorem draws_explained_bind {explain : AdminError → ε} {call : AdminCall}
    {next : call.Answer → ExceptT ε Talk α} (isAllowed : allowed earlier call)
    (goesOn : ∀ answer, Draws allowed (earlier ++ [⟨call, .ok answer⟩]) (next answer)) :
    Draws allowed earlier (explained explain call >>= next) :=
  leads_explained_bind (fun _ => drawn_cons isAllowed drawn_nil) fun answer =>
    (goesOn answer).mono fun _ _ rest => drawn_cons isAllowed rest

theorem draws_explained {explain : AdminError → ε} {call : AdminCall}
    (isAllowed : allowed earlier call) : Draws allowed earlier (explained explain call) :=
  leads_explained fun _ => drawn_cons isAllowed drawn_nil

/-- A part after another draws also on what that one has exchanged. -/
theorem Draws.bind {part : ExceptT ε Talk α} {next : α → ExceptT ε Talk β}
    (first : Draws allowed earlier part)
    (goesOn : ∀ more value, Draws allowed (earlier ++ more) (next value)) :
    Draws allowed earlier (part >>= next) :=
  Leads.bind first (fun _ _ drawn => drawn) fun early value drawn =>
    (goesOn early value).mono fun _ _ rest => drawn.append rest

theorem draws_expect_bind {failure : GrantFailure} {value : Option α} {next : α → GrantPart β}
    (there : ∀ found, value = some found → Draws allowed earlier (next found)) :
    Draws allowed earlier (expect failure value >>= next) := by
  cases value with
  | none => exact draws_throw failure
  | some found => exact there found rfl

theorem draws_forEach {items : List α} {part : α → Part Findings}
    (each : ∀ item ∈ items, ∀ more, Draws allowed (earlier ++ more) (part item)) :
    Draws allowed earlier (forEach items part) := by
  induction items generalizing earlier with
  | nil => exact draws_pure _
  | cons item rest ih =>
      have first := each item List.mem_cons_self []
      rw [List.append_nil] at first
      refine first.bind fun more _ => ?_
      refine (ih fun other member further => ?_).bind fun _ _ => draws_pure _
      rw [List.append_assoc]
      exact each other (List.mem_cons_of_mem item member) (more ++ further)

/-- A tolerated grant, or nothing in its place. -/
theorem draws_grantIf {realm client clientId : String}
    (granting : Draws allowed earlier (grantRoles realm client)) (needed : Bool)
    (found : Findings) :
    Draws allowed earlier (if needed then do
        let granted ← tolerate (grantToServiceAccount realm client clientId)
        pure (found ++ granted)
      else pure found : Part Findings) :=
  leads_grantIf granting needed drawn_nil fun _ _ drawn => drawn

end Draws

/-! ## Turns -/

/-- There is a call, and every call is allowed by the turn before it. -/
def TurnOf (allowed : Transcript → AdminCall → Prop) (exchanges : Transcript) : Prop :=
  exchanges ≠ [] ∧ Drawn allowed [] exchanges

/-- A part that begins with a call takes a turn. -/
theorem turn_explained_bind {allowed : Transcript → AdminCall → Prop} {explain : AdminError → ε}
    {call : AdminCall} {next : call.Answer → ExceptT ε Talk α} (isAllowed : allowed [] call)
    (goesOn : ∀ answer, Draws allowed [⟨call, .ok answer⟩] (next answer)) :
    Leads (explained explain call >>= next) fun exchanges _ => TurnOf allowed exchanges := by
  have drawn : Draws allowed [] (explained explain call >>= next) :=
    draws_explained_bind isAllowed goesOn
  have some : Leads (explained explain call >>= next) fun exchanges _ => exchanges ≠ [] :=
    leads_explained_bind (fun _ => List.cons_ne_nil _ _) fun answer =>
      (leads_any (next answer)).mono fun _ _ _ => List.cons_ne_nil _ _
  exact fun exchanges outcome course =>
    ⟨some exchanges outcome course, drawn exchanges outcome course⟩

end RealmConvergence.Convergence
