import Mathlib.Logic.Relation
import RealmConvergence.Proofs.Dialogue

/-!
# Dialogues amid other business

Someone who replies from a state may have other business: between any two questions of a dialogue,
and before the first and after the last, the state may move on its own (`Dialogue.Amid`). What such
a dialogue comes to depends on the moves. A dialogue falls apart at its questions
(`amid_ask`, `amid_conclude`) and at its parts (`Amid.of_andThen`), with moves anywhere.

Without a single move, a dialogue runs as it does alone (`amid_run`). The other business may be
another dialogue: of two dialogues that take turns in any way (`Dialogue.TakeTurns`), each goes on
amid the questions of the other one (`TakeTurns.amid`).
-/

set_option autoImplicit false

namespace RealmConvergence.Dialogue

variable {Question : Type} {Reply : Question → Type} {State α β : Type}

/-- A dialogue with someone who replies from a state and has other business: the questions asked,
the value, and the state at the end. -/
inductive Amid (respond : (question : Question) → State → Reply question × State)
    (moves : State → State → Prop) :
    Dialogue Question Reply α → State → List Question → α → State → Prop where
  /-- The dialogue has come to its value. -/
  | conclude (value : α) (state : State) : Amid respond moves (.conclude value) state [] value state
  /-- A question is asked and replied to, and the dialogue goes on. -/
  | ask {question : Question} {resume : Reply question → Dialogue Question Reply α}
      {state last : State} {rest : List Question} {value : α}
      (later : Amid respond moves (resume (respond question state).1) (respond question state).2
        rest value last) :
      Amid respond moves (.ask question resume) state (question :: rest) value last
  /-- Meanwhile, the state moves. -/
  | meanwhile {dialogue : Dialogue Question Reply α} {state between last : State}
      {asked : List Question} {value : α} (move : moves state between)
      (later : Amid respond moves dialogue between asked value last) :
      Amid respond moves dialogue state asked value last

section Amid

variable {respond : (question : Question) → State → Reply question × State}
  {moves : State → State → Prop} {dialogue : Dialogue Question Reply α} {state last : State}
  {asked : List Question} {value : α}

/-- A dialogue runs as it does alone when nothing else happens. -/
theorem amid_run (dialogue : Dialogue Question Reply α) (state : State) :
    Amid respond moves dialogue state (dialogue.asked respond state)
      (dialogue.run respond state).1 (dialogue.run respond state).2 := by
  induction dialogue generalizing state with
  | conclude value => exact .conclude value state
  | ask question resume ih => exact .ask (ih _ _)

/-- After its value, there is nothing left of a dialogue but moves. -/
theorem amid_conclude {other : α}
    (amid : Amid respond moves (.conclude other : Dialogue Question Reply α) state asked value
      last) :
    asked = [] ∧ value = other ∧ Relation.ReflTransGen moves state last := by
  generalize isConclude : (.conclude other : Dialogue Question Reply α) = dialogue at amid
  induction amid with
  | conclude value state =>
      cases isConclude
      exact ⟨rfl, rfl, .refl⟩
  | ask later ih => cases isConclude
  | meanwhile move later ih =>
      obtain ⟨nothing, same, more⟩ := ih isConclude
      exact ⟨nothing, same, more.head move⟩

/-- A question is asked after some moves. -/
theorem amid_ask {question : Question} {resume : Reply question → Dialogue Question Reply α}
    (amid : Amid respond moves (.ask question resume) state asked value last) :
    ∃ between rest, Relation.ReflTransGen moves state between ∧ asked = question :: rest ∧
      Amid respond moves (resume (respond question between).1) (respond question between).2 rest
        value last := by
  generalize isAsk : Dialogue.ask question resume = dialogue at amid
  induction amid with
  | conclude value state => cases isAsk
  | ask later ih =>
      cases isAsk
      exact ⟨_, _, .refl, rfl, later⟩
  | meanwhile move later ih =>
      obtain ⟨between, rest, more, same, onward⟩ := ih isAsk
      exact ⟨between, rest, more.head move, same, onward⟩

/-- Moves may come first. -/
theorem Amid.after {between : State} (moved : Relation.ReflTransGen moves state between)
    (amid : Amid respond moves dialogue between asked value last) :
    Amid respond moves dialogue state asked value last := by
  induction moved using Relation.ReflTransGen.head_induction_on with
  | refl => exact amid
  | head move _ later => exact .meanwhile move later

/-- **Two dialogues after each other, amid other business, are each of them so.** -/
theorem Amid.of_andThen {next : α → Dialogue Question Reply β} {final : β}
    (amid : Amid respond moves (dialogue.andThen next) state asked final last) :
    ∃ first value between second, Amid respond moves dialogue state first value between ∧
      Amid respond moves (next value) between second final last ∧ asked = first ++ second := by
  induction dialogue generalizing state asked with
  | conclude value => exact ⟨[], value, state, asked, .conclude value state, amid, rfl⟩
  | ask question resume ih =>
      obtain ⟨between, rest, moved, rfl, onward⟩ := amid_ask amid
      obtain ⟨first, value, middle, second, firstAmid, secondAmid, rfl⟩ := ih _ onward
      exact ⟨question :: first, value, middle, second, .after moved (.ask firstAmid), secondAmid,
        rfl⟩

/-- Amid other business too, only questions of the kind are asked. -/
theorem AsksOnly.amid {kind : Question → Prop} (only : dialogue.AsksOnly kind)
    (amid : Amid respond moves dialogue state asked value last) :
    ∀ question ∈ asked, kind question := by
  induction amid with
  | conclude value state =>
      intro question member
      cases member
  | ask later ih =>
      intro question member
      rcases List.mem_cons.1 member with here | after
      · subst here
        exact only.1
      · exact ih (only.2 _) question after
  | meanwhile move later ih => exact ih only

end Amid

/-! ## Two dialogues -/

/-- Two dialogues take turns in any way with someone who replies to both from one state: their
values, and the state at the end. -/
inductive TakeTurns (respond : (question : Question) → State → Reply question × State) :
    Dialogue Question Reply α → Dialogue Question Reply β → State → α → β → State → Prop where
  /-- Both dialogues have come to their values. -/
  | conclude (value : α) (other : β) (state : State) :
      TakeTurns respond (.conclude value) (.conclude other) state value other state
  /-- It is the turn of the first dialogue. -/
  | first {question : Question} {resume : Reply question → Dialogue Question Reply α}
      {second : Dialogue Question Reply β} {state last : State} {value : α} {other : β}
      (later : TakeTurns respond (resume (respond question state).1) second
        (respond question state).2 value other last) :
      TakeTurns respond (.ask question resume) second state value other last
  /-- It is the turn of the second dialogue. -/
  | second {question : Question} {first : Dialogue Question Reply α}
      {resume : Reply question → Dialogue Question Reply β} {state last : State} {value : α}
      {other : β}
      (later : TakeTurns respond first (resume (respond question state).1)
        (respond question state).2 value other last) :
      TakeTurns respond first (.ask question resume) state value other last

section TakeTurns

variable {respond : (question : Question) → State → Reply question × State}
  {first : Dialogue Question Reply α} {second : Dialogue Question Reply β} {state last : State}
  {value : α} {other : β}

theorem TakeTurns.symm (turns : TakeTurns respond first second state value other last) :
    TakeTurns respond second first state other value last := by
  induction turns with
  | conclude value other state => exact .conclude other value state
  | first later ih => exact .second ih
  | second later ih => exact .first ih

/-- **Of two dialogues that take turns, each goes on amid the questions of the other one.** -/
theorem TakeTurns.amid (turns : TakeTurns respond first second state value other last)
    {kind : Question → Prop} (only : second.AsksOnly kind) :
    ∃ asked, Amid respond
      (fun before after => ∃ question, kind question ∧ after = (respond question before).2) first
      state asked value last := by
  induction turns with
  | conclude value other state => exact ⟨[], .conclude value state⟩
  | first later ih =>
      obtain ⟨rest, amid⟩ := ih only
      exact ⟨_, .ask amid⟩
  | second later ih =>
      obtain ⟨rest, amid⟩ := ih (only.2 _)
      exact ⟨rest, .meanwhile ⟨_, only.1, rfl⟩ amid⟩

end TakeTurns

end RealmConvergence.Dialogue
