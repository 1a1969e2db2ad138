/-!
# Dialogues

A computation that speaks to the outside is a tree: it has come to its value, or it asks a question
and goes on according to the reply. What stands on the other side is no part of it. It may be a
function on some state (`Dialogue.run`), another dialogue (`Dialogue.through`), or left open
(`Dialogue.Course`, the replies that lead to a value).

`run_bind` says that a dialogue followed by another runs as the first and then the second.
-/

set_option autoImplicit false

namespace RealmConvergence

/-- A computation that asks questions. -/
inductive Dialogue (Question : Type) (Reply : Question → Type) (α : Type) where
  /-- The computation has come to its value. -/
  | conclude (value : α)
  /-- The computation asks a question and goes on with the reply. -/
  | ask (question : Question) (resume : Reply question → Dialogue Question Reply α)

namespace Dialogue

variable {Question : Type} {Reply : Question → Type} {α β γ : Type}

/-- A dialogue followed by one that depends on its value. -/
def andThen : Dialogue Question Reply α → (α → Dialogue Question Reply β) →
    Dialogue Question Reply β
  | .conclude value, next => next value
  | .ask question resume, next => .ask question fun reply => (resume reply).andThen next

instance : Monad (Dialogue Question Reply) where
  pure := .conclude
  bind := andThen

/-- The dialogue of a single question. -/
def question (asked : Question) : Dialogue Question Reply (Reply asked) :=
  .ask asked .conclude

@[simp] theorem andThen_conclude (dialogue : Dialogue Question Reply α) :
    dialogue.andThen .conclude = dialogue := by
  induction dialogue with
  | conclude value => rfl
  | ask question resume ih => simp only [andThen, ih]

theorem andThen_assoc (dialogue : Dialogue Question Reply α) (next : α → Dialogue Question Reply β)
    (last : β → Dialogue Question Reply γ) :
    (dialogue.andThen next).andThen last =
      dialogue.andThen fun value => (next value).andThen last := by
  induction dialogue with
  | conclude value => rfl
  | ask question resume ih => simp only [andThen, ih]

instance : LawfulMonad (Dialogue Question Reply) :=
  LawfulMonad.mk' _ (fun dialogue => andThen_conclude dialogue) (fun _ _ => rfl)
    (fun dialogue next last => andThen_assoc dialogue next last)

/-! ## The other side as a function on a state -/

/-- The value of a dialogue with someone who replies from a state, and the state afterwards. -/
def run {State : Type} (respond : (question : Question) → State → Reply question × State) :
    Dialogue Question Reply α → State → α × State
  | .conclude value, state => (value, state)
  | .ask question resume, state =>
    let (reply, next) := respond question state
    (resume reply).run respond next

/-- A dialogue followed by another runs as the first and then the second. -/
theorem run_bind {State : Type} (respond : (question : Question) → State → Reply question × State)
    (dialogue : Dialogue Question Reply α) (next : α → Dialogue Question Reply β) (state : State) :
    (dialogue >>= next).run respond state =
      (next (dialogue.run respond state).1).run respond (dialogue.run respond state).2 := by
  show (dialogue.andThen next).run respond state = _
  induction dialogue generalizing state with
  | conclude value => rfl
  | ask question resume ih => exact ih _ _

/-! ## The other side as another dialogue -/

/-- A dialogue in which every question is settled by another dialogue that keeps a state. A question
that is not settled breaks the dialogue off. -/
def through {Other : Type} {OtherReply : Other → Type} {State : Type}
    (settle : (question : Question) → State →
      Dialogue Other OtherReply (Option (Reply question) × State)) :
    Dialogue Question Reply α → State → Dialogue Other OtherReply (Option α × State)
  | .conclude value, state => .conclude (some value, state)
  | .ask question resume, state =>
    (settle question state).andThen fun settled =>
      match settled.1 with
      | some reply => (resume reply).through settle settled.2
      | none => .conclude (none, settled.2)

/-! ## The other side left open -/

/-- The questions asked and the replies given on the way to a value. -/
inductive Course : Dialogue Question Reply α → List (Sigma Reply) → α → Prop where
  /-- Nothing is asked by a dialogue that has come to its value. -/
  | conclude (value : α) : Course (.conclude value) [] value
  /-- A question is asked and replied to, and the dialogue goes on. -/
  | ask {question : Question} {resume : Reply question → Dialogue Question Reply α}
      (reply : Reply question) {rest : List (Sigma Reply)} {value : α}
      (later : Course (resume reply) rest value) :
      Course (.ask question resume) (⟨question, reply⟩ :: rest) value

end Dialogue

end RealmConvergence
