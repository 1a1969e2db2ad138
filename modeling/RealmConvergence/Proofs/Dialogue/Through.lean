import RealmConvergence.Proofs.Collection.Place
import RealmConvergence.Proofs.Dialogue

/-!
# Dialogues settled by other dialogues

Where every question of a dialogue is settled by another dialogue, two things are exchanged: the
questions with their replies, and what settled them, one question after the other (`Settles`). The
whole ends in one of two ways (`Comes`): all questions of a course of the dialogue are settled, or
one is not, which breaks it off; there is no other (`comes_of_course`). A place in what was
exchanged is a place in what settled one of the questions (`Settles.place`), or in what broke it off
(`Comes.place`).
-/

set_option autoImplicit false

namespace RealmConvergence.Dialogue

variable {Question Other : Type} {Reply : Question → Type} {OtherReply : Other → Type}
  {State α : Type}

/-- What is exchanged settles these questions with these replies, one after the other, and leads
from the one state to the other. -/
inductive Settles
    (settle : (question : Question) → State →
      Dialogue Other OtherReply (Option (Reply question) × State)) :
    State → List (Sigma Reply) → List (Sigma OtherReply) → State → Prop where
  /-- Without a question, nothing is exchanged. -/
  | none (state : State) : Settles settle state [] [] state
  /-- One question is settled, and then the others. -/
  | more {question : Question} {reply : Reply question} {state between last : State}
      {first later : List (Sigma OtherReply)} {others : List (Sigma Reply)}
      (one : Course (settle question state) first (some reply, between))
      (rest : Settles settle between others later last) :
      Settles settle state (⟨question, reply⟩ :: others) (first ++ later) last

/-- What is exchanged when the questions of a dialogue are settled, what the dialogue comes to, and
the state afterwards. -/
inductive Comes
    (settle : (question : Question) → State →
      Dialogue Other OtherReply (Option (Reply question) × State))
    (dialogue : Dialogue Question Reply α) (state : State) :
    List (Sigma OtherReply) → Option α → State → Prop where
  /-- All questions of a course are settled. -/
  | concluded {replied : List (Sigma Reply)} {exchanges : List (Sigma OtherReply)} {value : α}
      {last : State} (course : Course dialogue replied value)
      (settles : Settles settle state replied exchanges last) :
      Comes settle dialogue state exchanges (some value) last
  /-- A question is not settled. -/
  | brokenOff {replied : List (Sigma Reply)} {question : Question}
      {early late : List (Sigma OtherReply)} {between last : State}
      (pending : Pending dialogue replied question)
      (settles : Settles settle state replied early between)
      (breaks : Course (settle question between) late (none, last)) :
      Comes settle dialogue state (early ++ late) none last

variable
  {settle : (question : Question) → State →
    Dialogue Other OtherReply (Option (Reply question) × State)}
  {state last : State} {replied : List (Sigma Reply)} {exchanges : List (Sigma OtherReply)}
  {dialogue : Dialogue Question Reply α} {came : Option α}

/-- Settling the questions of two dialogues after each other settles those of the one and then those
of the other, unless the one is broken off. -/
theorem through_andThen {β : Type} (next : α → Dialogue Question Reply β) :
    (dialogue.andThen next).through settle state =
      (dialogue.through settle state).andThen fun came =>
        match came.1 with
        | some value => (next value).through settle came.2
        | none => .conclude (none, came.2) := by
  induction dialogue generalizing state with
  | conclude value => rfl
  | ask question resume ih =>
      simp only [andThen, through, andThen_assoc]
      congr 1
      funext settled
      cases settled.1 with
      | none => rfl
      | some reply => exact ih reply

/-- **In a course of the whole, the questions of the dialogue are settled**, all of them or up to
one that breaks it off. -/
theorem comes_of_course (course : Course (dialogue.through settle state) exchanges (came, last)) :
    Comes settle dialogue state exchanges came last := by
  induction dialogue generalizing state exchanges with
  | conclude value =>
      cases course with
      | conclude => exact .concluded (.conclude value) (.none _)
  | ask question resume ih =>
      rw [through] at course
      obtain ⟨first, ⟨settled, between⟩, later, one, onward, rfl⟩ := course_of_andThen course
      cases settled with
      | none =>
          cases onward with
          | conclude =>
              rw [List.append_nil]
              exact .brokenOff .first (.none state) one
      | some reply =>
          cases ih reply onward with
          | concluded othersCourse rest =>
              exact .concluded (.ask reply othersCourse) (.more one rest)
          | brokenOff pending rest breaks =>
              rw [← List.append_assoc]
              exact .brokenOff (.after reply pending) (.more one rest) breaks

/-- Whatever settles the questions of the dialogue makes a course of the whole. -/
theorem Comes.course (comes : Comes settle dialogue state exchanges came last) :
    Course (dialogue.through settle state) exchanges (came, last) := by
  induction dialogue generalizing state exchanges with
  | conclude value =>
      cases comes with
      | concluded course settles =>
          cases course with
          | conclude =>
              cases settles with
              | none => exact .conclude _
      | brokenOff pending => cases pending
  | ask question resume ih =>
      rw [through]
      cases comes with
      | concluded course settles =>
          cases course with
          | ask reply later =>
              cases settles with
              | more one rest => exact one.andThen (ih reply (.concluded later rest))
      | @brokenOff _ _ _ late _ _ pending settles breaks =>
          cases pending with
          | first =>
              cases settles with
              | none =>
                  rw [List.nil_append, ← List.append_nil late]
                  exact breaks.andThen (.conclude (none, last))
          | after reply later =>
              cases settles with
              | more one rest =>
                  rw [List.append_assoc]
                  exact one.andThen (ih reply (.brokenOff later rest breaks))

/-- What settles some questions and then others settles the ones and then the others. -/
theorem Settles.of_append {first rest : List (Sigma Reply)}
    (settles : Settles settle state (first ++ rest) exchanges last) :
    ∃ between early late, Settles settle state first early between ∧
      Settles settle between rest late last ∧ exchanges = early ++ late := by
  induction first generalizing state exchanges with
  | nil => exact ⟨state, [], exchanges, .none state, settles, rfl⟩
  | cons head tail ih =>
      cases settles with
      | more one onward =>
          obtain ⟨between, early, late, settlesTail, settlesRest, rfl⟩ := ih onward
          exact ⟨between, _, late, .more one settlesTail, settlesRest,
            (List.append_assoc _ _ _).symm⟩

/-- What settles some questions and then what settles others settles both. -/
theorem Settles.append {first rest : List (Sigma Reply)} {between : State}
    {early late : List (Sigma OtherReply)} (one : Settles settle state first early between)
    (other : Settles settle between rest late last) :
    Settles settle state (first ++ rest) (early ++ late) last := by
  induction one with
  | none state => exact other
  | more here onward ih =>
      rw [List.append_assoc]
      exact .more here (ih other)

/-- **A place in what was exchanged is a place in what settled one question.** -/
theorem Settles.place {before after : List (Sigma OtherReply)} {place : Sigma OtherReply}
    (settles : Settles settle state replied (before ++ place :: after) last) :
    ∃ earlier question reply later start finish ahead inside beyond behind,
      replied = earlier ++ ⟨question, reply⟩ :: later ∧
        Settles settle state earlier ahead start ∧
          Course (settle question start) (inside ++ place :: beyond) (some reply, finish) ∧
            Settles settle finish later behind last ∧
              before = ahead ++ inside ∧ after = beyond ++ behind := by
  generalize isExchanged : before ++ place :: after = exchanged at settles
  induction settles generalizing before with
  | none state => exact (not_place_in_nil isExchanged.symm).elim
  | @more question reply state between last first later others one rest ih =>
      rcases append_eq_append_cons isExchanged.symm with ⟨beyond, rfl, rfl⟩ | ⟨less, rfl, rfl⟩
      · exact ⟨[], question, reply, others, state, between, [], before, beyond, later, rfl,
          .none state, one, rest, rfl, rfl⟩
      · obtain ⟨earlier, asked, answered, remaining, start, finish, ahead, inside, beyond, behind,
          rfl, settlesEarlier, here, settlesLater, rfl, rfl⟩ := ih rfl
        exact ⟨⟨question, reply⟩ :: earlier, asked, answered, remaining, start, finish,
          first ++ ahead, inside, beyond, behind, rfl, .more one settlesEarlier, here,
          settlesLater, (List.append_assoc _ _ _).symm, rfl⟩

/-- **A place in what was exchanged is a place in what came of one question.** -/
theorem Comes.place {before after : List (Sigma OtherReply)} {place : Sigma OtherReply}
    (comes : Comes settle dialogue state (before ++ place :: after) came last) :
    ∃ earlier question settled start finish ahead inside beyond,
      Pending dialogue earlier question ∧ Settles settle state earlier ahead start ∧
        Course (settle question start) (inside ++ place :: beyond) (settled, finish) ∧
          before = ahead ++ inside := by
  generalize isExchanged : before ++ place :: after = exchanges at comes
  cases comes with
  | concluded course settles =>
      subst isExchanged
      obtain ⟨earlier, question, reply, later, start, finish, ahead, inside, beyond, behind, rfl,
        settlesEarlier, here, -, rfl, -⟩ := settles.place
      exact ⟨earlier, question, some reply, start, finish, ahead, inside, beyond, course.pending,
        settlesEarlier, here, rfl⟩
  | @brokenOff replied question early late between _ pending settles breaks =>
      rcases append_eq_append_cons isExchanged.symm with ⟨behind, rfl, -⟩ | ⟨inside, rfl, rfl⟩
      · obtain ⟨earlier, asked, reply, later, start, finish, ahead, inside, beyond, rest, rfl,
          settlesEarlier, here, -, rfl, -⟩ := settles.place
        exact ⟨earlier, asked, some reply, start, finish, ahead, inside, beyond, pending.earlier,
          settlesEarlier, here, rfl⟩
      · exact ⟨replied, question, none, between, last, early, inside, after, pending, settles,
          breaks, rfl⟩

end RealmConvergence.Dialogue
