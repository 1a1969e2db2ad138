import RealmConvergence.Dialogue

/-!
# What is asked in a dialogue

A dialogue asks only questions of some kind (`Dialogue.AsksOnly`) when no reply can lead it to
another one. Such a dialogue keeps whatever these questions keep (`AsksOnly.run_keeps`), and with
the replies left open every course of it shows such questions alone (`AsksOnly.course`).

With someone who replies from a state, the questions asked on the way are a list
(`Dialogue.asked`), and with the replies to them they make a course (`course_exchanged`). A course
of two dialogues after each other falls apart into a course of each (`course_of_andThen`), and
courses of each make one of both (`Course.andThen`). A dialogue may also be looked at while it waits
for a reply (`Pending`); every reply then leads on to a course (`Pending.exists_course`).
-/

set_option autoImplicit false

namespace RealmConvergence.Dialogue

variable {Question : Type} {Reply : Question → Type} {State α β : Type}

/-! ## Questions of one kind -/

/-- Whatever is replied, only questions of this kind are asked. -/
def AsksOnly (kind : Question → Prop) : Dialogue Question Reply α → Prop
  | .conclude _ => True
  | .ask question resume => kind question ∧ ∀ reply, (resume reply).AsksOnly kind

section AsksOnly

variable {kind : Question → Prop}

theorem AsksOnly.andThen {dialogue : Dialogue Question Reply α}
    {next : α → Dialogue Question Reply β} (first : dialogue.AsksOnly kind)
    (later : ∀ value, (next value).AsksOnly kind) : (dialogue.andThen next).AsksOnly kind := by
  induction dialogue with
  | conclude value => exact later value
  | ask question resume ih => exact ⟨first.1, fun reply => ih reply (first.2 reply)⟩

theorem AsksOnly.mono {wider : Question → Prop} (wide : ∀ question, kind question → wider question)
    {dialogue : Dialogue Question Reply α} (only : dialogue.AsksOnly kind) :
    dialogue.AsksOnly wider := by
  induction dialogue with
  | conclude value => trivial
  | ask question resume ih => exact ⟨wide question only.1, fun reply => ih reply (only.2 reply)⟩

theorem asksOnly_true (dialogue : Dialogue Question Reply α) :
    dialogue.AsksOnly fun _ => True := by
  induction dialogue with
  | conclude value => trivial
  | ask question resume ih => exact ⟨trivial, ih⟩

/-- **What the questions keep, the dialogue keeps.** -/
theorem AsksOnly.run_keeps {respond : (question : Question) → State → Reply question × State}
    {kept : State → Prop}
    (keeps : ∀ question state, kind question → kept state → kept (respond question state).2)
    {dialogue : Dialogue Question Reply α} (only : dialogue.AsksOnly kind) {state : State}
    (holds : kept state) : kept (dialogue.run respond state).2 := by
  induction dialogue generalizing state with
  | conclude value => exact holds
  | ask question resume ih =>
      exact ih _ (only.2 _) (keeps question state only.1 holds)

theorem AsksOnly.course {dialogue : Dialogue Question Reply α} (only : dialogue.AsksOnly kind)
    {exchanges : List (Sigma Reply)} {value : α} (course : Course dialogue exchanges value) :
    ∀ exchange ∈ exchanges, kind exchange.1 := by
  induction course with
  | conclude value =>
      intro exchange member
      cases member
  | ask reply later ih =>
      intro exchange member
      rcases List.mem_cons.1 member with here | after
      · subst here
        exact only.1
      · exact ih (only.2 reply) exchange after

end AsksOnly

/-! ## The questions asked of a state -/

/-- The questions asked on the way, with someone who replies from a state. -/
def asked (respond : (question : Question) → State → Reply question × State) :
    Dialogue Question Reply α → State → List Question
  | .conclude _, _ => []
  | .ask question resume, state =>
    question :: (resume (respond question state).1).asked respond (respond question state).2

/-- On the way, only questions of the kind are asked. -/
theorem AsksOnly.asked {kind : Question → Prop} {dialogue : Dialogue Question Reply α}
    (only : dialogue.AsksOnly kind)
    (respond : (question : Question) → State → Reply question × State) (state : State) :
    ∀ question ∈ dialogue.asked respond state, kind question := by
  induction dialogue generalizing state with
  | conclude value =>
      intro question member
      cases member
  | ask first resume ih =>
      intro question member
      rcases List.mem_cons.1 member with here | after
      · subst here
        exact only.1
      · exact ih _ (only.2 _) _ question after

theorem asked_andThen (respond : (question : Question) → State → Reply question × State)
    (dialogue : Dialogue Question Reply α) (next : α → Dialogue Question Reply β) (state : State) :
    (dialogue.andThen next).asked respond state =
      dialogue.asked respond state ++
        (next (dialogue.run respond state).1).asked respond (dialogue.run respond state).2 := by
  induction dialogue generalizing state with
  | conclude value => rfl
  | ask question resume ih =>
      simp only [andThen, asked, run, ih, List.cons_append]

theorem run_andThen (respond : (question : Question) → State → Reply question × State)
    (dialogue : Dialogue Question Reply α) (next : α → Dialogue Question Reply β) (state : State) :
    (dialogue.andThen next).run respond state =
      (next (dialogue.run respond state).1).run respond (dialogue.run respond state).2 :=
  run_bind respond dialogue next state

/-! ## Courses -/

/-- A course of two dialogues after each other is a course of the first, and one of the second. -/
theorem course_of_andThen {dialogue : Dialogue Question Reply α}
    {next : α → Dialogue Question Reply β} {exchanges : List (Sigma Reply)} {value : β}
    (course : Course (dialogue.andThen next) exchanges value) :
    ∃ first between second, Course dialogue first between ∧ Course (next between) second value ∧
      exchanges = first ++ second := by
  induction dialogue generalizing exchanges with
  | conclude between => exact ⟨[], between, exchanges, .conclude between, course, rfl⟩
  | ask question resume ih =>
      cases course with
      | ask reply later =>
          obtain ⟨first, between, second, firstCourse, secondCourse, same⟩ := ih reply later
          exact ⟨⟨question, reply⟩ :: first, between, second, .ask reply firstCourse, secondCourse,
            congrArg (⟨question, reply⟩ :: ·) same⟩

/-- A course of one dialogue and a course of the next make a course of both. -/
theorem Course.andThen {dialogue : Dialogue Question Reply α}
    {next : α → Dialogue Question Reply β} {first second : List (Sigma Reply)} {between : α}
    {value : β} (firstCourse : Course dialogue first between)
    (secondCourse : Course (next between) second value) :
    Course (dialogue.andThen next) (first ++ second) value := by
  induction firstCourse with
  | conclude value => exact secondCourse
  | ask reply later ih => exact .ask reply (ih secondCourse)

/-- Whatever follows it, a course shows where it ends: no other course of the dialogue begins in the
same way. -/
theorem Course.unique {dialogue : Dialogue Question Reply α} {first second : List (Sigma Reply)}
    {rest others : List (Sigma Reply)} {value other : α} (one : Course dialogue first value)
    (another : Course dialogue second other) (same : first ++ rest = second ++ others) :
    first = second ∧ rest = others := by
  induction one generalizing second with
  | conclude value =>
      cases another with
      | conclude => exact ⟨rfl, same⟩
  | ask reply later ih =>
      cases another with
      | ask otherReply otherLater =>
          obtain ⟨head, tail⟩ := List.cons.inj same
          cases head
          obtain ⟨sameLater, sameRest⟩ := ih otherLater tail
          exact ⟨congrArg (_ :: ·) sameLater, sameRest⟩

/-- The questions asked on the way with the replies to them, with someone who replies from a
state. -/
def exchanged (respond : (question : Question) → State → Reply question × State) :
    Dialogue Question Reply α → State → List (Sigma Reply)
  | .conclude _, _ => []
  | .ask question resume, state =>
    ⟨question, (respond question state).1⟩ ::
      (resume (respond question state).1).exchanged respond (respond question state).2

/-- What is exchanged with someone who replies from a state makes a course. -/
theorem course_exchanged (respond : (question : Question) → State → Reply question × State)
    (dialogue : Dialogue Question Reply α) (state : State) :
    Course dialogue (dialogue.exchanged respond state) (dialogue.run respond state).1 := by
  induction dialogue generalizing state with
  | conclude value => exact .conclude value
  | ask question resume ih => exact .ask _ (ih _ _)

/-- What someone replies from a state makes a course. -/
theorem course_of_run (respond : (question : Question) → State → Reply question × State)
    (dialogue : Dialogue Question Reply α) (state : State) :
    ∃ exchanges, Course dialogue exchanges (dialogue.run respond state).1 :=
  ⟨_, course_exchanged respond dialogue state⟩

/-! ## Waiting for a reply -/

/-- After these exchanges, the dialogue asks the question. -/
inductive Pending : Dialogue Question Reply α → List (Sigma Reply) → Question → Prop where
  /-- The question is the first one. -/
  | first {question : Question} {resume : Reply question → Dialogue Question Reply α} :
      Pending (.ask question resume) [] question
  /-- Another question is replied to before. -/
  | after {question asked : Question} {resume : Reply question → Dialogue Question Reply α}
      (reply : Reply question) {rest : List (Sigma Reply)}
      (later : Pending (resume reply) rest asked) :
      Pending (.ask question resume) (⟨question, reply⟩ :: rest) asked

/-- In every course, a dialogue waits for each of the replies. -/
theorem Course.pending {dialogue : Dialogue Question Reply α} {before after : List (Sigma Reply)}
    {question : Question} {reply : Reply question} {value : α}
    (course : Course dialogue (before ++ ⟨question, reply⟩ :: after) value) :
    Pending dialogue before question := by
  induction before generalizing dialogue with
  | nil =>
      cases course with
      | ask => exact .first
  | cons head tail ih =>
      cases course with
      | ask reply later => exact .after reply (ih later)

/-- What was replied to was waited for. -/
theorem Pending.earlier {dialogue : Dialogue Question Reply α} {before after : List (Sigma Reply)}
    {question asked : Question} {reply : Reply question}
    (pending : Pending dialogue (before ++ ⟨question, reply⟩ :: after) asked) :
    Pending dialogue before question := by
  induction before generalizing dialogue with
  | nil =>
      cases pending with
      | after => exact .first
  | cons head tail ih =>
      cases pending with
      | after reply later => exact .after reply (ih later)

section Replies

variable [∀ question, Nonempty (Reply question)]

theorem exists_course (dialogue : Dialogue Question Reply α) :
    ∃ exchanges value, Course dialogue exchanges value := by
  induction dialogue with
  | conclude value => exact ⟨[], value, .conclude value⟩
  | ask question resume ih =>
      obtain ⟨reply⟩ : Nonempty (Reply question) := inferInstance
      obtain ⟨exchanges, value, course⟩ := ih reply
      exact ⟨_, value, .ask reply course⟩

/-- **Whatever is replied, the dialogue goes on to a value.** -/
theorem Pending.exists_course {dialogue : Dialogue Question Reply α} {before : List (Sigma Reply)}
    {question : Question} (pending : Pending dialogue before question) (reply : Reply question) :
    ∃ after value, Course dialogue (before ++ ⟨question, reply⟩ :: after) value := by
  induction pending with
  | @first question resume =>
      obtain ⟨after, value, course⟩ := Dialogue.exists_course (resume reply)
      exact ⟨after, value, .ask reply course⟩
  | after other later ih =>
      obtain ⟨after, value, course⟩ := ih reply
      exact ⟨after, value, .ask other course⟩

end Replies

end RealmConvergence.Dialogue
