import RealmConvergence.Admin.Session
import RealmConvergence.Proofs.Collection.Place
import RealmConvergence.Proofs.Dialogue

/-!
# What parts of a session exchange

A judgement on parts of a session, with one rule for every way to build a part: `Shows part goal`
says that, whatever token is at hand and whatever comes over the wire, what is exchanged and the
outcome meet the goal.

A request that is to carry a token goes out at most once, and nothing but what the token takes comes
before it (`shows_sendAuthorized_bind`). What a token takes is told apart from everything else by
its questions alone (`ForToken`).
-/

set_option autoImplicit false

namespace RealmConvergence.Admin

open Dialogue (Course)
open Http (Wire Request Response Url Method)

/-- What is exchanged over the wire. -/
abbrev Traffic := List (Sigma Wire.Reply)

variable {α β : Type}

/-! ## The judgement -/

/-- Whatever token is at hand and whatever comes over the wire, what is exchanged and what the part
comes to meet the goal. -/
def Shows (part : Exchange α) (goal : Traffic → Except Setback α → Prop) : Prop :=
  ∀ token traffic outcome last, Course (part.run.run token) traffic (outcome, last) →
    goal traffic outcome

section Rules

variable {part : Exchange α} {next : α → Exchange β} {goal : Traffic → Except Setback β → Prop}

theorem Shows.mono {narrow wide : Traffic → Except Setback α → Prop} (shown : Shows part narrow)
    (wider : ∀ traffic outcome, narrow traffic outcome → wide traffic outcome) : Shows part wide :=
  fun token traffic outcome last course =>
    wider traffic outcome (shown token traffic outcome last course)

theorem shows_pure {value : β} (holds : goal [] (.ok value)) : Shows (pure value) goal := by
  intro token traffic came last course
  cases course
  exact holds

theorem shows_throw {setback : Setback} (holds : goal [] (.error setback)) :
    Shows (throw setback) goal := by
  intro token traffic came last course
  cases course
  exact holds

theorem shows_fail {problem : AdminError} (holds : goal [] (.error (.failure problem))) :
    Shows (fail problem) goal :=
  shows_throw holds

/-- Two parts after each other, as a dialogue over the wire. -/
theorem run_bind (part : Exchange α) (next : α → Exchange β) (token : Option Token) :
    (part >>= next).run.run token = (part.run.run token).andThen fun came =>
      match came.1 with
      | .ok value => (next value).run.run came.2
      | .error setback => .conclude (.error setback, came.2) := by
  show Dialogue.andThen _ _ = _
  congr 1
  funext came
  obtain ⟨outcome, after⟩ := came
  cases outcome <;> rfl

/-- **A part shows what the next one shows after it, unless it fails.** -/
theorem Shows.bind {between : Traffic → Except Setback α → Prop} (first : Shows part between)
    (stops : ∀ early setback, between early (.error setback) → goal early (.error setback))
    (goesOn : ∀ early value, between early (.ok value) →
      Shows (next value) fun late outcome => goal (early ++ late) outcome) :
    Shows (part >>= next) goal := by
  intro token traffic outcome last course
  rw [run_bind] at course
  obtain ⟨early, ⟨came, after⟩, late, earlyCourse, lateCourse, rfl⟩ :=
    Dialogue.course_of_andThen course
  have met := first token early came after earlyCourse
  cases came with
  | error setback =>
      cases lateCourse
      rw [List.append_nil]
      exact stops early setback met
  | ok value => exact goesOn early value met after late outcome last lateCourse

theorem shows_lift_bind {outcome : Except AdminError α}
    (fails : ∀ problem, outcome = .error problem → goal [] (.error (.failure problem)))
    (goesOn : ∀ value, outcome = .ok value → Shows (next value) goal) :
    Shows (liftM outcome >>= next) goal := by
  intro token traffic came last course
  cases outcome with
  | error problem =>
      cases course
      exact fails problem rfl
  | ok value => exact goesOn value rfl token traffic came last course

theorem shows_fail_bind {problem : AdminError} (holds : goal [] (.error (.failure problem))) :
    Shows (fail problem >>= next) goal := by
  intro token traffic came last course
  cases course
  exact holds

/-- Reckoning a time breaks everything off, or goes on with it. -/
theorem shows_later_bind {now seconds : Nat} {next : Nat → Exchange β}
    (breaks : ¬now + 1000 * seconds < clockEnd → goal [] (.error .breakdown))
    (goesOn : now + 1000 * seconds < clockEnd → Shows (next (now + 1000 * seconds)) goal) :
    Shows (later now seconds >>= next) goal := by
  intro token traffic came last course
  unfold later at course
  split at course
  · next within => exact goesOn within token traffic came last course
  · next beyond =>
    cases course
    exact breaks beyond

/-- A part that looks at the token at hand shows what it shows for every token. -/
theorem shows_get_bind {next : Option Token → Exchange β}
    (goesOn : ∀ held, Shows (next held) goal) : Shows (get >>= next) goal :=
  fun token traffic outcome last course => goesOn token token traffic outcome last course

theorem shows_set_bind {held : Option Token} {next : PUnit → Exchange β}
    (goesOn : Shows (next ⟨⟩) goal) : Shows (set held >>= next) goal :=
  fun _ traffic outcome last course => goesOn held traffic outcome last course

theorem shows_ask_bind {question : Wire} {next : question.Reply → Exchange β}
    (goesOn : ∀ reply, Shows (next reply) fun late outcome =>
      goal (⟨question, reply⟩ :: late) outcome) :
    Shows (ask question >>= next) goal := by
  intro token traffic outcome last course
  cases course with
  | ask reply later => exact goesOn reply token _ outcome last later

end Rules

/-! ## Sending -/

/-- A request is refused before it is sent, or its answer is lost, or it is answered. -/
inductive Sent (request : Request) : Traffic → Except Setback Response → Prop where
  /-- Nothing is sent. -/
  | refused (problem : AdminError) : Sent request [] (.error (.failure problem))
  /-- The answer is lost. -/
  | lost (problem : AdminError) : Sent request [⟨.send request, none⟩] (.error (.failure problem))
  /-- The answer is the outcome. -/
  | answered (response : Response) : Sent request [⟨.send request, some response⟩] (.ok response)

/-- A request can be sent if its head and its address can be written. -/
def CanGo (request : Request) : Prop :=
  request.authorization.all Http.isHeaderText = true ∧ Http.isReachable request.url = true

/-- A request is sent exactly if it can be. -/
theorem shows_send_iff (request : Request) : Shows (send request) fun traffic outcome =>
    Sent request traffic outcome ∧ (traffic ≠ [] ↔ CanGo request) := by
  unfold send
  dsimp only
  split
  · next noHeader =>
    refine shows_fail_bind ⟨.refused _, fun some => absurd rfl some, fun canGo => ?_⟩
    rw [canGo.1] at noHeader
    cases noHeader
  · next isHeader =>
    split
    · next unreachable =>
      refine shows_fail_bind ⟨.refused _, fun some => absurd rfl some, fun canGo => ?_⟩
      rw [canGo.2] at unreachable
      cases unreachable
    · next isReachable =>
      have canGo : CanGo request := by simpa [CanGo] using And.intro isHeader isReachable
      refine shows_ask_bind fun reply => ?_
      cases reply with
      | none => exact shows_fail ⟨.lost _, fun _ => canGo, fun _ => List.cons_ne_nil _ _⟩
      | some response =>
          exact shows_pure ⟨.answered response, fun _ => canGo, fun _ => List.cons_ne_nil _ _⟩

theorem shows_send (request : Request) : Shows (send request) (Sent request) :=
  (shows_send_iff request).mono fun _ _ shown => shown.1

/-! ## Tokens -/

/-- What is asked on account of a token: the time, or for the token. -/
inductive ForToken (connection : AdminConnection) : Wire → Prop where
  /-- The time is read. -/
  | clock : ForToken connection .clock
  /-- A token is requested. -/
  | request {url : Url} (place : tokenUrl connection = .ok url) :
      ForToken connection
        (.send { Request.to .post url with body := .form (tokenForm connection) })

/-- All is asked on account of tokens. -/
def OnlyForTokens (connection : AdminConnection) (traffic : Traffic) : Prop :=
  ∀ exchange ∈ traffic, ForToken connection exchange.1

variable {connection : AdminConnection}

theorem onlyForTokens_nil : OnlyForTokens connection [] :=
  fun _ member => nomatch member

theorem OnlyForTokens.append {early late : Traffic} (first : OnlyForTokens connection early)
    (rest : OnlyForTokens connection late) : OnlyForTokens connection (early ++ late) :=
  fun exchange member => (List.mem_append.1 member).elim (first exchange) (rest exchange)

theorem OnlyForTokens.cons {place : Sigma Wire.Reply} {late : Traffic}
    (rest : OnlyForTokens connection late) (isToken : ForToken connection place.1) :
    OnlyForTokens connection (place :: late) :=
  List.forall_mem_cons.2 ⟨isToken, rest⟩

/-- A place after what a token takes is not among it, if it is no place for tokens. -/
theorem OnlyForTokens.place_after {tokens rest before after : Traffic} {place : Sigma Wire.Reply}
    (aside : OnlyForTokens connection tokens) (other : ¬ForToken connection place.1)
    (same : tokens ++ rest = before ++ place :: after) :
    ∃ less, before = tokens ++ less ∧ rest = less ++ place :: after := by
  rcases append_eq_append_cons same with ⟨more, rfl, -⟩ | here
  · exact (other (aside place (List.mem_append_right _ List.mem_cons_self))).elim
  · exact here

theorem Sent.onlyForTokens {request : Request} {traffic : Traffic}
    {outcome : Except Setback Response} (sent : Sent request traffic outcome)
    (isToken : ForToken connection (.send request)) : OnlyForTokens connection traffic := by
  cases sent with
  | refused => exact onlyForTokens_nil
  | lost | answered => exact onlyForTokens_nil.cons isToken

theorem shows_fetchToken (connection : AdminConnection) :
    Shows (fetchToken connection) fun traffic _ => OnlyForTokens connection traffic := by
  refine shows_lift_bind (fun _ _ => onlyForTokens_nil) fun url place => ?_
  refine (shows_send _).bind (fun _ _ sent => sent.onlyForTokens (.request place)) ?_
  intro early response sent
  refine shows_lift_bind ?_ fun token _ => ?_
  · intro problem _
    rw [List.append_nil]
    exact sent.onlyForTokens (.request place)
  · have only (now : Nat) : OnlyForTokens connection (early ++ [⟨.clock, now⟩]) :=
      (sent.onlyForTokens (.request place)).append (onlyForTokens_nil.cons .clock)
    refine shows_ask_bind fun now => ?_
    exact shows_later_bind (fun _ => only now) fun _ => shows_pure (only now)

theorem shows_accessToken (connection : AdminConnection) :
    Shows (accessToken connection) fun traffic _ => OnlyForTokens connection traffic := by
  have fetches : Shows (do
      let token ← fetchToken connection
      set (some token)
      pure token.text : Exchange String) fun traffic _ => OnlyForTokens connection traffic := by
    refine (shows_fetchToken connection).bind (fun _ _ only => only) fun early token only => ?_
    refine shows_set_bind (shows_pure ?_)
    rw [List.append_nil]
    exact only
  refine shows_get_bind fun held => ?_
  cases held with
  | none => exact fetches
  | some token =>
      refine shows_ask_bind fun now => ?_
      refine shows_later_bind (fun _ => onlyForTokens_nil.cons .clock) fun _ => ?_
      split
      · exact shows_pure (onlyForTokens_nil.cons .clock)
      · exact fetches.mono fun traffic _ only => only.cons .clock

/-! ## Requests with a token -/

/-- A request that carries a token. -/
def authorized (method : Method) (url : Url) (token : String) : Request :=
  let request := Request.to method url
  { request with authorization := request.authorization ++ [s!"Bearer {token}"] }

/-- **A request with a token goes out at most once, after what the token takes.** -/
theorem shows_sendAuthorized_bind {method : Method} {url : Url} {complete : Request → Request}
    {next : Response → Exchange α} {goal : Traffic → Except Setback α → Prop}
    (unsent : ∀ tokens setback, OnlyForTokens connection tokens → goal tokens (.error setback))
    (lost : ∀ tokens token problem, OnlyForTokens connection tokens →
      goal (tokens ++ [⟨.send (complete (authorized method url token)), none⟩])
        (.error (.failure problem)))
    (answered : ∀ tokens token response, OnlyForTokens connection tokens →
      Shows (next response) fun late outcome =>
        goal (tokens ++ ⟨.send (complete (authorized method url token)), some response⟩ :: late)
          outcome) :
    Shows (sendAuthorized connection method url complete >>= next) goal := by
  unfold sendAuthorized
  rw [bind_assoc]
  refine (shows_accessToken connection).bind (fun tokens setback only => unsent tokens setback only)
    fun tokens token only => ?_
  refine (shows_send (complete (authorized method url token))).bind ?_ ?_
  · intro early setback sent
    cases sent with
    | refused problem =>
        rw [List.append_nil]
        exact unsent tokens (.failure problem) only
    | lost problem => exact lost tokens token problem only
  · intro early response sent
    cases sent with
    | answered =>
        exact (answered tokens token response only).mono fun late outcome met => by
          rwa [List.singleton_append]

end RealmConvergence.Admin
