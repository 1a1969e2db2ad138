import RealmConvergence.Http.Exchange
import RealmConvergence.Proofs.Admin.Addressing
import RealmConvergence.Proofs.Dialogue.Through

/-!
# The token at hand

A session keeps one token. Before a request is sent, the session looks whether the token at hand is
still good, which it is while more than half a minute of its life is left (`Provides`). A good token
is used as it is. In place of any other one a new token is requested, once; if none is granted, the
one at hand is kept, nothing else is sent, and the call fails for that reason. A token that would
expire after the end of the clock is not kept either, and breaks everything off.

So the token at hand is always the one that was granted last (`Remembers`), and every request is
sent with it, either right after it was granted or while it is good (`overWire_tokens`).
-/

set_option autoImplicit false

namespace RealmConvergence.Admin

open Dialogue (Course Pending)
open Http (Wire Request Response Url Method Body)

variable {α β : Type} {connection : AdminConnection}

/-! ## Answers that grant a token -/

/-- What a record says of the lifetime of a token, in seconds. -/
inductive TellsLifetime : Option Json → Nat → Prop where
  /-- It says nothing, which means a minute. -/
  | missing : TellsLifetime none 60
  /-- It says as good as nothing. -/
  | null : TellsLifetime (some .null) 60
  /-- It tells the lifetime. -/
  | told (lifetime : Nat) : TellsLifetime (some (.ofNat lifetime)) lifetime

/-- The answer is a success with a record of a token and its lifetime in seconds. -/
structure Grants (response : Response) (text : String) (lifetime : Nat) : Prop where
  /-- The answer is a success. -/
  isSuccess : 200 ≤ response.status ∧ response.status < 300
  /-- The body came to its end and is a record with the token and the lifetime. -/
  tells : response.isComplete = true ∧ ∃ written found present,
    Json.Written.ofBytes? response.body = some written ∧ tokenShape.asked? written = some found ∧
      tokenShape.present found = .ok present ∧
        Entries.lookup "access_token" present = some (.string text) ∧
          TellsLifetime (Entries.lookup "expires_in" present) lifetime

theorem decodeToken_eq_ok_iff {found : Json} {text : String} {lifetime : Nat} :
    decodeToken found = .ok (text, lifetime) ↔ ∃ present, tokenShape.present found = .ok present ∧
      Entries.lookup "access_token" present = some (.string text) ∧
        TellsLifetime (Entries.lookup "expires_in" present) lifetime := by
  unfold decodeToken
  simp only [bind_eq_ok_iff]
  refine exists_congr fun present => and_congr_right fun _ => ?_
  constructor
  · rintro ⟨read, isText, told, isLifetime, same⟩
    cases same
    obtain ⟨found, there, isRead⟩ := Json.needed_eq_ok isText
    refine ⟨by rw [there, Json.Decoder.text_eq_ok isRead], ?_⟩
    rcases Json.withDefault_eq_ok isLifetime with ⟨missing, rfl⟩ | ⟨given, held, isOptional⟩
    · rw [missing]
      exact .missing
    · rw [held]
      rcases Json.Decoder.optional_eq_ok isOptional with ⟨rfl, rfl⟩ | ⟨number, isNatural, rfl⟩
      · exact .null
      · rw [Json.Decoder.natural_eq_ok_iff.1 isNatural]
        exact .told number
  · rintro ⟨isText, tells⟩
    refine ⟨text, by rw [Json.needed, isText]; rfl, ?_⟩
    unfold Json.withDefault
    generalize Entries.lookup "expires_in" present = given at tells
    cases tells with
    | missing => exact ⟨none, rfl, rfl⟩
    | null => exact ⟨none, rfl, rfl⟩
    | told =>
        have isNatural := Json.Decoder.natural_eq_ok_iff.2 (Eq.refl (Json.ofNat lifetime))
        exact ⟨some lifetime, congrArg (Except.map some) isNatural, rfl⟩

/-- **A token is read from an answer exactly if the answer grants it.** -/
theorem readToken_eq_ok_iff {url : Url} {response : Response} {text : String} {lifetime : Nat} :
    readToken url response = .ok (text, lifetime) ↔ Grants response text lifetime := by
  unfold readToken
  constructor
  · intro read
    split at read
    · cases read
    · split at read
      · cases read
      · next succeeds =>
        obtain ⟨rfl, isSuccess⟩ := requireSuccess_eq_ok succeeds
        split at read
        · next decoded =>
          cases read
          obtain ⟨isComplete, written, isWritten, isRead⟩ := decodeBody_eq_ok_iff.1 decoded
          obtain ⟨found, isAsked, isToken⟩ := Json.Reading.record_eq_some_iff.1 isRead
          obtain ⟨present, shaped, tells⟩ := decodeToken_eq_ok_iff.1 isToken
          exact ⟨isSuccess, isComplete, written, found, present, isWritten, isAsked, shaped, tells⟩
        · cases read
  · rintro ⟨isSuccess, isComplete, written, found, present, isWritten, isAsked, shaped, tells⟩
    have isToken := decodeToken_eq_ok_iff.2 ⟨present, shaped, tells⟩
    have isRead := Json.Reading.record_eq_some_iff.2 ⟨found, isAsked, isToken⟩
    have decoded := decodeBody_eq_ok_iff.2 ⟨isComplete, written, isWritten, isRead⟩
    rw [if_neg (by omega), requireSuccess, if_pos isSuccess]
    dsimp only
    rw [tokenReading, decoded]

/-! ## What a token takes -/

/-- The request for a token. -/
def tokenRequest (connection : AdminConnection) (url : Url) : Request :=
  { Request.to .post url with body := .form (tokenForm connection) }

/-- What is exchanged when a token is granted: the request, its answer, and the time it came. -/
inductive Fetched (connection : AdminConnection) : Traffic → Token → Prop where
  /-- The answer grants the token. -/
  | granted {url : Url} {response : Response} {text : String} {lifetime now : Nat}
      (place : tokenUrl connection = .ok url) (grants : Grants response text lifetime)
      (within : now + 1000 * lifetime < clockEnd) :
      Fetched connection [⟨.send (tokenRequest connection url), some response⟩, ⟨.clock, now⟩]
        ⟨text, now + 1000 * lifetime⟩

/-- What is exchanged when a token is granted that would expire after the end of the clock. -/
inductive Outlasting (connection : AdminConnection) : Traffic → Prop where
  /-- The answer grants the token. -/
  | granted {url : Url} {response : Response} {text : String} {lifetime now : Nat}
      (place : tokenUrl connection = .ok url) (grants : Grants response text lifetime)
      (beyond : ¬now + 1000 * lifetime < clockEnd) :
      Outlasting connection [⟨.send (tokenRequest connection url), some response⟩, ⟨.clock, now⟩]

/-- What is exchanged when no token is granted, and the reason that is given. -/
inductive Unfetched (connection : AdminConnection) : Traffic → AdminError → Prop where
  /-- There is no request that can be sent. -/
  | unsent {problem : AdminError}
      (never : ∀ url, tokenUrl connection = .ok url → ¬CanGo (tokenRequest connection url)) :
      Unfetched connection [] problem
  /-- The answer is lost. -/
  | lost {url : Url} {problem : AdminError} (place : tokenUrl connection = .ok url) :
      Unfetched connection [⟨.send (tokenRequest connection url), none⟩] problem
  /-- The answer grants no token. -/
  | refused {url : Url} {response : Response} {problem : AdminError}
      (place : tokenUrl connection = .ok url)
      (refuses : readToken (tokenRequest connection url).url response = .error problem) :
      Unfetched connection [⟨.send (tokenRequest connection url), some response⟩] problem

/-- A token is fetched, or it is not. -/
inductive Fetching (connection : AdminConnection) : Traffic → Except Setback Token → Prop where
  | granted {traffic : Traffic} {token : Token} (fetched : Fetched connection traffic token) :
      Fetching connection traffic (.ok token)
  | failed {traffic : Traffic} {problem : AdminError}
      (fails : Unfetched connection traffic problem) :
      Fetching connection traffic (.error (.failure problem))
  | brokenOff {traffic : Traffic} (outlasts : Outlasting connection traffic) :
      Fetching connection traffic (.error .breakdown)

/-- **Fetching a token** takes one request at most, and it succeeds exactly if the answer grants
one that expires before the end of the clock. -/
theorem shows_fetching (connection : AdminConnection) :
    Shows (fetchToken connection) (Fetching connection) := by
  refine shows_lift_bind (fun problem nowhere => ?_) fun url place => ?_
  · exact .failed (.unsent fun url place => nomatch nowhere.symm.trans place)
  · refine (shows_send_iff (tokenRequest connection url)).bind ?_ ?_
    · rintro early setback ⟨sent, goes⟩
      cases sent with
      | refused =>
          refine .failed (.unsent fun other isPlace canGo => ?_)
          cases place.symm.trans isPlace
          exact goes.2 canGo rfl
      | lost => exact .failed (.lost place)
    · rintro early response ⟨sent, -⟩
      cases sent with
      | answered =>
          refine shows_lift_bind (fun problem refuses => .failed (.refused place refuses)) ?_
          rintro ⟨text, lifetime⟩ read
          have grants := readToken_eq_ok_iff.1 read
          refine shows_ask_bind fun now => shows_later_bind (fun beyond => ?_) fun within => ?_
          · exact .brokenOff (.granted place grants beyond)
          · exact shows_pure (.granted (.granted place grants within))

/-! ## Parts that leave the token at hand -/

/-- Whatever comes over the wire, the token at hand is the same afterwards. -/
def KeepsToken (part : Exchange α) : Prop :=
  ∀ held traffic outcome last, Course (part.run.run held) traffic (outcome, last) → last = held

theorem keepsToken_lift (outcome : Except AdminError α) : KeepsToken (liftM outcome) := by
  intro held traffic came last course
  cases outcome <;> cases course <;> rfl

theorem keepsToken_pure (value : α) : KeepsToken (pure value) :=
  keepsToken_lift (.ok value)

theorem keepsToken_throw (setback : Setback) : KeepsToken (throw setback : Exchange α) := by
  intro held traffic came last course
  cases course
  rfl

theorem keepsToken_later (now seconds : Nat) : KeepsToken (later now seconds) := by
  unfold later
  split
  · exact keepsToken_pure _
  · exact keepsToken_throw .breakdown

theorem keepsToken_ask (question : Wire) : KeepsToken (ask question) := by
  intro held traffic outcome last course
  cases course with
  | ask reply later =>
      cases later
      rfl

theorem KeepsToken.bind {part : Exchange α} {next : α → Exchange β} (first : KeepsToken part)
    (rest : ∀ value, KeepsToken (next value)) : KeepsToken (part >>= next) := by
  intro held traffic outcome last course
  rw [run_bind] at course
  obtain ⟨early, ⟨came, after⟩, late, earlyCourse, lateCourse, -⟩ :=
    Dialogue.course_of_andThen course
  cases first held early came after earlyCourse
  cases came with
  | error setback =>
      cases lateCourse
      rfl
  | ok value => exact rest value held late outcome last lateCourse

theorem keepsToken_fail_bind (problem : AdminError) (next : α → Exchange β) :
    KeepsToken (fail problem >>= next) := by
  intro held traffic outcome last course
  cases course
  rfl

theorem keepsToken_send (request : Request) : KeepsToken (send request) := by
  unfold send
  dsimp only
  split
  · exact keepsToken_fail_bind _ _
  · split
    · exact keepsToken_fail_bind _ _
    · refine (keepsToken_ask _).bind fun answer => ?_
      cases answer with
      | none => exact keepsToken_throw (.failure _)
      | some response => exact keepsToken_pure response

theorem keepsToken_fetchToken (connection : AdminConnection) :
    KeepsToken (fetchToken connection) := by
  refine (keepsToken_lift _).bind fun url => (keepsToken_send _).bind fun response => ?_
  refine (keepsToken_lift _).bind fun token => (keepsToken_ask _).bind fun now => ?_
  exact (keepsToken_later now _).bind fun expires => keepsToken_pure _

/-! ## The token for a request -/

/-- No good token is at hand: there is none, or the time shows that at most half a minute of its
life is left. -/
inductive Stale : Option Token → Traffic → Prop where
  /-- There is no token. -/
  | missing : Stale none []
  /-- The token has half a minute left at most. -/
  | ending {token : Token} {now : Nat} (within : now + 30000 < clockEnd)
      (ends : ¬now + 30000 < token.expires) : Stale (some token) [⟨.clock, now⟩]

/-- What is exchanged for the token of a request, with the token at hand before and after. -/
inductive Provides (connection : AdminConnection) :
    Option Token → Traffic → Option Token → Except Setback String → Prop where
  /-- More than half a minute is left of the token at hand, and it is used. -/
  | cached {token : Token} {now : Nat} (good : now + 30000 < token.expires) :
      Provides connection (some token) [⟨.clock, now⟩] (some token) (.ok token.text)
  /-- No good token is at hand, and the one that is granted is used and kept. -/
  | fetched {held : Option Token} {look fetch : Traffic} {token : Token} (stale : Stale held look)
      (fetched : Fetched connection fetch token) :
      Provides connection held (look ++ fetch) (some token) (.ok token.text)
  /-- No good token is at hand, none is granted, and what is at hand is kept. -/
  | failed {held : Option Token} {look fetch : Traffic} {problem : AdminError}
      (stale : Stale held look) (fails : Unfetched connection fetch problem) :
      Provides connection held (look ++ fetch) held (.error (.failure problem))
  /-- No good token is at hand, the one that is granted would expire after the end of the clock, and
  what is at hand is kept. -/
  | outlasted {held : Option Token} {look fetch : Traffic} (stale : Stale held look)
      (outlasts : Outlasting connection fetch) :
      Provides connection held (look ++ fetch) held (.error .breakdown)
  /-- The clock ends within half a minute, and the token at hand is kept. -/
  | ended {token : Token} {now : Nat} (ends : ¬now + 30000 < clockEnd) :
      Provides connection (some token) [⟨.clock, now⟩] (some token) (.error .breakdown)

variable {held last : Option Token} {traffic : Traffic}

/-- Fetch a token and keep it. -/
def renewToken (connection : AdminConnection) : Exchange String := do
  let token ← fetchToken connection
  set (some token)
  pure token.text

/-- With a token at hand, the time tells whether it is used or renewed. -/
theorem run_accessToken_some (token : Token) :
    (accessToken connection).run.run (some token) = .ask .clock fun now =>
      if now + 30000 < clockEnd then
        if now + 30000 < token.expires then .conclude (.ok token.text, some token)
        else (renewToken connection).run.run (some token)
      else .conclude (.error .breakdown, some token) := by
  refine congrArg (Dialogue.ask Wire.clock) (funext fun now => ?_)
  show (later now tokenMargin >>= fun margin =>
    if margin < token.expires then pure token.text
    else renewToken connection : Exchange String).run.run (some token) = _
  have reckoned : later now tokenMargin =
      if now + 30000 < clockEnd then pure (now + 30000) else throw .breakdown := rfl
  rw [reckoned]
  split_ifs with within good
  · rw [pure_bind, if_pos good]
    rfl
  · rw [pure_bind, if_neg good]
  · rfl

/-- A new token is kept if it is granted. -/
theorem provides_of_renewToken {look : Traffic} {outcome : Except Setback String}
    (stale : Stale held look)
    (course : Course ((renewToken connection).run.run held) traffic (outcome, last)) :
    Provides connection held (look ++ traffic) last outcome := by
  unfold renewToken at course
  rw [run_bind] at course
  obtain ⟨early, ⟨came, after⟩, late, earlyCourse, lateCourse, rfl⟩ :=
    Dialogue.course_of_andThen course
  cases keepsToken_fetchToken connection held early came after earlyCourse
  cases shows_fetching connection held early came held earlyCourse with
  | granted fetched =>
      cases lateCourse
      rw [List.append_nil]
      exact .fetched stale fetched
  | failed fails =>
      cases lateCourse
      rw [List.append_nil]
      exact .failed stale fails
  | brokenOff outlasts =>
      cases lateCourse
      rw [List.append_nil]
      exact .outlasted stale outlasts

/-- **The token of a request** is the one at hand if it is good, and otherwise a new one. -/
theorem provides_of_accessToken {outcome : Except Setback String}
    (course : Course ((accessToken connection).run.run held) traffic (outcome, last)) :
    Provides connection held traffic last outcome := by
  cases held with
  | none => exact provides_of_renewToken .missing course
  | some token =>
      rw [run_accessToken_some] at course
      cases course with
      | ask now later =>
          dsimp only at later
          split_ifs at later with within good
          · cases later
            exact .cached good
          · exact provides_of_renewToken (.ending within good) later
          · cases later
            exact .ended within

/-! ## Requests with their tokens -/

/-- A request carries a token as its last proof of who asks, and it is no form. -/
structure Carries (request : Request) (token : String) : Prop where
  /-- What else proves who asks comes from the address. -/
  proof : ∃ method url, request.authorization = (authorized method url token).authorization
  /-- Only tokens are requested with a form. -/
  noForm : ∀ fields, request.body ≠ .form fields

/-- What is exchanged for requests one after the other, each with its token, the token at hand
before and after, and why the last one was not answered, if so. -/
inductive Turns (connection : AdminConnection) :
    Option Token → Traffic → Option Token → Option Setback → Prop where
  /-- No further request is made. -/
  | done (held : Option Token) : Turns connection held [] held none
  /-- No token is there for the request, which is not sent. -/
  | failed {held last : Option Token} {traffic : Traffic} {setback : Setback}
      (provides : Provides connection held traffic last (.error setback)) :
      Turns connection held traffic last (some setback)
  /-- The request is sent with its token if it can be, and it is not answered. -/
  | stopped {held last : Option Token} {early late : Traffic} {token : String} {request : Request}
      {setback : Setback} (provides : Provides connection held early last (.ok token))
      (carries : Carries request token) (sent : Sent request late (.error setback))
      (goes : late ≠ [] ↔ CanGo request) :
      Turns connection held (early ++ late) last (some setback)
  /-- The request is sent with its token and answered, and others follow. -/
  | more {held between last : Option Token} {early later : Traffic} {token : String}
      {request : Request} {response : Response} {failure : Option Setback}
      (provides : Provides connection held early between (.ok token))
      (carries : Carries request token) (rest : Turns connection between later last failure) :
      Turns connection held (early ++ ⟨.send request, some response⟩ :: later) last failure

theorem Turns.append {between : Option Token} {early late : Traffic} {failure : Option Setback}
    (first : Turns connection held early between none)
    (rest : Turns connection between late last failure) :
    Turns connection held (early ++ late) last failure := by
  generalize isNone : (none : Option Setback) = missing at first
  induction first with
  | done held => exact rest
  | failed | stopped => cases isNone
  | more provides carries _ ih =>
      rw [List.append_assoc]
      exact .more provides carries (ih rest isNone)

/-- The reason why a request was not answered is that of the outcome, and nothing else breaks
anything off. -/
structure Explains (failure : Option Setback) (outcome : Except Setback α) : Prop where
  /-- The outcome is the reason. -/
  isOutcome : ∀ setback, failure = some setback → outcome = .error setback
  /-- Where everything is broken off, a request was not answered for it. -/
  breaks : outcome = .error .breakdown → failure = some .breakdown

/-- A part makes its requests one after the other, and it fails for the reason for which one of them
was not answered. -/
def TakesTurns (connection : AdminConnection) (part : Exchange α) : Prop :=
  ∀ held traffic outcome last, Course (part.run.run held) traffic (outcome, last) →
    ∃ failure, Turns connection held traffic last failure ∧ Explains failure outcome

section Rules

variable {part : Exchange α} {next : α → Exchange β}

theorem explains_error (setback : Setback) :
    Explains (some setback) (.error setback : Except Setback α) where
  isOutcome := by
    rintro other ⟨⟩
    rfl
  breaks := by
    rintro ⟨⟩
    rfl

theorem takesTurns_pure (value : α) : TakesTurns connection (pure value) := by
  intro held traffic came last course
  cases course
  exact ⟨none, .done held, nofun, nofun⟩

theorem takesTurns_fail (problem : AdminError) :
    TakesTurns connection (fail problem : Exchange α) := by
  intro held traffic came last course
  cases course
  exact ⟨none, .done held, nofun, nofun⟩

theorem takesTurns_lift (outcome : Except AdminError α) :
    TakesTurns connection (liftM outcome) := by
  cases outcome with
  | error problem => exact takesTurns_fail problem
  | ok value => exact takesTurns_pure value

/-- **Parts after each other take their turns.** -/
theorem TakesTurns.bind (first : TakesTurns connection part)
    (rest : ∀ value, TakesTurns connection (next value)) :
    TakesTurns connection (part >>= next) := by
  intro held traffic outcome last course
  rw [run_bind] at course
  obtain ⟨early, ⟨came, between⟩, late, earlyCourse, lateCourse, rfl⟩ :=
    Dialogue.course_of_andThen course
  obtain ⟨failure, turns, explains⟩ := first held early came between earlyCourse
  cases came with
  | error setback =>
      cases lateCourse
      rw [List.append_nil]
      refine ⟨failure, turns, fun other failed => ?_, fun breaks => explains.breaks ?_⟩
      · exact congrArg _ (Except.error.inj (explains.isOutcome other failed))
      · exact congrArg _ (Except.error.inj breaks)
  | ok value =>
      cases failure with
      | some setback => cases explains.isOutcome setback rfl
      | none =>
          obtain ⟨failure, later, explains⟩ := rest value between late outcome last lateCourse
          exact ⟨failure, turns.append later, explains⟩

theorem takesTurns_lift_bind {outcome : Except AdminError α}
    (rest : ∀ value, TakesTurns connection (next value)) :
    TakesTurns connection (liftM outcome >>= next) :=
  (takesTurns_lift outcome).bind rest

/-- **A request with a token** is one turn. -/
theorem takesTurns_sendAuthorized {method : Method} {url : Url} {complete : Request → Request}
    (carries : ∀ token, Carries (complete (authorized method url token)) token) :
    TakesTurns connection (sendAuthorized connection method url complete) := by
  intro held traffic outcome last course
  unfold sendAuthorized at course
  rw [run_bind] at course
  obtain ⟨early, ⟨came, between⟩, late, earlyCourse, lateCourse, rfl⟩ :=
    Dialogue.course_of_andThen course
  have provides := provides_of_accessToken earlyCourse
  cases came with
  | error setback =>
      cases lateCourse
      rw [List.append_nil]
      exact ⟨some setback, .failed provides, explains_error setback⟩
  | ok token =>
      -- sending the request leaves the token at hand
      have same := keepsToken_send _ between late outcome last lateCourse
      subst same
      obtain ⟨sent, goes⟩ :=
        shows_send_iff (complete (authorized method url token)) last late outcome last lateCourse
      cases outcome with
      | error setback =>
          exact ⟨some setback, .stopped provides (carries token) sent goes, explains_error setback⟩
      | ok response =>
          cases sent with
          | answered => exact ⟨none, .more provides (carries token) (.done last), nofun, nofun⟩

end Rules

/-! ## Calls -/

section Calls

variable {url : Url} {method : Method}

theorem carries_authorized (token : String) : Carries (authorized method url token) token := by
  refine ⟨⟨method, url, rfl⟩, ?_⟩
  exact fun fields (isForm : Body.empty = .form fields) => nomatch isForm

theorem Carries.withQuery {request : Request} {token : String} (carries : Carries request token)
    (field : String × String) : Carries (request.withQuery field) token :=
  ⟨carries.proof, carries.noForm⟩

theorem takesTurns_lookUp (url : Url) (reading : Json.Reading α) :
    TakesTurns connection (lookUp connection url reading) := by
  refine (takesTurns_sendAuthorized carries_authorized).bind fun response => ?_
  split
  · exact takesTurns_pure none
  · exact takesTurns_lift_bind fun _ => takesTurns_lift_bind fun _ => takesTurns_pure _

theorem takesTurns_sendJson (method : Method) (url : Url) (value : Json) :
    TakesTurns connection (sendJson connection method url value) := by
  refine (takesTurns_sendAuthorized fun token => ⟨⟨method, url, rfl⟩, ?_⟩).bind fun _ => ?_
  · exact fun fields (isForm : Body.json value = .form fields) => nomatch isForm
  · exact takesTurns_lift _

theorem takesTurns_change {place : Except AdminError Url} {value : Json} :
    TakesTurns connection (liftM place >>= fun url => change connection method url value) :=
  takesTurns_lift_bind fun url =>
    (takesTurns_sendJson method url value).bind fun _ => takesTurns_pure ()

theorem takesTurns_findClient (realm clientId : String) :
    TakesTurns connection (findClient connection realm clientId) := by
  refine takesTurns_lift_bind fun url => ?_
  refine (takesTurns_sendAuthorized fun token => (carries_authorized token).withQuery _).bind ?_
  exact fun _ => takesTurns_lift_bind fun _ => takesTurns_lift_bind fun _ => takesTurns_pure _

theorem takesTurns_createClient (realm : String) (record : ClientRecord) :
    TakesTurns connection (createClient connection realm record) := by
  refine takesTurns_lift_bind fun url => (takesTurns_sendJson .post url _).bind fun response => ?_
  split
  · exact takesTurns_pure _
  · refine (takesTurns_findClient realm _).bind fun found => ?_
    split
    · exact takesTurns_pure _
    · exact takesTurns_fail _

/-- **The requests of a call are sent one after the other, each with its token.** -/
theorem takesTurns_perform (connection : AdminConnection) (call : AdminCall) :
    TakesTurns connection (perform connection call) := by
  cases call with
  | getRealm realm | getRealmRole realm role | getClientRole realm client role =>
      exact takesTurns_lift_bind fun url => takesTurns_lookUp url _
  | getClientSecret realm client | getRealmRoleComposites realm role client =>
      exact takesTurns_lift_bind fun url => (takesTurns_lookUp url _).bind fun _ =>
        takesTurns_pure _
  | getServiceAccountUser realm client =>
      refine takesTurns_lift_bind fun url => (takesTurns_lookUp url _).bind fun found => ?_
      cases found with
      | none => exact takesTurns_fail _
      | some user => exact takesTurns_pure user
  | findClient realm clientId => exact takesTurns_findClient realm clientId
  | createClient realm record => exact takesTurns_createClient realm record
  | createRealm record | updateRealm realm record | updateClient realm client record
  | updateClientSecret realm client secret | createRealmRole realm record
  | updateRealmRole realm role record | addRealmRoleComposites realm role roles
  | createClientRole realm client record | updateClientRole realm client role record
  | assignClientRoles realm user client roles => exact takesTurns_change

end Calls

/-- What is exchanged for calls one after the other, with the token at hand before and after. A call
with a request that has no token, or is not answered, fails for that reason. -/
inductive Rounds (connection : AdminConnection) :
    Option Token → List (Sigma AdminCall.Reply) → Traffic → Option Token → Prop where
  /-- No further call is made. -/
  | none (held : Option Token) : Rounds connection held [] [] held
  /-- A call is made, and then the others. -/
  | more {held between last : Option Token} {call : AdminCall} {reply : call.Reply}
      {others : List (Sigma AdminCall.Reply)} {first later : Traffic}
      {failure : Option AdminError} (exchanged : CallTraffic connection call first (some reply))
      (turns : Turns connection held first between (failure.map .failure))
      (fails : ∀ problem, failure = some problem → reply = .error problem)
      (rest : Rounds connection between others later last) :
      Rounds connection held (⟨call, reply⟩ :: others) (first ++ later) last

/-- How a session ends, after its calls were replied to: what is exchanged in the end, and the token
at hand before and after. -/
inductive Ends (connection : AdminConnection) (talk : Talk α)
    (replied : List (Sigma AdminCall.Reply)) :
    Option α → Option Token → Traffic → Option Token → Prop where
  /-- The replies lead to a value. -/
  | concluded {value : α} (held : Option Token) (course : Course talk replied value) :
      Ends connection talk replied (some value) held [] held
  /-- Everything is broken off in a further call, for want of a token. -/
  | brokenOff {call : AdminCall} {held last : Option Token} {traffic : Traffic}
      (pending : Pending talk replied call) (exchanged : CallTraffic connection call traffic none)
      (turns : Turns connection held traffic last (some .breakdown)) :
      Ends connection talk replied none held traffic last

theorem takesTurns_of_settle {call : AdminCall} {came : Option call.Reply}
    (course : Course (settle connection call held) traffic (came, last)) :
    ∃ outcome failure, came = reply? outcome ∧ Turns connection held traffic last failure ∧
      Explains failure outcome := by
  obtain ⟨early, ⟨outcome, after⟩, late, performs, ends, rfl⟩ := Dialogue.course_of_andThen course
  cases ends
  rw [List.append_nil]
  obtain ⟨failure, turns, explains⟩ :=
    takesTurns_perform connection call held early outcome after performs
  exact ⟨outcome, failure, rfl, turns, explains⟩

/-- A call that is replied to fails for the reason for which a request was not answered. -/
theorem turns_of_settle {call : AdminCall} {reply : call.Reply}
    (course : Course (settle connection call held) traffic (some reply, last)) :
    ∃ failure : Option AdminError, Turns connection held traffic last (failure.map .failure) ∧
      ∀ problem, failure = some problem → reply = .error problem := by
  obtain ⟨outcome, failure, isReply, turns, explains⟩ := takesTurns_of_settle course
  cases failure with
  | none => exact ⟨none, turns, nofun⟩
  | some setback =>
      cases explains.isOutcome setback rfl
      cases setback with
      | breakdown => cases isReply
      | failure problem =>
          cases isReply
          refine ⟨some problem, turns, ?_⟩
          rintro other ⟨⟩
          rfl

/-- Everything is broken off where a token is wanted. -/
theorem turns_of_breakdown {call : AdminCall}
    (course : Course (settle connection call held) traffic (none, last)) :
    Turns connection held traffic last (some .breakdown) := by
  obtain ⟨outcome, failure, isNone, turns, explains⟩ := takesTurns_of_settle course
  cases outcome with
  | ok answer => cases isNone
  | error setback =>
      cases setback with
      | failure problem => cases isNone
      | breakdown =>
          cases explains.breaks rfl
          exact turns

theorem rounds_of_settles {replied : List (Sigma AdminCall.Reply)}
    (settles : Dialogue.Settles (settle connection) held replied traffic last) :
    Rounds connection held replied traffic last := by
  induction settles with
  | none held => exact .none held
  | more one _ ih =>
      obtain ⟨failure, turns, fails⟩ := turns_of_settle one
      exact .more (callTraffic_of_course one) turns fails ih

/-- **A session makes its calls one after the other and then ends.** -/
theorem rounds_of_course {talk : Talk α} {came : Option α}
    (course : Course (overWire connection talk held) traffic (came, last)) :
    ∃ replied between early late, traffic = early ++ late ∧
      Rounds connection held replied early between ∧
        Ends connection talk replied came between late last := by
  cases Dialogue.comes_of_course course with
  | concluded talks settles =>
      exact ⟨_, last, traffic, [], (List.append_nil _).symm, rounds_of_settles settles,
        .concluded last talks⟩
  | brokenOff pending settles breaks =>
      exact ⟨_, _, _, _, rfl, rounds_of_settles settles,
        .brokenOff pending (callTraffic_of_course breaks) (turns_of_breakdown breaks)⟩

/-! ## The token that was granted last -/

/-- A token is requested and granted. -/
def IsGrant (connection : AdminConnection) (exchange : Sigma Wire.Reply) : Prop :=
  ∃ url response text lifetime, tokenUrl connection = .ok url ∧ Grants response text lifetime ∧
    exchange = ⟨.send (tokenRequest connection url), some response⟩

/-- No token is granted. -/
def GrantsNothing (connection : AdminConnection) (traffic : Traffic) : Prop :=
  ∀ exchange ∈ traffic, ¬IsGrant connection exchange

/-- The token at hand is the one that was granted last, and there is none where none was. -/
def Remembers (connection : AdminConnection) (traffic : Traffic) : Option Token → Prop
  | none => GrantsNothing connection traffic
  | some token => ∃ before fetch after, traffic = before ++ fetch ++ after ∧
      Fetched connection fetch token ∧ GrantsNothing connection after

theorem not_isGrant_clock (now : Nat) : ¬IsGrant connection ⟨.clock, now⟩ := by
  rintro ⟨_, _, _, _, _, _, same⟩
  cases same

theorem Stale.grantsNothing {look : Traffic} (stale : Stale held look) :
    GrantsNothing connection look := by
  intro exchange member
  cases stale with
  | missing => cases member
  | @ending token now =>
      cases List.mem_singleton.1 member
      exact not_isGrant_clock now

theorem Unfetched.grantsNothing {problem : AdminError}
    (fails : Unfetched connection traffic problem) : GrantsNothing connection traffic := by
  rintro exchange member ⟨url, response, text, lifetime, place, grants, rfl⟩
  cases fails with
  | unsent => cases member
  | lost isPlace =>
      cases place.symm.trans isPlace
      exact nomatch eq_of_heq (Sigma.mk.inj (List.mem_singleton.1 member)).2
  | refused isPlace refuses =>
      cases place.symm.trans isPlace
      cases eq_of_heq (Sigma.mk.inj (List.mem_singleton.1 member)).2
      cases refuses.symm.trans (readToken_eq_ok_iff.2 grants)

theorem Sent.grantsNothing {request : Request} {token : String} {late : Traffic}
    {answer : Except Setback Response} (sent : Sent request late answer)
    (carries : Carries request token) : GrantsNothing connection late := by
  rintro exchange member ⟨url, response, text, lifetime, place, grants, rfl⟩
  have isSent : tokenRequest connection url = request := by
    cases sent with
    | refused => cases member
    | lost | answered => exact Wire.send.inj (Sigma.mk.inj (List.mem_singleton.1 member)).1
  exact carries.noForm _ (congrArg Request.body isSent).symm

theorem Fetched.remembers {fetch : Traffic} {token : Token}
    (fetched : Fetched connection fetch token) (before : Traffic) :
    Remembers connection (before ++ fetch) (some token) :=
  ⟨before, fetch, [], (List.append_nil _).symm, fetched, fun _ never => nomatch never⟩

theorem GrantsNothing.append {early late : Traffic} (first : GrantsNothing connection early)
    (rest : GrantsNothing connection late) : GrantsNothing connection (early ++ late) :=
  fun exchange member => (List.mem_append.1 member).elim (first exchange) (rest exchange)

/-- Where no token is granted, the token that was granted last is the same. -/
theorem Remembers.append {early late : Traffic} (remembers : Remembers connection early held)
    (idle : GrantsNothing connection late) : Remembers connection (early ++ late) held := by
  cases held with
  | none => exact GrantsNothing.append remembers idle
  | some token =>
      obtain ⟨before, fetch, after, rfl, fetched, none⟩ := remembers
      exact ⟨before, fetch, after ++ late, List.append_assoc _ _ _, fetched, none.append idle⟩

/-- The token at hand is the one that was granted last, if nothing is broken off; otherwise it is
the one that had been granted before what was exchanged for a further token. -/
def Recalls (connection : AdminConnection) (traffic : Traffic) (last : Option Token) :
    Option Setback → Prop
  | some .breakdown => ∃ before late, traffic = before ++ late ∧ Remembers connection before last ∧
      Provides connection last late last (.error .breakdown)
  | some (.failure _) | none => Remembers connection traffic last

/-- **The token for a request is the one that was granted last.** -/
theorem Provides.remembers {early : Traffic} {text : String}
    (provides : Provides connection held traffic last (.ok text))
    (remembers : Remembers connection early held) :
    Remembers connection (early ++ traffic) last := by
  cases provides with
  | @cached token now good =>
      refine remembers.append fun exchange member => ?_
      cases List.mem_singleton.1 member
      exact not_isGrant_clock now
  | fetched stale fetched =>
      rw [← List.append_assoc]
      exact fetched.remembers _

/-- **Where no token is provided, the one at hand is kept.** -/
theorem Provides.recalls {early : Traffic} {setback : Setback}
    (provides : Provides connection held traffic last (.error setback))
    (remembers : Remembers connection early held) :
    Recalls connection (early ++ traffic) last (some setback) := by
  cases provides with
  | failed stale fails =>
      rw [← List.append_assoc]
      exact (remembers.append stale.grantsNothing).append fails.grantsNothing
  | outlasted stale outlasts => exact ⟨early, _, rfl, remembers, .outlasted stale outlasts⟩
  | ended ends => exact ⟨early, _, rfl, remembers, .ended ends⟩

/-! ## All requests of a session -/

/-- In the end a token was just granted, or more than half a minute of its life was left. -/
inductive Fresh (connection : AdminConnection) : Traffic → Token → Prop where
  /-- The token was granted. -/
  | granted {fetch : Traffic} {token : Token} (before : Traffic)
      (fetched : Fetched connection fetch token) : Fresh connection (before ++ fetch) token
  /-- The token is good. -/
  | good {token : Token} {now : Nat} (before : Traffic) (isGood : now + 30000 < token.expires) :
      Fresh connection (before ++ [⟨.clock, now⟩]) token

theorem Provides.fresh {text : String} (provides : Provides connection held traffic last (.ok text))
    (early : Traffic) :
    ∃ token, last = some token ∧ token.text = text ∧ Fresh connection (early ++ traffic) token := by
  cases provides with
  | cached good => exact ⟨_, rfl, rfl, .good early good⟩
  | fetched _ fetched =>
      rw [← List.append_assoc]
      exact ⟨_, rfl, rfl, .granted _ fetched⟩

theorem Stale.onlyForTokens {look : Traffic} (stale : Stale held look) :
    OnlyForTokens connection look := by
  cases stale with
  | missing => exact onlyForTokens_nil
  | ending => exact onlyForTokens_nil.cons .clock

theorem Fetched.onlyForTokens {token : Token} (fetched : Fetched connection traffic token) :
    OnlyForTokens connection traffic := by
  cases fetched with
  | granted place => exact (onlyForTokens_nil.cons .clock).cons (.request place)

theorem Unfetched.onlyForTokens {problem : AdminError}
    (fails : Unfetched connection traffic problem) : OnlyForTokens connection traffic := by
  cases fails with
  | unsent => exact onlyForTokens_nil
  | lost place | refused place => exact onlyForTokens_nil.cons (.request place)

theorem Outlasting.onlyForTokens (outlasts : Outlasting connection traffic) :
    OnlyForTokens connection traffic := by
  cases outlasts with
  | granted place => exact (onlyForTokens_nil.cons .clock).cons (.request place)

theorem Provides.onlyForTokens {outcome : Except Setback String}
    (provides : Provides connection held traffic last outcome) :
    OnlyForTokens connection traffic := by
  cases provides with
  | cached | ended => exact onlyForTokens_nil.cons .clock
  | fetched stale fetched => exact stale.onlyForTokens.append fetched.onlyForTokens
  | failed stale fails => exact stale.onlyForTokens.append fails.onlyForTokens
  | outlasted stale outlasts => exact stale.onlyForTokens.append outlasts.onlyForTokens

/-- After what was exchanged early, the token at hand is the one that was granted last, and every
request that is not for a token is sent with the one that was granted last before it, which is
fresh. -/
structure Accounts (connection : AdminConnection) (early traffic : Traffic)
    (last : Option Token) (failure : Option Setback) : Prop where
  /-- The token at hand in the end is the one that was granted last. -/
  recalls : Recalls connection (early ++ traffic) last failure
  /-- Every other request is sent with a fresh token. -/
  goes : ∀ before request answer after, traffic = before ++ ⟨.send request, answer⟩ :: after →
    ¬ForToken connection (.send request) → ∃ token,
      Remembers connection (early ++ before) (some token) ∧ Carries request token.text ∧
        Fresh connection (early ++ before) token

theorem Accounts.append {between : Option Token} {early first rest : Traffic}
    {failure : Option Setback} (one : Accounts connection early first between none)
    (other : Accounts connection (early ++ first) rest last failure) :
    Accounts connection early (first ++ rest) last failure := by
  refine ⟨by rw [← List.append_assoc]; exact other.recalls, ?_⟩
  intro before request answer after same isOther
  rcases append_eq_append_cons same with ⟨more, here, -⟩ | ⟨less, rfl, there⟩
  · exact one.goes before request answer more here isOther
  · rw [← List.append_assoc]
    exact other.goes less request answer after there isOther

/-- What a token takes has no other requests. -/
theorem OnlyForTokens.accounts {early : Traffic} {failure : Option Setback}
    (only : OnlyForTokens connection traffic)
    (recalls : Recalls connection (early ++ traffic) last failure) :
    Accounts connection early traffic last failure := by
  refine ⟨recalls, ?_⟩
  rintro before request answer after rfl isOther
  exact (isOther (only _ (List.mem_append_right _ List.mem_cons_self))).elim

theorem Sent.accounts {request : Request} {early late : Traffic} {token : Token}
    {answer : Except Setback Response} (sent : Sent request late answer)
    (carries : Carries request token.text) (remembers : Remembers connection early (some token))
    (fresh : Fresh connection early token) :
    Accounts connection early late (some token) none := by
  refine ⟨remembers.append (sent.grantsNothing carries), ?_⟩
  intro before other reply after same _
  have here : before = [] ∧ other = request := by
    cases sent with
    | refused => exact (not_place_in_nil same).elim
    | lost | answered =>
        obtain ⟨first, isOther, -⟩ := place_in_singleton same
        exact ⟨first, (Wire.send.inj (Sigma.mk.inj isOther).1).symm⟩
  obtain ⟨rfl, rfl⟩ := here
  rw [List.append_nil]
  exact ⟨token, remembers, carries, fresh⟩

/-- A request that is not answered breaks nothing off. -/
theorem Accounts.of_sent {request : Request} {early first late : Traffic} {setback : Setback}
    (sent : Sent request late (.error setback))
    (accounts : Accounts connection early first last none) :
    Accounts connection early first last (some setback) := by
  cases sent <;> exact ⟨accounts.recalls, accounts.goes⟩

theorem Accounts.of_map_failure {early : Traffic} {failure : Option AdminError}
    (accounts : Accounts connection early traffic last (failure.map .failure)) :
    Accounts connection early traffic last none := by
  cases failure <;> exact ⟨accounts.recalls, accounts.goes⟩

theorem Turns.accounts {early : Traffic} {failure : Option Setback}
    (turns : Turns connection held traffic last failure)
    (remembers : Remembers connection early held) :
    Accounts connection early traffic last failure := by
  induction turns generalizing early with
  | done held =>
      rw [← List.append_nil early] at remembers
      exact ⟨remembers, fun _ _ _ _ nowhere => (not_place_in_nil nowhere).elim⟩
  | failed provides => exact provides.onlyForTokens.accounts (provides.recalls remembers)
  -- the token accounts for the request, and the request grants none
  | stopped provides carries sent _ =>
      obtain ⟨token, rfl, rfl, fresh⟩ := provides.fresh early
      have looked := provides.remembers remembers
      have fetched : Accounts connection early _ (some token) none :=
        provides.onlyForTokens.accounts looked
      exact .of_sent sent (fetched.append (sent.accounts carries looked fresh))
  | @more _ _ _ _ _ _ request response _ provides carries _ ih =>
      obtain ⟨token, rfl, rfl, fresh⟩ := provides.fresh early
      have looked := provides.remembers remembers
      have fetched : Accounts connection early _ (some token) none :=
        provides.onlyForTokens.accounts looked
      have sent : Sent request [⟨.send request, some response⟩] (.ok response) := .answered response
      have going := sent.accounts carries looked fresh
      exact fetched.append (going.append (ih going.recalls))

theorem Rounds.accounts {early : Traffic} {replied : List (Sigma AdminCall.Reply)}
    (rounds : Rounds connection held replied traffic last)
    (remembers : Remembers connection early held) :
    Accounts connection early traffic last Option.none := by
  induction rounds generalizing early with
  | none held => exact (Turns.done held).accounts remembers
  | more _ turns _ _ ih =>
      have one := (turns.accounts remembers).of_map_failure
      exact one.append (ih one.recalls)

/-- Why a session came to no value. -/
def causeOf? {α : Type} : Option α → Option Setback
  | some _ => none
  | none => some .breakdown

theorem Ends.accounts {talk : Talk α} {replied : List (Sigma AdminCall.Reply)} {came : Option α}
    {early : Traffic} (ends : Ends connection talk replied came held traffic last)
    (remembers : Remembers connection early held) :
    Accounts connection early traffic last (causeOf? came) := by
  cases ends with
  | concluded held => exact (Turns.done held).accounts remembers
  | brokenOff _ _ turns => exact turns.accounts remembers

/-- **Every request of a session is sent with the token that was granted last**, right after it was
granted or while more than half a minute of its life is left. Where the one at hand is not good, one
new token is requested; if none is granted, the one at hand is kept, the request is not sent, and
the call fails for that reason. A token that would expire after the end of the clock is as good as
none, and breaks the session off. -/
theorem overWire_tokens {talk : Talk α} {came : Option α}
    (course : Course (overWire connection talk none) traffic (came, last)) :
    (∃ replied between early late, traffic = early ++ late ∧
      Rounds connection none replied early between ∧
        Ends connection talk replied came between late last) ∧
      (came ≠ none → Remembers connection traffic last) ∧
      (came = none → ∃ before late, traffic = before ++ late ∧ Remembers connection before last ∧
        Provides connection last late last (.error .breakdown)) ∧
      ∀ before request answer after, traffic = before ++ ⟨.send request, answer⟩ :: after →
        ¬ForToken connection (.send request) → ∃ token, Remembers connection before (some token) ∧
          Carries request token.text ∧ Fresh connection before token := by
  obtain ⟨replied, between, early, late, rfl, rounds, ends⟩ := rounds_of_course course
  have nothing : Remembers connection [] none := fun _ never => nomatch never
  have settled := rounds.accounts nothing
  have accounts := settled.append (ends.accounts settled.recalls)
  refine ⟨⟨replied, between, early, late, rfl, rounds, ends⟩, fun isValue => ?_, ?_, accounts.goes⟩
  · cases came with
    | none => exact (isValue rfl).elim
    | some value => exact accounts.recalls
  · rintro rfl
    exact accounts.recalls

/-- The realm of the school is looked up again and again. -/
def lookUpAgain : Nat → Talk Unit
  | 0 => .conclude ()
  | times + 1 => .ask (.getRealm "school") fun _ => lookUpAgain times

/-- A service whose first answer takes longer than the first token lives, and which does not grant a
second token when it is first asked to. -/
def slowService : Http.ScriptedWire :=
  { tokens := [Http.ScriptedWire.numberedToken 1, { response := some { status := 500 } }]
    answers := [{ response := some { status := 404 }, delay := 300000 }] }

/-- The methods of the requests, with the places where the time is read. -/
def methods (traffic : Traffic) : List (Option Method) :=
  traffic.map fun exchange =>
    match exchange.1 with
    | .send request => some request.method
    | .clock => none

/-- Of four lookups the first brings a token, the second fails to renew it, the third renews it, and
the fourth finds it good. -/
theorem overWire_tokens_slow :
    ∃ traffic came last,
      Course (overWire belowPath (lookUpAgain 4) none) traffic (came, last) ∧
      methods traffic = [some .post, none, some .get, none, some .post, none, some .post, none,
        some .get, none, some .get] ∧
      (∃ replied between early late, traffic = early ++ late ∧
        Rounds belowPath none replied early between ∧
          Ends belowPath (lookUpAgain 4) replied came between late last) ∧
      (came ≠ none → Remembers belowPath traffic last) ∧
      (came = none → ∃ before late, traffic = before ++ late ∧ Remembers belowPath before last ∧
        Provides belowPath last late last (.error .breakdown)) ∧
      ∀ before request answer after, traffic = before ++ ⟨.send request, answer⟩ :: after →
        ¬ForToken belowPath (.send request) → ∃ token, Remembers belowPath before (some token) ∧
          Carries request token.text ∧ Fresh belowPath before token := by
  have course := Dialogue.course_exchanged Http.ScriptedWire.respond
    (overWire belowPath (lookUpAgain 4) none) slowService
  have exchanged : methods ((overWire belowPath (lookUpAgain 4) none).exchanged
      Http.ScriptedWire.respond slowService) = [some .post, none, some .get, none, some .post, none,
        some .post, none, some .get, none, some .get] := by
    decide +kernel
  generalize ((overWire belowPath (lookUpAgain 4) none).run
    Http.ScriptedWire.respond slowService).1 = reached at course
  obtain ⟨came, last⟩ := reached
  exact ⟨_, came, last, course, exchanged, overWire_tokens course⟩

end RealmConvergence.Admin
