import Mathlib.Data.List.Forall2
import RealmConvergence.Http.Exchange
import RealmConvergence.Proofs.Convergence.Creating
import RealmConvergence.Proofs.Convergence.Stopping
import RealmConvergence.Proofs.Dialogue.Through

/-!
# Runs over the wire

A run that speaks to a service over the wire, where statuses, bodies and lost answers are left open.
A creation is a request that posts an object (`Creates`); these are the requests of the calls that
have a lookup (`creates_iff`). In the traffic of a call, a creation comes after nothing but what its
token takes (`place_of_creation`), and a lookup is understood or ends the call
(`place_of_lookup`).

For whole runs, `apply_creates_what_is_absent`: the traffic falls into that of the passes, in each
every creation directly follows its own lookup, whose answer shows the absence, and outside of
grants a lookup that is not understood is the end of the run. All of this holds of runs that are
broken off as well: what they exchange is the beginning of what a run exchanges.
-/

set_option autoImplicit false

namespace RealmConvergence.Convergence

open Admin
open Dialogue (Course Pending Settles)
open Http (Wire Request Response Body)

variable {connection : AdminConnection} {call : AdminCall} {came : Option call.Reply}
  {request : Request} {answer : Option Response} {before after traffic : Traffic}

/-! ## Requests that create -/

/-- Whether a body is an object. -/
def carriesObject : Body → Bool
  | .json (.object _) => true
  | _ => false

/-- The request creates a realm, a client or a role: it posts an object. Requests for tokens post a
form, and what is added to a role or a user is posted as an array. -/
def Creates (request : Request) : Prop :=
  request.method = .post ∧ carriesObject request.body = true

instance : DecidablePred Creates :=
  fun _ => inferInstanceAs (Decidable (_ ∧ _))

theorem method_of_requests (requests : call.Requests connection request) :
    request.method = call.method := by
  obtain ⟨url, token, -, rfl⟩ := requests
  cases call <;> rfl

theorem body_of_requests (requests : call.Requests connection request) :
    request.body = call.body := by
  obtain ⟨url, token, -, rfl⟩ := requests
  cases call <;> rfl

/-- **The calls that have a lookup are those that create.** -/
theorem creates_iff (requests : call.Requests connection request) :
    Creates request ↔ ∃ lookup, call.lookup? = some lookup := by
  unfold Creates
  rw [method_of_requests requests, body_of_requests requests]
  cases call <;>
    simp [AdminCall.method, AdminCall.operation, AdminCall.body, AdminCall.lookup?, carriesObject,
      RealmRecord.toJson, ClientRecord.toJson, RoleRecord.toJson, rolesJson]

theorem not_creates_of_forToken (isToken : ForToken connection (.send request)) :
    ¬Creates request := by
  cases isToken
  exact fun never => nomatch never.2

theorem not_get_of_forToken (isToken : ForToken connection (.send request)) :
    request.method ≠ .get := by
  cases isToken
  exact fun never => nomatch never

/-! ## Places in the traffic of a call -/

/-- **A call creates with its own request alone, and before it only a token is fetched.** -/
theorem place_of_creation (shown : CallTraffic connection call traffic came)
    (place : traffic = before ++ ⟨.send request, answer⟩ :: after) (creates : Creates request) :
    OnlyForTokens connection before ∧ call.Requests connection request := by
  have other : ¬ForToken connection (.send request) :=
    fun isToken => not_creates_of_forToken isToken creates
  induction shown generalizing before with
  | unsent _ aside | brokenOff aside =>
      exact (other (aside _ (place ▸ List.mem_append_right _ List.mem_cons_self))).elim
  | once aside requests tells =>
      obtain ⟨less, rfl, here⟩ := aside.place_after other place
      obtain ⟨rfl, same, -⟩ := place_in_singleton here
      cases same
      rw [List.append_nil]
      exact ⟨aside, requests⟩
  | again aside requests lookup fails ih =>
      obtain ⟨less, rfl, here⟩ := aside.place_after other place
      rcases List.cons_eq_append_iff.1 here with ⟨rfl, same⟩ | ⟨later, rfl, inLookup⟩
      · cases same
        rw [List.append_nil]
        exact ⟨aside, requests⟩
      · obtain ⟨-, isFind⟩ := ih inLookup
        obtain ⟨lookup, never⟩ := (creates_iff isFind).1 creates
        cases never

/-- **A lookup of a call is understood, or the call fails and nothing more is sent for it.** -/
theorem place_of_lookup (shown : CallTraffic connection call traffic came)
    (place : traffic = before ++ ⟨.send request, answer⟩ :: after) (looks : request.method = .get) :
    ∃ lookup : AdminCall, lookup.method = .get ∧ lookup.Requests connection request ∧
      ((∃ response, answer = some response ∧ lookup.Understands response) ∨
        after = [] ∧ ∃ problem, came = some (.error problem)) := by
  have other : ¬ForToken connection (.send request) :=
    fun isToken => not_get_of_forToken isToken looks
  induction shown generalizing before with
  | unsent _ aside | brokenOff aside =>
      exact (other (aside _ (place ▸ List.mem_append_right _ List.mem_cons_self))).elim
  | @once call _ _ _ _ aside requests tells =>
      obtain ⟨less, rfl, here⟩ := aside.place_after other place
      obtain ⟨-, same, rfl⟩ := place_in_singleton here
      cases same
      have isLookup : call.method = .get := (method_of_requests requests).symm.trans looks
      exact ⟨call, isLookup, requests,
        (tells.understood isLookup).imp_right fun ⟨problem, failed⟩ =>
          ⟨rfl, problem, congrArg some failed⟩⟩
  | again aside requests lookup fails ih =>
      obtain ⟨less, rfl, here⟩ := aside.place_after other place
      rcases List.cons_eq_append_iff.1 here with ⟨rfl, same⟩ | ⟨later, rfl, inLookup⟩
      · cases same
        cases (method_of_requests requests).symm.trans looks
      · obtain ⟨found, isLookup, isRequest, known⟩ := ih inLookup
        refine ⟨found, isLookup, isRequest, known.imp_right ?_⟩
        rintro ⟨isLast, problem, failed⟩
        exact ⟨isLast, fails problem failed⟩

/-- A lookup that comes back with nothing ends with an answer that shows the absence. -/
theorem absence_of_traffic {reply : call.Reply}
    (shown : CallTraffic connection call traffic (some reply)) (nothing : call.FoundNothing reply) :
    ∃ tokens request response, traffic = tokens ++ [⟨.send request, some response⟩] ∧
      call.Requests connection request ∧ call.ShowsAbsence response := by
  cases shown with
  | unsent problem => exact (call.not_foundNothing_error problem nothing).elim
  | once aside requests tells =>
      obtain ⟨response, rfl, absent⟩ := tells.absent nothing
      exact ⟨_, _, response, rfl, requests, absent⟩
  | again => exact nothing.elim

/-! ## Passes over the wire -/

/-- The part takes this course over the wire, from some token on. -/
def GoesOver (connection : AdminConnection) (part : Part Findings) (traffic : Traffic) : Prop :=
  ∃ token outcome last, Course (overWire connection part.run token) traffic (outcome, last)

/-- **Parts after each other go over the wire one by one**, until all are done, one fails, or one is
broken off. -/
theorem course_forEach_overWire {parts : List (Part Findings)} {token last : Option Token}
    {outcome : Option (Except Failure Findings)}
    (course : Course (overWire connection (forEach parts id).run token) traffic (outcome, last)) :
    ∃ begun pieces, begun <+: parts ∧ traffic = pieces.flatten ∧
      List.Forall₂ (GoesOver connection) begun pieces := by
  induction parts generalizing token traffic outcome last with
  | nil =>
      cases course with
      | conclude => exact ⟨[], [], List.nil_prefix, rfl, .nil⟩
  | cons part rest ih =>
      rw [forEach, run_bind, overWire, Dialogue.through_andThen] at course
      obtain ⟨first, ⟨came, between⟩, later, firstCourse, laterCourse, rfl⟩ :=
        Dialogue.course_of_andThen course
      have goesOver : GoesOver connection part first := ⟨token, came, between, firstCourse⟩
      have endsHere : later = [] → ∃ begun pieces, begun <+: part :: rest ∧
          first ++ later = List.flatten pieces ∧
          List.Forall₂ (GoesOver connection) begun pieces := by
        rintro rfl
        exact ⟨[part], [first], ⟨rest, rfl⟩, by simp, .cons goesOver .nil⟩
      rcases came with _ | failure | found
      · cases laterCourse with
        | conclude => exact endsHere rfl
      · cases laterCourse with
        | conclude => exact endsHere rfl
      · dsimp only [afterOutcome] at laterCourse
        rw [run_bind, Dialogue.through_andThen] at laterCourse
        obtain ⟨others, ⟨restCame, finish⟩, ending, restCourse, endCourse, rfl⟩ :=
          Dialogue.course_of_andThen laterCourse
        obtain ⟨begun, pieces, isPrefix, rfl, goOver⟩ := ih restCourse
        have isNil : ending = [] := by
          rcases restCame with _ | _ | _ <;> cases endCourse <;> rfl
        subst isNil
        refine ⟨part :: begun, first :: pieces, (List.prefix_cons_inj part).2 isPrefix, ?_,
          .cons goesOver goOver⟩
        rw [List.append_nil, List.flatten_cons]

/-- Every request in the traffic that creates something is directly preceded, but for what a token
takes, by the request of its own lookup, and the answer to that one shows the absence. -/
def CreatesWhatIsAbsent (connection : AdminConnection) (traffic : Traffic) : Prop :=
  ∀ before request answer after, traffic = before ++ ⟨.send request, answer⟩ :: after →
    Creates request → ∃ creation lookup : AdminCall, creation.lookup? = some lookup ∧
      creation.Requests connection request ∧ ∃ earlier looked response tokens,
        before = earlier ++ ⟨.send looked, some response⟩ :: tokens ∧
          lookup.Requests connection looked ∧ lookup.ShowsAbsence response ∧
          OnlyForTokens connection tokens

instance (call : AdminCall) : Nonempty call.Reply := ⟨.error (.transport "")⟩

/-- **A part that looks up before it creates creates over the wire what is absent.** -/
theorem LooksFirst.createsWhatIsAbsent {part : Part Findings} (looksFirst : LooksFirst part)
    (goesOver : GoesOver connection part traffic) : CreatesWhatIsAbsent connection traffic := by
  rintro before request answer after rfl creates
  obtain ⟨token, outcome, last, course⟩ := goesOver
  obtain ⟨earlier, creation, settled, start, finish, ahead, inside, beyond, pending,
    settlesEarlier, here, rfl⟩ := (Dialogue.comes_of_course course).place
  obtain ⟨aside, requests⟩ := place_of_creation (callTraffic_of_course here) rfl creates
  obtain ⟨lookup, isLookup⟩ := (creates_iff requests).1 creates
  -- Whatever the creation comes back with, it stands directly after its lookup, and so does what
  -- settles it.
  obtain ⟨reply⟩ : Nonempty creation.Reply := inferInstance
  obtain ⟨rest, value, partCourse⟩ := pending.exists_course reply
  obtain ⟨others, found, rfl, nothing⟩ := looksFirst _ _ partCourse _ _ _ lookup rfl isLookup
  obtain ⟨between, early, late, -, settlesLookup, rfl⟩ := settlesEarlier.of_append
  cases settlesLookup with
  | more one rest =>
      cases rest with
      | none =>
          obtain ⟨tokens, looked, response, rfl, isRequest, absent⟩ :=
            absence_of_traffic (callTraffic_of_course one) nothing
          refine ⟨creation, lookup, isLookup, requests, early ++ tokens, looked, response, inside,
            ?_, isRequest, absent, aside⟩
          simp only [List.append_assoc, List.append_nil, List.cons_append, List.nil_append]

/-! ## Failed lookups over the wire -/

/-- The place lies within a grant to a service account of the realm: with some of what is exchanged
before and after, it makes the whole course of one. -/
def WithinGrant (connection : AdminConnection) (realm : String) (before : Traffic)
    (place : Sigma Wire.Reply) (after : Traffic) : Prop :=
  ∃ early inside late rest client token outcome last, before = early ++ inside ∧
    after = late ++ rest ∧
    Course (overWire connection (grantRoles realm client).run token) (inside ++ place :: late)
      (outcome, last)

/-- Every lookup in the traffic is understood, unless it lies within a grant; otherwise nothing more
is exchanged, and the outcome is a failure. -/
def EndsAtFailedLookup {α : Type} (connection : AdminConnection) (realm : String)
    (traffic : Traffic) (outcome : Option (Except Failure α)) : Prop :=
  ∀ before request answer after, traffic = before ++ ⟨.send request, answer⟩ :: after →
    request.method = .get → ∃ lookup : AdminCall, lookup.method = .get ∧
      lookup.Requests connection request ∧
      ((∃ response, answer = some response ∧ lookup.Understands response) ∨
        WithinGrant connection realm before ⟨.send request, answer⟩ after ∨
        after = [] ∧ ∃ failure, outcome = some (.error failure))

/-- A failed call is the end of a run, or it lies within a grant. -/
theorem ends_or_within_of_course {blueprint : Blueprint} {outcome : Except Failure Report}
    {earlier later : List (Sigma AdminCall.Reply)} {problem : AdminError}
    (course : Course (apply blueprint).run (earlier ++ ⟨call, .error problem⟩ :: later) outcome) :
    (later = [] ∧ ∃ failure, outcome = .error failure) ∨
      ∃ middle within without others client granted, earlier = middle ++ within ∧
        later = without ++ others ∧ Course (grantRoles blueprint.realm.name client).run
          (within ++ ⟨call, .error problem⟩ :: without) granted := by
  cases checked : blueprint.validate with
  | error violation =>
      rw [apply_of_violation checked] at course
      generalize isReplied : earlier ++ ⟨call, .error problem⟩ :: later = replied at course
      cases course with
      | conclude => exact (not_place_in_nil isReplied.symm).elim
  | ok _ =>
      rw [apply_of_valid checked] at course
      obtain ⟨inner, passesCourse, rfl⟩ := course_bind_pure.1 course
      obtain ⟨events, isReplied, accounts⟩ := stops_passes blueprint _ inner passesCourse
      -- The failed call is an event of its own, or one of the calls of a grant.
      obtain ⟨firsts, event, others, within, without, rfl, inEvent, rfl, rfl⟩ :=
        flatMap_eq_append_cons isReplied.symm
      cases event with
      | call exchange =>
          obtain ⟨rfl, rfl, rfl⟩ := place_in_singleton inEvent
          obtain ⟨rfl, failure, rfl, -⟩ := accounts.stops firsts call problem others rfl
          exact .inl ⟨rfl, failure, rfl⟩
      | grant went =>
          refine .inr ⟨_, within, without, _, went.client, went.outcome, rfl, rfl, ?_⟩
          have whole := went.course
          simp only [Event.exchanges] at inEvent
          rwa [inEvent] at whole

/-- A run that goes on after a failed call is in a grant, or has gone through one, in which the call
failed. -/
theorem within_of_pending {blueprint : Blueprint} {made : AdminCall}
    {earlier later : List (Sigma AdminCall.Reply)} {problem : AdminError}
    (pending : Pending (apply blueprint).run (earlier ++ ⟨made, .error problem⟩ :: later) call) :
    (∃ middle within without others client granted, earlier = middle ++ within ∧
      later = without ++ others ∧ Course (grantRoles blueprint.realm.name client).run
        (within ++ ⟨made, .error problem⟩ :: without) granted) ∨
    ∃ middle within client, earlier = middle ++ within ∧
      Pending (grantRoles blueprint.realm.name client).run
        (within ++ ⟨made, .error problem⟩ :: later) call := by
  obtain ⟨reply⟩ : Nonempty call.Reply := inferInstance
  obtain ⟨onward, value, course⟩ := pending.exists_course reply
  rw [List.append_assoc, List.cons_append] at course
  rcases ends_or_within_of_course course with ⟨nowhere, -⟩ |
    ⟨middle, within, without, others, client, granted, rfl, isLater, grant⟩
  · exact (not_place_in_nil nowhere.symm).elim
  · -- the call that is waited for comes in the grant, or after it
    rcases append_eq_append_cons isLater.symm with ⟨inGrant, rfl, -⟩ | ⟨between, rfl, -⟩
    · rw [← List.cons_append, ← List.append_assoc] at grant
      exact .inr ⟨middle, within, client, rfl, grant.pending⟩
    · exact .inl ⟨middle, within, without, between, client, granted, rfl, rfl, grant⟩

section Grants

variable {realm client : String} {made : AdminCall} {reply : made.Reply}
  {middle within without others : List (Sigma AdminCall.Reply)} {place : Sigma Wire.Reply}
  {ahead inside beyond behind : Traffic} {token start finish last : Option Token}

theorem WithinGrant.append (lies : WithinGrant connection realm before place after)
    (late : Traffic) : WithinGrant connection realm before place (after ++ late) := by
  obtain ⟨early, inside, behind, rest, client, token, outcome, last, rfl, rfl, course⟩ := lies
  exact ⟨early, inside, behind, rest ++ late, client, token, outcome, last, rfl,
    List.append_assoc _ _ _, course⟩

/-- What settles the calls of a grant lies within it. -/
theorem withinGrant_of_comes {earlier early : Traffic} {granted : Option (Except GrantFailure Unit)}
    (comes : Dialogue.Comes (settle connection) (grantRoles realm client).run token
      (early ++ (inside ++ place :: after)) granted last) :
    WithinGrant connection realm ((earlier ++ early) ++ inside) place after := by
  refine ⟨earlier, early ++ inside, after, [], client, token, granted, last,
    List.append_assoc _ _ _, (List.append_nil _).symm, ?_⟩
  rw [List.append_assoc]
  exact comes.course

/-- A grant that comes to its end. -/
theorem withinGrant_of_course {granted : Except GrantFailure Unit}
    (course : Course (grantRoles realm client).run (within ++ ⟨made, reply⟩ :: without) granted)
    (settles : Settles (settle connection) token (middle ++ within) ahead start)
    (here : Course (settle connection made start) (inside ++ place :: beyond) (some reply, finish))
    (settlesLater : Settles (settle connection) finish (without ++ others) behind last) :
    WithinGrant connection realm (ahead ++ inside) place (beyond ++ behind) := by
  obtain ⟨between, earlier, early, -, settlesWithin, rfl⟩ := settles.of_append
  obtain ⟨ending, late, rest, settlesWithout, -, rfl⟩ := settlesLater.of_append
  have comes := Dialogue.Comes.concluded course
    (settlesWithin.append (.more here settlesWithout))
  rw [List.append_assoc, List.cons_append] at comes
  rw [← List.append_assoc]
  exact (withinGrant_of_comes comes).append rest

/-- A grant that is broken off. -/
theorem withinGrant_of_pending {final : Traffic} {broken : Option Token}
    (pending : Pending (grantRoles realm client).run (within ++ ⟨made, reply⟩ :: without) call)
    (settles : Settles (settle connection) token (middle ++ within) ahead start)
    (here : Course (settle connection made start) (inside ++ place :: beyond) (some reply, finish))
    (settlesLater : Settles (settle connection) finish without behind last)
    (breaks : Course (settle connection call last) final (none, broken)) :
    WithinGrant connection realm (ahead ++ inside) place (beyond ++ (behind ++ final)) := by
  obtain ⟨between, earlier, early, -, settlesWithin, rfl⟩ := settles.of_append
  have comes := Dialogue.Comes.brokenOff pending (settlesWithin.append (.more here settlesLater))
    breaks
  simp only [List.append_assoc, List.cons_append] at comes
  exact withinGrant_of_comes comes

end Grants

/-- **A run ends at a failed lookup, except within grants.** -/
theorem endsAtFailedLookup_of_course {blueprint : Blueprint} {token last : Option Token}
    {outcome : Option (Except Failure Report)}
    (course : Course (overWire connection (apply blueprint).run token) traffic (outcome, last)) :
    EndsAtFailedLookup connection blueprint.realm.name traffic outcome := by
  rintro before request answer after same looks
  cases Dialogue.comes_of_course course with
  | concluded runCourse settles =>
      subst same
      obtain ⟨earlier, made, reply, later, start, finish, ahead, inside, beyond, behind, rfl,
        settlesEarlier, here, settlesLater, rfl, rfl⟩ := settles.place
      obtain ⟨lookup, isLookup, requests, known⟩ :=
        place_of_lookup (callTraffic_of_course here) rfl looks
      refine ⟨lookup, isLookup, requests, known.imp_right ?_⟩
      rintro ⟨rfl, problem, isFailure⟩
      cases isFailure
      rcases ends_or_within_of_course runCourse with ⟨rfl, failure, rfl⟩ |
        ⟨middle, within, without, others, client, granted, rfl, rfl, grant⟩
      · cases settlesLater with
        | none => exact .inr ⟨rfl, failure, rfl⟩
      · exact .inl (withinGrant_of_course grant settlesEarlier here settlesLater)
  | @brokenOff replied call early late between _ pending settles breaks =>
      rcases append_eq_append_cons same with ⟨more, rfl, rfl⟩ | ⟨less, rfl, rfl⟩
      · obtain ⟨earlier, made, reply, later, start, finish, ahead, inside, beyond, behind, rfl,
          settlesEarlier, here, settlesLater, rfl, rfl⟩ := settles.place
        obtain ⟨lookup, isLookup, requests, known⟩ :=
          place_of_lookup (callTraffic_of_course here) rfl looks
        refine ⟨lookup, isLookup, requests, known.imp_right ?_⟩
        rintro ⟨rfl, problem, isFailure⟩
        cases isFailure
        rcases within_of_pending pending with
          ⟨middle, within, without, others, client, granted, rfl, rfl, grant⟩ |
          ⟨middle, within, client, rfl, grant⟩
        · exact .inl ((withinGrant_of_course grant settlesEarlier here settlesLater).append late)
        · rw [List.append_assoc]
          exact .inl (withinGrant_of_pending grant settlesEarlier here settlesLater breaks)
      · obtain ⟨lookup, isLookup, requests, known⟩ :=
          place_of_lookup (callTraffic_of_course breaks) rfl looks
        refine ⟨lookup, isLookup, requests, .inl (known.resolve_right ?_)⟩
        rintro ⟨-, problem, never⟩
        cases never

/-! ## Whole runs -/

/-- **A failure is never mistaken for absence.** Whatever comes over the wire, the passes of a run
go over it one by one. In each, every request that creates the realm, a client or a role directly
follows the lookup of what it creates, but for what a token takes, and the lookup was answered with
status 404, or for a client with a list in which no item has its identifier. A lookup that is lost,
refused or not understood is the end of the run, unless it lies within a grant: nothing more is
exchanged, and the run fails. -/
theorem apply_creates_what_is_absent {blueprint : Blueprint} {token last : Option Token}
    {outcome : Option (Except Failure Report)}
    (course : Course (overWire connection (apply blueprint).run token) traffic (outcome, last)) :
    (∃ begun pieces, begun <+: passList blueprint ∧ traffic = pieces.flatten ∧
      List.Forall₂ (fun pass piece =>
        GoesOver connection pass piece ∧ CreatesWhatIsAbsent connection piece) begun pieces) ∧
      EndsAtFailedLookup connection blueprint.realm.name traffic outcome := by
  refine ⟨?_, endsAtFailedLookup_of_course course⟩
  cases checked : blueprint.validate with
  | error violation =>
      rw [apply_of_violation checked] at course
      cases course with
      | conclude => exact ⟨[], [], List.nil_prefix, rfl, .nil⟩
  | ok _ =>
      rw [apply_of_valid checked, passes_eq_passList, run_bind_pure, overWire,
        Dialogue.through_andThen] at course
      obtain ⟨early, ⟨inner, between⟩, late, passesCourse, endCourse, rfl⟩ :=
        Dialogue.course_of_andThen course
      have isNil : late = [] := by cases inner <;> cases endCourse <;> rfl
      subst isNil
      obtain ⟨begun, pieces, isPrefix, rfl, goOver⟩ := course_forEach_overWire passesCourse
      refine ⟨begun, pieces, isPrefix, List.append_nil _, ?_⟩
      have arePasses := (List.forall₂_and_left begun pieces).2
        ⟨fun _ begins => isPrefix.subset begins, goOver⟩
      refine arePasses.imp ?_
      rintro pass piece ⟨isPass, goesOver⟩
      exact ⟨goesOver, (looksFirst_of_mem_passList isPass).createsWhatIsAbsent goesOver⟩

/-- A connection to a service on the same machine. -/
def nearby : AdminConnection :=
  { baseUrl := "http://[::1]:8080", adminRealm := "master", clientId := "admin-cli"
    credentials := .password "admin" "admin" }

/-- The method of each request, and whether it creates something. -/
def outline (traffic : Traffic) : List (Option (Http.Method × Bool)) :=
  traffic.map fun exchange =>
    match exchange.1 with
    | .send request => some (request.method, decide (Creates request))
    | .clock => none

/-- A service that has nothing is asked for a token, for the realm of the school, and to create
it. -/
theorem apply_creates_what_is_absent_school :
    ∃ traffic outcome last,
      Course (overWire nearby (apply Blueprint.school).run none) traffic (outcome, last) ∧
      outline traffic = [some (.post, false), none, some (.get, false), none, some (.post, true)] ∧
      (∃ begun pieces, begun <+: passList Blueprint.school ∧ traffic = pieces.flatten ∧
        List.Forall₂ (fun pass piece =>
          GoesOver nearby pass piece ∧ CreatesWhatIsAbsent nearby piece) begun pieces) ∧
      EndsAtFailedLookup nearby "school" traffic outcome := by
  have course := Dialogue.course_exchanged Http.ScriptedWire.respond
    (overWire nearby (apply Blueprint.school).run none) {}
  have outlined : outline ((overWire nearby (apply Blueprint.school).run none).exchanged
      Http.ScriptedWire.respond {}) =
      [some (.post, false), none, some (.get, false), none, some (.post, true)] := by
    decide +kernel
  generalize ((overWire nearby (apply Blueprint.school).run none).run
    Http.ScriptedWire.respond {}).1 = came at course
  obtain ⟨outcome, last⟩ := came
  exact ⟨_, outcome, last, course, outlined, apply_creates_what_is_absent course⟩

end RealmConvergence.Convergence
