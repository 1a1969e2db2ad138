import RealmConvergence.Proofs.Admin.Exchanging
import RealmConvergence.Proofs.Json.Ordered
import RealmConvergence.Proofs.Json.Reading

/-!
# What a call exchanges

Every call has its place below the administration address, its method and its body
(`AdminCall.request`). Making a call exchanges what its token takes and then at most one request,
this one; only the creation of a client may go on with the lookup of that client (`shows_perform`).
Everything is broken off only while a token is fetched.

What a lookup comes to is told by the answer to its request (`AdminCall.Tells`). It succeeds only
where the answer is understood, and it finds nothing only where the answer shows the absence: for a
client by a list in which no item has its identifier, and otherwise by status 404.
-/

set_option autoImplicit false

namespace RealmConvergence

open Admin
open Dialogue (Course)
open Http (Wire Request Response Url Method Body)

/-! ## Requests of calls -/

namespace AdminCall

/-- The method of a call's request. -/
def method (call : AdminCall) : Method :=
  match call.operation with
  | .getRealm | .findClient | .getClientSecret | .getServiceAccountUser | .getRealmRole
  | .getRealmRoleComposites | .getClientRole => .get
  | .createRealm | .createClient | .createRealmRole | .addRealmRoleComposites | .createClientRole
  | .assignClientRoles => .post
  | .updateRealm | .updateClient | .updateClientSecret | .updateRealmRole | .updateClientRole =>
    .put

/-- The path of a call's request below the realms. -/
def path : AdminCall → List String
  | .getRealm realm => [realm]
  | .createRealm _ => []
  | .updateRealm realm _ => [realm]
  | .findClient realm _ => [realm, "clients"]
  | .createClient realm _ => [realm, "clients"]
  | .updateClient realm client _ => [realm, "clients", client]
  | .getClientSecret realm client => [realm, "clients", client, "client-secret"]
  | .updateClientSecret realm client _ => [realm, "clients", client]
  | .getServiceAccountUser realm client => [realm, "clients", client, "service-account-user"]
  | .getRealmRole realm role => [realm, "roles", role]
  | .createRealmRole realm _ => [realm, "roles"]
  | .updateRealmRole realm role _ => [realm, "roles", role]
  | .getRealmRoleComposites realm role client =>
    [realm, "roles", role, "composites", "clients", client]
  | .addRealmRoleComposites realm role _ => [realm, "roles", role, "composites"]
  | .getClientRole realm client role => [realm, "clients", client, "roles", role]
  | .createClientRole realm client _ => [realm, "clients", client, "roles"]
  | .updateClientRole realm client role _ => [realm, "clients", client, "roles", role]
  | .assignClientRoles realm user client _ =>
    [realm, "users", user, "role-mappings", "clients", client]

/-- The body of a call's request. -/
def body : AdminCall → Body
  | .createRealm record | .updateRealm _ record => .json record.toJson
  | .createClient _ record | .updateClient _ _ record => .json record.toJson
  | .updateClientSecret _ _ secret => .json { secret := some secret : ClientRecord }.toJson
  | .createRealmRole _ record | .updateRealmRole _ _ record | .createClientRole _ _ record
  | .updateClientRole _ _ _ record => .json record.toJson
  | .addRealmRoleComposites _ _ roles | .assignClientRoles _ _ _ roles => .json (rolesJson roles)
  | _ => .empty

/-- The request of a call to an address, with a token. -/
def request (call : AdminCall) (url : Url) (token : String) : Request :=
  let request := { authorized call.method url token with body := call.body }
  match call with
  | .findClient _ clientId => request.withQuery ("clientId", clientId)
  | _ => request

/-- The call makes this request of a service. -/
def Requests (connection : AdminConnection) (call : AdminCall) (request : Request) : Prop :=
  ∃ url token, resourceUrl connection (["admin", "realms"] ++ call.path) = .ok url ∧
    request = call.request url token

/-! ## Answers to lookups -/

end AdminCall

/-- The answer is a success, and a value is read from it. -/
def Reads {α : Type} (reading : Json.Reading α) (response : Response) : Prop :=
  (200 ≤ response.status ∧ response.status < 300) ∧ ∃ value, decodeBody reading response = .ok value

/-- The answer is a success and lists clients, none of which has the identifier: neither as it is
written nor as it is read. -/
def ListsOthers (clientId : String) (response : Response) : Prop :=
  (200 ≤ response.status ∧ response.status < 300) ∧ response.isComplete = true ∧
    ∃ items, Json.Written.ofBytes? response.body = some (.array items) ∧
      ∀ item ∈ items, ¬item.HasText "clientId" clientId ∧
        ∃ record, ClientRecord.read? item = some record ∧ record.clientId ≠ some clientId

namespace AdminCall

/-- The answer tells what is looked up, or that it is absent. -/
def Understands : AdminCall → Response → Prop
  | .getRealm _, response => response.status = 404 ∨ Reads RealmRecord.read? response
  | .findClient _ _, response => Reads (Json.Reading.list ClientRecord.read?) response
  | .getClientSecret _ _, response => response.status = 404 ∨ Reads CredentialRecord.read? response
  | .getServiceAccountUser _ _, response => Reads UserRecord.read? response
  | .getRealmRole _ _, response => response.status = 404 ∨ Reads RoleRecord.read? response
  | .getRealmRoleComposites _ _ _, response =>
    response.status = 404 ∨ Reads (Json.Reading.list RoleRecord.read?) response
  | .getClientRole _ _ _, response => response.status = 404 ∨ Reads RoleRecord.read? response
  | _, _ => False

/-- The answer shows that what is looked up is absent. -/
def ShowsAbsence : AdminCall → Response → Prop
  | .findClient _ clientId, response => ListsOthers clientId response
  | _, response => response.status = 404

/-- The lookup of a realm, a client or a role comes back with nothing. -/
def FoundNothing : (call : AdminCall) → call.Reply → Prop
  | .getRealm _, reply => reply = .ok none
  | .findClient _ _, reply => reply = .ok none
  | .getRealmRole _ _, reply => reply = .ok none
  | .getClientRole _ _ _, reply => reply = .ok none
  | _, _ => False

/-- What a lookup comes to is told by the answer, none where it is lost. It fails unless the answer
is understood, and finds nothing only if the answer shows it. -/
structure Tells (call : AdminCall) (answer : Option Response) (reply : call.Reply) : Prop where
  /-- The answer is understood, or the lookup fails. -/
  understood : call.method = .get →
    (∃ response, answer = some response ∧ call.Understands response) ∨
      ∃ problem, reply = .error problem
  /-- The answer shows that nothing is there to be found. -/
  absent : call.FoundNothing reply → ∃ response, answer = some response ∧ call.ShowsAbsence response

theorem not_foundNothing_error (call : AdminCall) (problem : AdminError) :
    ¬call.FoundNothing (.error problem) := by
  cases call <;> exact fun never => nomatch never

/-- A failure tells of no absence. -/
theorem tells_error (call : AdminCall) (answer : Option Response) (problem : AdminError) :
    call.Tells answer (.error problem) :=
  ⟨fun _ => .inr ⟨problem, rfl⟩, fun found => (call.not_foundNothing_error problem found).elim⟩

end AdminCall

namespace Admin

variable {α : Type} {connection : AdminConnection}

/-! ## Reading answers -/

theorem requireSuccess_eq_ok {url : Url} {response found : Response}
    (succeeds : requireSuccess url response = .ok found) :
    found = response ∧ 200 ≤ response.status ∧ response.status < 300 := by
  unfold requireSuccess at succeeds
  split at succeeds
  · next isSuccess =>
    cases succeeds
    exact ⟨rfl, isSuccess⟩
  · dsimp only at succeeds
    repeat' split at succeeds
    all_goals cases succeeds

theorem decodeBody_eq_ok_iff {reading : Json.Reading α} {response : Response} {value : α} :
    decodeBody reading response = .ok value ↔ response.isComplete = true ∧
      ∃ written, Json.Written.ofBytes? response.body = some written ∧
        reading written = some value := by
  rw [← Option.bind_eq_some_iff]
  unfold decodeBody
  cases response.isComplete with
  | false => simp
  | true =>
      simp only [if_true, Option.bind_eq_bind, true_and]
      cases Json.Written.ofBytes? response.body |>.bind reading with
      | none => exact ⟨nofun, nofun⟩
      | some found =>
          exact ⟨fun same => congrArg some (Except.ok.inj same),
            fun same => congrArg Except.ok (Option.some.inj same)⟩

/-- What stands as the identifier of a client is read as its identifier. -/
theorem clientId_of_read {item : Json.Written} {record : ClientRecord} {clientId : String}
    (isRecord : ClientRecord.read? item = some record)
    (stands : item.HasText "clientId" clientId) : record.clientId = some clientId := by
  obtain ⟨found, isAsked, decoded⟩ := Json.Reading.record_eq_some_iff.1 isRecord
  unfold ClientRecord.decode at decoded
  obtain ⟨present, shaped, decoded⟩ := bind_eq_ok_iff.1 decoded
  obtain ⟨id, -, decoded⟩ := bind_eq_ok_iff.1 decoded
  obtain ⟨read, isRead, decoded⟩ := bind_eq_ok_iff.1 decoded
  have same : record.clientId = read := by
    simp only [bind_eq_ok_iff] at decoded
    obtain ⟨_, -, _, -, _, -, _, -, _, -, _, -, _, -, _, -, rebuilt⟩ := decoded
    cases rebuilt
    rfl
  unfold wireField Json.withDefault at isRead
  rw [Json.Shape.lookup_of_asked? rfl isAsked shaped stands rfl] at isRead
  cases isRead
  exact same

/-! ## Traffic of calls -/

/-- What is exchanged for a call, and what it comes back with. -/
inductive CallTraffic (connection : AdminConnection) :
    (call : AdminCall) → Traffic → Option call.Reply → Prop where
  /-- The request of the call is never sent. -/
  | unsent {call : AdminCall} {tokens : Traffic} (problem : AdminError)
      (aside : OnlyForTokens connection tokens) :
      CallTraffic connection call tokens (some (.error problem))
  /-- Everything is broken off before the request of the call. -/
  | brokenOff {call : AdminCall} {tokens : Traffic} (aside : OnlyForTokens connection tokens) :
      CallTraffic connection call tokens none
  /-- The request of the call is the last thing that is sent. -/
  | once {call : AdminCall} {tokens : Traffic} {request : Request} {answer : Option Response}
      {reply : call.Reply} (aside : OnlyForTokens connection tokens)
      (requests : call.Requests connection request) (tells : call.Tells answer reply) :
      CallTraffic connection call (tokens ++ [⟨.send request, answer⟩]) (some reply)
  /-- A client is created, and looked up to learn its identifier. -/
  | again {realm : String} {record : ClientRecord} {tokens late : Traffic} {request : Request}
      {answer : Option Response} {found : Option (Except AdminError (Option ClientRecord))}
      {came : Option (Except AdminError String)} (aside : OnlyForTokens connection tokens)
      (requests : (AdminCall.createClient realm record).Requests connection request)
      (lookup : CallTraffic connection (.findClient realm (record.clientId.getD "")) late found)
      (fails : ∀ problem, found = some (.error problem) → ∃ other, came = some (.error other)) :
      CallTraffic connection (.createClient realm record)
        (tokens ++ ⟨.send request, answer⟩ :: late) came

theorem callTraffic_of_setback {call : AdminCall} {tokens : Traffic} (setback : Setback)
    (aside : OnlyForTokens connection tokens) :
    CallTraffic connection call tokens (reply? (.error setback)) := by
  cases setback with
  | failure problem => exact .unsent problem aside
  | breakdown => exact .brokenOff aside

/-! ## Lookups -/

section Lookups

variable {reading : Json.Reading α} {url : Url} {place : Except AdminError Url}

/-- What a lookup comes to, by the answer to its request. -/
inductive Looks (reading : Json.Reading α) (response : Response) : Option α → Prop where
  /-- Status 404 says that nothing is there. -/
  | absent (isAbsent : response.status = 404) : Looks reading response none
  /-- A success tells what is there. -/
  | present {value : α} (reads : Reads reading response) : Looks reading response (some value)

/-- What is exchanged for a lookup, and what it comes to. -/
inductive LookUpTraffic (connection : AdminConnection) (url : Url) (reading : Json.Reading α) :
    Traffic → Except Setback (Option α) → Prop where
  /-- The request of the lookup is never sent. -/
  | unsent {tokens : Traffic} (setback : Setback) (aside : OnlyForTokens connection tokens) :
      LookUpTraffic connection url reading tokens (.error setback)
  /-- The request is sent, and the lookup fails. -/
  | failed {tokens : Traffic} (token : String) (answer : Option Response) (problem : AdminError)
      (aside : OnlyForTokens connection tokens) :
      LookUpTraffic connection url reading
        (tokens ++ [⟨.send (authorized .get url token), answer⟩]) (.error (.failure problem))
  /-- The request is sent, and the answer tells what is looked up. -/
  | once {tokens : Traffic} (token : String) {response : Response} {found : Option α}
      (aside : OnlyForTokens connection tokens) (looks : Looks reading response found) :
      LookUpTraffic connection url reading
        (tokens ++ [⟨.send (authorized .get url token), some response⟩]) (.ok found)

theorem shows_lookUp (connection : AdminConnection) (url : Url) (reading : Json.Reading α) :
    Shows (lookUp connection url reading) (LookUpTraffic connection url reading) := by
  refine shows_sendAuthorized_bind ?_ ?_ ?_
  · exact fun tokens setback aside => .unsent setback aside
  · exact fun tokens token problem aside => .failed token none problem aside
  · intro tokens token response aside
    split
    · next isAbsent => exact shows_pure (.once token aside (.absent isAbsent))
    · have failed (problem : AdminError) : LookUpTraffic connection url reading
          (tokens ++ [⟨.send (authorized .get url token), some response⟩])
          (.error (.failure problem)) := .failed token _ problem aside
      refine shows_lift_bind (fun problem _ => failed problem) fun same succeeds => ?_
      obtain ⟨rfl, isSuccess⟩ := requireSuccess_eq_ok succeeds
      refine shows_lift_bind (fun problem _ => failed problem) fun found decoded => ?_
      exact shows_pure (.once token aside (.present ⟨isSuccess, found, decoded⟩))

theorem Looks.understood {response : Response} {found : Option α}
    (looks : Looks reading response found) : response.status = 404 ∨ Reads reading response := by
  cases looks with
  | absent isAbsent => exact .inl isAbsent
  | present reads => exact .inr reads

theorem Looks.absence {response : Response} (looks : Looks reading response none) :
    response.status = 404 := by
  cases looks with
  | absent isAbsent => exact isAbsent

/-- A call that looks something up and then says what it comes to. -/
theorem shows_lookUp_bind {call : AdminCall} {part : Exchange call.Answer}
    (next : Url → Option α → Exchange call.Answer)
    (isPart : part = liftM place >>= fun url => lookUp connection url reading >>= next url)
    (isPlace : place = resourceUrl connection (["admin", "realms"] ++ call.path))
    (isRequest : ∀ url token, call.request url token = authorized .get url token)
    (tells : ∀ url response found, Looks reading response found →
      Shows (next url found) fun late outcome => late = [] ∧
        ∃ reply, reply? outcome = some reply ∧ call.Tells (some response) reply) :
    Shows part fun traffic outcome => CallTraffic connection call traffic (reply? outcome) := by
  rw [isPart]
  refine shows_lift_bind (fun problem _ => .unsent problem onlyForTokens_nil) fun url there => ?_
  have requests (token : String) : call.Requests connection (authorized .get url token) :=
    ⟨url, token, isPlace ▸ there, (isRequest url token).symm⟩
  refine (shows_lookUp connection url reading).bind ?_ ?_
  · intro early setback shown
    cases shown with
    | unsent setback aside => exact callTraffic_of_setback setback aside
    | failed token answer problem aside =>
        exact .once aside (requests token) (call.tells_error answer problem)
  · intro early found shown
    cases shown with
    | once token aside looks =>
        refine (tells url _ found looks).mono ?_
        rintro late outcome ⟨rfl, reply, isReply, told⟩
        rw [List.append_nil, isReply]
        exact .once aside (requests token) told

end Lookups

/-! ## Changes -/

section Changes

variable {url : Url} {method : Method} {value : Json}
  {goal : Traffic → Except Setback α → Prop}

/-- A value is sent at most once, and its answer is a success if anything comes after it. -/
theorem shows_sendJson_bind {next : Response → Exchange α}
    (unsent : ∀ tokens setback, OnlyForTokens connection tokens → goal tokens (.error setback))
    (failed : ∀ tokens token answer problem, OnlyForTokens connection tokens →
      goal (tokens ++ [⟨.send { authorized method url token with body := .json value }, answer⟩])
        (.error (.failure problem)))
    (goesOn : ∀ tokens token response, OnlyForTokens connection tokens →
      Shows (next response) fun late outcome =>
        goal (tokens ++ ⟨.send { authorized method url token with body := .json value },
          some response⟩ :: late) outcome) :
    Shows (sendJson connection method url value >>= next) goal := by
  unfold sendJson
  rw [bind_assoc]
  refine shows_sendAuthorized_bind unsent ?_ ?_
  · exact fun tokens token problem aside => failed tokens token none problem aside
  · intro tokens token response aside
    refine shows_lift_bind ?_ fun same succeeds => ?_
    · exact fun problem _ => failed tokens token _ problem aside
    · obtain ⟨rfl, -⟩ := requireSuccess_eq_ok succeeds
      exact goesOn tokens token same aside

/-- A call that sends a value and passes over the answer. -/
theorem shows_change {place : Except AdminError Url}
    {goal : Traffic → Except Setback Unit → Prop}
    (unsent : ∀ tokens setback, OnlyForTokens connection tokens → goal tokens (.error setback))
    (sent : ∀ tokens url token answer outcome reply, OnlyForTokens connection tokens →
      place = .ok url → reply? outcome = some reply →
      goal (tokens ++ [⟨.send { authorized method url token with body := .json value }, answer⟩])
        outcome) :
    Shows (liftM place >>= fun url => change connection method url value) goal := by
  refine shows_lift_bind (fun problem _ => unsent [] _ onlyForTokens_nil) fun url there => ?_
  refine shows_sendJson_bind unsent ?_ ?_
  · exact fun tokens token answer problem aside => sent tokens url token answer _ _ aside there rfl
  · exact fun tokens token response aside =>
      shows_pure (sent tokens url token _ (.ok ()) _ aside there rfl)

end Changes

/-! ## Clients -/

/-- Where no client has the identifier, the answer lists others. -/
theorem listsOthers_of_find? {response : Response} {listed : List ClientRecord} {clientId : String}
    (isSuccess : 200 ≤ response.status ∧ response.status < 300)
    (decoded : decodeBody (Json.Reading.list ClientRecord.read?) response = .ok listed)
    (nowhere : listed.find? (fun record => record.clientId == some clientId) = none) :
    ListsOthers clientId response := by
  obtain ⟨isComplete, written, isWritten, isListed⟩ := decodeBody_eq_ok_iff.1 decoded
  obtain ⟨items, rfl, each⟩ := Json.Reading.list_eq_some isListed
  refine ⟨isSuccess, isComplete, items, isWritten, fun item member => ?_⟩
  obtain ⟨record, inListed, isRecord⟩ := each item member
  have other : record.clientId ≠ some clientId := by
    simpa using List.find?_eq_none.1 nowhere record inListed
  exact ⟨fun stands => other (clientId_of_read isRecord stands), record, isRecord, other⟩

theorem shows_findClient (realm clientId : String) :
    Shows (findClient connection realm clientId) fun traffic outcome =>
      CallTraffic connection (.findClient realm clientId) traffic (reply? outcome) := by
  refine shows_lift_bind (fun problem _ => .unsent problem onlyForTokens_nil) fun url there => ?_
  have requests (token : String) : (AdminCall.findClient realm clientId).Requests connection
      ((authorized .get url token).withQuery ("clientId", clientId)) := ⟨url, token, there, rfl⟩
  refine shows_sendAuthorized_bind ?_ ?_ ?_
  · exact fun tokens setback aside => callTraffic_of_setback setback aside
  · exact fun tokens token problem aside =>
      .once aside (requests token) (AdminCall.tells_error _ _ problem)
  · intro tokens token response aside
    refine shows_lift_bind ?_ fun same succeeds => ?_
    · exact fun problem _ => .once aside (requests token) (AdminCall.tells_error _ _ problem)
    · obtain ⟨rfl, isSuccess⟩ := requireSuccess_eq_ok succeeds
      refine shows_lift_bind ?_ fun listed decoded => ?_
      · exact fun problem _ => .once aside (requests token) (AdminCall.tells_error _ _ problem)
      · refine shows_pure (.once aside (requests token) ⟨fun _ => ?_, fun nothing => ?_⟩)
        · exact .inl ⟨same, rfl, isSuccess, listed, decoded⟩
        · exact ⟨same, rfl, listsOthers_of_find? isSuccess decoded (Except.ok.inj nothing)⟩

theorem shows_createClient (realm : String) (record : ClientRecord) :
    Shows (createClient connection realm record) fun traffic outcome =>
      CallTraffic connection (.createClient realm record) traffic (reply? outcome) := by
  refine shows_lift_bind (fun problem _ => .unsent problem onlyForTokens_nil) fun url there => ?_
  have requests (token : String) : (AdminCall.createClient realm record).Requests connection
      { authorized .post url token with body := .json record.toJson } := ⟨url, token, there, rfl⟩
  have tells (answer : Option Response) (reply : Except AdminError String) :
      (AdminCall.createClient realm record).Tells answer reply := ⟨nofun, nofun⟩
  refine shows_sendJson_bind ?_ ?_ ?_
  · exact fun tokens setback aside => callTraffic_of_setback setback aside
  · exact fun tokens token answer problem aside => .once aside (requests token) (tells _ _)
  · intro tokens token response aside
    split
    · exact shows_pure (.once aside (requests token) (tells _ _))
    · refine (shows_findClient realm (record.clientId.getD "")).bind ?_ ?_
      · intro late setback lookup
        refine .again aside (requests token) lookup fun problem failed => ?_
        cases setback with
        | failure problem => exact ⟨problem, rfl⟩
        | breakdown => cases failed
      · intro late found lookup
        split
        · refine shows_pure ?_
          rw [List.append_nil]
          exact .again aside (requests token) lookup nofun
        · refine shows_fail ?_
          rw [List.append_nil]
          exact .again aside (requests token) lookup nofun

/-! ## All calls -/

/-- **Making a call shows the traffic of the call.** -/
theorem shows_perform (connection : AdminConnection) (call : AdminCall) :
    Shows (perform connection call) fun traffic outcome =>
      CallTraffic connection call traffic (reply? outcome) := by
  cases call with
  | getRealm realm | getRealmRole realm role | getClientRole realm client role =>
      refine shows_lookUp_bind (fun _ => pure) (by simp only [bind_pure]; rfl) rfl
        (fun _ _ => rfl) fun url response found looks => ?_
      refine shows_pure ⟨rfl, .ok found, rfl, fun _ => .inl ⟨response, rfl, looks.understood⟩, ?_⟩
      rintro ⟨⟩
      exact ⟨response, rfl, looks.absence⟩
  | getClientSecret realm client | getRealmRoleComposites realm role client =>
      refine shows_lookUp_bind _ rfl rfl (fun _ _ => rfl) fun url response found looks => ?_
      exact shows_pure ⟨rfl, _, rfl, fun _ => .inl ⟨response, rfl, looks.understood⟩, nofun⟩
  | getServiceAccountUser realm client =>
      refine shows_lookUp_bind _ rfl rfl (fun _ _ => rfl) fun url response found looks => ?_
      cases looks with
      | absent isAbsent => exact shows_fail ⟨rfl, _, rfl, AdminCall.tells_error _ _ _⟩
      | present reads =>
          exact shows_pure ⟨rfl, _, rfl, fun _ => .inl ⟨response, rfl, reads⟩, nofun⟩
  | findClient realm clientId => exact shows_findClient realm clientId
  | createClient realm record => exact shows_createClient realm record
  | createRealm record | updateRealm realm record | updateClient realm client record
  | updateClientSecret realm client secret | createRealmRole realm record
  | updateRealmRole realm role record | addRealmRoleComposites realm role roles
  | createClientRole realm client record | updateClientRole realm client role record
  | assignClientRoles realm user client roles =>
      refine shows_change (fun _ setback aside => callTraffic_of_setback setback aside) ?_
      intro tokens url token answer outcome reply aside there isReply
      rw [isReply]
      exact .once aside ⟨url, token, there, rfl⟩ ⟨nofun, nofun⟩

/-- What settles a call is its traffic. -/
theorem callTraffic_of_course {call : AdminCall} {traffic : Traffic} {came : Option call.Reply}
    {token last : Option Token}
    (course : Course (settle connection call token) traffic (came, last)) :
    CallTraffic connection call traffic came := by
  obtain ⟨early, ⟨outcome, after⟩, late, performs, ends, rfl⟩ := Dialogue.course_of_andThen course
  cases ends
  rw [List.append_nil]
  exact shows_perform connection call token early outcome after performs

end Admin

end RealmConvergence
