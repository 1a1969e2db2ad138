import RealmConvergence.Admin.Call
import RealmConvergence.Admin.Connection
import RealmConvergence.Http.Message
import RealmConvergence.Json.Reading
import RealmConvergence.Text.Blank
import RealmConvergence.Text.Bytes

/-!
# Sessions with an identity service

A session turns calls into requests. Every request below the administration address carries a token;
a token is fetched when there is none, or when the one at hand expires within half a minute. A call
is tried once.

A lookup that is answered with status 404 found nothing. Every other status that is no success is a
failure, and so is an answer that cannot be understood. Of an answer only what is asked for is read.

The clock has an end. A time beyond it cannot be told, and breaks everything off.
-/

set_option autoImplicit false

namespace RealmConvergence.Admin

open Http (Wire Request Response Url Method)

/-! ## Parts of a session -/

/-- A token, and when it expires, in milliseconds. -/
structure Token where
  /-- The token. -/
  text : String
  /-- When it expires. -/
  expires : Nat
deriving DecidableEq

/-- Why a part of a session comes to no value. -/
inductive Setback where
  /-- The part fails. -/
  | failure (problem : AdminError)
  /-- Everything is broken off. -/
  | breakdown

/-- A part of a session: it may fail or be broken off, and keeps the token at hand also then. -/
abbrev Exchange :=
  ExceptT Setback (StateT (Option Token) (Dialogue Wire Wire.Reply))

instance : MonadLift (Except AdminError) Exchange where
  monadLift outcome := ExceptT.mk (pure (outcome.mapError .failure))

/-- The part fails. -/
def fail {α : Type} (problem : AdminError) : Exchange α :=
  throw (.failure problem)

/-- Ask the wire. -/
def ask (question : Wire) : Exchange question.Reply :=
  ExceptT.lift (StateT.lift (Dialogue.question question))

/-! ## Addresses -/

/-- The address of a resource below the base address. -/
def resourceUrl (connection : AdminConnection) (path : List String) : Except AdminError Url :=
  match Url.parse connection.baseUrl with
  | .error problem =>
    .error (.config s!"invalid base url '{connection.baseUrl}': {problem.message}")
  | .ok base =>
    match base.extend? path with
    | some url => .ok url
    | none => .error (.config s!"base url '{connection.baseUrl}' cannot carry a path")

/-- The address of a resource of a realm. -/
def realmUrl (connection : AdminConnection) (realm : String) (path : List String) :
    Except AdminError Url :=
  resourceUrl connection (["admin", "realms", realm] ++ path)

/-- The address at which tokens are fetched. -/
def tokenUrl (connection : AdminConnection) : Except AdminError Url :=
  resourceUrl connection ["realms", connection.adminRealm, "protocol", "openid-connect", "token"]

/-! ## Sending -/

/-- Send a request. -/
def send (request : Request) : Exchange Response := do
  if !request.authorization.all Http.isHeaderText then fail (.transport "builder error")
  if !Http.isReachable request.url then
    fail (.transport s!"builder error for url ({request.url.text})")
  match ← ask (.send request) with
  | some response => pure response
  | none => fail (.transport s!"error sending request for url ({request.url.text})")

/-- How many characters of a failed answer are repeated. -/
def repeatedCharacters : Nat := 512

/-- The beginning of a failed answer. An answer that was cut off counts as empty. -/
def excerpt (response : Response) : String :=
  let body := if response.isComplete then Text.ofBytes response.body else []
  let trimmed := Text.trimChars body
  if trimmed.length ≤ repeatedCharacters then String.ofList trimmed
  else String.ofList (trimmed.take repeatedCharacters ++ ['…'])

/-- Refuse an answer that is no success. -/
def requireSuccess (url : Url) (response : Response) : Except AdminError Response :=
  if 200 ≤ response.status ∧ response.status < 300 then .ok response
  else
    let body := excerpt response
    let message := if body.isEmpty then url.pathText else s!"{url.pathText}: {body}"
    if response.status = 401 ∨ response.status = 403 then .error (.auth response.status message)
    else if response.status = 404 then .error (.notFound message)
    else if response.status = 409 then .error (.conflict message)
    else .error (.api response.status message)

/-- The words for an answer that cannot be understood. -/
def undecodable : String := "error decoding response body"

/-- Read a JSON answer. -/
def decodeBody {α : Type} (reading : Json.Reading α) (response : Response) : Except AdminError α :=
  let decoded : Option α :=
    if response.isComplete then Json.Written.ofBytes? response.body >>= reading else none
  match decoded with
  | some value => .ok value
  | none => .error (.decode undecodable)

/-! ## Times -/

/-- The end of the clock, in milliseconds. -/
def clockEnd : Nat := 1000 * Nat.pow 2 63

/-- The words for a time beyond the end of the clock. -/
def beyondClock : String := "overflow when adding duration to instant"

/-- The time after a number of seconds. -/
def later (now seconds : Nat) : Exchange Nat :=
  if now + 1000 * seconds < clockEnd then pure (now + 1000 * seconds) else throw .breakdown

/-! ## Tokens -/

/-- How long before its end a token is no longer used, in seconds. -/
def tokenMargin : Nat := 30

/-- How long a token lives that does not say so, in seconds. -/
def defaultLifetime : Nat := 60

/-- What is sent to get a token. -/
def tokenForm (connection : AdminConnection) : List (String × String) :=
  match connection.credentials with
  | .password username password =>
    [("grant_type", "password"), ("client_id", connection.clientId), ("username", username),
      ("password", password)]
  | .clientSecret secret =>
    [("grant_type", "client_credentials"), ("client_id", connection.clientId),
      ("client_secret", secret)]

/-- The fields of a token answer. -/
def tokenShape : Json.Shape :=
  ⟨"TokenResponse", [.required "access_token" Json.Decoder.text,
    .defaulted "expires_in" (Json.Decoder.optional Json.Decoder.natural)], false⟩

/-- The token of an answer and its lifetime in seconds. -/
def decodeToken : Json.Decoder (String × Nat) := fun found => do
  let present ← tokenShape.present found
  let text ← Json.needed present "access_token" Json.Decoder.text
  let lifetime ← Json.withDefault present "expires_in"
    (Json.Decoder.optional Json.Decoder.natural) none
  pure (text, lifetime.getD defaultLifetime)

/-- Read a token answer. -/
def tokenReading : Json.Reading (String × Nat) := Json.Reading.record tokenShape decodeToken

/-- The token that an answer gives. -/
def readToken (url : Url) (response : Response) : Except AdminError (String × Nat) :=
  if response.status = 400 then
    .error (.auth 400 s!"token request rejected: {excerpt response}")
  else
    match requireSuccess url response with
    | .error problem => .error problem
    | .ok response =>
      match decodeBody tokenReading response with
      | .ok token => .ok token
      | .error _ => .error (.decode s!"token response: {undecodable}")

/-- Fetch a token. -/
def fetchToken (connection : AdminConnection) : Exchange Token := do
  let url ← tokenUrl connection
  let request := Request.to .post url
  let response ← send { request with body := .form (tokenForm connection) }
  let (text, lifetime) ← readToken request.url response
  let now : Nat ← ask .clock
  let expires ← later now lifetime
  pure ⟨text, expires⟩

/-- The token at hand, or a new one. -/
def accessToken (connection : AdminConnection) : Exchange String := do
  let fetch : Exchange String := do
    let token ← fetchToken connection
    set (some token)
    pure token.text
  match ← get with
  | none => fetch
  | some token =>
    let now : Nat ← ask .clock
    let margin ← later now tokenMargin
    if margin < token.expires then pure token.text else fetch

/-! ## Requests of the administration -/

/-- Send a request with a token. -/
def sendAuthorized (connection : AdminConnection) (method : Method) (url : Url)
    (complete : Request → Request) : Exchange Response := do
  let token ← accessToken connection
  let request := Request.to method url
  send (complete { request with authorization := request.authorization ++ [s!"Bearer {token}"] })

/-- Look something up; status 404 means that it is absent. -/
def lookUp {α : Type} (connection : AdminConnection) (url : Url) (reading : Json.Reading α) :
    Exchange (Option α) := do
  let response ← sendAuthorized connection .get url id
  if response.status = 404 then pure none
  else
    let response ← requireSuccess url response
    let found ← decodeBody reading response
    pure (some found)

/-- Send a JSON value. -/
def sendJson (connection : AdminConnection) (method : Method) (url : Url) (value : Json) :
    Exchange Response := do
  let response ← sendAuthorized connection method url fun request =>
    { request with body := .json value }
  requireSuccess url response

/-- Send a JSON value and pass over the answer. -/
def change (connection : AdminConnection) (method : Method) (url : Url) (value : Json) :
    Exchange Unit := do
  let _ ← sendJson connection method url value

/-- The identifier at the end of the address of a new client. -/
def idOfLocation? (location : String) : Option String :=
  let trimmed := (location.toList.reverse.dropWhile (· == '/')).reverse
  let last := (trimmed.reverse.takeWhile (· ≠ '/')).reverse
  if last.isEmpty then none else some (String.ofList last)

/-- Look up a client. The service may list others; only the exact identifier counts. -/
def findClient (connection : AdminConnection) (realm clientId : String) :
    Exchange (Option ClientRecord) := do
  let url ← realmUrl connection realm ["clients"]
  let response ← sendAuthorized connection .get url fun request =>
    request.withQuery ("clientId", clientId)
  let response ← requireSuccess url response
  let listed ← decodeBody (Json.Reading.list ClientRecord.read?) response
  pure (listed.find? fun record => record.clientId == some clientId)

/-- Create a client and learn its identifier, from the answer or by a lookup. -/
def createClient (connection : AdminConnection) (realm : String) (record : ClientRecord) :
    Exchange String := do
  let url ← realmUrl connection realm ["clients"]
  let response ← sendJson connection .post url record.toJson
  match response.location.bind idOfLocation? with
  | some client => pure client
  | none =>
    let clientId := record.clientId.getD ""
    let found ← findClient connection realm clientId
    match found.bind (·.id) with
    | some client => pure client
    | none =>
      fail (.decode s!"created client '{clientId}' but could not determine its id")

/-- Roles as they are sent. -/
def rolesJson (roles : List RoleRecord) : Json := .array (roles.map RoleRecord.toJson)

/-- Make a call. -/
def perform (connection : AdminConnection) : (call : AdminCall) → Exchange call.Answer
  | .getRealm realm => do lookUp connection (← realmUrl connection realm []) RealmRecord.read?
  | .createRealm record => do
    change connection .post (← resourceUrl connection ["admin", "realms"]) record.toJson
  | .updateRealm realm record => do
    change connection .put (← realmUrl connection realm []) record.toJson
  | .findClient realm clientId => findClient connection realm clientId
  | .createClient realm record => createClient connection realm record
  | .updateClient realm client record => do
    change connection .put (← realmUrl connection realm ["clients", client]) record.toJson
  | .getClientSecret realm client => do
    let found ← lookUp connection (← realmUrl connection realm ["clients", client, "client-secret"])
      CredentialRecord.read?
    pure (found.bind (·.value))
  | .updateClientSecret realm client secret => do
    change connection .put (← realmUrl connection realm ["clients", client])
      { secret := some secret : ClientRecord }.toJson
  | .getServiceAccountUser realm client => do
    let url ← realmUrl connection realm ["clients", client, "service-account-user"]
    match ← lookUp connection url UserRecord.read? with
    | some user => pure user
    | none => fail (.notFound url.pathText)
  | .getRealmRole realm role => do
    lookUp connection (← realmUrl connection realm ["roles", role]) RoleRecord.read?
  | .createRealmRole realm record => do
    change connection .post (← realmUrl connection realm ["roles"]) record.toJson
  | .updateRealmRole realm role record => do
    change connection .put (← realmUrl connection realm ["roles", role]) record.toJson
  | .getRealmRoleComposites realm role client => do
    let url ← realmUrl connection realm ["roles", role, "composites", "clients", client]
    let found ← lookUp connection url (Json.Reading.list RoleRecord.read?)
    pure (found.getD [])
  | .addRealmRoleComposites realm role added => do
    change connection .post (← realmUrl connection realm ["roles", role, "composites"])
      (rolesJson added)
  | .getClientRole realm client role => do
    lookUp connection (← realmUrl connection realm ["clients", client, "roles", role])
      RoleRecord.read?
  | .createClientRole realm client record => do
    change connection .post (← realmUrl connection realm ["clients", client, "roles"]) record.toJson
  | .updateClientRole realm client role record => do
    change connection .put (← realmUrl connection realm ["clients", client, "roles", role])
      record.toJson
  | .assignClientRoles realm user client granted => do
    change connection .post
      (← realmUrl connection realm ["users", user, "role-mappings", "clients", client])
      (rolesJson granted)

/-- What a call comes back with, unless everything is broken off. -/
def reply? {α : Type} : Except Setback α → Option (Except AdminError α)
  | .ok value => some (.ok value)
  | .error (.failure problem) => some (.error problem)
  | .error .breakdown => none

/-- The reply to a call, unless everything is broken off, and the token at hand afterwards. -/
def settle (connection : AdminConnection) (call : AdminCall) (token : Option Token) :
    Dialogue Wire Wire.Reply (Option call.Reply × Option Token) :=
  ((perform connection call).run.run token).andThen fun came => .conclude (reply? came.1, came.2)

/-- A talk with the service over the wire, and the token at hand afterwards. -/
def overWire {α : Type} (connection : AdminConnection) (talk : Talk α) (token : Option Token) :
    Dialogue Wire Wire.Reply (Option α × Option Token) :=
  talk.through (settle connection) token

/-- The shown form of a session: its connection, and no token. -/
def shownSession (connection : AdminConnection) : Shown :=
  .record "KeycloakAdminClient" [("conn", connection.shown)] true

end RealmConvergence.Admin
