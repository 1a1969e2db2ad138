import RealmConvergence.Dialogue
import RealmConvergence.Http.Form
import RealmConvergence.Http.Url
import RealmConvergence.Json.Compact
import RealmConvergence.Text.Bytes

/-!
# Requests and responses

What goes over the wire, and the dialogue with it: a request is sent and answered, or its answer is
lost; and the time can be read. A name and a password in an address are not sent as a part of it but
as a proof of who asks.
-/

set_option autoImplicit false

namespace RealmConvergence.Http

/-- What a request does. -/
inductive Method where
  | get
  | post
  | put
deriving DecidableEq

/-- The name of a method. -/
def Method.name : Method → String
  | .get => "GET"
  | .post => "POST"
  | .put => "PUT"

/-- What a request carries. -/
inductive Body where
  /-- Nothing. -/
  | empty
  /-- A JSON value. -/
  | json (value : Json)
  /-- Named values. -/
  | form (fields : List (String × String))

/-- The type that a request gives of its body. -/
def Body.contentType? : Body → Option String
  | .empty => none
  | .json _ => some "application/json"
  | .form _ => some "application/x-www-form-urlencoded"

/-- A request. -/
structure Request where
  /-- What the request does. -/
  method : Method
  /-- The address, without a user. -/
  url : Url
  /-- Proofs of who asks, the first of which counts. -/
  authorization : List String := []
  /-- What the request carries. -/
  body : Body := .empty

/-- A response. -/
structure Response where
  /-- The three digits that say how it went. -/
  status : Nat
  /-- Where something new can be found. -/
  location : Option String := none
  /-- What the response carries. -/
  body : List UInt8 := []
  /-- Whether the body came to its announced end. -/
  isComplete : Bool := true
deriving DecidableEq

/-- What is asked of the wire. -/
inductive Wire where
  /-- Send a request. -/
  | send (request : Request)
  /-- Read the time. -/
  | clock

/-- What the wire replies: a response or nothing, or the time in milliseconds. -/
@[reducible] def Wire.Reply : Wire → Type
  | .send _ => Option Response
  | .clock => Nat

/-! ## Proofs of who asks -/

/-- A digit of base 64. -/
def base64Digit (value : Nat) : Char :=
  if value < 26 then Char.ofNat ('A'.toNat + value)
  else if value < 52 then Char.ofNat ('a'.toNat + (value - 26))
  else if value < 62 then Char.ofNat ('0'.toNat + (value - 52))
  else if value = 62 then '+' else '/'

/-- Bytes in digits of base 64. -/
def base64 : List UInt8 → List Char
  | [] => []
  | [first] =>
    let value := first.toNat * 16
    [base64Digit (value / 64), base64Digit (value % 64), '=', '=']
  | [first, second] =>
    let value := (first.toNat * 256 + second.toNat) * 4
    [base64Digit (value / 4096), base64Digit (value / 64 % 64), base64Digit (value % 64), '=']
  | first :: second :: third :: rest =>
    let value := (first.toNat * 256 + second.toNat) * 256 + third.toNat
    base64Digit (value / 262144) :: base64Digit (value / 4096 % 64) ::
      base64Digit (value / 64 % 64) :: base64Digit (value % 64) :: base64 rest

/-- The user of an address as a proof, and the address without it. -/
def withoutUser (url : Url) : List String × Url :=
  match url.authority with
  | none => ([], url)
  | some authority =>
    let decoded (text : String) : Option String :=
      Text.ofBytes? (Percent.decode text.toList)
    let password := authority.password.bind decoded
    match decoded authority.user with
    | none => ([], url)
    | some user =>
      if user.isEmpty && password.isNone then ([], url)
      else
        let pair := user ++ ":" ++ password.getD ""
        (["Basic " ++ String.ofList (base64 (pair.toList.flatMap String.utf8EncodeChar))],
          { url with authority := some { authority with user := "", password := none } })

/-- A request to an address. -/
def Request.to (method : Method) (url : Url) : Request :=
  let (authorization, url) := withoutUser url
  { method, url, authorization }

/-- The request with a further named value in its query. -/
def Request.withQuery (request : Request) (field : String × String) : Request :=
  let added := Form.encode [field]
  let query := match request.url.query with
    | none => added
    | some held => if held.isEmpty then added else held ++ "&" ++ added
  { request with url := { request.url with query := some query } }

/-- Whether a text may stand in the head of a request: it has no control character but the tab. -/
def isHeaderText (text : String) : Bool :=
  text.toList.all fun character =>
    character == '\t' || (0x20 ≤ character.toNat && character.toNat ≠ 0x7F)

/-- The greatest number of bytes in an address that a request is sent to. -/
def addressLimit : Nat := 65534

/-- Whether a request can be sent to an address at all. -/
def isReachable (url : Url) : Bool :=
  Url.isWeb url.scheme && url.text.utf8ByteSize ≤ addressLimit &&
    match url.authority with
    | some authority =>
      !authority.host.text.toList.any fun character =>
        ['"', '\x60', '\x7b', '\x7d'].contains character
    | none => false

end RealmConvergence.Http
