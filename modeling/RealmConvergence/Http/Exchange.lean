import RealmConvergence.Http.Message

/-!
# A wire that follows a script

The other side of the wire as a list of answers. Requests for tokens are answered from one list and
all others from a second one; where a list has ended, tokens are numbered and anything else is
absent. An answer may take its time, or be lost. The wire can also lead nowhere: then no request
arrives, and every answer is lost at once.
-/

set_option autoImplicit false

namespace RealmConvergence.Http

/-- An answer of a script. -/
structure ScriptedAnswer where
  /-- The response, or none where it is lost. -/
  response : Option Response
  /-- How long the answer takes, in milliseconds. -/
  delay : Nat := 0
deriving DecidableEq

/-- The other side of the wire. -/
structure ScriptedWire where
  /-- Whether requests arrive. -/
  isConnected : Bool := true
  /-- The answers to requests for tokens. -/
  tokens : List ScriptedAnswer := []
  /-- The answers to other requests. -/
  answers : List ScriptedAnswer := []
  /-- How many tokens have been asked for. -/
  tokenCount : Nat := 0
  /-- The time, in milliseconds. -/
  now : Nat := 0
  /-- The requests so far, in order. -/
  requests : List Request := []

namespace ScriptedWire

/-- How the path of a token address ends. -/
def tokenPathEnd : List Char := "/protocol/openid-connect/token".toList

/-- Whether a request asks for a token. -/
def asksForToken (request : Request) : Bool :=
  tokenPathEnd.isSuffixOf request.url.pathText.toList

/-- The token that is answered where the script has none. -/
def numberedToken (number : Nat) : ScriptedAnswer :=
  let value : Json :=
    .object [("access_token", .string s!"tok-{number}"), ("expires_in", .ofNat 300)]
  { response := some { status := 200, body := value.compact.toList.flatMap String.utf8EncodeChar } }

/-- What is answered where the script has nothing. -/
def absent : ScriptedAnswer := { response := some { status := 404 } }

/-- The answer to a request, and the wire afterwards. -/
def deliver (request : Request) (wire : ScriptedWire) : Option Response × ScriptedWire :=
  if !wire.isConnected then (none, wire)
  else
    let received := { wire with requests := wire.requests ++ [request] }
    if asksForToken request then
      let number := wire.tokenCount + 1
      let answer := wire.tokens.headD (numberedToken number)
      (answer.response, { received with
        tokens := wire.tokens.tail, tokenCount := number, now := wire.now + answer.delay })
    else
      let answer := wire.answers.headD absent
      (answer.response, { received with
        answers := wire.answers.tail, now := wire.now + answer.delay })

/-- What the wire replies, and the wire afterwards. -/
def respond : (question : Wire) → ScriptedWire → question.Reply × ScriptedWire
  | .send request, wire => wire.deliver request
  | .clock, wire => (wire.now, wire)

end ScriptedWire

end RealmConvergence.Http
