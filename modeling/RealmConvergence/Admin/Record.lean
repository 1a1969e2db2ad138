import RealmConvergence.Json.Compact
import RealmConvergence.Json.Reading

/-!
# Records of remote resources

What an identity service says about a realm, a client, a role, a user or a credential, and what it
is sent. Every field may be absent: an answer leaves out what it does not tell, and an update
carries exactly the fields to be changed. On the wire a record is an object with one member for each
present field; members that a record does not know are passed over, unread where they stand in an
answer.
-/

set_option autoImplicit false

namespace RealmConvergence

/-- A realm. -/
structure RealmRecord where
  id : Option String := none
  realm : Option String := none
  enabled : Option Bool := none
  attributes : Option (Table String) := none
deriving DecidableEq

/-- A client. -/
structure ClientRecord where
  /-- The internal identifier that the service gave. -/
  id : Option String := none
  clientId : Option String := none
  enabled : Option Bool := none
  protocol : Option String := none
  publicClient : Option Bool := none
  serviceAccountsEnabled : Option Bool := none
  redirectUris : Option (List String) := none
  webOrigins : Option (List String) := none
  attributes : Option (Table String) := none
  secret : Option String := none
deriving DecidableEq

/-- A role of a realm or of a client. -/
structure RoleRecord where
  id : Option String := none
  name : Option String := none
  description : Option String := none
  composite : Option Bool := none
  clientRole : Option Bool := none
  /-- The realm, or the internal identifier of the client, that the role belongs to. -/
  containerId : Option String := none
deriving DecidableEq

/-- A user. -/
structure UserRecord where
  id : Option String := none
  username : Option String := none
deriving DecidableEq

/-- A credential of a client. -/
structure CredentialRecord where
  kind : Option String := none
  value : Option String := none
deriving DecidableEq

/-- The value of a realm's attribute. -/
def RealmRecord.attribute? (record : RealmRecord) (key : String) : Option String :=
  record.attributes.bind (·.get? key)

/-- The addresses to which a sign-in may return, without order; none where they are absent. -/
def ClientRecord.redirectUriSet (record : ClientRecord) : NameSet :=
  NameSet.ofList (record.redirectUris.getD [])

/-- The origins from which scripts may call, without order; none where they are absent. -/
def ClientRecord.webOriginSet (record : ClientRecord) : NameSet :=
  NameSet.ofList (record.webOrigins.getD [])

/-- A role to be created or described. -/
def RoleRecord.named (name : String) (description : Option String) : RoleRecord :=
  { name := some name, description := description }

/-- The name of a role, empty where it is absent. -/
def RoleRecord.nameText (record : RoleRecord) : String :=
  record.name.getD ""

/-! ## On the wire -/

/-- The member of a field, where the field is present. -/
def wireMember {α : Type} (name : String) (encode : α → Json) : Option α → List (String × Json)
  | none => []
  | some value => [(name, encode value)]

/-- A table of texts on the wire. -/
def Table.toJson (table : Table String) : Json :=
  .object (table.toList.map fun entry => (entry.1, .string entry.2))

/-- A list of texts on the wire. -/
def textsToJson (texts : List String) : Json :=
  .array (texts.map .string)

/-- The value of a field that may be null or missing. -/
def wireField {α : Type} (present : Entries Json) (name : String) (decoder : Json.Decoder α) :
    Except Json.DecodeError (Option α) :=
  Json.withDefault present name decoder.optional none

/-- The rule of a field that may be null or missing. -/
def wireRule {α : Type} (name : String) (decoder : Json.Decoder α) : Json.FieldRule :=
  .defaulted name decoder.optional

open Json.Decoder (text boolean texts list)

namespace RealmRecord

/-- The members of a realm. -/
def toJson (record : RealmRecord) : Json :=
  .object (wireMember "id" .string record.id ++
    wireMember "realm" .string record.realm ++
    wireMember "enabled" .bool record.enabled ++
    wireMember "attributes" Table.toJson record.attributes)

/-- The fields of a realm. -/
def shape : Json.Shape :=
  ⟨"RealmRepresentation", [wireRule "id" text, wireRule "realm" text, wireRule "enabled" boolean,
    wireRule "attributes" texts], false⟩

/-- Read a realm. -/
def decode : Json.Decoder RealmRecord := fun found => do
  let present ← shape.present found
  let id ← wireField present "id" text
  let realm ← wireField present "realm" text
  let enabled ← wireField present "enabled" boolean
  let attributes ← wireField present "attributes" texts
  pure { id, realm, enabled, attributes }

/-- Read a realm from an answer. -/
def read? : Json.Reading RealmRecord := Json.Reading.record shape decode

end RealmRecord

namespace ClientRecord

/-- The members of a client. -/
def toJson (record : ClientRecord) : Json :=
  .object (wireMember "id" .string record.id ++
    wireMember "clientId" .string record.clientId ++
    wireMember "enabled" .bool record.enabled ++
    wireMember "protocol" .string record.protocol ++
    wireMember "publicClient" .bool record.publicClient ++
    wireMember "serviceAccountsEnabled" .bool record.serviceAccountsEnabled ++
    wireMember "redirectUris" textsToJson record.redirectUris ++
    wireMember "webOrigins" textsToJson record.webOrigins ++
    wireMember "attributes" Table.toJson record.attributes ++
    wireMember "secret" .string record.secret)

/-- The fields of a client. -/
def shape : Json.Shape :=
  ⟨"ClientRepresentation", [wireRule "id" text, wireRule "clientId" text,
    wireRule "enabled" boolean, wireRule "protocol" text, wireRule "publicClient" boolean,
    wireRule "serviceAccountsEnabled" boolean, wireRule "redirectUris" (list text),
    wireRule "webOrigins" (list text), wireRule "attributes" texts, wireRule "secret" text], false⟩

/-- Read a client. -/
def decode : Json.Decoder ClientRecord := fun found => do
  let present ← shape.present found
  let id ← wireField present "id" text
  let clientId ← wireField present "clientId" text
  let enabled ← wireField present "enabled" boolean
  let protocol ← wireField present "protocol" text
  let publicClient ← wireField present "publicClient" boolean
  let serviceAccountsEnabled ← wireField present "serviceAccountsEnabled" boolean
  let redirectUris ← wireField present "redirectUris" (list text)
  let webOrigins ← wireField present "webOrigins" (list text)
  let attributes ← wireField present "attributes" texts
  let secret ← wireField present "secret" text
  pure { id, clientId, enabled, protocol, publicClient, serviceAccountsEnabled, redirectUris,
         webOrigins, attributes, secret }

/-- Read a client from an answer. -/
def read? : Json.Reading ClientRecord := Json.Reading.record shape decode

end ClientRecord

namespace RoleRecord

/-- The members of a role. -/
def toJson (record : RoleRecord) : Json :=
  .object (wireMember "id" .string record.id ++
    wireMember "name" .string record.name ++
    wireMember "description" .string record.description ++
    wireMember "composite" .bool record.composite ++
    wireMember "clientRole" .bool record.clientRole ++
    wireMember "containerId" .string record.containerId)

/-- The fields of a role. -/
def shape : Json.Shape :=
  ⟨"RoleRepresentation", [wireRule "id" text, wireRule "name" text, wireRule "description" text,
    wireRule "composite" boolean, wireRule "clientRole" boolean, wireRule "containerId" text],
    false⟩

/-- Read a role. -/
def decode : Json.Decoder RoleRecord := fun found => do
  let present ← shape.present found
  let id ← wireField present "id" text
  let name ← wireField present "name" text
  let description ← wireField present "description" text
  let composite ← wireField present "composite" boolean
  let clientRole ← wireField present "clientRole" boolean
  let containerId ← wireField present "containerId" text
  pure { id, name, description, composite, clientRole, containerId }

/-- Read a role from an answer. -/
def read? : Json.Reading RoleRecord := Json.Reading.record shape decode

end RoleRecord

namespace UserRecord

/-- The members of a user. -/
def toJson (record : UserRecord) : Json :=
  .object (wireMember "id" .string record.id ++ wireMember "username" .string record.username)

/-- The fields of a user. -/
def shape : Json.Shape :=
  ⟨"UserRepresentation", [wireRule "id" text, wireRule "username" text], false⟩

/-- Read a user. -/
def decode : Json.Decoder UserRecord := fun found => do
  let present ← shape.present found
  let id ← wireField present "id" text
  let username ← wireField present "username" text
  pure { id, username }

/-- Read a user from an answer. -/
def read? : Json.Reading UserRecord := Json.Reading.record shape decode

end UserRecord

namespace CredentialRecord

/-- The members of a credential. -/
def toJson (record : CredentialRecord) : Json :=
  .object (wireMember "type" .string record.kind ++ wireMember "value" .string record.value)

/-- The fields of a credential. -/
def shape : Json.Shape :=
  ⟨"CredentialRepresentation", [wireRule "type" text, wireRule "value" text], false⟩

/-- Read a credential. -/
def decode : Json.Decoder CredentialRecord := fun found => do
  let present ← shape.present found
  let kind ← wireField present "type" text
  let value ← wireField present "value" text
  pure { kind, value }

/-- Read a credential from an answer. -/
def read? : Json.Reading CredentialRecord := Json.Reading.record shape decode

end CredentialRecord

end RealmConvergence
