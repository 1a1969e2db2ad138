import RealmConvergence.Blueprint.Basic
import RealmConvergence.Configuration.Error

/-!
# The configuration document

The merged value is read into a typed document: how to connect, how to run, and the desired state of
the realm. Each section refuses names that it does not know; names that the document itself does not
know are left to the listing of unused keys.
-/

set_option autoImplicit false

namespace RealmConvergence.Configuration

open Json (Shape FieldRule Decoder)
open Json.Decoder (text boolean natural optional list nameSet texts)

/-- The names of the variables that hold the administrator's secrets. -/
structure CredentialVariables where
  /-- The variable of the administrator's name. -/
  username : Option String
  /-- The variable of the administrator's password. -/
  password : Option String
  /-- The variable of the secret of the administrator's client. -/
  clientSecret : Option String
deriving DecidableEq

/-- How to connect. -/
structure ConnectionSection where
  /-- The address of the service. -/
  baseUrl : String
  /-- The realm of the administrator. -/
  adminRealm : String := "master"
  /-- The client through which the administrator signs in. -/
  clientId : String := "admin-cli"
  /-- The names of the variables that hold the administrator's secrets. -/
  credentials : Option CredentialVariables := none
deriving DecidableEq

/-- How to run. -/
structure RunSettings where
  /-- Whether runs take place at all. -/
  enabled : Bool := true
  /-- Whether a realm that is marked as finished is gone through again. -/
  force : Bool := false
  /-- How many seconds a run may take. -/
  timeoutSeconds : Nat := 120
deriving DecidableEq

/-- A desired client and the variable of its secret. -/
structure ClientSection where
  /-- The desired client, without its secret. -/
  client : Blueprint.Client
  /-- The variable that holds the secret. -/
  secretVariable : Option String
deriving DecidableEq

/-- The typed document. -/
structure Document where
  /-- How to connect. -/
  connection : Option ConnectionSection
  /-- How to run. -/
  settings : RunSettings
  /-- The realm itself. -/
  realm : Blueprint.Realm
  /-- Clients. -/
  clients : List ClientSection
  /-- Roles of the realm. -/
  realmRoles : List Blueprint.Role
  /-- Roles of clients. -/
  clientRoles : List Blueprint.ClientRole
  /-- Client roles that realm roles bring with them. -/
  composites : List Blueprint.Composite
deriving DecidableEq

/-! ## Reading sections -/

namespace CredentialVariables

/-- The fields of the section. -/
def shape : Shape :=
  ⟨"CredentialsEnv", [.nullable "username" text, .nullable "password" text,
    .nullable "client_secret" text], true⟩

/-- Read the section. -/
def decode : Decoder CredentialVariables := fun found => do
  let present ← shape.present found
  let username ← Json.withDefault present "username" (optional text) none
  let password ← Json.withDefault present "password" (optional text) none
  let clientSecret ← Json.withDefault present "client_secret" (optional text) none
  pure { username, password, clientSecret }

end CredentialVariables

namespace ConnectionSection

/-- The fields of the section. -/
def shape : Shape :=
  ⟨"KeycloakSection", [.required "base_url" text, .defaulted "admin_realm" text,
    .defaulted "client_id" text,
    .defaulted "credentials_env" (optional CredentialVariables.decode)], true⟩

/-- Read the section. -/
def decode : Decoder ConnectionSection := fun found => do
  let present ← shape.present found
  let baseUrl ← Json.needed present "base_url" text
  let adminRealm ← Json.withDefault present "admin_realm" text "master"
  let clientId ← Json.withDefault present "client_id" text "admin-cli"
  let credentials ←
    Json.withDefault present "credentials_env" (optional CredentialVariables.decode) none
  pure { baseUrl, adminRealm, clientId, credentials }

end ConnectionSection

namespace RunSettings

/-- The fields of the section. -/
def shape : Shape :=
  ⟨"BootstrapSettings", [.defaulted "enabled" boolean, .defaulted "force" boolean,
    .defaulted "timeout_secs" natural], true⟩

/-- Read the section. -/
def decode : Decoder RunSettings := fun found => do
  let present ← shape.present found
  let enabled ← Json.withDefault present "enabled" boolean true
  let force ← Json.withDefault present "force" boolean false
  let timeoutSeconds ← Json.withDefault present "timeout_secs" natural 120
  pure { enabled, force, timeoutSeconds }

end RunSettings

/-- The fields of the section on the realm. -/
def realmShape : Shape :=
  ⟨"RealmSection", [.required "name" text, .defaulted "enabled" boolean,
    .defaulted "attributes" texts], true⟩

/-- Read the section on the realm. -/
def decodeRealm : Decoder Blueprint.Realm := fun found => do
  let present ← realmShape.present found
  let name ← Json.needed present "name" text
  let enabled ← Json.withDefault present "enabled" boolean true
  let attributes ← Json.withDefault present "attributes" texts ∅
  pure { name, enabled, attributes }

namespace ClientSection

/-- The fields of a section on a client. -/
def shape : Shape :=
  ⟨"ClientSection", [.required "client_id" text, .defaulted "protocol" text,
    .defaulted "public_client" boolean, .defaulted "service_accounts_enabled" boolean,
    .defaulted "redirect_uris" nameSet, .defaulted "web_origins" nameSet,
    .defaulted "attributes" texts, .defaulted "secret_env" (optional text)], true⟩

/-- Read a section on a client. -/
def decode : Decoder ClientSection := fun found => do
  let present ← shape.present found
  let clientId ← Json.needed present "client_id" text
  let protocol ← Json.withDefault present "protocol" text defaultProtocol
  let isPublic ← Json.withDefault present "public_client" boolean false
  let serviceAccount ← Json.withDefault present "service_accounts_enabled" boolean false
  let redirectUris ← Json.withDefault present "redirect_uris" nameSet ∅
  let webOrigins ← Json.withDefault present "web_origins" nameSet ∅
  let attributes ← Json.withDefault present "attributes" texts ∅
  let secretVariable ← Json.withDefault present "secret_env" (optional text) none
  pure {
    client := { clientId, protocol, isPublic, serviceAccount, redirectUris, webOrigins, attributes }
    secretVariable }

end ClientSection

/-- The fields of a section on a realm role. -/
def roleShape : Shape :=
  ⟨"RoleSection", [.required "name" text, .defaulted "description" (optional text)], true⟩

/-- Read a section on a realm role. -/
def decodeRole : Decoder Blueprint.Role := fun found => do
  let present ← roleShape.present found
  let name ← Json.needed present "name" text
  let description ← Json.withDefault present "description" (optional text) none
  pure { name, description }

/-- The fields of a section on a client role. -/
def clientRoleShape : Shape :=
  ⟨"ClientRoleSection", [.required "client_id" text, .required "name" text,
    .defaulted "description" (optional text)], true⟩

/-- Read a section on a client role. -/
def decodeClientRole : Decoder Blueprint.ClientRole := fun found => do
  let present ← clientRoleShape.present found
  let clientId ← Json.needed present "client_id" text
  let name ← Json.needed present "name" text
  let description ← Json.withDefault present "description" (optional text) none
  pure { clientId, name, description }

/-- The fields of a section on a composite mapping. -/
def compositeShape : Shape :=
  ⟨"CompositeSection", [.required "realm_role" text, .required "client_id" text,
    .required "client_roles" nameSet], true⟩

/-- Read a section on a composite mapping. -/
def decodeComposite : Decoder Blueprint.Composite := fun found => do
  let present ← compositeShape.present found
  let realmRole ← Json.needed present "realm_role" text
  let clientId ← Json.needed present "client_id" text
  let clientRoles ← Json.needed present "client_roles" nameSet
  pure { realmRole, clientId, clientRoles }

/-! ## Reading the document -/

namespace Document

/-- The sections of the document. -/
def shape : Shape :=
  ⟨"BootstrapDocument", [.nullable "keycloak" ConnectionSection.decode,
    .defaulted "bootstrap" RunSettings.decode, .required "realm" decodeRealm,
    .defaulted "clients" (list ClientSection.decode), .defaulted "realm_roles" (list decodeRole),
    .defaulted "client_roles" (list decodeClientRole),
    .defaulted "composites" (list decodeComposite)], false⟩

/-- Read the document. -/
def decode : Decoder Document := fun found => do
  let present ← shape.present found
  let connection ← Json.withDefault present "keycloak" (optional ConnectionSection.decode) none
  let settings ← Json.withDefault present "bootstrap" RunSettings.decode {}
  let realm ← Json.needed present "realm" decodeRealm
  let clients ← Json.withDefault present "clients" (list ClientSection.decode) []
  let realmRoles ← Json.withDefault present "realm_roles" (list decodeRole) []
  let clientRoles ← Json.withDefault present "client_roles" (list decodeClientRole) []
  let composites ← Json.withDefault present "composites" (list decodeComposite) []
  pure { connection, settings, realm, clients, realmRoles, clientRoles, composites }

/-- The document of a merged configuration. -/
def ofValue (value : Json) : Except ConfigurationError Document :=
  (decode value).mapError .shape

/-- The blueprint of a document; clients have the secrets found under their identifiers. -/
def blueprint (document : Document) (clientSecrets : Table String) : Blueprint :=
  { realm := document.realm
    clients := document.clients.map fun entry =>
      { entry.client with secret := clientSecrets.get? entry.client.clientId }
    realmRoles := document.realmRoles
    clientRoles := document.clientRoles
    composites := document.composites }

end Document

end RealmConvergence.Configuration
