import RealmConvergence.Blueprint.Validation
import RealmConvergence.Json.Decoding
import RealmConvergence.Yaml.ToJson

/-!
# Errors of a configuration

What can be wrong with the layers of a configuration, with the document that they make up, or with
the environment that holds its secrets. An error is told as a chain of texts from the outside to the
inside. No text holds a value from the environment or a leaf that looks like a secret.
-/

set_option autoImplicit false

namespace RealmConvergence

/-- What the value of an environment variable is needed for. -/
inductive SecretPurpose where
  /-- The secret of the administrator's client. -/
  | adminClientSecret
  /-- The name of the administrator. -/
  | adminUsername
  /-- The password of the administrator. -/
  | adminPassword
  /-- The secret of a client of the blueprint. -/
  | clientSecret (client : String)
deriving DecidableEq

/-- The words for a purpose. -/
def SecretPurpose.message : SecretPurpose → String
  | .adminClientSecret => "admin client secret"
  | .adminUsername => "admin username"
  | .adminPassword => "admin password"
  | .clientSecret client => s!"secret of client '{client}'"

/-- Why there is no usable configuration. -/
inductive ConfigurationError where
  /-- A file cannot be read. -/
  | unreadableFile (path reason : String)
  /-- A layer is no YAML document. -/
  | invalidYaml (layer : Nat) (problem : Yaml.ReadError)
  /-- A layer is no JSON value. -/
  | unwritableKey (problem : Yaml.KeyError)
  /-- A leaf looks like a secret. -/
  | secretDetected (pointer : String)
  /-- Leaves are not used, and that is not allowed. -/
  | unusedKeys (pointers : List String)
  /-- A variable is missing from the environment, or is blank. -/
  | missingVariable (variableName : String) (purpose : SecretPurpose)
  /-- The document does not have the expected shape. -/
  | shape (problem : Json.DecodeError)
  /-- The document does not say how to connect. -/
  | missingKeycloak
  /-- The document gives no address. -/
  | emptyBaseUrl
  /-- The blueprint is not well-formed. -/
  | blueprint (violation : Blueprint.Violation)

namespace ConfigurationError

/-- How many unused keys an error lists. -/
def listedKeys : Nat := 12

/-- The words for an error, from the outside to the inside. -/
def chain : ConfigurationError → List String
  | .unreadableFile path reason => [s!"failed to read yaml path: {path}", reason]
  | .invalidYaml layer problem => [s!"invalid yaml (layer {layer})", problem.message]
  | .unwritableKey problem => ["yaml->json conversion failed", problem.message]
  | .secretDetected pointer => [s!"CONFIG_SECRET_DETECTED leaf={pointer} value=REDACTED"]
  | .unusedKeys pointers =>
    [s!"CONFIG_UNUSED_KEYS: {pointers.length} unused config leaf key(s): " ++
      Text.quotedList (pointers.take listedKeys)]
  | .missingVariable name purpose =>
    [s!"SECRETS_MISSING: required env var '{name}' ({purpose.message}) is not set or empty"]
  | .shape problem =>
    ["CONFIG_INVALID: bootstrap document does not match the expected shape", problem.message]
  | .missingKeycloak => ["CONFIG_INVALID: missing 'keycloak' section"]
  | .emptyBaseUrl => ["CONFIG_INVALID: keycloak.base_url must not be empty"]
  | .blueprint violation => [violation.message]

end ConfigurationError

end RealmConvergence
