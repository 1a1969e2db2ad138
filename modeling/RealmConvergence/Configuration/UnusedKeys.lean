import RealmConvergence.Configuration.Error
import RealmConvergence.Json.Pointer

/-!
# Unused keys

A leaf of the merged configuration is used if a place that the program reads leads to it, or above
it. Whatever else the configuration holds is a mistake of its author, most often a misspelt name,
and is listed by its pointer in byte order.
-/

set_option autoImplicit false

namespace RealmConvergence.Configuration

/-- The places that are read, each with all that is below it. -/
def consumedPointers : List String :=
  ["/keycloak/base_url", "/keycloak/admin_realm", "/keycloak/client_id",
    "/keycloak/credentials_env/username", "/keycloak/credentials_env/password",
    "/keycloak/credentials_env/client_secret", "/bootstrap/enabled", "/bootstrap/force",
    "/bootstrap/timeout_secs", "/realm", "/clients", "/realm_roles", "/client_roles",
    "/composites"]

/-- Whether one pointer is another or leads above it: `/a/b` covers `/a/b` and `/a/b/c`, never
`/a/bc`. -/
def covers (upper pointer : List Char) : Bool :=
  upper.isPrefixOf pointer &&
    match pointer.drop upper.length with
    | [] => true
    | next :: _ => next == '/'

/-- Whether a leaf is read. -/
def isConsumed (pointer : String) : Bool :=
  consumedPointers.any fun upper => covers upper.toList pointer.toList

/-- What happens when keys are unused. -/
inductive UnusedKeyPolicy where
  /-- They are listed. -/
  | warn
  /-- The configuration is refused. -/
  | fail
deriving DecidableEq

/-- The pointers of the leaves that are not read, in byte order, each once. -/
def unusedPointers (value : Json) : NameSet :=
  NameSet.ofList <|
    value.leafPointers.filter fun pointer => !isConsumed pointer

/-- The unused keys, or an error where the policy allows none. -/
def unusedKeys (value : Json) (policy : UnusedKeyPolicy) :
    Except ConfigurationError (List String) :=
  let unused := (unusedPointers value).toList
  if policy = .fail ∧ ¬unused.isEmpty then .error (.unusedKeys unused) else .ok unused

end RealmConvergence.Configuration
