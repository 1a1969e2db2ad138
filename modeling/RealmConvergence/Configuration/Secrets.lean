import RealmConvergence.Admin.Connection
import RealmConvergence.Configuration.Error
import RealmConvergence.Json.Pointer
import RealmConvergence.Text.Blank

/-!
# Secrets from the environment

A configuration names environment variables; their values are the secrets. The administrator signs
in with a client secret if a variable for it is named, and with name and password otherwise, whose
variables have default names. A client of the blueprint has a secret if a variable for it is named.
A variable that is missing or blank is an error, and blank names count as absent.
-/

set_option autoImplicit false

namespace RealmConvergence.Configuration

/-- The values of environment variables. -/
abbrev Environment := String → Option String

/-- The variable of the administrator's name, where none is named. -/
def defaultUsernameVariable : String := "KCB_ADMIN_USERNAME"

/-- The variable of the administrator's password, where none is named. -/
def defaultPasswordVariable : String := "KCB_ADMIN_PASSWORD"

/-- The secrets of a run. -/
structure ResolvedSecrets where
  /-- How the administrator signs in. -/
  admin : AdminCredentials
  /-- The desired secrets of clients, by their public identifiers. -/
  clientSecrets : Table String
deriving DecidableEq

/-- The text at a path without the blanks around it, where it is not blank. -/
def nameAt? (value : Json) (path : Json.Path) : Option String :=
  ((value.at? path).bind Json.text?).bind fun text =>
    let trimmed := Text.trim text
    if trimmed.isEmpty then none else some trimmed

/-- The value of a variable that has to be there. -/
def requireVariable (environment : Environment) (name : String) (purpose : SecretPurpose) :
    Except ConfigurationError String :=
  match environment name with
  | some value =>
    if Text.allBlank value then .error (.missingVariable name purpose) else .ok value
  | none => .error (.missingVariable name purpose)

/-- How the administrator signs in. -/
def resolveAdmin (value : Json) (environment : Environment) :
    Except ConfigurationError AdminCredentials :=
  match nameAt? value ["keycloak", "credentials_env", "client_secret"] with
  | some name => do
    let secret ← requireVariable environment name .adminClientSecret
    pure (.clientSecret secret)
  | none => do
    let usernameVariable :=
      (nameAt? value ["keycloak", "credentials_env", "username"]).getD defaultUsernameVariable
    let passwordVariable :=
      (nameAt? value ["keycloak", "credentials_env", "password"]).getD defaultPasswordVariable
    let username ← requireVariable environment usernameVariable .adminUsername
    let password ← requireVariable environment passwordVariable .adminPassword
    pure (.password username password)

/-- The secrets of clients, the first of which stands at a position, written into those already
found. -/
def resolveClients (environment : Environment) (position : Nat) (found : Table String) :
    List Json → Except ConfigurationError (Table String)
  | [] => .ok found
  | client :: rest =>
    match nameAt? client ["secret_env"] with
    | none => resolveClients environment (position + 1) found rest
    | some name =>
      let clientId := (nameAt? client ["client_id"]).getD s!"#{position}"
      match requireVariable environment name (.clientSecret clientId) with
      | .error problem => .error problem
      | .ok secret => resolveClients environment (position + 1) (found.insert clientId secret) rest

/-- The secrets that a merged configuration asks for. -/
def resolveSecrets (value : Json) (environment : Environment) :
    Except ConfigurationError ResolvedSecrets := do
  let admin ← resolveAdmin value environment
  let clients := ((value.at? ["clients"]).bind Json.items?).getD []
  let clientSecrets ← resolveClients environment 0 ∅ clients
  pure { admin, clientSecrets }

/-! ## Shown form -/

/-- The shown form of the administrator's secret. -/
def shownAdmin : AdminCredentials → Shown
  | .password username _ => AdminCredentials.shownPassword username
  | .clientSecret _ => .wrapped "ClientSecret" (.word "<REDACTED>")

/-- The shown form of the secrets of a run: the names of clients, and no value. -/
def ResolvedSecrets.shown (secrets : ResolvedSecrets) : Shown :=
  .record "ResolvedSecrets" [
    ("admin", shownAdmin secrets.admin),
    ("client_secrets",
      .table (secrets.clientSecrets.names.map fun clientId => (clientId, .redacted)))] false

end RealmConvergence.Configuration
