import RealmConvergence.Text.Shown

/-!
# Connections to an identity service

Where the service is, and as whom to speak to it. Shown connections keep the name of the
administrator and leave out passwords and secrets.
-/

set_option autoImplicit false

namespace RealmConvergence

/-- How the administrator proves who it is. -/
inductive AdminCredentials where
  /-- By name and password. -/
  | password (username password : String)
  /-- By the secret of a client of its own. -/
  | clientSecret (secret : String)
deriving DecidableEq

/-- What is needed to speak to an identity service. -/
structure AdminConnection where
  /-- The address below which all resources are. -/
  baseUrl : String
  /-- The realm of the administrator. -/
  adminRealm : String
  /-- The client through which the administrator signs in. -/
  clientId : String
  /-- How the administrator proves who it is. -/
  credentials : AdminCredentials
deriving DecidableEq

/-- The shown form of a sign-in by password. -/
def AdminCredentials.shownPassword (username : String) : Shown :=
  .record "Password" [("username", .text username), ("password", .redacted)] false

/-- The shown form of credentials within a connection. -/
def AdminCredentials.shown : AdminCredentials → Shown
  | .password username _ => shownPassword username
  | .clientSecret _ => .record "ClientCredentials" [("client_secret", .redacted)] false

/-- The shown form of a connection. -/
def AdminConnection.shown (connection : AdminConnection) : Shown :=
  .record "AdminConnection" [
    ("base_url", .text connection.baseUrl),
    ("admin_realm", .text connection.adminRealm),
    ("client_id", .text connection.clientId),
    ("credentials", connection.credentials.shown)] false

end RealmConvergence
