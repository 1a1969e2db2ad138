import RealmConvergence.Admin.Record
import RealmConvergence.Blueprint.Shown

/-!
# Shown records

Records of remote resources on one line. Of a client's secret and of a credential's value only the
presence is seen.
-/

set_option autoImplicit false

namespace RealmConvergence

/-- The shown form of a realm. -/
def RealmRecord.shown (record : RealmRecord) : Shown :=
  .record "RealmRepresentation" [
    ("id", .ofOption .text record.id),
    ("realm", .ofOption .text record.realm),
    ("enabled", .ofOption .ofBool record.enabled),
    ("attributes", .ofOption Table.shown record.attributes)] false

/-- The shown form of a client. -/
def ClientRecord.shown (record : ClientRecord) : Shown :=
  .record "ClientRepresentation" [
    ("id", .ofOption .text record.id),
    ("client_id", .ofOption .text record.clientId),
    ("enabled", .ofOption .ofBool record.enabled),
    ("protocol", .ofOption .text record.protocol),
    ("public_client", .ofOption .ofBool record.publicClient),
    ("service_accounts_enabled", .ofOption .ofBool record.serviceAccountsEnabled),
    ("redirect_uris", .ofOption .ofTexts record.redirectUris),
    ("web_origins", .ofOption .ofTexts record.webOrigins),
    ("attributes", .ofOption Table.shown record.attributes),
    ("secret", .ofSecret record.secret)] false

/-- The shown form of a role. -/
def RoleRecord.shown (record : RoleRecord) : Shown :=
  .record "RoleRepresentation" [
    ("id", .ofOption .text record.id),
    ("name", .ofOption .text record.name),
    ("description", .ofOption .text record.description),
    ("composite", .ofOption .ofBool record.composite),
    ("client_role", .ofOption .ofBool record.clientRole),
    ("container_id", .ofOption .text record.containerId)] false

/-- The shown form of a user. -/
def UserRecord.shown (record : UserRecord) : Shown :=
  .record "UserRepresentation" [
    ("id", .ofOption .text record.id),
    ("username", .ofOption .text record.username)] false

/-- The shown form of a credential. -/
def CredentialRecord.shown (record : CredentialRecord) : Shown :=
  .record "CredentialRepresentation" [
    ("kind", .ofOption .text record.kind),
    ("value", .ofSecret record.value)] false

end RealmConvergence
