import RealmConvergence.Blueprint.Basic
import RealmConvergence.Text.Shown

/-!
# Shown blueprints

A blueprint can be shown on one line. Of a secret only its presence is seen.
-/

set_option autoImplicit false

namespace RealmConvergence

/-- A table of texts. -/
def Table.shown (table : Table String) : Shown :=
  .table (table.toList.map fun entry => (entry.1, .text entry.2))

/-- A set of names. -/
def NameSet.shown (names : NameSet) : Shown :=
  .set (names.toList.map .text)

/-- A secret that may be missing. -/
def Shown.ofSecret (secret : Option String) : Shown :=
  .ofOption (fun _ => .redacted) secret

namespace Blueprint

/-- The shown form of the realm's settings. -/
def Realm.shown (realm : Realm) : Shown :=
  .record "RealmBlueprint" [
    ("name", .text realm.name),
    ("enabled", .ofBool realm.enabled),
    ("attributes", realm.attributes.shown)] false

/-- The shown form of a client. -/
def Client.shown (client : Client) : Shown :=
  .record "ClientBlueprint" [
    ("client_id", .text client.clientId),
    ("protocol", .text client.protocol),
    ("public_client", .ofBool client.isPublic),
    ("service_accounts_enabled", .ofBool client.serviceAccount),
    ("redirect_uris", client.redirectUris.shown),
    ("web_origins", client.webOrigins.shown),
    ("attributes", client.attributes.shown),
    ("secret", .ofSecret client.secret)] false

/-- The shown form of a realm role. -/
def Role.shown (role : Role) : Shown :=
  .record "RoleBlueprint" [
    ("name", .text role.name),
    ("description", .ofOption .text role.description)] false

/-- The shown form of a client role. -/
def ClientRole.shown (role : ClientRole) : Shown :=
  .record "ClientRoleBlueprint" [
    ("client_id", .text role.clientId),
    ("name", .text role.name),
    ("description", .ofOption .text role.description)] false

/-- The shown form of a composite mapping. -/
def Composite.shown (mapping : Composite) : Shown :=
  .record "RoleCompositeMapping" [
    ("realm_role", .text mapping.realmRole),
    ("client_id", .text mapping.clientId),
    ("client_roles", mapping.clientRoles.shown)] false

/-- The shown form of a blueprint. -/
def shown (blueprint : Blueprint) : Shown :=
  .record "KeycloakBlueprint" [
    ("realm", blueprint.realm.shown),
    ("clients", .list (blueprint.clients.map Client.shown)),
    ("realm_roles", .list (blueprint.realmRoles.map Role.shown)),
    ("client_roles", .list (blueprint.clientRoles.map ClientRole.shown)),
    ("composites", .list (blueprint.composites.map Composite.shown))] false

end Blueprint

end RealmConvergence
