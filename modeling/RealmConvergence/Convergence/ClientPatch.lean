import RealmConvergence.Admin.Record
import RealmConvergence.Blueprint.Basic

/-!
# Patches

What has to change about a resource that is there already. A patch carries the fields that differ
and no others. Attributes are compared under the desired keys alone; where one differs, the patch
carries the remote attributes with the desired ones written over them, so that nothing is lost with
a service that replaces all attributes.
-/

set_option autoImplicit false

namespace RealmConvergence.Convergence

/-- The desired keys whose value is absent or different. -/
def changedKeys (remote desired : Table String) : List String :=
  (desired.toList.filter fun entry => remote.get? entry.1 ≠ some entry.2).map Prod.fst

/-- The remote attributes overridden by the desired ones, where some desired one is missing. -/
def patchedAttributes (remote desired : Table String) : Option (Table String) :=
  if (changedKeys remote desired).isEmpty then none else some (remote.override desired)

/-- A desired value, where it differs from the one that is there. -/
def differing {α : Type} [DecidableEq α] (current desired : α) : Option α :=
  if current = desired then none else some desired

/-- A client as it is created. -/
def newClient (desired : Blueprint.Client) : ClientRecord :=
  { clientId := some desired.clientId
    enabled := some true
    protocol := some desired.protocol
    publicClient := some desired.isPublic
    serviceAccountsEnabled := some desired.serviceAccount
    redirectUris := some desired.redirectUris.toList
    webOrigins := some desired.webOrigins.toList
    attributes := some desired.attributes
    secret := desired.secret }

/-- What has to change about a client. -/
def clientPatch (current : ClientRecord) (desired : Blueprint.Client) : ClientRecord :=
  { protocol := differing (current.protocol.getD defaultProtocol) desired.protocol
    publicClient := differing (current.publicClient.getD false) desired.isPublic
    serviceAccountsEnabled :=
      differing (current.serviceAccountsEnabled.getD false) desired.serviceAccount
    redirectUris := (differing current.redirectUriSet desired.redirectUris).map NameSet.toList
    webOrigins := (differing current.webOriginSet desired.webOrigins).map NameSet.toList
    attributes := patchedAttributes (current.attributes.getD ∅) desired.attributes }

/-- The names of the fields that a patch changes. -/
def changedFields (patch : ClientRecord) : List String :=
  let field {α : Type} (name : String) (value : Option α) : List String :=
    if value.isSome then [name] else []
  field "protocol" patch.protocol ++ field "publicClient" patch.publicClient ++
    field "serviceAccountsEnabled" patch.serviceAccountsEnabled ++
    field "redirectUris" patch.redirectUris ++ field "webOrigins" patch.webOrigins ++
    field "attributes" patch.attributes

/-- Whether a patch gives a client a service account. -/
def enablesServiceAccount (patch : ClientRecord) : Bool :=
  patch.serviceAccountsEnabled == some true

end RealmConvergence.Convergence
