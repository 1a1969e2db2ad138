import RealmConvergence.Blueprint.Marker
import RealmConvergence.Convergence.ClientPatch
import RealmConvergence.Convergence.Grant

/-!
# The six passes of a run

A run goes through the realm, its clients, its roles, the roles of clients, the composite mappings
and the marker of a finished run, in this order. Every pass reads before it writes and writes only
what differs. The marker is written last, so that a run that fails leaves none behind.
-/

set_option autoImplicit false

namespace RealmConvergence.Convergence

/-! ## First pass: the realm -/

/-- What has to change about a realm. -/
def realmPatch (current : RealmRecord) (desired : Blueprint.Realm) : RealmRecord :=
  { enabled := if current.enabled = some desired.enabled then none else some desired.enabled
    attributes := patchedAttributes (current.attributes.getD ∅) desired.managedAttributes }

/-- What a patch of a realm changes, in words. -/
def realmChanges (current : RealmRecord) (desired : Blueprint.Realm) : List String :=
  let keys := changedKeys (current.attributes.getD ∅) desired.managedAttributes
  (if current.enabled = some desired.enabled then [] else ["enabled"]) ++
    if keys.isEmpty then [] else ["attributes[" ++ ",".intercalate keys ++ "]"]

/-- Bring the realm itself to its desired state. -/
def realmPass (desired : Blueprint.Realm) : Part Findings := do
  let name := desired.name
  let current : Option RealmRecord ← attempt 1 (.readRealm name) (.getRealm name)
  match current with
  | none =>
    attempt 1 (.createRealm name) (.createRealm {
      realm := some name, enabled := some desired.enabled
      attributes := some desired.managedAttributes })
    pure (.step .realm name .created)
  | some current =>
    let changes := realmChanges current desired
    if changes.isEmpty then pure (.step .realm name .unchanged)
    else
      attempt 1 (.updateRealm name) (.updateRealm name (realmPatch current desired))
      pure (.step .realm name .updated (some (", ".intercalate changes)))

/-! ## Second pass: clients -/

/-- Whether the desired secret of a client differs from the stored one. Nothing is asked of a client
without a desired secret. -/
def secretDiffers (realm client : String) (desired : Blueprint.Client) : Part Bool :=
  match desired.secret with
  | none => pure false
  | some secret => do
    let stored : Option String ←
      attempt 2 (.readSecret desired.clientId) (.getClientSecret realm client)
    pure (stored ≠ some secret)

/-- Create a client. -/
def createClient (realm : String) (desired : Blueprint.Client) : Part Findings := do
  let clientId := desired.clientId
  let client : String ←
    attempt 2 (.createClient clientId) (.createClient realm (newClient desired))
  let created : Findings := .step .client clientId .created
  if desired.serviceAccount then
    let granted ← tolerate (grantToServiceAccount realm client clientId)
    pure (created ++ granted)
  else pure created

/-- Change a client that differs. A new secret is sent along. -/
def updateClient (realm client : String) (desired : Blueprint.Client) (patch : ClientRecord)
    (rotates : Bool) : Part Findings := do
  let clientId := desired.clientId
  let sent := if rotates then { patch with secret := desired.secret } else patch
  attempt 2 (.updateClient clientId) (.updateClient realm client sent)
  let updated : Findings :=
    .step .client clientId .updated (some (", ".intercalate (changedFields patch))) ++
      if rotates then .step .clientSecret clientId .updated (some "rotated with field update")
      else {}
  if enablesServiceAccount patch then
    let granted ← tolerate (grantToServiceAccount realm client clientId)
    pure (updated ++ granted)
  else pure updated

/-- Give a client that is otherwise as desired its new secret. -/
def rotateSecret (realm client : String) (desired : Blueprint.Client) (rotates : Bool) :
    Part Findings := do
  let clientId := desired.clientId
  let unchanged : Findings := .step .client clientId .unchanged
  match rotates, desired.secret with
  | true, some secret =>
    attempt 2 (.rotateSecret clientId) (.updateClientSecret realm client secret)
    pure (unchanged ++ .step .clientSecret clientId .updated (some "rotated"))
  | _, _ => pure unchanged

/-- Bring a client to its desired state. -/
def convergeClient (realm : String) (desired : Blueprint.Client) : Part Findings := do
  let clientId := desired.clientId
  let current : Option ClientRecord ←
    attempt 2 (.findClient clientId) (.findClient realm clientId)
  match current with
  | none => createClient realm desired
  | some current =>
    match current.id with
    | none => throw (.clientWithoutId clientId)
    | some client =>
      let patch := clientPatch current desired
      let rotates ← secretDiffers realm client desired
      if (changedFields patch).isEmpty then rotateSecret realm client desired rotates
      else updateClient realm client desired patch rotates

/-- Bring the clients to their desired states. -/
def clientPass (blueprint : Blueprint) : Part Findings :=
  forEach blueprint.clients (convergeClient blueprint.realm.name)

/-! ## Third pass: roles of the realm -/

/-- The desired description of a role, where it differs from the one that is there. -/
def newDescription? (current : RoleRecord) (desired : Option String) : Option String :=
  match desired with
  | none => none
  | some description => if current.description = some description then none else some description

/-- Bring a role of the realm to its desired state. -/
def convergeRealmRole (realm : String) (desired : Blueprint.Role) : Part Findings := do
  let name := desired.name
  let current : Option RoleRecord ← attempt 3 (.readRealmRole name) (.getRealmRole realm name)
  match current with
  | none =>
    attempt 3 (.createRealmRole name)
      (.createRealmRole realm { name := some name, description := desired.description })
    pure (.step .realmRole name .created)
  | some current =>
    match newDescription? current desired.description with
    | none => pure (.step .realmRole name .unchanged)
    | some description =>
      attempt 3 (.updateRealmRole name)
        (.updateRealmRole realm name { name := some name, description := some description })
      pure (.step .realmRole name .updated (some "description"))

/-- Bring the roles of the realm to their desired states. -/
def realmRolePass (blueprint : Blueprint) : Part Findings :=
  forEach blueprint.realmRoles (convergeRealmRole blueprint.realm.name)

/-! ## Fourth pass: roles of clients -/

/-- Bring a role of a client to its desired state. -/
def convergeClientRole (realm client : String) (desired : Blueprint.ClientRole) :
    Part Findings := do
  let name := desired.name
  let key := roleKey desired.clientId name
  let current : Option RoleRecord ←
    attempt 4 (.readClientRole key) (.getClientRole realm client name)
  match current with
  | none =>
    attempt 4 (.createClientRole key)
      (.createClientRole realm client { name := some name, description := desired.description })
    pure (.step .clientRole key .created)
  | some current =>
    match newDescription? current desired.description with
    | none => pure (.step .clientRole key .unchanged)
    | some description =>
      attempt 4 (.updateClientRole key)
        (.updateClientRole realm client name { name := some name, description := some description })
      pure (.step .clientRole key .updated (some "description"))

/-- What is found out about the roles of a client that is absent. -/
def skippedRoles (clientId : String) (roles : List Blueprint.ClientRole) : Findings :=
  .warning s!"client '{clientId}' not found; {roles.length} client role(s) skipped" ++
    .join (roles.map fun role =>
      .step .clientRole (roleKey clientId role.name) .skipped (some "client not found"))

/-- Bring the roles of one client to their desired states. -/
def convergeClientRoles (realm : String) (group : String × List Blueprint.ClientRole) :
    Part Findings := do
  let (clientId, roles) := group
  let current : Option ClientRecord ←
    attempt 4 (.findClient clientId) (.findClient realm clientId)
  match current.bind (·.id) with
  | none => pure (skippedRoles clientId roles)
  | some client => forEach roles (convergeClientRole realm client)

/-- Bring the roles of clients to their desired states, client by client. -/
def clientRolePass (blueprint : Blueprint) : Part Findings :=
  forEach blueprint.clientRoleGroups (convergeClientRoles blueprint.realm.name)

/-! ## Fifth pass: composite mappings -/

/-- The roles of a client by their names, and what is found out about those that are absent. -/
def resolveRoles (realm client : String) (mapping : Blueprint.Composite) :
    List String → Part (List RoleRecord × Findings)
  | [] => pure ([], {})
  | name :: rest => do
    let key := roleKey mapping.clientId name
    let found : Option RoleRecord ←
      attempt 5 (.readClientRole key) (.getClientRole realm client name)
    let (others, findings) ← resolveRoles realm client mapping rest
    match found with
    | some role => pure (role :: others, findings)
    | none =>
      pure (others, .warning
        s!"client role '{key}' not found; left out of composite mapping '{compositeKey mapping}'" ++
          findings)

/-- Attach the roles that are missing from a mapping. -/
def attachRoles (realm client : String) (mapping : Blueprint.Composite) (missing : List String) :
    Part Findings := do
  let key := compositeKey mapping
  let (resolved, findings) ← resolveRoles realm client mapping missing
  if resolved.isEmpty then
    pure (findings ++ .step .composite key .skipped (some "no desired client role resolved"))
  else
    attempt 5 (.attachComposites key) (.addRealmRoleComposites realm mapping.realmRole resolved)
    let added := ",".intercalate (resolved.map RoleRecord.nameText)
    pure (findings ++ .step .composite key .updated (some s!"added {added}"))

/-- Let the desired client roles come with a role of the realm. -/
def convergeComposite (realm : String) (mapping : Blueprint.Composite) : Part Findings := do
  let key := compositeKey mapping
  let role : Option RoleRecord ←
    attempt 5 (.readRealmRole mapping.realmRole) (.getRealmRole realm mapping.realmRole)
  if role.isNone then
    pure (.warning
        s!"realm role '{mapping.realmRole}' not found; composite mapping '{key}' skipped" ++
      .step .composite key .skipped (some "realm role not found"))
  else
    let current : Option ClientRecord ←
      attempt 5 (.findClient mapping.clientId) (.findClient realm mapping.clientId)
    match current.bind (·.id) with
    | none =>
      pure (.warning s!"client '{mapping.clientId}' not found; composite mapping '{key}' skipped" ++
        .step .composite key .skipped (some "client not found"))
    | some client =>
      let attached : List RoleRecord ←
        attempt 5 (.readComposites key) (.getRealmRoleComposites realm mapping.realmRole client)
      let present := NameSet.ofList (attached.filterMap (·.name))
      let missing := mapping.clientRoles.missingFrom present
      if missing.isEmpty then pure (.step .composite key .unchanged)
      else attachRoles realm client mapping missing

/-- Bring the composite mappings to their desired states. -/
def compositePass (blueprint : Blueprint) : Part Findings :=
  forEach blueprint.composites (convergeComposite blueprint.realm.name)

/-! ## Sixth pass: the marker of a finished run -/

/-- Mark the realm as finished. -/
def markerPass (realm : String) : Part Findings := do
  let current : Option RealmRecord ← attempt 6 (.readRealm realm) (.getRealm realm)
  match current with
  | none => throw (.realmGone realm)
  | some current =>
    if markerIsSet (current.attribute? initializedMarker) then
      pure (.step .initializationFlag realm .unchanged)
    else
      let attributes := (current.attributes.getD ∅).insert initializedMarker "true"
      attempt 6 (.setMarker realm) (.updateRealm realm { attributes := some attributes })
      pure (.step .initializationFlag realm .updated)

end RealmConvergence.Convergence
