import RealmConvergence.Convergence.Talking
import RealmConvergence.Service.Store

/-!
# Grants to service accounts

A client that gets a service account is granted the roles that let it look after users. The grant is
all or nothing. Its failure does not end the run: it becomes a warning and a skipped step.
-/

set_option autoImplicit false

namespace RealmConvergence.Convergence

open Service (managementClientId)

/-- The roles that a service account is granted. -/
def serviceAccountRoles : List String := ["manage-users", "view-users"]

/-- Why a grant failed. -/
inductive GrantFailure where
  /-- The user of the client could not be read. -/
  | readUser (problem : AdminError)
  /-- The user has no identifier. -/
  | userWithoutId
  /-- The client that owns the roles could not be looked up. -/
  | findOwner (problem : AdminError)
  /-- The client that owns the roles is absent. -/
  | ownerMissing
  /-- The client that owns the roles has no internal identifier. -/
  | ownerWithoutId
  /-- A role could not be read. -/
  | readRole (role : String) (problem : AdminError)
  /-- A role is absent. -/
  | roleMissing (role : String)
  /-- The roles could not be assigned. -/
  | assign (problem : AdminError)
deriving DecidableEq

/-- The words for the failure of a grant, from the outside to the inside. -/
def GrantFailure.chain : GrantFailure → List String
  | .readUser problem => ["read service account user", problem.message]
  | .userWithoutId => ["service account user has no id"]
  | .findOwner problem => [s!"find client '{managementClientId}'", problem.message]
  | .ownerMissing => [s!"client '{managementClientId}' not found"]
  | .ownerWithoutId => [s!"client '{managementClientId}' has no internal id"]
  | .readRole role problem => [s!"read role '{role}'", problem.message]
  | .roleMissing role => [s!"role '{role}' not found on client '{managementClientId}'"]
  | .assign problem => ["assign roles to service account", problem.message]

/-- The words for the failure of a grant in one line. -/
def GrantFailure.message (failure : GrantFailure) : String :=
  ": ".intercalate failure.chain

/-- A part of a grant. -/
abbrev GrantPart (α : Type) := ExceptT GrantFailure Talk α

/-- Make a call; if it fails, so does the grant. -/
def attemptGrant (explain : AdminError → GrantFailure) (call : AdminCall) : GrantPart call.Answer :=
  ExceptT.mk <| .ask call fun reply => .conclude (reply.mapError explain)

/-- A value that has to be there. -/
def expect {α : Type} (failure : GrantFailure) : Option α → GrantPart α
  | some value => pure value
  | none => throw failure

/-- Read the roles that are to be granted. -/
def readRoles (realm owner : String) : List String → GrantPart (List RoleRecord)
  | [] => pure []
  | role :: rest => do
    let found ← expect (.roleMissing role)
      (← attemptGrant (.readRole role) (.getClientRole realm owner role))
    let others ← readRoles realm owner rest
    pure (found :: others)

/-- Grant the roles to the user of a client. -/
def grantRoles (realm client : String) : GrantPart Unit := do
  let user : UserRecord ← attemptGrant .readUser (.getServiceAccountUser realm client)
  let userId ← expect .userWithoutId user.id
  let owner : ClientRecord ← expect .ownerMissing
    (← attemptGrant .findOwner (.findClient realm managementClientId))
  let ownerId ← expect .ownerWithoutId owner.id
  let granted ← readRoles realm ownerId serviceAccountRoles
  attemptGrant .assign (.assignClientRoles realm userId ownerId granted)

/-- What became of a grant. -/
def grantFindings (clientId : String) : Except GrantFailure Unit → Findings
  | .ok () =>
    .step .serviceAccountGrant clientId .updated (some (",".intercalate serviceAccountRoles))
  | .error failure =>
    .warning
        s!"service account role grant for client '{clientId}' failed: {failure.message}" ++
      .step .serviceAccountGrant clientId .skipped (some failure.message)

/-- Grant the roles to the user of a client, whatever comes of it. -/
def grantToServiceAccount (realm client clientId : String) : Talk Findings :=
  (grantRoles realm client).run.andThen fun outcome => .conclude (grantFindings clientId outcome)

end RealmConvergence.Convergence
