/-!
# Errors of the administration interface

Every call to an identity service either answers or fails for one of seven reasons. That a resource
is absent is no failure of a lookup; `notFound` is for calls that need the resource to be there.
-/

set_option autoImplicit false

namespace RealmConvergence

/-- Why a call to an identity service failed. -/
inductive AdminError where
  /-- The request did not reach the service, or its answer was lost. -/
  | transport (message : String)
  /-- The service did not accept the caller. -/
  | auth (status : Nat) (message : String)
  /-- What should be created exists already. -/
  | conflict (message : String)
  /-- What the call needs is absent. -/
  | notFound (message : String)
  /-- The service refused for another reason. -/
  | api (status : Nat) (message : String)
  /-- The answer could not be understood. -/
  | decode (message : String)
  /-- The settings of the connection cannot be used. -/
  | config (message : String)
deriving DecidableEq

namespace AdminError

/-- Whether the failure is that something is absent. -/
def isNotFound : AdminError → Bool
  | .notFound _ => true
  | _ => false

/-- The words for a failure. -/
def message : AdminError → String
  | .transport text => s!"admin transport error: {text}"
  | .auth status text => s!"admin auth error status={status}: {text}"
  | .conflict text => s!"admin conflict: {text}"
  | .notFound text => s!"admin resource not found: {text}"
  | .api status text => s!"admin api error status={status}: {text}"
  | .decode text => s!"admin decode error: {text}"
  | .config text => s!"admin config error: {text}"

end AdminError

end RealmConvergence
