import RealmConvergence.Admin.Error
import RealmConvergence.Blueprint.Validation

/-!
# Failures of a run

A run fails because its blueprint is not well-formed, because a call failed, or because the service
contradicts itself. A failure is told as a chain of texts from the outside to the inside.
-/

set_option autoImplicit false

namespace RealmConvergence.Convergence

/-- What a call of a run was meant to do. -/
inductive Deed where
  | readRealm (realm : String)
  | createRealm (realm : String)
  | updateRealm (realm : String)
  | findClient (clientId : String)
  | createClient (clientId : String)
  | updateClient (clientId : String)
  | readSecret (clientId : String)
  | rotateSecret (clientId : String)
  | readRealmRole (role : String)
  | createRealmRole (role : String)
  | updateRealmRole (role : String)
  | readClientRole (key : String)
  | createClientRole (key : String)
  | updateClientRole (key : String)
  | readComposites (key : String)
  | attachComposites (key : String)
  | setMarker (realm : String)
deriving DecidableEq

/-- The words for a deed. -/
def Deed.message : Deed → String
  | .readRealm realm => s!"read realm '{realm}'"
  | .createRealm realm => s!"create realm '{realm}'"
  | .updateRealm realm => s!"update realm '{realm}'"
  | .findClient clientId => s!"find client '{clientId}'"
  | .createClient clientId => s!"create client '{clientId}'"
  | .updateClient clientId => s!"update client '{clientId}'"
  | .readSecret clientId => s!"read secret of client '{clientId}'"
  | .rotateSecret clientId => s!"rotate secret of client '{clientId}'"
  | .readRealmRole role => s!"read realm role '{role}'"
  | .createRealmRole role => s!"create realm role '{role}'"
  | .updateRealmRole role => s!"update realm role '{role}'"
  | .readClientRole key => s!"read client role '{key}'"
  | .createClientRole key => s!"create client role '{key}'"
  | .updateClientRole key => s!"update client role '{key}'"
  | .readComposites key => s!"read composites of '{key}'"
  | .attachComposites key => s!"attach composites to '{key}'"
  | .setMarker realm => s!"set initialization flag on realm '{realm}'"

/-- Why a run failed. -/
inductive Failure where
  /-- The blueprint is not well-formed. -/
  | blueprint (violation : Blueprint.Violation)
  /-- A call of a pass failed. -/
  | call (pass : Nat) (deed : Deed) (problem : AdminError)
  /-- A client was found that has no internal identifier. -/
  | clientWithoutId (clientId : String)
  /-- The realm was gone in the last pass. -/
  | realmGone (realm : String)
  /-- The marker of a finished run could not be read. -/
  | markerUnread (realm : String) (problem : AdminError)
deriving DecidableEq

namespace Failure

/-- The words for a failure, from the outside to the inside. -/
def chain : Failure → List String
  | .blueprint violation => [violation.message]
  | .call pass deed problem => [s!"pass {pass}: {deed.message}", problem.message]
  | .clientWithoutId clientId => [s!"pass 2: client '{clientId}' has no internal id"]
  | .realmGone realm =>
    [s!"pass 6: realm '{realm}' disappeared before the initialization flag was set"]
  | .markerUnread realm problem =>
    [s!"read initialization marker of realm '{realm}'", problem.message]

/-- The failed call's error, where a call failed. -/
def adminError? : Failure → Option AdminError
  | .call _ _ problem => some problem
  | .markerUnread _ problem => some problem
  | .blueprint _ => none
  | .clientWithoutId _ => none
  | .realmGone _ => none

end Failure

end RealmConvergence.Convergence
