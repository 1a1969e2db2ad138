import RealmConvergence.Blueprint.Basic

/-!
# Sample blueprints

Small blueprints to try a service with: a school with everything that a blueprint can declare, and a
composite mapping that relies on a client from elsewhere.
-/

set_option autoImplicit false

namespace RealmConvergence.Blueprint

/-- A client with a service account, a realm role, a client role, and a mapping between them. -/
def school : Blueprint :=
  { realm := { name := "school" }
    clients := [{ clientId := "reporting", serviceAccount := true }]
    realmRoles := [{ name := "TEACHER" }]
    clientRoles := [{ clientId := "reporting", name := "VIEW_REPORTS" }]
    composites := [{
      realmRole := "TEACHER", clientId := "reporting"
      clientRoles := NameSet.ofList ["VIEW_REPORTS"] }] }

/-- A mapping of `R` to the role `C` of a client that is not declared. -/
def compositeOnly (realm clientId : String) : Blueprint :=
  { realm := { name := realm }
    realmRoles := [{ name := "R" }]
    clientRoles := [{ clientId, name := "C" }]
    composites := [{ realmRole := "R", clientId, clientRoles := NameSet.ofList ["C"] }] }

end RealmConvergence.Blueprint
