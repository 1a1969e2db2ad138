import RealmConvergence.Blueprint.Basic

/-!
# References to clients that a blueprint does not declare

A client role or a composite mapping may name a client that the blueprint does not declare. This is
no violation, since the realm may have the client already; what is missing when the blueprint is
applied is skipped. The references are listed for warnings, client roles first, each kind by client
and then by role.
-/

set_option autoImplicit false

namespace RealmConvergence.Blueprint

/-- A reference to a client that is not declared. -/
inductive UndeclaredReference where
  /-- A client role names the client. -/
  | clientRole (clientId role : String)
  /-- A composite mapping names the client. -/
  | composite (clientId realmRole : String)
deriving DecidableEq

/-- The words for a reference. -/
def UndeclaredReference.message : UndeclaredReference → String
  | .clientRole clientId role =>
    s!"client role '{role}' references undeclared client '{clientId}'"
  | .composite clientId realmRole =>
    s!"composite of realm role '{realmRole}' references undeclared client '{clientId}'"

/-- Whether a blueprint declares a client. -/
def declares (blueprint : Blueprint) (clientId : String) : Bool :=
  blueprint.clients.any fun client => client.clientId == clientId

/-- Pairs of texts by their first part and then by their second. -/
def pairLe (left right : String × String) : Bool :=
  left.1 < right.1 || (left.1 == right.1 && decide (left.2 ≤ right.2))

/-- The references to clients that a blueprint does not declare, in order. -/
def undeclaredReferences (blueprint : Blueprint) : List UndeclaredReference :=
  let roles := (blueprint.clientRoles.map fun role => (role.clientId, role.name)).filter
    fun pair => !blueprint.declares pair.1
  let mappings :=
    (blueprint.composites.map fun mapping => (mapping.clientId, mapping.realmRole)).filter
      fun pair => !blueprint.declares pair.1
  (roles.mergeSort pairLe).map (fun pair => .clientRole pair.1 pair.2) ++
    (mappings.mergeSort pairLe).map fun pair => .composite pair.1 pair.2

end RealmConvergence.Blueprint
