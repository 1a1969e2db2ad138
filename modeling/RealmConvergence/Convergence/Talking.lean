import RealmConvergence.Admin.Call
import RealmConvergence.Convergence.Failure
import RealmConvergence.Convergence.Report

/-!
# Parts of a run

A part of a run talks to an identity service and comes to its findings, or fails. After a failure
nothing more is said. Parts over a list follow each other, and their findings are appended.
-/

set_option autoImplicit false

namespace RealmConvergence.Convergence

/-- A part of a run. -/
abbrev Part (α : Type) := ExceptT Failure Talk α

/-- Make a call; if it fails, so does the part. -/
def attempt (pass : Nat) (deed : Deed) (call : AdminCall) : Part call.Answer :=
  ExceptT.mk <| .ask call fun reply =>
    .conclude (reply.mapError fun problem => .call pass deed problem)

/-- The findings of a part for each item, in order. -/
def forEach {α : Type} (items : List α) (part : α → Part Findings) : Part Findings :=
  match items with
  | [] => pure {}
  | item :: rest => do
    let found ← part item
    let others ← forEach rest part
    pure (found ++ others)

/-- Let a talk that never fails take part in a run. -/
def tolerate {α : Type} (talk : Talk α) : Part α :=
  ExceptT.lift talk

/-- The key of a client role in reports. -/
def roleKey (clientId role : String) : String := s!"{clientId}:{role}"

/-- The key of a composite mapping in reports. -/
def compositeKey (mapping : Blueprint.Composite) : String :=
  s!"{mapping.realmRole} -> {mapping.clientId}"

end RealmConvergence.Convergence
