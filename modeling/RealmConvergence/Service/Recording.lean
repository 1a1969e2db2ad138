import RealmConvergence.Service.Answering

/-!
# An identity service with a memory and with faults

The service keeps a log of every call, and operations can be told to fail. A call is logged first;
if its operation is to fail, it fails then, without reaching what the service holds.
-/

set_option autoImplicit false

namespace RealmConvergence

/-- Which operations fail, and how. -/
abbrev Service.Faults := AdminOperation → Option AdminError

/-- No operation fails. -/
def Service.Faults.none : Service.Faults := fun _ => Option.none

/-- An identity service in memory. -/
structure Service where
  /-- What the service holds. -/
  store : Service.Store := {}
  /-- Which operations fail. -/
  faults : Service.Faults := .none
  /-- The calls so far, in order. -/
  calls : List AdminCall := []

namespace Service

/-- The reply to a call, and the service afterwards. -/
def answer (call : AdminCall) (service : Service) : call.Reply × Service :=
  let logged := { service with calls := service.calls ++ [call] }
  match service.faults call.operation with
  | some problem => (.error problem, logged)
  | none =>
    let (reply, store) := service.store.answer call
    (reply, { logged with store })

/-- Let an operation fail from now on. -/
def failOn (service : Service) (operation : AdminOperation) (problem : AdminError) : Service :=
  { service with faults := fun other =>
      if other = operation then some problem else service.faults other }

/-- Let no operation fail any longer. -/
def clearFaults (service : Service) : Service :=
  { service with faults := .none }

/-- Forget the calls so far. -/
def clearCalls (service : Service) : Service :=
  { service with calls := [] }

/-- The calls so far that change what the service holds. -/
def mutatingCalls (service : Service) : List AdminCall :=
  service.calls.filter fun call => call.operation.isMutating

/-- The calls so far of one operation. -/
def callsOf (service : Service) (operation : AdminOperation) : List AdminCall :=
  service.calls.filter fun call => call.operation = operation

/-- The value of a talk with the service, and the service afterwards. -/
def talk {α : Type} (service : Service) (conversation : Talk α) : α × Service :=
  conversation.run answer service

end Service

end RealmConvergence
