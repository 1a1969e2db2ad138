import RealmConvergence.Proofs.Dialogue
import RealmConvergence.Proofs.Service.Sound
import RealmConvergence.Service.Recording
import RealmConvergence.Service.Seeding

/-!
# Services that can be reached

A service can be reached when it comes from a new one by talking to it, preparing what it holds, and
setting or clearing its faults and its log, in any order. A talk is any sequence of calls, each of
which may depend on the replies before it, so a single call is one, and so is a run. Whatever can be
reached is sound (`Reachable.sound`).

What a talk does to a service is told apart: its value and the store depend on the store and the
faults alone (`respond`), the faults stay, and the log grows by the calls asked (`talk_eq`).
-/

set_option autoImplicit false

namespace RealmConvergence.Service

/-! ## A talk as a run on the store -/

/-- The reply to a call under faults, and what the service holds afterwards. -/
def respond (faults : Faults) (call : AdminCall) (store : Store) : call.Reply × Store :=
  match faults call.operation with
  | some problem => (.error problem, store)
  | none => store.answer call

theorem respond_of_faulty {faults : Faults} {call : AdminCall} {problem : AdminError}
    (faulty : faults call.operation = some problem) (store : Store) :
    respond faults call store = (.error problem, store) := by
  simp only [respond, faulty]

theorem respond_of_faultless {faults : Faults} {call : AdminCall}
    (faultless : faults call.operation = none) (store : Store) :
    respond faults call store = store.answer call := by
  simp only [respond, faultless]

theorem respond_none (call : AdminCall) (store : Store) :
    respond Faults.none call store = store.answer call := rfl

/-- What every call keeps of a store is kept under faults. -/
theorem respond_keeps (kept : Store → Prop) {faults : Faults} {call : AdminCall} {store : Store}
    (holds : kept store) (keeps : kept (store.answer call).2) :
    kept (respond faults call store).2 := by
  cases faulty : faults call.operation with
  | none => rwa [respond_of_faultless faulty]
  | some problem => rwa [respond_of_faulty faulty]

/-- A call is answered by the store, or by the fault of its operation, and is logged. -/
theorem answer_eq (service : Service) (call : AdminCall) :
    service.answer call =
      ((respond service.faults call service.store).1,
        { service with
          store := (respond service.faults call service.store).2
          calls := service.calls ++ [call] }) := by
  unfold answer respond
  dsimp only
  cases service.faults call.operation <;> rfl

/-- **A talk changes the store as its calls do, and logs them.** -/
theorem talk_eq {α : Type} (service : Service) (conversation : Talk α) :
    service.talk conversation =
      ((conversation.run (respond service.faults) service.store).1,
        { service with
          store := (conversation.run (respond service.faults) service.store).2
          calls := service.calls ++
            conversation.asked (respond service.faults) service.store }) := by
  unfold talk
  induction conversation generalizing service with
  | conclude value =>
      simp only [Dialogue.run, Dialogue.asked, List.append_nil]
  | ask call resume ih =>
      simp only [Dialogue.run, Dialogue.asked, answer_eq, ih, List.append_assoc,
        List.singleton_append]

/-- The value of a talk, told by the store and the faults alone. -/
theorem talk_value {α : Type} (service : Service) (conversation : Talk α) :
    (service.talk conversation).1 =
      (conversation.run (respond service.faults) service.store).1 :=
  congrArg Prod.fst (talk_eq service conversation)

/-- The store after a talk, told by the store before it and the faults alone. -/
theorem talk_store {α : Type} (service : Service) (conversation : Talk α) :
    (service.talk conversation).2.store =
      (conversation.run (respond service.faults) service.store).2 := by
  rw [talk_eq]

/-- The log after a talk. -/
theorem talk_calls {α : Type} (service : Service) (conversation : Talk α) :
    (service.talk conversation).2.calls =
      service.calls ++ conversation.asked (respond service.faults) service.store := by
  rw [talk_eq]

/-- The calls of a talk with the service, with the replies to them. -/
def exchanges {α : Type} (service : Service) (conversation : Talk α) :
    List (Sigma AdminCall.Reply) :=
  conversation.exchanged answer service

/-- The log grows by the calls of a talk, whatever the replies to them. -/
theorem talk_calls_eq_exchanges {α : Type} (service : Service) (conversation : Talk α) :
    (service.talk conversation).2.calls =
      service.calls ++ (service.exchanges conversation).map Sigma.fst := by
  unfold talk exchanges
  induction conversation generalizing service with
  | conclude value => exact (List.append_nil _).symm
  | ask call resume ih =>
      have logged : (answer call service).2.calls = service.calls ++ [call] := by
        unfold answer
        cases service.faults call.operation <;> rfl
      show ((resume (answer call service).1).run answer (answer call service).2).2.calls = _
      rw [ih, logged, List.append_assoc]
      rfl

/-! ## What can be reached -/

/-- A way to prepare what a service holds, without a call. -/
inductive Seeding where
  /-- Put a realm. -/
  | realm (name : String) (enabled : Bool) (attributes : Table String)
  /-- Store a client. -/
  | client (realm : String) (record : ClientRecord)
  /-- Store a role of a realm. -/
  | realmRole (realm role : String) (description : Option String)
  /-- Store a role of a client. -/
  | clientRole (realm clientId role : String) (description : Option String)
  /-- Let a role of a client come with a role of the realm. -/
  | composite (realm realmRole clientId role : String)

/-- What a store holds after it was prepared, or after the attempt. -/
def Store.prepare (store : Store) : Seeding → Store
  | .realm name enabled attributes => store.seedRealm name enabled attributes
  | .client realm record => (store.seedClient realm record).2
  | .realmRole realm role description => (store.seedRealmRole realm role description).2
  | .clientRole realm clientId role description =>
    (store.seedClientRole realm clientId role description).2
  | .composite realm realmRole clientId role =>
    (store.seedComposite realm realmRole clientId role).2

/-- A service that comes from a new one. -/
inductive Reachable : Service → Prop where
  /-- A new service. -/
  | new : Reachable {}
  /-- New realms come without the client through which they are administered. -/
  | withoutManagement {service : Service} (before : Reachable service) :
      Reachable { service with store := { service.store with providesManagement := false } }
  /-- The service was talked to: it answered a call, or took part in a run. -/
  | talked {service : Service} {α : Type} (conversation : Talk α) (before : Reachable service) :
      Reachable (service.talk conversation).2
  /-- What the service holds was prepared. -/
  | seeded {service : Service} (seeding : Seeding) (before : Reachable service) :
      Reachable { service with store := service.store.prepare seeding }
  /-- An operation was told to fail. -/
  | failing {service : Service} (operation : AdminOperation) (problem : AdminError)
      (before : Reachable service) : Reachable (service.failOn operation problem)
  /-- No operation was told to fail any longer. -/
  | faultsCleared {service : Service} (before : Reachable service) : Reachable service.clearFaults
  /-- The calls so far were forgotten. -/
  | callsCleared {service : Service} (before : Reachable service) : Reachable service.clearCalls

/-- A talk keeps a store sound. -/
theorem Store.Sound.run {store : Store} (sound : store.Sound) {α : Type} (faults : Faults)
    (conversation : Talk α) : (conversation.run (respond faults) store).2.Sound := by
  have keeps (call : AdminCall) (before : Store) (_ : True) (held : before.Sound) :
      (respond faults call before).2.Sound :=
    respond_keeps Store.Sound held (held.answer call)
  exact conversation.asksOnly_true.run_keeps keeps sound

theorem Store.Sound.prepare {store : Store} (sound : store.Sound) (seeding : Seeding) :
    (store.prepare seeding).Sound := by
  cases seeding with
  | realm name enabled attributes => exact sound.startRealm name enabled attributes
  | client realm record => exact sound.addClient realm record
  | realmRole realm role description =>
      exact sound.addRealmRole realm { name := some role, description }
  | clientRole realm clientId role description =>
      simp only [Store.prepare, Store.seedClientRole]
      split
      · exact sound
      · next client _ => exact sound.addClientRole realm client _
  | composite realm realmRole clientId role =>
      simp only [Store.prepare, Store.seedComposite]
      split
      · exact sound
      · next held present =>
        split
        · exact sound
        · have old := sound realm held present
          exact sound.putRealm ⟨old.clients, old.users⟩

/-- **What can be reached is sound.** -/
theorem Reachable.sound {service : Service} (reachable : service.Reachable) :
    service.store.Sound := by
  induction reachable with
  | new =>
      intro name held found
      cases found
  | withoutManagement _ ih => exact ih
  | talked conversation _ ih =>
      rw [talk_eq]
      exact ih.run _ conversation
  | seeded seeding _ ih => exact ih.prepare seeding
  | failing _ _ _ ih => exact ih
  | faultsCleared _ ih => exact ih
  | callsCleared _ ih => exact ih

end RealmConvergence.Service
