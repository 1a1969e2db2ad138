import RealmConvergence.Proofs.Service.Reachable

/-!
# Calls that change nothing

A call checks before it writes. So a call that fails leaves all realms as they were
(`Store.answer_realms_of_error`), also where it had gone through a part of a list of roles before it
came to one that is refused; at most, numbers are drawn and lost. A call that only looks draws none
either.

Whatever becomes of a call, the service logs it, once (`answer_idle`). A whole talk in which no
writing call succeeds leaves nothing but the log and the lost numbers (`talk_realms_of_idle`).
-/

set_option autoImplicit false

namespace RealmConvergence.Service

namespace Store

variable {store : Store} {realm : String} {problem : AdminError}

/-- An edit that fails leaves all realms as they were. -/
theorem edit_realms_of_error {α : Type}
    {change : StoredRealm → Except AdminError (α × StoredRealm)}
    (failed : (store.edit realm change).1 = .error problem) :
    (store.edit realm change).2.realms = store.realms := by
  unfold edit at failed ⊢
  split
  · rfl
  · next held found =>
    split
    · rfl
    · next answer after made => simp only [found, made, reduceCtorEq] at failed

theorem addClient_realms_of_error {record : ClientRecord}
    (failed : (store.addClient realm record).1 = .error problem) :
    (store.addClient realm record).2.realms = store.realms := by
  unfold addClient at failed ⊢
  split
  · rfl
  · next clientId named =>
    rw [named] at failed
    exact (edit_realms_of_error failed :)

theorem addRealmRole_realms_of_error {record : RoleRecord}
    (failed : (store.addRealmRole realm record).1 = .error problem) :
    (store.addRealmRole realm record).2.realms = store.realms := by
  unfold addRealmRole at failed ⊢
  split
  · rfl
  · next name named =>
    rw [named] at failed
    exact (edit_realms_of_error failed :)

theorem addClientRole_realms_of_error {client : String} {record : RoleRecord}
    (failed : (store.addClientRole realm client record).1 = .error problem) :
    (store.addClientRole realm client record).2.realms = store.realms := by
  unfold addClientRole at failed ⊢
  split
  · rfl
  · next name named =>
    rw [named] at failed
    exact (edit_realms_of_error failed :)

/-- **A call that fails leaves all realms as they were.** -/
theorem answer_realms_of_error {call : AdminCall}
    (failed : (store.answer call).1 = .error problem) :
    (store.answer call).2.realms = store.realms := by
  cases call with
  | getRealm | findClient | getClientSecret | getRealmRole | getClientRole
  | getServiceAccountUser | getRealmRoleComposites => rw [answer_of_not_mutating rfl]
  | createRealm record =>
      simp only [answer] at failed ⊢
      split
      · rfl
      · next named =>
        rw [if_neg named] at failed
        split
        · rfl
        · next absent =>
          rw [if_neg absent] at failed
          cases failed
  | createClient realm record => exact addClient_realms_of_error failed
  | createRealmRole realm record => exact addRealmRole_realms_of_error failed
  | createClientRole realm client record => exact addClientRole_realms_of_error failed
  | updateClient realm client record =>
      -- a number was drawn for a user that the client may need
      exact (edit_realms_of_error failed :)
  | updateRealm | updateClientSecret | updateRealmRole | addRealmRoleComposites | updateClientRole
  | assignClientRoles => exact edit_realms_of_error failed

end Store

variable {service : Service}

/-- A call that is told to fail changes no realm either. -/
theorem respond_realms_of_error {faults : Faults} {call : AdminCall} {store : Store}
    {problem : AdminError} (failed : (respond faults call store).1 = .error problem) :
    (respond faults call store).2.realms = store.realms := by
  cases faulty : faults call.operation with
  | none =>
      rw [respond_of_faultless faulty] at failed ⊢
      exact Store.answer_realms_of_error failed
  | some fault => rw [respond_of_faulty faulty]

/-- The log of the service: the operation and the target of each call, in order. -/
def records (service : Service) : List (AdminOperation × String) :=
  service.calls.map fun call => (call.operation, call.target)

/-- **A call that fails or only looks changes nothing.** Whatever becomes of a call, it is logged
once, with all that it carries, after those before it; the log shows its operation and its target.
If it fails, all realms are as before. If it only looks, all realms are as before, and so is the
count of the identifiers drawn. -/
theorem answer_idle (service : Service) (call : AdminCall) :
    (service.answer call).2.calls = service.calls ++ [call] ∧
    (service.answer call).2.records = service.records ++ [(call.operation, call.target)] ∧
    ((∃ problem, (service.answer call).1 = .error problem) →
      (service.answer call).2.store.realms = service.store.realms) ∧
    (call.operation.isMutating = false →
      (service.answer call).2.store.realms = service.store.realms ∧
        (service.answer call).2.store.drawn = service.store.drawn) := by
  rw [answer_eq]
  refine ⟨rfl, List.map_append, fun ⟨problem, failed⟩ => respond_realms_of_error failed,
    fun looks => ?_⟩
  have same : (respond service.faults call service.store).2 = service.store :=
    respond_keeps (· = service.store) rfl (Store.answer_of_not_mutating looks)
  rw [same]
  exact ⟨rfl, rfl⟩

/-- **A talk in which no writing call succeeds leaves all realms as they were.** -/
theorem talk_realms_of_idle {α : Type} {conversation : Talk α}
    (idle : ∀ exchange ∈ service.exchanges conversation, exchange.1.operation.isMutating = true →
      ∃ problem, exchange.2 = .error problem) :
    (service.talk conversation).2.store.realms = service.store.realms := by
  unfold talk
  induction conversation generalizing service with
  | conclude value => rfl
  | ask call resume ih =>
      have later : ∀ exchange ∈ (service.answer call).2.exchanges (resume (service.answer call).1),
          exchange.1.operation.isMutating = true → ∃ problem, exchange.2 = .error problem :=
        fun exchange member => idle exchange (List.mem_cons_of_mem _ member)
      have here : (service.answer call).2.store.realms = service.store.realms := by
        rw [answer_eq]
        dsimp only
        cases writes : call.operation.isMutating with
        | false =>
            exact respond_keeps (·.realms = service.store.realms) rfl
              (congrArg Store.realms (Store.answer_of_not_mutating writes))
        | true =>
            obtain ⟨problem, failed⟩ :=
              idle ⟨call, (service.answer call).1⟩ List.mem_cons_self writes
            rw [answer_eq] at failed
            exact respond_realms_of_error failed
      exact (ih _ later).trans here

end RealmConvergence.Service
