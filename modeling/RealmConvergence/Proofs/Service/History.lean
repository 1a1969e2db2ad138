import Mathlib.Data.List.Induction
import RealmConvergence.Proofs.Service.Changing

/-!
# Histories of a service

What can happen to a service is one of few things (`Happening`): it is asked a call, what it holds
is prepared, its faults or its log are set. A history lists what has happened since the service was
new, and it tells what the service is now (`ofHistory`). The services that can be reached are those
that have a history (`reachable_iff_exists_history`), because to take part in a talk is to be asked
its calls.

Each thing that happens is a step of the store (`step_undergo`), so the count of the identifiers
drawn never falls (`drawn_le_of_earlier`). What was so at some time (`AtSomeTime`) was so after some
beginning of the history.
-/

set_option autoImplicit false

namespace RealmConvergence.Service

/-! ## What can happen -/

/-- What can happen to a service. -/
inductive Happening where
  /-- From now on, new realms come without the client through which they are administered. -/
  | withoutManagement
  /-- A call is asked. -/
  | asked (call : AdminCall)
  /-- What the service holds is prepared, without a call. -/
  | prepared (seeding : Seeding)
  /-- An operation is told to fail. -/
  | failing (operation : AdminOperation) (problem : AdminError)
  /-- No operation is told to fail any longer. -/
  | faultsCleared
  /-- The calls so far are forgotten. -/
  | callsCleared

/-- The service after something happened to it. -/
def undergo (service : Service) : Happening → Service
  | .withoutManagement =>
    { service with store := { service.store with providesManagement := false } }
  | .asked call => (service.answer call).2
  | .prepared seeding => { service with store := service.store.prepare seeding }
  | .failing operation problem => service.failOn operation problem
  | .faultsCleared => service.clearFaults
  | .callsCleared => service.clearCalls

/-- The service to which all this has happened since it was new, one thing after the other. -/
def ofHistory (history : List Happening) : Service :=
  history.foldl undergo {}

theorem ofHistory_append (history rest : List Happening) :
    ofHistory (history ++ rest) = rest.foldl undergo (ofHistory history) :=
  List.foldl_append

theorem ofHistory_append_singleton (history : List Happening) (happening : Happening) :
    ofHistory (history ++ [happening]) = (ofHistory history).undergo happening :=
  ofHistory_append history [happening]

/-! ## Histories of what can be reached -/

/-- To take part in a talk is to be asked its calls. -/
theorem talk_eq_foldl {α : Type} (service : Service) (conversation : Talk α) :
    (service.talk conversation).2 =
      ((service.exchanges conversation).map fun exchange => .asked exchange.1).foldl undergo
        service := by
  unfold talk exchanges
  induction conversation generalizing service with
  | conclude value => rfl
  | ask call resume ih => exact ih (service.answer call).1 (service.answer call).2

theorem Reachable.undergo {service : Service} (before : service.Reachable)
    (happening : Happening) : (service.undergo happening).Reachable := by
  cases happening with
  | withoutManagement => exact before.withoutManagement
  | asked call => exact before.talked (.question call)
  | prepared seeding => exact before.seeded seeding
  | failing operation problem => exact before.failing operation problem
  | faultsCleared => exact before.faultsCleared
  | callsCleared => exact before.callsCleared

theorem reachable_ofHistory (history : List Happening) : (ofHistory history).Reachable := by
  induction history using List.reverseRecOn with
  | nil => exact .new
  | append_singleton history happening ih =>
      rw [ofHistory_append_singleton]
      exact ih.undergo happening

/-- **What can be reached is what has a history.** -/
theorem reachable_iff_exists_history {service : Service} :
    service.Reachable ↔ ∃ history, service = ofHistory history := by
  constructor
  · intro reachable
    have goesOn {history : List Happening} (happening : Happening) :
        ∃ longer, (ofHistory history).undergo happening = ofHistory longer :=
      ⟨_, (ofHistory_append_singleton history happening).symm⟩
    induction reachable with
    | new => exact ⟨[], rfl⟩
    | withoutManagement _ ih =>
        obtain ⟨history, rfl⟩ := ih
        exact goesOn .withoutManagement
    | talked conversation _ ih =>
        obtain ⟨history, rfl⟩ := ih
        exact ⟨_, (talk_eq_foldl _ conversation).trans (ofHistory_append history _).symm⟩
    | seeded seeding _ ih =>
        obtain ⟨history, rfl⟩ := ih
        exact goesOn (.prepared seeding)
    | failing operation problem _ ih =>
        obtain ⟨history, rfl⟩ := ih
        exact goesOn (.failing operation problem)
    | faultsCleared _ ih =>
        obtain ⟨history, rfl⟩ := ih
        exact goesOn .faultsCleared
    | callsCleared _ ih =>
        obtain ⟨history, rfl⟩ := ih
        exact goesOn .callsCleared
  · rintro ⟨history, rfl⟩
    exact reachable_ofHistory history

/-! ## One thing after the other -/

/-- **What happens to a service is a step of its store**, or decides what new realms come with. -/
theorem step_undergo (service : Service) (happening : Happening) :
    service.store.Step (service.undergo happening).store ∨
      (service.undergo happening).store =
        { service.store with providesManagement := false } := by
  cases happening with
  | withoutManagement => exact .inr rfl
  | asked call =>
      refine .inl ?_
      rw [undergo, answer_eq]
      exact respond_keeps service.store.Step (.rest _) (Store.step_answer _ call)
  | prepared seeding => exact .inl (Store.step_prepare _ seeding)
  | failing | faultsCleared | callsCleared => exact .inl (.rest _)

theorem Store.Step.drawn_le {store after : Store} (step : store.Step after) :
    store.drawn ≤ after.drawn := by
  cases step with
  | drew count => exact Nat.le_add_right _ _
  | started name enabled attributes =>
      unfold startRealm
      dsimp only
      split
      · dsimp only
        omega
      · exact Nat.le_refl _
  | changed present change => exact Nat.le_add_right _ _

/-- Nothing that was drawn is ever free again. -/
theorem drawn_le_of_earlier {earlier history : List Happening} (before : earlier <+: history) :
    (ofHistory earlier).store.drawn ≤ (ofHistory history).store.drawn := by
  obtain ⟨rest, rfl⟩ := before
  induction rest using List.reverseRecOn with
  | nil =>
      simp only [List.append_nil, Nat.le_refl]
  | append_singleton rest happening ih =>
      rw [← List.append_assoc, ofHistory_append_singleton]
      refine Nat.le_trans ih ?_
      rcases step_undergo (ofHistory (earlier ++ rest)) happening with step | same
      · exact step.drawn_le
      · exact Nat.le_of_eq (congrArg Store.drawn same).symm

/-! ## What was so at some time -/

/-- After some beginning of the history the service was so. -/
def AtSomeTime (history : List Happening) (was : Service → Prop) : Prop :=
  ∃ earlier, earlier <+: history ∧ was (ofHistory earlier)

theorem atSomeTime_of_now {history : List Happening} {was : Service → Prop}
    (isNow : was (ofHistory history)) : AtSomeTime history was :=
  ⟨history, List.prefix_rfl, isNow⟩

/-- After one thing more, what was so at some time is so now or was so before. -/
theorem atSomeTime_append_singleton {history : List Happening} {happening : Happening}
    {was : Service → Prop} :
    AtSomeTime (history ++ [happening]) was ↔
      AtSomeTime history was ∨ was (ofHistory (history ++ [happening])) := by
  constructor
  · rintro ⟨earlier, before, wasSo⟩
    rcases List.prefix_concat_iff.1 before with rfl | before
    · exact .inr wasSo
    · exact .inl ⟨earlier, before, wasSo⟩
  · rintro (⟨earlier, before, wasSo⟩ | isNow)
    · exact ⟨earlier, before.trans (List.prefix_append _ _), wasSo⟩
    · exact atSomeTime_of_now isNow

end RealmConvergence.Service
