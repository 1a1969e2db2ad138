import RealmConvergence.Blueprint.Samples
import RealmConvergence.Proofs.Convergence.MarkerFence
import RealmConvergence.Proofs.Convergence.Working

/-!
# Whether an aborted run is retried

A run that fails leaves the marker of its realm as it found it. So whether the next unforced run
enters the passes again depends on what the marker was before: over a realm that was not marked the
next run starts anew, and over a realm that was marked, which only a forced run enters, the next one
is skipped, however much the failed run left undone (`initialize_after_abort`).
-/

set_option autoImplicit false

namespace RealmConvergence.Convergence

open Service

variable {faults : Faults} {store : Store} {realm : String}

/-! ## Decisions -/

/-- The reason of a decision against a run on a realm that is marked. -/
def alreadyInitialized (realm : String) : String := s!"realm '{realm}' already initialized"

/-- A decision is for a run that is forced or whose realm is not marked. -/
structure Decides (force : Bool) (store : Store) (realm : String) (decision : Decision) : Prop where
  proceeds : decision.proceeds = (force || !markerIsSet (markerOf store realm))
  reason : decision.proceeds = false → decision.reason = some (alreadyInitialized realm)

/-- To decide changes nothing, and only a fault keeps from a decision. -/
theorem reaches_decideByMarker (force : Bool) (realm : String) :
    Reaches faults (decideByMarker force realm) store fun outcome later => later = store ∧
      match outcome with
      | .ok decision => Decides force store realm decision
      | .error _ => force = false ∧ faults ≠ Faults.none := by
  cases force with
  | true => exact reaches_pure ⟨rfl, rfl, fun never => by cases never⟩
  | false =>
      cases known : store.realms.get? realm with
      | none =>
          refine reaches_explained_bind (Store.answer_getRealm_of_absent known)
            (fun _ faulty => ⟨rfl, rfl, ne_none_of_faulty faulty⟩) (reaches_pure ⟨rfl, ?_, ?_⟩)
          · rw [markerOf_eq_of_absent known]
            rfl
          · exact fun never => by cases never
      | some held =>
          refine reaches_explained_bind (Store.answer_getRealm known)
            (fun _ faulty => ⟨rfl, rfl, ne_none_of_faulty faulty⟩) ?_
          have marker : (held.record realm).attribute? initializedMarker =
              markerOf store realm := (markerOf_eq_of_found known).symm
          dsimp only
          rw [marker]
          cases isSet : markerIsSet (markerOf store realm) with
          | true => exact reaches_pure ⟨rfl, by rw [isSet]; rfl, fun _ => rfl⟩
          | false => exact reaches_pure ⟨rfl, by rw [isSet]; rfl, fun never => by cases never⟩

/-! ## Runs that are decided upon -/

/-- What a run that was decided upon comes to: what applying the blueprint comes to, and nothing
where the decision was against it. -/
theorem run_initializeRealm (blueprint : Blueprint) {force : Bool} {decision : Decision}
    (decided : (decideByMarker force blueprint.realm.name).run.run (respond faults) store =
      (.ok decision, store)) :
    (initializeRealm true force blueprint).run.run (respond faults) store =
      if decision.proceeds then
        (((apply blueprint).run.run (respond faults) store).1.map fun report =>
            (.ofReport report, some report),
          ((apply blueprint).run.run (respond faults) store).2)
      else (.ok (.skipped (decision.reason.getD unexplainedReason), none), store) := by
  have unfolded : initializeRealm true force blueprint =
      decideByMarker force blueprint.realm.name >>= fun decision =>
        if decision.proceeds then do
          let report ← apply blueprint
          pure (.ofReport report, some report)
        else pure (.skipped (decision.reason.getD unexplainedReason), none) := rfl
  rw [unfolded, run_bind, Dialogue.run_andThen, decided]
  show (if decision.proceeds then do
      let report ← apply blueprint
      pure (.ofReport report, some report)
    else pure (.skipped (decision.reason.getD unexplainedReason), none) :
      Part (Outcome × Option Report)).run.run (respond faults) store = _
  split
  · rw [run_bind_pure, Dialogue.run_andThen]
    rfl
  · rfl

/-- Without faults, an unforced run applies the blueprint unless the realm is marked. -/
theorem run_initializeRealm_unforced (blueprint : Blueprint) (store : Store) :
    (initializeRealm true false blueprint).run.run (respond Faults.none) store =
      if markerIsSet (markerOf store blueprint.realm.name) then
        (.ok (.skipped (alreadyInitialized blueprint.realm.name), none), store)
      else (((apply blueprint).run.run (respond Faults.none) store).1.map fun report =>
          (.ofReport report, some report),
        ((apply blueprint).run.run (respond Faults.none) store).2) := by
  have deciding : Reaches Faults.none (decideByMarker false blueprint.realm.name) store _ :=
    reaches_decideByMarker false blueprint.realm.name
  unfold Reaches at deciding
  generalize came : (decideByMarker false blueprint.realm.name).run.run
    (respond Faults.none) store = reached at deciding
  obtain ⟨outcome, later⟩ := reached
  obtain ⟨rfl, decides⟩ := deciding
  cases outcome with
  | error failure => exact absurd rfl decides.2
  | ok decision =>
      obtain ⟨proceeds, reason⟩ := decides
      rw [run_initializeRealm blueprint came, proceeds]
      cases isSet : markerIsSet (markerOf later blueprint.realm.name) with
      | false => rfl
      | true =>
          rw [isSet] at proceeds
          rw [reason proceeds]
          rfl

/-! ## Runs after an aborted one -/

/-- A run that was decided upon and then failed leaves the marker of its realm as it was: it is the
passes that failed, because to decide changes nothing. -/
theorem markerOf_of_aborted {blueprint : Blueprint} {force : Bool} {decision : Decision}
    {failure : Failure}
    (decided : (decideByMarker force blueprint.realm.name).run.run (respond faults) store =
      (.ok decision, store))
    (proceeds : decision.proceeds = true)
    (aborted : ((initializeRealm true force blueprint).run.run (respond faults) store).1 =
      .error failure) :
    markerOf ((initializeRealm true force blueprint).run.run (respond faults) store).2
      blueprint.realm.name = markerOf store blueprint.realm.name := by
  have marks : Reaches faults (apply blueprint) store _ := marks_apply blueprint
  unfold Reaches at marks
  rw [run_initializeRealm blueprint decided, if_pos proceeds] at aborted ⊢
  generalize (apply blueprint).run.run (respond faults) store = came at marks aborted ⊢
  obtain ⟨outcome, last⟩ := came
  cases outcome with
  | ok report => cases aborted
  | error _ => exact marks

/-- **An aborted run is retried unless its realm was marked before.** A run that was decided upon
and then failed leaves the marker of its realm as it was. Over a realm that was not marked, the next
unforced run without faults applies the blueprint. Only a forced run enters a realm that was marked,
and after it has failed the next unforced run is skipped. -/
theorem initialize_after_abort (service : Service) (blueprint : Blueprint) (force : Bool)
    {decision : Decision} {failure : Failure}
    (decided : (service.talk (decideByMarker force blueprint.realm.name).run).1 = .ok decision)
    (proceeds : decision.proceeds = true)
    (aborted : (service.talk (initializeRealm true force blueprint).run).1 = .error failure) :
    let later := (service.talk (initializeRealm true force blueprint).run).2.clearFaults
    let next := later.talk (initializeRealm true false blueprint).run
    let applied := later.talk (apply blueprint).run
    markerOf later.store blueprint.realm.name = markerOf service.store blueprint.realm.name ∧
    (markerIsSet (markerOf service.store blueprint.realm.name) = false →
      next.1 = (applied.1.map fun report => (.ofReport report, some report)) ∧
        next.2.store = applied.2.store) ∧
    (markerIsSet (markerOf service.store blueprint.realm.name) = true →
      force = true ∧ next.2.store = later.store ∧
        next.1 = .ok (.skipped (alreadyInitialized blueprint.realm.name), none)) := by
  intro later next applied
  rw [talk_value] at decided aborted
  have deciding : Reaches service.faults (decideByMarker force blueprint.realm.name) service.store
    _ := reaches_decideByMarker force blueprint.realm.name
  obtain ⟨same, decides⟩ := deciding
  rw [show ((decideByMarker force blueprint.realm.name).run.run (respond service.faults)
    service.store).1 = .ok decision from decided] at decides
  have kept : markerOf later.store blueprint.realm.name =
      markerOf service.store blueprint.realm.name := by
    rw [show later.store = _ from talk_store service _]
    exact markerOf_of_aborted (Prod.ext decided same) proceeds aborted
  refine ⟨kept, fun unmarked => ?_, fun marked => ?_⟩
  · have unforced := run_initializeRealm_unforced blueprint later.store
    rw [kept, unmarked] at unforced
    rw [talk_value, talk_store, talk_value, talk_store]
    exact ⟨congrArg Prod.fst unforced, congrArg Prod.snd unforced⟩
  · have unforced := run_initializeRealm_unforced blueprint later.store
    rw [kept, marked] at unforced
    rw [talk_store, talk_value]
    refine ⟨?_, congrArg Prod.snd unforced, congrArg Prod.fst unforced⟩
    have either := proceeds.symm.trans decides.proceeds
    rw [marked] at either
    simpa using either.symm

/-- A service that holds the school, marked as finished but without roles, and cannot create any. -/
def markedSchool : Service :=
  { store := Store.prepare {} (.realm "school" true (.ofList [(initializedMarker, "true")]))
    faults := fun operation =>
      if operation = .createRealmRole then some (.api 500 "down") else none }

theorem reachable_markedSchool : markedSchool.Reachable :=
  .failing .createRealmRole (.api 500 "down")
    (.seeded (.realm "school" true (.ofList [(initializedMarker, "true")])) .new)

/-- A forced run over the marked school is decided upon and fails in the third pass. The next run is
skipped. -/
theorem initialize_after_abort_school :
    let failed := markedSchool.talk (initializeRealm true true Blueprint.school).run
    (markedSchool.talk (decideByMarker true "school").run).1 =
        .ok ⟨true, some "forced by configuration"⟩ ∧
      failed.1 = .error (.call 3 (.createRealmRole "TEACHER") (.api 500 "down")) ∧
      (failed.2.clearFaults.talk (initializeRealm true false Blueprint.school).run).1 =
        .ok (.skipped "realm 'school' already initialized", none) := by
  have failed : (markedSchool.talk (initializeRealm true true Blueprint.school).run).1 =
      .error (.call 3 (.createRealmRole "TEACHER") (.api 500 "down")) := rfl
  have decided : (markedSchool.talk (decideByMarker true "school").run).1 =
      .ok ⟨true, some "forced by configuration"⟩ := rfl
  obtain ⟨-, -, marked⟩ :=
    initialize_after_abort markedSchool Blueprint.school true decided rfl failed
  exact ⟨decided, failed, (marked (by decide +kernel)).2.2⟩

/-- An aborted run is not always retried: after the forced run over the marked school has failed,
the marker reads as set, and the next unforced run without faults is skipped although the role
`TEACHER` is missing. -/
theorem initialize_after_abort_unretried :
    ∃ (service : Service) (decision : Decision) (failure : Failure) (reason : String),
      service.Reachable ∧
      (service.talk (decideByMarker true Blueprint.school.realm.name).run).1 = .ok decision ∧
      decision.proceeds = true ∧
      (service.talk (initializeRealm true true Blueprint.school).run).1 = .error failure ∧
      let later := (service.talk (initializeRealm true true Blueprint.school).run).2.clearFaults
      markerIsSet (markerOf later.store Blueprint.school.realm.name) = true ∧
      later.store.realmRole? Blueprint.school.realm.name "TEACHER" = none ∧
      (later.talk (initializeRealm true false Blueprint.school).run).1 =
        .ok (.skipped reason, none) :=
  ⟨markedSchool, ⟨true, some "forced by configuration"⟩,
    .call 3 (.createRealmRole "TEACHER") (.api 500 "down"), "realm 'school' already initialized",
    reachable_markedSchool, rfl, rfl, rfl, by decide +kernel, by decide +kernel, rfl⟩

end RealmConvergence.Convergence
