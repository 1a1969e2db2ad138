import RealmConvergence.Proofs.Convergence.Retrying
import RealmConvergence.Proofs.Outcome

/-!
# A marked realm is left alone from then on

Once the marker of a realm reads as set, no run takes it away: a run for the realm leaves the marker
set or, if it fails, as it was, a run for another realm does not touch it, and to decide whether a
run takes place only reads. So the marker stays through any sequence of runs, with whatever
blueprints, decisions and faults (`AfterRuns.marked`), and from then on every unforced run for the
realm is skipped after a single look at it (`initialize_stays_skipped`).
-/

set_option autoImplicit false

namespace RealmConvergence.Convergence

open Service

/-- The marker of a realm reads as set. -/
def Marked (store : Store) (realm : String) : Prop :=
  markerIsSet (markerOf store realm) = true

/-- A decision is made without a call that writes. -/
def DecidesByReading (decide : Part Decision) : Prop :=
  Asks (fun call => call.operation.isMutating = false) decide

/-- The later service comes from the first one by runs alone. The runs may be for any blueprints,
may be switched off, forced or decided upon otherwise, and each may meet other faults. -/
inductive AfterRuns (first : Service) : Service → Prop where
  /-- There was no run. -/
  | none : AfterRuns first first
  /-- Other operations were told to fail, or none. -/
  | faulty {service : Service} (faults : Faults) (before : AfterRuns first service) :
      AfterRuns first { service with faults }
  /-- A blueprint was applied, or the attempt was made. -/
  | applied {service : Service} (blueprint : Blueprint) (before : AfterRuns first service) :
      AfterRuns first (service.talk (apply blueprint).run).2
  /-- It was decided whether a blueprint is applied, and the decision was followed. -/
  | initialized {service : Service} (enabled : Bool) (decide : Part Decision)
      (reads : DecidesByReading decide) (blueprint : Blueprint)
      (before : AfterRuns first service) :
      AfterRuns first (service.talk (initializeBy enabled decide blueprint).run).2

variable {faults : Faults} {store : Store} {realm : String} {blueprint : Blueprint}

/-! ## One run -/

theorem decidesByReading_decideByMarker (force : Bool) (realm : String) :
    DecidesByReading (decideByMarker force realm) := by
  cases force with
  | true => exact asks_pure _
  | false =>
      have looks : Asks (fun call => call.operation.isMutating = false)
          (explained (Failure.markerUnread realm) (.getRealm realm)) := asks_explained rfl
      refine looks.bind fun current => ?_
      cases current with
      | none => exact asks_pure _
      | some current =>
          dsimp only
          split
          · exact asks_pure _
          · exact asks_pure _

/-- **A run keeps the marker of every marked realm,** that of its own realm and that of any
other. -/
theorem marked_apply (blueprint : Blueprint) (marked : Marked store realm) :
    Reaches faults (apply blueprint) store fun _ later => Marked later realm := by
  by_cases own : realm = blueprint.realm.name
  · subst own
    refine (marks_apply blueprint).mono fun outcome later marks => ?_
    cases outcome with
    | ok report => exact marks
    | error failure =>
        have same : markerOf later blueprint.realm.name = markerOf store blueprint.realm.name :=
          marks
        rw [Marked, same]
        exact marked
  · have same := markerOf_congr
      (congrArg (Option.map StoredRealm.attributes) (run_elsewhere blueprint faults store own))
    show Marked _ realm
    rw [Marked, same]
    exact marked

/-- To decide and to follow the decision keeps it as well. -/
theorem marked_initializeBy (enabled : Bool) {decide : Part Decision}
    (reads : DecidesByReading decide) (blueprint : Blueprint) (marked : Marked store realm) :
    Reaches faults (initializeBy enabled decide blueprint) store fun _ later =>
      Marked later realm := by
  unfold initializeBy
  split
  · exact reaches_pure marked
  · have decided : Reaches faults decide store fun _ later => Marked later realm := by
      show Marked (decide.run.run (respond faults) store).2 realm
      rw [run_store_of_reads (Dialogue.AsksOnly.asked reads (respond faults) store)]
      exact marked
    refine decided.bind (fun _ _ stays => stays) fun decision later stays => ?_
    split
    · exact (marked_apply blueprint stays).bind (fun _ _ kept => kept) fun _ _ kept =>
        reaches_pure kept
    · exact reaches_pure stays

/-- An unforced decision looks at the realm first, and is made then if the realm is marked. -/
theorem decideByMarker_looks (realm : String) :
    ∃ resume, (decideByMarker false realm).run = .ask (.getRealm realm) resume ∧
      ∀ current : RealmRecord, markerIsSet (current.attribute? initializedMarker) = true →
        resume (.ok (some current)) =
          .conclude (.ok ⟨false, some (alreadyInitialized realm)⟩) :=
  ⟨_, rfl, fun _ isSet => congrArg ExceptT.run (if_pos isSet)⟩

/-- An unforced run over a marked realm that can be read asks for the realm, and ends there. -/
theorem run_initializeRealm_of_marked (marked : Marked store blueprint.realm.name)
    (readable : faults .getRealm = none) :
    (initializeRealm true false blueprint).run.run (respond faults) store =
        (.ok (.skipped (alreadyInitialized blueprint.realm.name), none), store) ∧
      (initializeRealm true false blueprint).run.asked (respond faults) store =
        [.getRealm blueprint.realm.name] := by
  cases known : store.realms.get? blueprint.realm.name with
  | none =>
      rw [Marked, markerOf_eq_of_absent known] at marked
      cases marked
  | some held =>
      rw [Marked, markerOf_eq_of_found known] at marked
      have replied : respond faults (.getRealm blueprint.realm.name) store =
          (.ok (some (held.record blueprint.realm.name)), store) := by
        rw [respond_of_faultless readable, Store.answer_getRealm known]
      obtain ⟨resume, looks, ends⟩ := decideByMarker_looks blueprint.realm.name
      have ended := ends (held.record blueprint.realm.name) marked
      have decided : (decideByMarker false blueprint.realm.name).run.run (respond faults) store =
          (.ok ⟨false, some (alreadyInitialized blueprint.realm.name)⟩, store) := by
        simp only [looks, Dialogue.run, replied, ended]
      have asked : (decideByMarker false blueprint.realm.name).run.asked (respond faults) store =
          [.getRealm blueprint.realm.name] := by
        simp only [looks, Dialogue.asked, replied, ended]
      refine ⟨run_initializeRealm blueprint decided, ?_⟩
      have followed : (initializeRealm true false blueprint).run =
          (decideByMarker false blueprint.realm.name).run.andThen _ := rfl
      rw [followed, Dialogue.asked_andThen, decided, asked]
      rfl

/-! ## Any number of runs -/

/-- **The marker stays through any sequence of runs.** -/
theorem AfterRuns.marked {first later : Service} (runs : AfterRuns first later)
    (marked : Marked first.store realm) : Marked later.store realm := by
  induction runs with
  | none => exact marked
  | faulty faults _ ih => exact ih
  | applied blueprint _ ih =>
      rw [talk_store]
      exact marked_apply blueprint ih
  | initialized enabled decide reads blueprint _ ih =>
      rw [talk_store]
      exact marked_initializeBy enabled reads blueprint ih

/-- **Once initialized, always skipped.** A run that comes to a report leaves its realm marked. From
a service whose realm is marked, after any sequence of runs with whatever blueprints, decisions and
faults, an unforced run for the realm is skipped because the realm is initialized, unless the realm
cannot be read. It makes a single call, which asks for the realm, comes without a report and changes
nothing but the log. -/
theorem initialize_stays_skipped :
    (∀ (service : Service) (blueprint : Blueprint) (report : Report),
      (service.talk (apply blueprint).run).1 = .ok report →
        Marked (service.talk (apply blueprint).run).2.store blueprint.realm.name) ∧
    ∀ (first later : Service) (blueprint : Blueprint),
      Marked first.store blueprint.realm.name → AfterRuns first later →
        later.faults .getRealm = none →
          later.talk (initializeRealm true false blueprint).run =
            (.ok (.skipped (alreadyInitialized blueprint.realm.name), none),
              { later with calls := later.calls ++ [.getRealm blueprint.realm.name] }) := by
  constructor
  · intro service blueprint report finished
    have marks : Reaches service.faults (apply blueprint) service.store _ := marks_apply blueprint
    rw [talk_value] at finished
    rw [talk_store]
    unfold Reaches at marks
    rw [finished] at marks
    exact marks
  · intro first later blueprint marked runs readable
    obtain ⟨skips, asks⟩ := run_initializeRealm_of_marked (runs.marked marked) readable
    rw [talk_eq, skips, asks]

/-- The school is marked. After a forced run for it that fails because roles cannot be created, and
a run for another realm without faults, the next unforced run for the school is skipped. -/
theorem initialize_stays_skipped_school :
    let other : Blueprint := { realm := { name := "college" } }
    let forced := (markedSchool.talk (initializeRealm true true Blueprint.school).run).2
    let later := ({ forced with faults := .none } : Service).talk (apply other).run
    Marked markedSchool.store "school" ∧ AfterRuns markedSchool later.2 ∧
      later.2.faults .getRealm = none ∧
      later.2.talk (initializeRealm true false Blueprint.school).run =
        (.ok (.skipped "realm 'school' already initialized", none),
          { later.2 with calls := later.2.calls ++ [.getRealm "school"] }) ∧
      ∃ report, later.1 = .ok report ∧ Marked later.2.store "college" := by
  intro other forced later
  have marked : markerIsSet (markerOf markedSchool.store "school") = true := by decide +kernel
  have runs : AfterRuns markedSchool later.2 :=
    .applied other (.faulty .none
      (.initialized true _ (decidesByReading_decideByMarker true "school") Blueprint.school .none))
  obtain ⟨report, finished, -⟩ : ∃ report, later.1 = .ok report ∧ report.finished = true :=
    exists_of_toOption_map (by decide +kernel)
  have readable : later.2.faults .getRealm = none := by
    simp only [later, talk_eq, Faults.none]
  obtain ⟨marks, skips⟩ := initialize_stays_skipped
  exact ⟨marked, runs, readable, skips markedSchool later.2 Blueprint.school marked runs readable,
    report, finished, marks _ other report finished⟩

end RealmConvergence.Convergence
