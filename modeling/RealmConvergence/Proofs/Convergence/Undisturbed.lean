import Mathlib.Data.List.Nodup
import RealmConvergence.Proofs.Convergence.Asking
import RealmConvergence.Proofs.Convergence.AbreastPasses
import RealmConvergence.Proofs.Service.SeenSame

/-!
# Runs amid calls about other realms

While a run takes place, a service may be called by others. As long as they call it about other
realms alone, the run makes calls of the same operations as if it were alone, comes to the same
outcome, and leaves its realm looking the same, but for identifiers and made-up secrets; and its own
calls leave the other realms as they are (`apply_undisturbed`). In particular two runs for different
realms may take turns in any way (`applies_undisturbed`).

The run amid other calls is compared with the run alone: they start from one store, and stay abreast
of each other (`abreast_apply`).
-/

set_option autoImplicit false

namespace RealmConvergence.Convergence

open Service

variable {faults : Faults} {store : Store} {blueprint : Blueprint}

/-- The lens of a run tells the secrets that the run compares. -/
theorem lensOfRun_tells (distinct : blueprint.Distinct) :
    ∀ desired ∈ blueprint.clients, desired.secret.isSome = true →
      (lensOfRun blueprint store).hidden desired.clientId = false := by
  intro desired listed given
  simp only [lensOfRun, makesUpSecret, Bool.and_eq_false_imp, List.any_eq_false]
  rintro - other otherListed secretless
  simp only [Bool.and_eq_true, beq_iff_eq] at secretless
  obtain ⟨⟨same, -⟩, none⟩ := secretless
  obtain rfl : other = desired :=
    List.inj_on_of_nodup_map (List.pairwise_map.2 distinct.clients) otherListed listed same
  rw [Option.isNone_iff_eq_none.1 none] at given
  cases given

/-- **A run is abreast of itself.** -/
theorem abreast_apply (readable : store.Readable (lensOfRun blueprint store)) :
    Abreast (lensOfRun blueprint store) faults blueprint.realm.name (apply blueprint)
      (apply blueprint) store store fun report twinReport _ _ => report = twinReport := by
  have twins : Twins (lensOfRun blueprint store) blueprint.realm.name store store
      (store.realms.get? blueprint.realm.name) (store.realms.get? blueprint.realm.name) :=
    ⟨readable, readable, rfl, rfl, rfl, rfl⟩
  cases valid : blueprint.validate with
  | error violation =>
      unfold apply
      rw [valid]
      exact abreast_throw twins
  | ok =>
      have distinct := Blueprint.validate_eq_ok valid
      rw [apply_of_valid valid, passes_eq]
      have first : Abreast (lensOfRun blueprint store) faults blueprint.realm.name
          (realmPass blueprint.realm) (realmPass blueprint.realm) store store
          fun value twinValue place twinPlace => Same value twinValue place twinPlace ∧
            ∃ held, place = some held ∧ ∀ clientId, (held.client? clientId).isSome =
              comesWith store blueprint.realm.name clientId :=
        (abreast_realmPass distinct.named twins).and_reaches
          (reaches_realmPass_comesWith distinct.named)
      have all : Abreast (lensOfRun blueprint store) faults blueprint.realm.name
          (realmPass blueprint.realm >>= laterPasses blueprint)
          (realmPass blueprint.realm >>= laterPasses blueprint) store store Same := by
        refine first.bind ?_
        rintro value twinValue later twinLater place twinPlace twins
          ⟨⟨rfl, held, twinHeld, rfl, rfl, -⟩, other, isOther, comes⟩
        cases isOther
        exact abreast_laterPasses twins (discreet_lensOfRun comes) (lensOfRun_tells distinct) value
      refine all.bind_same ?_
      exact fun findings later twinLater held twinHeld twins _ => abreast_pure twins rfl

/-! ## Services -/

/-- A service answered a call about another realm. -/
def CalledElsewhere (realm : String) (before after : Service) : Prop :=
  ∃ call : AdminCall, call.realm ≠ realm ∧ after = (before.answer call).2

/-- Amid calls to a service about other realms, its store is that of a conversation amid them. -/
theorem amid_respond {α : Type} {realm : String} {conversation : Talk α} {service last : Service}
    {calls : List AdminCall} {value : α} (isFaults : service.faults = faults)
    (amid : Dialogue.Amid Service.answer (CalledElsewhere realm) conversation service calls value
      last) :
    Dialogue.Amid (respond faults) (Elsewhere faults realm) conversation service.store calls value
      last.store := by
  induction amid with
  | conclude value service => exact .conclude value service.store
  | ask later ih =>
      subst isFaults
      rw [Service.answer_eq] at ih
      exact .ask (ih rfl)
  | meanwhile move later ih =>
      obtain ⟨call, elsewhere, rfl⟩ := move
      subst isFaults
      rw [Service.answer_eq] at ih
      exact .meanwhile ⟨call, elsewhere, rfl⟩ (ih rfl)

variable {service last : Service} {calls : List AdminCall} {outcome : Except Failure Report}

/-- What a run comes to amid calls about other realms is what it comes to alone. -/
theorem alike_amid (reachable : service.Reachable) (blueprint : Blueprint)
    (amid : Dialogue.Amid Service.answer (CalledElsewhere blueprint.realm.name)
      (apply blueprint).run service calls outcome last) :
    let alone := service.talk (apply blueprint).run
    outcome = alone.1 ∧
      alone.2.calls.map AdminCall.operation =
        service.calls.map AdminCall.operation ++ calls.map AdminCall.operation ∧
        Store.SeenSame (lensOfRun blueprint service.store) blueprint.realm.name alone.2.store
          last.store := by
  have readable : service.store.Readable (lensOfRun blueprint service.store) :=
    ⟨reachable.sound, reachable.linked, Nat.le_refl _⟩
  obtain ⟨sameCalls, place, twinPlace, twins, agree⟩ :=
    abreast_apply readable calls outcome last.store (amid_respond rfl amid)
  rw [talk_eq]
  refine ⟨?_, ?_, ?_⟩
  · exact (agree.eq fun _ _ same => same).symm
  · rw [List.map_append, sameCalls]
  · refine Store.SeenSame.of_view?_eq twins.readable.sound twins.twinReadable.sound ?_
    rw [Store.view?, Store.view?, twins.there, twins.twinThere, twins.alike]

/-- **Calls about other realms do not disturb a run.** When a service that can be reached answers
calls about other realms at any time during a run, the run makes calls of the same operations as it
does alone, comes to the same outcome, and leaves its realm looking the same, but for the
identifiers that are drawn and the secrets that are made up meanwhile. No call of the run changes
another realm. -/
theorem apply_undisturbed (reachable : service.Reachable) (blueprint : Blueprint)
    (amid : Dialogue.Amid Service.answer (CalledElsewhere blueprint.realm.name)
      (apply blueprint).run service calls outcome last) :
    let alone := service.talk (apply blueprint).run
    (outcome = alone.1 ∧
      alone.2.calls.map AdminCall.operation =
        service.calls.map AdminCall.operation ++ calls.map AdminCall.operation ∧
        Store.SeenSame (lensOfRun blueprint service.store) blueprint.realm.name alone.2.store
          last.store) ∧
      ∀ call ∈ calls, ∀ (between : Service) (other : String), other ≠ blueprint.realm.name →
        (between.answer call).2.store.realms.get? other = between.store.realms.get? other := by
  refine ⟨alike_amid reachable blueprint amid, fun call member between other different => ?_⟩
  have about : About blueprint.realm.name call := (asks_apply blueprint).amid amid call member
  have elsewhere : other ≠ call.realm := fun isIt => different (isIt.trans about)
  rw [Service.answer_eq]
  refine respond_keeps (fun later => later.realms.get? other = between.store.realms.get? other)
    rfl ?_
  rw [Store.answer_elsewhere between.store call elsewhere]

/-- While the school is being set up, the realm of an office is created after the first call. -/
theorem apply_undisturbed_school :
    ∃ (between : Service) (resume : AdminCall.Reply (.getRealm "school") →
        Talk (Except Failure Report)),
      between = ((({} : Service).answer (.getRealm "school")).2.answer
        (.createRealm { realm := some "office" })).2 ∧
      (apply Blueprint.school).run = .ask (.getRealm "school") resume ∧
        ((resume (.ok none)).run Service.answer between).1 =
          (({} : Service).talk (apply Blueprint.school).run).1 ∧
          Store.SeenSame (lensOfRun Blueprint.school {}) "school"
            (({} : Service).talk (apply Blueprint.school).run).2.store
            ((resume (.ok none)).run Service.answer between).2.store := by
  have valid : Blueprint.school.validate = .ok () := by decide +kernel
  obtain ⟨resume, starts⟩ : ∃ resume : AdminCall.Reply (.getRealm "school") →
      Talk (Except Failure Report),
      (apply Blueprint.school).run = .ask (.getRealm "school") resume := by
    rw [apply_of_valid valid]
    exact ⟨_, rfl⟩
  refine ⟨_, resume, rfl, starts, ?_⟩
  generalize isBetween : ((({} : Service).answer (.getRealm "school")).2.answer
    (.createRealm { realm := some "office" })).2 = between
  have moves : CalledElsewhere "school" (({} : Service).answer (.getRealm "school")).2 between :=
    ⟨.createRealm { realm := some "office" }, by decide, isBetween.symm⟩
  obtain ⟨calls, amid⟩ : ∃ calls, Dialogue.Amid Service.answer (CalledElsewhere "school")
      (apply Blueprint.school).run {} calls ((resume (.ok none)).run Service.answer between).1
      ((resume (.ok none)).run Service.answer between).2 := by
    rw [starts]
    exact ⟨_, .ask (.meanwhile moves (Dialogue.amid_run (resume (.ok none)) between))⟩
  obtain ⟨⟨same, -, seen⟩, -⟩ := apply_undisturbed .new Blueprint.school amid
  exact ⟨same, seen⟩

/-- **Two runs for different realms that take turns in any way do not disturb each other.** -/
theorem applies_undisturbed (reachable : service.Reachable) {one other : Blueprint}
    (different : one.realm.name ≠ other.realm.name) {otherOutcome : Except Failure Report}
    (turns : Dialogue.TakeTurns Service.answer (apply one).run (apply other).run service outcome
      otherOutcome last) :
    let alone (blueprint : Blueprint) := service.talk (apply blueprint).run
    (outcome = (alone one).1 ∧ otherOutcome = (alone other).1) ∧
      Store.SeenSame (lensOfRun one service.store) one.realm.name (alone one).2.store last.store ∧
        Store.SeenSame (lensOfRun other service.store) other.realm.name (alone other).2.store
          last.store := by
  have elsewhere {realm otherRealm : String} (apart : otherRealm ≠ realm) (call : AdminCall)
      (about : About otherRealm call) : call.realm ≠ realm :=
    fun isIt => apart (about.symm.trans isIt)
  obtain ⟨calls, amid⟩ := turns.amid ((asks_apply other).mono (elsewhere different.symm))
  obtain ⟨otherCalls, otherAmid⟩ := turns.symm.amid ((asks_apply one).mono (elsewhere different))
  obtain ⟨same, -, seen⟩ := alike_amid reachable one amid
  obtain ⟨otherSame, -, otherSeen⟩ := alike_amid reachable other otherAmid
  exact ⟨⟨same, otherSame⟩, seen, otherSeen⟩

end RealmConvergence.Convergence
