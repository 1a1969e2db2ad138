import RealmConvergence.Blueprint.Samples
import RealmConvergence.Proofs.Convergence.Run

/-!
# Runs at rest

On a sound store in which every item of a blueprint is settled, no part of a run for that blueprint
makes a call that writes, and what it finds out is that everything is unchanged or left out
(`rests_apply`). Only a fault stops such a run.
-/

set_option autoImplicit false

namespace RealmConvergence.Convergence

open Service

variable {α β : Type} {faults : Faults} {store : Store} {realm key : String} {held : StoredRealm}
  {blueprint : Blueprint}

/-! ## Quiet findings -/

/-- Nothing was created or updated. -/
def Quiet (found : Findings) : Prop :=
  ∀ step ∈ found.steps, step.action = .unchanged ∨ step.action = .skipped

/-- A part came to quiet findings, or a fault stopped it. -/
def EndsQuietly (faults : Faults) : Except Failure Findings → Prop
  | .ok found => Quiet found
  | .error _ => faults ≠ Faults.none

theorem quiet_unchanged (kind : ResourceKind) (name : String) :
    Quiet (.step kind name .unchanged) := by
  intro step member
  rcases List.mem_singleton.1 member with rfl
  exact .inl rfl

theorem quiet_skipped (kind : ResourceKind) (name : String) (detail : Option String) :
    Quiet (.step kind name .skipped detail) := by
  intro step member
  rcases List.mem_singleton.1 member with rfl
  exact .inr rfl

theorem quiet_warning (text : String) : Quiet (.warning text) := by
  intro step member
  cases member

theorem Quiet.append {first second : Findings} (quiet : Quiet first) (later : Quiet second) :
    Quiet (first ++ second) := by
  intro step member
  rcases List.mem_append.1 member with earlier | after
  · exact quiet step earlier
  · exact later step after

/-- Parts that end quietly one by one end quietly one after the other. -/
theorem rests_forEach {items : List α} {part : α → Part Findings}
    (each : ∀ item ∈ items, Rests faults (part item) store (EndsQuietly faults)) :
    Rests faults (forEach items part) store (EndsQuietly faults) := by
  induction items with
  | nil => exact rests_pure fun step member => by cases member
  | cons item rest ih =>
      refine (each item List.mem_cons_self).bind (fun _ stop => stop) fun found quiet => ?_
      have others := ih fun other member => each other (List.mem_cons_of_mem item member)
      refine others.bind (fun _ stop => stop) fun later laterQuiet => ?_
      exact rests_pure (quiet.append laterQuiet)

theorem quiet_skippedRoles (clientId : String) (roles : List Blueprint.ClientRole) :
    Quiet (skippedRoles clientId roles) := by
  refine (quiet_warning _).append fun step member => ?_
  obtain ⟨found, listed, isStep⟩ := List.mem_flatMap.1 member
  obtain ⟨role, -, rfl⟩ := List.mem_map.1 listed
  exact quiet_skipped _ _ _ step isStep

/-! ## Single parts -/

/-- The first pass rests on a realm that is as desired. -/
theorem rests_realmPass {desired : Blueprint.Realm}
    (found : store.realms.get? desired.name = some held) (settled : Settled (.realm desired) held) :
    Rests faults (realmPass desired) store (EndsQuietly faults) := by
  refine rests_explained_bind rfl (Store.answer_getRealm found)
    (fun _ faulty => ne_none_of_faulty faulty) ?_
  dsimp only
  rw [realmChanges_eq_nil_iff.2 settled]
  exact rests_pure (quiet_unchanged _ _)

/-- Nothing is to be done about a secret that is the desired one. -/
theorem rests_secretDiffers {desired : Blueprint.Client} {stored : StoredClient}
    (found : store.realms.get? realm = some held) (present : held.clients.get? key = some stored)
    (keepsSecret : KeepsSecret stored.record desired) :
    Rests faults (secretDiffers realm key desired) store fun outcome => match outcome with
      | .ok rotates => rotates = false
      | .error _ => faults ≠ Faults.none := by
  unfold secretDiffers
  split
  · exact rests_pure rfl
  · next secret given =>
    refine rests_explained_bind rfl (Store.answer_getClientSecret found present)
      (fun _ faulty => ne_none_of_faulty faulty) ?_
    rw [keepsSecret secret given]
    exact rests_pure (by simp)

/-- The second pass rests on a client that is as desired. -/
theorem rests_convergeClient {desired : Blueprint.Client} (sound : store.Sound)
    (found : store.realms.get? realm = some held) (settled : Settled (.client desired) held) :
    Rests faults (convergeClient realm desired) store (EndsQuietly faults) := by
  obtain ⟨key, stored, known, fits, keepsSecret⟩ := settled
  obtain ⟨present, -⟩ := StoredRealm.get?_of_client? known
  have ownId := (sound realm held found).ownId_of_client? known
  have answers := Store.answer_findClient found desired.clientId
  rw [known] at answers
  refine rests_explained_bind rfl answers (fun _ faulty => ne_none_of_faulty faulty) ?_
  dsimp only [Option.map_some]
  rw [ownId]
  refine (rests_secretDiffers found present keepsSecret).bind (fun _ stop => stop) ?_
  rintro rotates rfl
  have nothing : changedFields (clientPatch stored.record desired) = [] :=
    changedFields_clientPatch_eq_nil_iff.2 fits
  show Rests faults (if (changedFields (clientPatch stored.record desired)).isEmpty then
    rotateSecret realm key desired false else _) store _
  rw [nothing]
  exact rests_pure (quiet_unchanged _ _)

/-- The third pass rests on a role that is as desired. -/
theorem rests_convergeRealmRole {desired : Blueprint.Role}
    (found : store.realms.get? realm = some held) (settled : Settled (.realmRole desired) held) :
    Rests faults (convergeRealmRole realm desired) store (EndsQuietly faults) := by
  obtain ⟨stored, there, described⟩ := settled
  have answers := Store.answer_getRealmRole found desired.name
  rw [there] at answers
  refine rests_explained_bind rfl answers (fun _ faulty => ne_none_of_faulty faulty) ?_
  dsimp only
  rw [newDescription?_eq_none_iff.2 described]
  exact rests_pure (quiet_unchanged _ _)

/-- The fourth pass rests on a role of a client that is as desired. -/
theorem rests_convergeClientRole {desired : Blueprint.ClientRole} {owner : StoredClient}
    (found : store.realms.get? realm = some held)
    (known : held.client? desired.clientId = some (key, owner))
    (settled : Settled (.clientRole desired) held) :
    Rests faults (convergeClientRole realm key desired) store (EndsQuietly faults) := by
  obtain ⟨stored, there, described⟩ := settled key owner known
  obtain ⟨present, -⟩ := StoredRealm.get?_of_client? known
  have answers := Store.answer_getClientRole found present desired.name
  rw [there] at answers
  refine rests_explained_bind rfl answers (fun _ faulty => ne_none_of_faulty faulty) ?_
  dsimp only
  rw [newDescription?_eq_none_iff.2 described]
  exact rests_pure (quiet_unchanged _ _)

/-- The fourth pass rests on the roles of one client that are as desired, or without the client. -/
theorem rests_convergeClientRoles {group : String × List Blueprint.ClientRole} (sound : store.Sound)
    (owned : ∀ role ∈ group.2, role.clientId = group.1)
    (found : store.realms.get? realm = some held)
    (settled : ∀ role ∈ group.2, Settled (.clientRole role) held) :
    Rests faults (convergeClientRoles realm group) store (EndsQuietly faults) := by
  refine rests_explained_bind rfl (Store.answer_findClient found group.1)
    (fun _ faulty => ne_none_of_faulty faulty) ?_
  cases known : held.client? group.1 with
  | none => exact rests_pure (quiet_skippedRoles group.1 group.2)
  | some entry =>
      obtain ⟨key, owner⟩ := entry
      have ownId := (sound realm held found).ownId_of_client? known
      dsimp only [Option.map_some, Option.bind_some]
      rw [ownId]
      refine rests_forEach fun role listed => ?_
      rw [← owned role listed] at known
      exact rests_convergeClientRole found known (settled role listed)

/-- Roles that are all absent are looked for without a write. -/
theorem rests_resolveRoles {mapping : Blueprint.Composite} {owner : StoredClient}
    (found : store.realms.get? realm = some held) (present : held.clients.get? key = some owner)
    {names : List String} (absent : ∀ name ∈ names, owner.roles.get? name = none) :
    Rests faults (resolveRoles realm key mapping names) store fun outcome => match outcome with
      | .ok (resolved, findings) => resolved = [] ∧ Quiet findings
      | .error _ => faults ≠ Faults.none := by
  induction names with
  | nil => exact rests_pure ⟨rfl, fun step member => by cases member⟩
  | cons name rest ih =>
      have answers := Store.answer_getClientRole found present name
      rw [absent name List.mem_cons_self] at answers
      refine rests_explained_bind rfl answers (fun _ faulty => ne_none_of_faulty faulty) ?_
      refine (ih fun other member => absent other (List.mem_cons_of_mem name member)).bind
        (fun _ stop => stop) ?_
      rintro ⟨resolved, findings⟩ ⟨rfl, quiet⟩
      exact rests_pure ⟨rfl, (quiet_warning _).append quiet⟩

/-- The fifth pass rests on a mapping that is as desired, as far as its roles are there. -/
theorem rests_convergeComposite {mapping : Blueprint.Composite} (sound : store.Sound)
    (found : store.realms.get? realm = some held) (settled : Settled (.composite mapping) held) :
    Rests faults (convergeComposite realm mapping) store (EndsQuietly faults) := by
  refine rests_explained_bind rfl (Store.answer_getRealmRole found mapping.realmRole)
    (fun _ faulty => ne_none_of_faulty faulty) ?_
  cases roleThere : held.roles.get? mapping.realmRole with
  | none => exact rests_pure ((quiet_warning _).append (quiet_skipped _ _ _))
  | some stored =>
      refine rests_explained_bind rfl (Store.answer_findClient found mapping.clientId)
        (fun _ faulty => ne_none_of_faulty faulty) ?_
      cases known : held.client? mapping.clientId with
      | none => exact rests_pure ((quiet_warning _).append (quiet_skipped _ _ _))
      | some entry =>
          obtain ⟨key, owner⟩ := entry
          obtain ⟨present, -⟩ := StoredRealm.get?_of_client? known
          have ownId := (sound realm held found).ownId_of_client? known
          dsimp only [Option.map_some, Option.bind_some]
          rw [ownId]
          refine rests_explained_bind rfl (Store.answer_getRealmRoleComposites found roleThere key)
            (fun _ faulty => ne_none_of_faulty faulty) ?_
          show Rests faults (if (mapping.clientRoles.missingFrom
              (presentNames held key mapping.realmRole)).isEmpty then _ else _) store _
          split
          · exact rests_pure (quiet_unchanged _ _)
          · have absent :=
              (settled_composite_iff (sound realm held found) roleThere known).1 settled
            refine (rests_resolveRoles found present absent).bind (fun _ stop => stop) ?_
            rintro ⟨resolved, findings⟩ ⟨rfl, quiet⟩
            exact rests_pure (quiet.append (quiet_skipped _ _ _))

/-- The last pass rests on a realm that is marked. -/
theorem rests_markerPass (found : store.realms.get? realm = some held)
    (settled : Settled .marker held) :
    Rests faults (markerPass realm) store (EndsQuietly faults) := by
  refine rests_explained_bind rfl (Store.answer_getRealm found)
    (fun _ faulty => ne_none_of_faulty faulty) ?_
  have isSet : markerIsSet ((held.record realm).attribute? initializedMarker) = true := settled
  dsimp only
  rw [isSet]
  exact rests_pure (quiet_unchanged _ _)

/-! ## Whole runs -/

/-- On a realm in which every item is settled, every pass rests. -/
theorem rests_passes (sound : store.Sound)
    (found : store.realms.get? blueprint.realm.name = some held)
    (settled : ∀ item ∈ blueprint.items, Settled item held) :
    Rests faults (passes blueprint) store (EndsQuietly faults) := by
  refine (rests_realmPass found (settled _ (realm_mem_items_iff.2 rfl))).bind
    (fun _ stop => stop) fun realm realmQuiet => ?_
  refine Rests.bind (rests_forEach fun client listed =>
    rests_convergeClient sound found (settled _ (client_mem_items_iff.2 listed)))
    (fun _ stop => stop) fun clients clientsQuiet => ?_
  refine Rests.bind (rests_forEach fun role listed =>
    rests_convergeRealmRole found (settled _ (realmRole_mem_items_iff.2 listed)))
    (fun _ stop => stop) fun realmRoles realmRolesQuiet => ?_
  refine Rests.bind (rests_forEach fun group member =>
    rests_convergeClientRoles sound (Blueprint.owner_of_mem_clientRoleGroups member) found
      fun role listed => settled _ (clientRole_mem_items_iff.2
        ((Blueprint.sublist_of_mem_clientRoleGroups member).subset listed)))
    (fun _ stop => stop) fun clientRoles clientRolesQuiet => ?_
  refine Rests.bind (rests_forEach fun mapping listed =>
    rests_convergeComposite sound found (settled _ (composite_mem_items_iff.2 listed)))
    (fun _ stop => stop) fun composites compositesQuiet => ?_
  refine (rests_markerPass found (settled _ (marker_mem_items blueprint))).bind
    (fun _ stop => stop) fun marker markerQuiet => ?_
  exact rests_pure (((((realmQuiet.append clientsQuiet).append realmRolesQuiet).append
    clientRolesQuiet).append compositesQuiet).append markerQuiet)

/-- **Where every item is settled, a run writes nothing, and only a fault stops it.** -/
theorem rests_apply (valid : blueprint.validate = .ok ()) (sound : store.Sound)
    (found : store.realms.get? blueprint.realm.name = some held)
    (settled : ∀ item ∈ blueprint.items, Settled item held) :
    Rests faults (apply blueprint) store fun outcome => match outcome with
      | .ok report => Quiet report.findings
      | .error _ => faults ≠ Faults.none := by
  rw [apply_of_valid valid]
  exact (rests_passes sound found settled).bind (fun _ stop => stop) fun _ quiet => rests_pure quiet

/-- A run that comes to a report was for a blueprint without a violation. -/
theorem validate_of_report {report : Report}
    (finished : ((apply blueprint).run.run (respond faults) store).1 = .ok report) :
    blueprint.validate = .ok () := by
  unfold apply at finished
  split at finished
  · cases finished
  · next valid => exact valid

/-- What the passes of a run find out is what its report says. -/
theorem findings_of_report {goal : Findings → Store → Prop}
    (found : blueprint.Distinct → Reaches faults (passes blueprint) store fun outcome later =>
      ∀ findings, outcome = .ok findings → goal findings later) {report : Report}
    (finished : ((apply blueprint).run.run (respond faults) store).1 = .ok report) :
    goal report.findings ((apply blueprint).run.run (respond faults) store).2 := by
  have valid := validate_of_report finished
  have reported : Reaches faults (apply blueprint) store fun outcome later =>
      ∀ report, outcome = .ok report → goal report.findings later := by
    rw [apply_of_valid valid]
    refine (found (Blueprint.validate_eq_ok valid)).bind (fun _ _ _ _ never => nomatch never) ?_
    intro findings later isGoal
    refine reaches_pure fun report same => ?_
    cases same
    exact isGoal findings rfl
  exact reported report finished

/-- A run that comes to a report leaves every item settled. -/
theorem settled_of_report (sound : store.Sound) {report : Report}
    (finished : ((apply blueprint).run.run (respond faults) store).1 = .ok report) :
    ∃ after, ((apply blueprint).run.run (respond faults) store).2.realms.get? blueprint.realm.name =
      some after ∧ ∀ item ∈ blueprint.items, Settled item after := by
  have runs : Reaches faults (apply blueprint) store _ :=
    reaches_apply (validate_of_report finished) sound
  rcases runs with ⟨start, -, after, found, -, ending⟩ | ⟨-, -, -, failure, impossible⟩
  · rw [finished] at ending
    exact ⟨after, found, ending⟩
  · rw [finished] at impossible
    cases impossible

/-- A part that rests adds no writing call to the log of a service and leaves its store. -/
theorem talk_of_rests {ε : Type} {part : ExceptT ε Talk α} {goal : Except ε α → Prop}
    (service : Service) (rests : Rests service.faults part service.store goal) :
    (service.clearCalls.talk part.run).2.mutatingCalls = [] ∧
      (service.clearCalls.talk part.run).2.store = service.store ∧
      goal (service.clearCalls.talk part.run).1 := by
  rw [talk_eq]
  refine ⟨List.filter_eq_nil_iff.2 fun call asked => ?_, rests.run_store, rests.meets⟩
  rw [rests.reads call asked]
  exact Bool.false_ne_true

/-- **A second run changes nothing.** After a run that came to a report, applying the same blueprint
again, whatever operations are told to fail, makes no call that writes and leaves everything as it
is; if none fails, it reports every step as unchanged or skipped. -/
theorem apply_again_rests {service : Service} (reachable : service.Reachable)
    (blueprint : Blueprint) (faults other : Faults) {report : Report}
    (finished : ({ service with faults }.talk (apply blueprint).run).1 = .ok report) :
    let first := ({ service with faults }.talk (apply blueprint).run).2
    let again := { first with faults := other }.clearCalls.talk (apply blueprint).run
    again.2.mutatingCalls = [] ∧ again.2.store = first.store ∧
      (other = Faults.none → ∃ second, again.1 = .ok second ∧
        ∀ step ∈ second.steps, step.action = .unchanged ∨ step.action = .skipped) := by
  intro first again
  have firstStore : first.store = ((apply blueprint).run.run (respond faults) service.store).2 := by
    rw [show first = _ from congrArg Prod.snd (talk_eq _ _)]
  rw [talk_eq] at finished
  have sound := reachable.sound.run faults (apply blueprint).run
  obtain ⟨after, found, settled⟩ := settled_of_report reachable.sound finished
  rw [← firstStore] at sound found
  have rests : Rests other (apply blueprint) first.store _ :=
    rests_apply (validate_of_report finished) sound found settled
  obtain ⟨noWrites, sameStore, ending⟩ := talk_of_rests { first with faults := other } rests
  refine ⟨noWrites, sameStore, fun faultless => ?_⟩
  cases outcome : again.1 with
  | ok second =>
      rw [outcome] at ending
      exact ⟨second, rfl, ending⟩
  | error failure =>
      rw [outcome] at ending
      exact absurd faultless ending

/-- A new service that converged to the school rests when the school is applied again. -/
theorem apply_again_rests_school :
    ∃ report, (({} : Service).talk (apply Blueprint.school).run).1 = .ok report ∧
      let first := (({} : Service).talk (apply Blueprint.school).run).2
      let again := first.clearCalls.talk (apply Blueprint.school).run
      again.2.mutatingCalls = [] ∧ again.2.store = first.store ∧ ∃ second, again.1 = .ok second ∧
        ∀ step ∈ second.steps, step.action = .unchanged ∨ step.action = .skipped := by
  have runs : Reaches ({} : Service).faults (apply Blueprint.school) ({} : Service).store _ :=
    reaches_apply rfl Reachable.new.sound
  obtain ⟨report, after, finished, -⟩ := Runs.finished runs
  have talked : (({} : Service).talk (apply Blueprint.school).run).1 = .ok report := by
    rw [talk_eq]
    exact finished
  obtain ⟨noWrites, same, ending⟩ := apply_again_rests .new Blueprint.school .none .none talked
  have faultless : { (({} : Service).talk (apply Blueprint.school).run).2 with faults := .none } =
      (({} : Service).talk (apply Blueprint.school).run).2 := by
    rw [talk_eq]
  rw [faultless] at noWrites same ending
  exact ⟨report, talked, noWrites, same, ending rfl⟩

end RealmConvergence.Convergence
