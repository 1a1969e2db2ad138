import RealmConvergence.Blueprint.Samples
import RealmConvergence.Proofs.Convergence.Asking
import RealmConvergence.Proofs.Convergence.Frame
import RealmConvergence.Proofs.Convergence.Resting
import RealmConvergence.Proofs.Service.Naming

/-!
# What a run adds to composite mappings

After a run that came to a report, the roles of a client that come with a role of the realm are
those that did before, and those that some mapping lists and the client owns. Each mapping in its
turn makes a single call, with everything that is missing at once, or none (`Attaching`).

Mappings are kept by identifiers. That the sets of names come out right rests on identifiers that
neither dangle before the run nor are shared after it (`compositeNames_of_edits`).
-/

set_option autoImplicit false

namespace RealmConvergence.Convergence

open Service

variable {ε α β : Type} {faults : Faults} {store : Store} {realm : String}
  {held after : StoredRealm}
  {blueprint : Blueprint} {mapping : Blueprint.Composite}

/-! ## Roles listed by mappings -/

/-- A listed role stays one under the edits of a run. -/
theorem ListedRole.of_edit {item : Item} {roleId : String} (listed : ListedRole held mapping roleId)
    (edit : Edit item held after) (member : item ∈ blueprint.items) :
    ListedRole after mapping roleId := by
  obtain ⟨key, owner, name, role, known, wanted, there, identified⟩ := listed
  obtain ⟨present, -⟩ := StoredRealm.get?_of_client? known
  obtain ⟨kept, knownAfter, -⟩ := edit.client? known
  obtain ⟨keptSo, presentAfter, keeps⟩ := (edit.keeps member).clients key owner present
  obtain ⟨presentSo, -⟩ := StoredRealm.get?_of_client? knownAfter
  rw [presentAfter] at presentSo
  cases presentSo
  obtain ⟨keptRole, thereAfter, keepsRole⟩ := keeps.roles name role there
  exact ⟨key, kept, name, keptRole, knownAfter, wanted, thereAfter,
    keepsRole.ownId.trans identified⟩

/-- Where a role comes from that comes with a role of the realm: it did before, or a mapping of the
blueprint lists it. -/
def AttachedSince (blueprint : Blueprint) (start held : StoredRealm) (realmRole roleId : String) :
    Prop :=
  (start.compositesOf realmRole).contains roleId = true ∨
    ∃ mapping ∈ blueprint.composites, mapping.realmRole = realmRole ∧
      (held.roles.get? realmRole).isSome ∧ ListedRole held mapping roleId

/-- What an edit adds to mappings is listed by a mapping. -/
theorem attachedSince_of_edit {start : StoredRealm} {item : Item} (edit : Edit item held after)
    (member : item ∈ blueprint.items)
    (since : ∀ realmRole roleId, (held.compositesOf realmRole).contains roleId = true →
      AttachedSince blueprint start held realmRole roleId) (realmRole roleId : String)
    (attached : (after.compositesOf realmRole).contains roleId = true) :
    AttachedSince blueprint start after realmRole roleId := by
  have still (before : (held.compositesOf realmRole).contains roleId = true) :
      AttachedSince blueprint start after realmRole roleId := by
    rcases since realmRole roleId before with old | ⟨mapping, declared, same, there, listed⟩
    · exact .inl old
    · obtain ⟨role, roleThere⟩ := Option.isSome_iff_exists.1 there
      obtain ⟨kept, keptThere, -⟩ := (edit.keeps member).roles realmRole role roleThere
      exact .inr ⟨mapping, declared, same, Option.isSome_of_eq_some keptThere,
        listed.of_edit edit member⟩
  cases edit with
  | realmSet | clientAdded | clientChanged | granted | realmRoleAdded | realmRoleDescribed
  | clientRoleAdded | clientRoleDescribed | marked => exact still attached
  | @compositesAdded mapping _ stored roleIds found listed =>
      rcases contains_insert_insertAll_iff.1 attached with old | ⟨rfl, isNew⟩
      · exact still old
      · refine .inr ⟨mapping, composite_mem_items_iff.1 member, rfl, ?_, ?_⟩
        · rw [Table.get?_insert_self]
          rfl
        · exact (listed roleId isNew).of_edit (.compositesAdded found listed) member

theorem attachedSince_of_edits {start : StoredRealm} (edits : Edits blueprint.items start after)
    {realmRole roleId : String} (attached : (after.compositesOf realmRole).contains roleId = true) :
    AttachedSince blueprint start after realmRole roleId :=
  have since : ∀ realmRole roleId, (after.compositesOf realmRole).contains roleId = true →
      AttachedSince blueprint start after realmRole roleId :=
    edits.keep (fun _ member _ _ edit => attachedSince_of_edit edit member) fun _ _ => .inl
  since realmRole roleId attached

/-! ## The names afterwards -/

/-- A client's role of this name comes with a role of the realm, as it can be seen by names. -/
def Shown (held : StoredRealm) (realmRole clientId name : String) : Prop :=
  ∃ key owner, held.client? clientId = some (key, owner) ∧
    HasRoleAmong held key name (held.compositesOf realmRole)

/-- A mapping of the blueprint lists the name, and what it needs is there. -/
def ListedFor (blueprint : Blueprint) (held : StoredRealm) (realmRole clientId name : String) :
    Prop :=
  ∃ mapping ∈ blueprint.composites, mapping.realmRole = realmRole ∧ mapping.clientId = clientId ∧
    mapping.clientRoles.contains name = true ∧ (held.roles.get? realmRole).isSome ∧
    ∃ key owner, held.client? clientId = some (key, owner) ∧ (owner.roles.get? name).isSome

/-- What is shown stays so under the edits of a run. -/
theorem Shown.of_edits {realmRole clientId name : String}
    (shown : Shown held realmRole clientId name)
    (edits : Edits blueprint.items held after) : Shown after realmRole clientId name := by
  obtain ⟨key, owner, known, roleId, has, among⟩ := shown
  have keeps := edits.keeps (List.Subset.refl blueprint.items)
  obtain ⟨kept, knownAfter⟩ := edits.client? known
  exact ⟨key, kept, knownAfter, roleId, keeps.hasRole has, keeps.composites realmRole roleId among⟩

/-- **What is shown after the edits of a run was shown before, or a mapping lists it and what the
mapping needs is there.** -/
theorem shown_of_edits {drawn : Nat} (linked : held.composites = ∅ ∨ held.Linked)
    (sound : after.Sound drawn) (edits : Edits blueprint.items held after)
    {realmRole clientId name : String} (shown : Shown after realmRole clientId name) :
    Shown held realmRole clientId name ∨ ListedFor blueprint after realmRole clientId name := by
  have keeps := edits.keeps (List.Subset.refl blueprint.items)
  obtain ⟨key, kept, known, roleId, has, among⟩ := shown
  rcases attachedSince_of_edits edits among with old | ⟨mapping, declared, same, there, listed⟩
  · -- The identifier was attached before, so it was that of a role already.
    rcases linked with none | linked
    · rw [StoredRealm.compositesOf, none] at old
      cases old
    obtain ⟨other, otherName, before⟩ := linked.composites realmRole roleId old
    obtain ⟨rfl, rfl⟩ := keeps.sameRole sound before has
    obtain ⟨owner, role, present, roleThere, identified⟩ := before
    exact .inl ⟨other, owner, keeps.client?_before linked present known, roleId,
      ⟨owner, role, present, roleThere, identified⟩, old⟩
  · -- The identifier is that of a listed role, which is therefore the one that is shown.
    obtain ⟨other, owner, otherName, role, otherKnown, wanted, roleThere, identified⟩ := listed
    obtain ⟨present, named⟩ := StoredRealm.get?_of_client? otherKnown
    obtain ⟨rfl, rfl⟩ := sound.clients.roleIds other otherName key name roleId
      ⟨owner, role, present, roleThere, identified⟩ has
    obtain ⟨keptPresent, keptNamed⟩ := StoredRealm.get?_of_client? known
    rw [present] at keptPresent
    cases keptPresent
    have sameClient : mapping.clientId = clientId := Option.some.inj (named.symm.trans keptNamed)
    exact .inr ⟨mapping, declared, same, sameClient, wanted, there, other, kept, known,
      Option.isSome_of_eq_some roleThere⟩

/-- Where every mapping is settled, what is listed is shown. -/
theorem shown_of_settled
    (settled : ∀ item ∈ blueprint.items, Settled item held) {realmRole clientId name : String}
    (listed : ListedFor blueprint held realmRole clientId name) :
    Shown held realmRole clientId name := by
  obtain ⟨mapping, declared, rfl, rfl, wanted, there, key, owner, known, roleThere⟩ := listed
  obtain ⟨role, roleFound⟩ := Option.isSome_iff_exists.1 roleThere
  obtain ⟨present, -⟩ := StoredRealm.get?_of_client? known
  obtain ⟨roleId, identified, attached⟩ :=
    settled _ (composite_mem_items_iff.2 declared) key owner there known name role wanted roleFound
  exact ⟨key, owner, known, roleId, ⟨owner, role, present, roleFound, identified⟩, attached⟩

/-! ## Calls that attach -/

/-- With these faults, the part makes its attaching calls and comes to an outcome and a store that
meet the goal. -/
def Attaches (faults : Faults) (part : ExceptT ε Talk α) (store : Store)
    (goal : List AdminCall → Except ε α → Store → Prop) : Prop :=
  goal ((part.run.asked (respond faults) store).filter AdminCall.attaches)
    (part.run.run (respond faults) store).1 (part.run.run (respond faults) store).2

section Attaches

theorem Attaches.mono {part : ExceptT ε Talk α}
    {goal wider : List AdminCall → Except ε α → Store → Prop}
    (attaches : Attaches faults part store goal)
    (wide : ∀ calls outcome later, goal calls outcome later → wider calls outcome later) :
    Attaches faults part store wider :=
  wide _ _ _ attaches

theorem attaches_pure {value : α} {goal : List AdminCall → Except ε α → Store → Prop}
    (holds : goal [] (.ok value) store) : Attaches faults (pure value) store goal := holds

/-- A part that makes no attaching call comes to wherever it comes without one. -/
theorem attaches_none {part : ExceptT ε Talk α} {goal : Except ε α → Store → Prop}
    (asks : Asks (fun call => call.attaches = false) part)
    (reaches : Reaches faults part store goal) :
    Attaches faults part store fun calls outcome later => calls = [] ∧ goal outcome later := by
  refine ⟨List.filter_eq_nil_iff.2 fun call member => ?_, reaches⟩
  rw [asks.asked (respond faults) store call member]
  exact Bool.false_ne_true

/-- The attaching calls of a part come before those of the next one. -/
theorem Attaches.bind {part : ExceptT ε Talk α} {next : α → ExceptT ε Talk β}
    {between : List AdminCall → Except ε α → Store → Prop}
    {goal : List AdminCall → Except ε β → Store → Prop}
    (first : Attaches faults part store between)
    (stops : ∀ calls failure later, between calls (.error failure) later →
      goal calls (.error failure) later)
    (goesOn : ∀ calls value later, between calls (.ok value) later →
      Attaches faults (next value) later fun more outcome last =>
        goal (calls ++ more) outcome last) :
    Attaches faults (part >>= next) store goal := by
  unfold Attaches at first ⊢
  rw [run_bind, Dialogue.run_andThen, Dialogue.asked_andThen, List.filter_append]
  generalize (part.run.asked (respond faults) store).filter AdminCall.attaches = calls at first ⊢
  generalize part.run.run (respond faults) store = reached at first ⊢
  obtain ⟨outcome, later⟩ := reached
  cases outcome with
  | ok value => exact goesOn calls value later first
  | error failure =>
      show goal (calls ++ []) (.error failure) later
      rw [List.append_nil]
      exact stops calls failure later first

/-- A call that attaches nothing and leaves the store leads to what follows its answer. -/
theorem attaches_explained_bind {explain : AdminError → ε} {call : AdminCall}
    {next : call.Answer → ExceptT ε Talk β} {goal : List AdminCall → Except ε β → Store → Prop}
    {answer : call.Answer} (attachesNot : call.attaches = false)
    (answers : store.answer call = (.ok answer, store))
    (stops : ∀ failure, goal [] (.error failure) store)
    (goesOn : Attaches faults (next answer) store goal) :
    Attaches faults (explained explain call >>= next) store goal := by
  have called : Reaches faults (explained explain call) store fun outcome later =>
      later = store ∧ ∀ given, outcome = .ok given → given = answer := by
    refine reaches_explained (fun problem _ => ⟨rfl, fun given impossible => ?_⟩) fun _ => ?_
    · cases impossible
    · rw [answers]
      exact ⟨rfl, fun given same => (Except.ok.inj same).symm⟩
  refine (attaches_none (asks_explained attachesNot) called).bind ?_ ?_
  · rintro calls failure later ⟨rfl, rfl, -⟩
    exact stops failure
  · rintro calls given later ⟨rfl, rfl, isAnswer⟩
    cases isAnswer given rfl
    exact goesOn

/-- A single attaching call, and what it leads to. -/
theorem attaches_write {explain : AdminError → ε} {call : AdminCall} {value : α}
    {answer : call.Answer} {later : Store} (attaches : call.attaches = true)
    (answers : store.answer call = (.ok answer, later)) :
    Attaches faults (explained explain call >>= fun _ => pure value) store
      fun calls outcome last => ∀ given, outcome = .ok given → calls = [call] ∧ last = later := by
  have log : (explained explain call >>= fun _ => pure value : ExceptT ε Talk α).run.asked
      (respond faults) store = [call] := by
    show call :: Dialogue.asked (respond faults)
      ((Dialogue.conclude ((respond faults call store).1.mapError explain)).andThen
        (afterOutcome fun _ => pure value)) (respond faults call store).2 = [call]
    cases (respond faults call store).1 <;> rfl
  have reached : Reaches faults (explained explain call >>= fun _ => pure value) store
      fun outcome last => ∀ given, outcome = .ok given → last = later := by
    refine reaches_explained_bind answers (fun _ _ given impossible => ?_) ?_
    · cases impossible
    · exact reaches_pure fun _ _ => rfl
  unfold Attaches
  rw [log, List.filter_cons_of_pos attaches]
  exact fun given came => ⟨rfl, reached given came⟩

end Attaches

/-! ## The turn of a mapping -/

/-- Something is missing from a mapping that can be attached, as it can be seen from outside. -/
structure Lacks (store : Store) (realm : String) (mapping : Blueprint.Composite) : Prop where
  role : (store.realmRole? realm mapping.realmRole).isSome
  client : (store.client? realm mapping.clientId).isSome
  name : ∃ name, mapping.clientRoles.contains name = true ∧
    (store.compositeNames realm mapping.realmRole mapping.clientId).contains name = false ∧
    (store.clientRole? realm mapping.clientId name).isSome

/-- A mapping that is not settled lists a role that is there and not attached. -/
theorem exists_of_not_settled (unsettled : ¬Settled (.composite mapping) held) :
    ∃ key owner name role, (held.roles.get? mapping.realmRole).isSome ∧
      held.client? mapping.clientId = some (key, owner) ∧
      mapping.clientRoles.contains name = true ∧ owner.roles.get? name = some role ∧
      ¬Attached held mapping.realmRole role := by
  refine Classical.byContradiction fun nothing => unsettled ?_
  intro key owner isThere known name role wanted there
  refine Classical.byContradiction fun notAttached => nothing ?_
  exact ⟨key, owner, name, role, isThere, known, wanted, there, notAttached⟩

/-- A mapping lacks something exactly when it is not settled. -/
theorem lacks_iff (sound : store.Sound) (found : store.realms.get? realm = some held) :
    Lacks store realm mapping ↔ ¬Settled (.composite mapping) held := by
  constructor
  · rintro ⟨roleThere, -, name, wanted, notShown, roleOwned⟩ settled
    rw [Store.realmRole?, found, Option.bind_some] at roleThere
    rw [Store.clientRole?, found, Option.bind_some] at roleOwned
    obtain ⟨role, owned⟩ := Option.isSome_iff_exists.1 roleOwned
    obtain ⟨⟨key, owner⟩, known, there⟩ := Option.bind_eq_some_iff.1 owned
    obtain ⟨present, -⟩ := StoredRealm.get?_of_client? known
    obtain ⟨roleId, identified, attached⟩ :=
      settled key owner roleThere known name role wanted there
    have shown := (compositeNames_contains_iff sound found).2
      ⟨key, owner, known, roleId, ⟨owner, role, present, there, identified⟩, attached⟩
    rw [shown] at notShown
    cases notShown
  · intro unsettled
    obtain ⟨key, owner, name, role, roleThere, known, wanted, there, notAttached⟩ :=
      exists_of_not_settled unsettled
    obtain ⟨present, -⟩ := StoredRealm.get?_of_client? known
    refine ⟨?_, ?_, name, wanted, ?_, ?_⟩
    · rwa [Store.realmRole?, found]
    · rw [Store.client?, found, Option.bind_some, known]
      rfl
    · rw [← Bool.not_eq_true]
      intro shown
      obtain ⟨otherKey, other, otherKnown, roleId, ⟨_, _, otherPresent, otherThere, identified⟩,
        attached⟩ := (compositeNames_contains_iff sound found).1 shown
      rw [known] at otherKnown
      cases otherKnown
      rw [present] at otherPresent
      cases otherPresent
      rw [there] at otherThere
      cases otherThere
      exact notAttached ⟨roleId, identified, attached⟩
    · rw [Store.clientRole?, found, Option.bind_some, known, Option.bind_some, there]
      rfl

/-- The call of a mapping that lacks something, and the answer to it; or nothing at all. -/
def Turn (realm : String) (mapping : Blueprint.Composite) (store : Store) (calls : List AdminCall)
    (later : Store) : Prop :=
  (Lacks store realm mapping ∧ ∃ added,
    calls = [.addRealmRoleComposites realm mapping.realmRole added] ∧
    store.answer (.addRealmRoleComposites realm mapping.realmRole added) = (.ok (), later)) ∨
  (¬Lacks store realm mapping ∧ calls = [] ∧ later = store)

/-- A part that comes to its end has taken the turn of a mapping. -/
def TakesTurn (realm : String) (mapping : Blueprint.Composite) (store : Store)
    (calls : List AdminCall) (outcome : Except Failure α) (later : Store) : Prop :=
  ∀ value, outcome = .ok value → Turn realm mapping store calls later

/-- Attaching what is missing takes the turn of a mapping that lacks something. -/
theorem attaches_attachRoles {key : String} {owner : StoredClient} {stored : RoleRecord}
    (sound : store.Sound) (found : store.realms.get? realm = some held)
    (roleThere : held.roles.get? mapping.realmRole = some stored)
    (known : held.client? mapping.clientId = some (key, owner))
    (lacks : Lacks store realm mapping) :
    Attaches faults (attachRoles realm key mapping
        (mapping.clientRoles.missingFrom (presentNames held key mapping.realmRole)))
      store (TakesTurn realm mapping store) := by
  obtain ⟨present, -⟩ := StoredRealm.get?_of_client? known
  refine (attaches_none ((asks_resolveRoles mapping _).mono fun _ => And.right)
    (reaches_resolveRoles found present _)).bind (fun _ _ _ _ _ never => by cases never) ?_
  rintro calls ⟨resolved, findings⟩ later ⟨rfl, rfl, rfl, -⟩
  dsimp only
  split
  · next nothing =>
    have settled := (settled_composite_iff (sound realm held found) roleThere known).2
      (List.filterMap_eq_nil_iff.1 (List.isEmpty_iff.1 nothing))
    exact absurd settled ((lacks_iff sound found).1 lacks)
  · refine (attaches_write rfl (Store.answer_addRealmRoleComposites found roleThere
      fun role member => known_of_mem_filterMap (sound realm held found) present member)).mono ?_
    intro calls outcome last write value came
    obtain ⟨rfl, rfl⟩ := write value came
    exact .inl ⟨lacks, _, rfl, Store.answer_addRealmRoleComposites found roleThere
      fun role member => known_of_mem_filterMap (sound realm held found) present member⟩

/-- In a realm that is absent, a mapping attaches nothing. -/
theorem attaches_convergeComposite_of_absent (absent : store.realms.get? realm = none) :
    Attaches faults (convergeComposite realm mapping) store (TakesTurn realm mapping store) := by
  have noRole : store.realmRole? realm mapping.realmRole = none := by
    rw [Store.realmRole?, absent, Option.bind_none]
  have answers : store.answer (.getRealmRole realm mapping.realmRole) = (.ok none, store) := by
    simp only [Store.answer, absent, Option.bind_none]
  refine attaches_explained_bind rfl answers (fun _ _ never => by cases never)
    (attaches_pure fun _ _ => .inr ⟨?_, rfl, rfl⟩)
  rintro ⟨there, -, -⟩
  rw [noRole] at there
  cases there

/-- A mapping that is settled attaches nothing. -/
theorem attaches_convergeComposite_of_settled (sound : store.Sound)
    (found : store.realms.get? realm = some held) (settled : Settled (.composite mapping) held) :
    Attaches faults (convergeComposite realm mapping) store (TakesTurn realm mapping store) := by
  have rests : Rests faults (convergeComposite realm mapping) store _ :=
    rests_convergeComposite sound found settled
  refine fun _ _ => .inr ⟨fun lacks => (lacks_iff sound found).1 lacks settled, ?_, rests.run_store⟩
  refine List.filter_eq_nil_iff.2 fun call member attaches => ?_
  have reads := rests.reads call member
  cases call <;> cases attaches
  cases reads

/-- A mapping that is not settled attaches what it lacks. -/
theorem attaches_convergeComposite_of_not_settled (sound : store.Sound)
    (found : store.realms.get? realm = some held)
    (unsettled : ¬Settled (.composite mapping) held) :
    Attaches faults (convergeComposite realm mapping) store (TakesTurn realm mapping store) := by
  have stops (failure : Failure) :
      TakesTurn realm mapping store [] (.error failure : Except Failure Findings) store :=
    fun _ never => by cases never
  obtain ⟨key, owner, name, role, roleIsThere, known, wanted, there, notAttached⟩ :=
    exists_of_not_settled unsettled
  obtain ⟨stored, roleThere⟩ := Option.isSome_iff_exists.1 roleIsThere
  obtain ⟨present, -⟩ := StoredRealm.get?_of_client? known
  have roleAnswers := Store.answer_getRealmRole found mapping.realmRole
  have clientAnswers := Store.answer_findClient found mapping.clientId
  rw [roleThere] at roleAnswers
  rw [known] at clientAnswers
  refine attaches_explained_bind rfl roleAnswers stops ?_
  refine attaches_explained_bind rfl clientAnswers stops ?_
  dsimp only [Option.map_some, Option.bind_some]
  rw [(sound realm held found).ownId_of_client? known]
  refine attaches_explained_bind rfl (Store.answer_getRealmRoleComposites found roleThere key)
    stops ?_
  have missing : name ∈ mapping.clientRoles.missingFrom
      (presentNames held key mapping.realmRole) := by
    refine NameSet.mem_missingFrom_iff.2 ⟨wanted, ?_⟩
    rw [← Bool.not_eq_true, presentNames_contains_iff (sound realm held found) present there]
    exact notAttached
  show Attaches faults (if (mapping.clientRoles.missingFrom
      (presentNames held key mapping.realmRole)).isEmpty then _ else _) store _
  rw [if_neg fun nothing => List.ne_nil_of_mem missing (List.isEmpty_iff.1 nothing)]
  exact attaches_attachRoles sound found roleThere known ((lacks_iff sound found).2 unsettled)

/-- **A mapping takes its turn: one attaching call where it lacks something, none where not.** -/
theorem attaches_convergeComposite (mapping : Blueprint.Composite) (sound : store.Sound) :
    Attaches faults (convergeComposite realm mapping) store (TakesTurn realm mapping store) := by
  cases found : store.realms.get? realm with
  | none => exact attaches_convergeComposite_of_absent found
  | some held =>
      by_cases settled : Settled (.composite mapping) held
      · exact attaches_convergeComposite_of_settled sound found settled
      · exact attaches_convergeComposite_of_not_settled sound found settled

/-! ## All mappings, one after the other -/

/-- Mappings take their turns from a store to a later one, and these are the calls that attach. -/
inductive Attaching (realm : String) :
    List Blueprint.Composite → Store → List AdminCall → Store → Prop where
  /-- No mapping is left. -/
  | done (store : Store) : Attaching realm [] store [] store
  /-- A mapping lacks something, and attaches it with a single call. -/
  | attaches {mapping : Blueprint.Composite} {rest : List Blueprint.Composite}
      {store between last : Store} {added : List RoleRecord} {calls : List AdminCall}
      (lacks : Lacks store realm mapping)
      (answered : store.answer (.addRealmRoleComposites realm mapping.realmRole added) =
        (.ok (), between))
      (later : Attaching realm rest between calls last) :
      Attaching realm (mapping :: rest) store
        (.addRealmRoleComposites realm mapping.realmRole added :: calls) last
  /-- A mapping lacks nothing that could be attached, and attaches nothing. -/
  | leaves {mapping : Blueprint.Composite} {rest : List Blueprint.Composite} {store last : Store}
      {calls : List AdminCall} (lacksNot : ¬Lacks store realm mapping)
      (later : Attaching realm rest store calls last) :
      Attaching realm (mapping :: rest) store calls last

theorem Turn.attaching {rest : List Blueprint.Composite} {calls more : List AdminCall}
    {later last : Store} (turn : Turn realm mapping store calls later)
    (others : Attaching realm rest later more last) :
    Attaching realm (mapping :: rest) store (calls ++ more) last := by
  rcases turn with ⟨lacks, added, rfl, answered⟩ | ⟨lacksNot, rfl, rfl⟩
  · exact .attaches lacks answered others
  · exact .leaves lacksNot others

/-- **Mappings take their turns one after the other.** -/
theorem attaches_forEach (mappings : List Blueprint.Composite) (sound : store.Sound) :
    Attaches faults (forEach mappings (convergeComposite realm)) store
      fun calls outcome later => ∀ value, outcome = .ok value →
        Attaching realm mappings store calls later := by
  induction mappings generalizing store with
  | nil => exact attaches_pure fun _ _ => .done store
  | cons mapping rest ih =>
      have first : Attaches faults (convergeComposite realm mapping) store
          fun calls outcome later => TakesTurn realm mapping store calls outcome later ∧
            later.Sound :=
        ⟨attaches_convergeComposite mapping sound, sound.run faults _⟩
      refine first.bind (fun _ _ _ _ _ impossible => by cases impossible) ?_
      rintro calls found later ⟨turn, soundLater⟩
      refine (ih soundLater).bind (fun _ _ _ _ _ impossible => by cases impossible) ?_
      intro more others last attaching
      refine attaches_pure fun value _ => ?_
      rw [List.append_nil]
      exact (turn found rfl).attaching (attaching others rfl)

/-! ## Whole runs -/

/-- The passes before the composite mappings. -/
def rolePasses (blueprint : Blueprint) : Part Findings := do
  let realm ← realmPass blueprint.realm
  let clients ← clientPass blueprint
  let realmRoles ← realmRolePass blueprint
  let clientRoles ← clientRolePass blueprint
  pure (realm ++ clients ++ realmRoles ++ clientRoles)

theorem passes_eq_rolePasses (blueprint : Blueprint) :
    passes blueprint = rolePasses blueprint >>= fun earlier =>
      compositePass blueprint >>= fun composites =>
        markerPass blueprint.realm.name >>= fun marker =>
          pure (earlier ++ composites ++ marker) := by
  simp only [passes, rolePasses, bind_assoc, pure_bind]

theorem asks_rolePasses (blueprint : Blueprint) :
    Asks (fun call => call.attaches = false) (rolePasses blueprint) := by
  refine ((asks_realmPass blueprint.realm).mono fun _ => And.right).bind fun _ => ?_
  refine ((asks_clientPass blueprint).mono fun _ => And.right).bind fun _ => ?_
  refine ((asks_realmRolePass blueprint).mono fun _ => And.right).bind fun _ => ?_
  exact ((asks_clientRolePass blueprint).mono fun _ => And.right).bind fun _ => asks_pure _

/-- The store that a run has come to when the turn of the mappings begins. -/
def storeBeforeMappings (faults : Faults) (blueprint : Blueprint) (store : Store) : Store :=
  ((rolePasses blueprint).run.run (respond faults) store).2

/-- In a run that comes to a report, the attaching calls are those of the mappings in turn. -/
theorem attaches_apply (valid : blueprint.validate = .ok ()) (sound : store.Sound) :
    Attaches faults (apply blueprint) store fun calls outcome _ =>
      ∀ report, outcome = .ok report → ∃ last, Attaching blueprint.realm.name blueprint.composites
        (storeBeforeMappings faults blueprint store) calls last := by
  have never {failure : Failure} {goal : Prop} (report : Report)
      (impossible : Except.error failure = .ok report) : goal := by cases impossible
  rw [apply_of_valid valid, passes_eq_rolePasses]
  have earlier : Reaches faults (rolePasses blueprint) store fun _ later =>
      later = storeBeforeMappings faults blueprint store ∧ later.Sound :=
    ⟨rfl, sound.run faults _⟩
  have markerAsks : Asks (fun call => call.attaches = false) (markerPass blueprint.realm.name) :=
    asks_markerPass.mono fun _ => And.right
  have anywhere (later : Store) : Reaches faults (markerPass blueprint.realm.name) later
      fun _ _ => True := trivial
  simp only [bind_assoc, pure_bind]
  refine (attaches_none (asks_rolePasses blueprint) earlier).bind (fun _ _ _ _ => never) ?_
  rintro calls found later ⟨rfl, rfl, soundLater⟩
  refine (attaches_forEach blueprint.composites soundLater).bind (fun _ _ _ _ => never) ?_
  intro calls composites last attaching
  refine (attaches_none markerAsks (anywhere last)).bind (fun _ _ _ _ => never) ?_
  rintro none marker final ⟨rfl, -⟩
  refine attaches_pure fun _ _ => ⟨last, ?_⟩
  simpa using attaching composites rfl

/-- What is listed, as it can be seen from outside. -/
theorem listedFor_iff (found : store.realms.get? blueprint.realm.name = some held)
    {realmRole clientId name : String} :
    ListedFor blueprint held realmRole clientId name ↔
      (∃ mapping ∈ blueprint.composites, mapping.realmRole = realmRole ∧
        mapping.clientId = clientId ∧ mapping.clientRoles.contains name = true) ∧
      (store.realmRole? blueprint.realm.name realmRole).isSome ∧
      (store.clientRole? blueprint.realm.name clientId name).isSome := by
  rw [Store.realmRole?, Store.clientRole?, found, Option.bind_some, Option.bind_some]
  constructor
  · rintro ⟨mapping, declared, sameRole, sameClient, wanted, there, key, owner, known, owned⟩
    refine ⟨⟨mapping, declared, sameRole, sameClient, wanted⟩, there, ?_⟩
    rwa [known, Option.bind_some]
  · rintro ⟨⟨mapping, declared, sameRole, sameClient, wanted⟩, there, owned⟩
    obtain ⟨role, roleFound⟩ := Option.isSome_iff_exists.1 owned
    obtain ⟨⟨key, owner⟩, known, roleThere⟩ := Option.bind_eq_some_iff.1 roleFound
    exact ⟨mapping, declared, sameRole, sameClient, wanted, there, key, owner, known,
      Option.isSome_of_eq_some roleThere⟩

/-- In a run that comes to a report, names are attached that were so before or are listed. -/
theorem shown_iff_of_report (sound : store.Sound) (linked : store.Linked) {report : Report}
    (finished : ((apply blueprint).run.run (respond faults) store).1 = .ok report) :
    ∃ after,
      ((apply blueprint).run.run (respond faults) store).2.realms.get? blueprint.realm.name =
        some after ∧
      ∀ realmRole clientId name, Shown after realmRole clientId name ↔
        (store.compositeNames blueprint.realm.name realmRole clientId).contains name = true ∨
          ListedFor blueprint after realmRole clientId name := by
  have runs : Reaches faults (apply blueprint) store _ :=
    reaches_apply (validate_of_report finished) sound
  rcases runs with ⟨start, begins, after, found, edits, ending⟩ | ⟨-, -, -, failure, impossible⟩
  · rw [finished] at ending
    have soundAfter := sound.run faults (apply blueprint).run _ _ found
    refine ⟨after, found, fun realmRole clientId name => ?_⟩
    have linkedStart : start.composites = ∅ ∨ start.Linked := by
      rcases begins with isStart | ⟨-, -, none⟩
      · exact .inr (linked _ _ isStart)
      · exact .inl none
    have before : (store.compositeNames blueprint.realm.name realmRole clientId).contains name =
        true ↔ Shown start realmRole clientId name := by
      rcases begins with isStart | ⟨absent, -, none⟩
      · exact compositeNames_contains_iff sound isStart
      · rw [compositeNames_of_absent absent]
        constructor
        · intro impossible
          cases impossible
        · rintro ⟨key, owner, -, roleId, -, among⟩
          rw [StoredRealm.compositesOf, none] at among
          cases among
    rw [before]
    constructor
    · exact shown_of_edits linkedStart soundAfter edits
    · rintro (old | listed)
      · exact old.of_edits edits
      · exact shown_of_settled ending listed
  · rw [finished] at impossible
    cases impossible

theorem operation_eq_addRealmRoleComposites (call : AdminCall) :
    decide (call.operation = .addRealmRoleComposites) = call.attaches := by
  cases call <;> rfl

/-- **What a run adds to composite mappings.** After a run that came to a report, whatever
operations were told to fail, the names of a client's roles that come with a role of the realm are
those that were attached before, and those that some mapping lists for both while the role of the
realm is there and the client owns a role of the name. The mappings take their turns in order, each
with a single attaching call where it lacks something, and no other attaching call is made. -/
theorem apply_attaches {service : Service} (reachable : service.Reachable) (blueprint : Blueprint)
    (faults : Faults) {report : Report}
    (finished : ({ service with faults }.talk (apply blueprint).run).1 = .ok report) :
    let realm := blueprint.realm.name
    let later := ({ service with faults }.talk (apply blueprint).run).2
    (∀ realmRole clientId name,
      (later.store.compositeNames realm realmRole clientId).contains name = true ↔
        (service.store.compositeNames realm realmRole clientId).contains name = true ∨
        ((∃ mapping ∈ blueprint.composites, mapping.realmRole = realmRole ∧
            mapping.clientId = clientId ∧ mapping.clientRoles.contains name = true) ∧
          (later.store.realmRole? realm realmRole).isSome ∧
          (later.store.clientRole? realm clientId name).isSome)) ∧
    ∃ calls last,
      Attaching realm blueprint.composites (storeBeforeMappings faults blueprint service.store)
        calls last ∧
      later.callsOf .addRealmRoleComposites =
        service.callsOf .addRealmRoleComposites ++ calls := by
  intro realm later
  have sound := reachable.sound
  rw [talk_value] at finished
  have laterStore : later.store =
      ((apply blueprint).run.run (respond faults) service.store).2 := talk_store _ _
  constructor
  · obtain ⟨after, found, shown⟩ := shown_iff_of_report sound reachable.linked finished
    rw [← laterStore] at found
    have soundLater : later.store.Sound := laterStore ▸ sound.run faults _
    intro realmRole clientId name
    rw [← listedFor_iff found]
    exact (compositeNames_contains_iff soundLater found).trans (shown realmRole clientId name)
  · have attaches : Attaches faults (apply blueprint) service.store _ :=
      attaches_apply (validate_of_report finished) sound
    obtain ⟨last, attaching⟩ := attaches report finished
    refine ⟨_, last, attaching, ?_⟩
    have log : later.calls = service.calls ++
        (apply blueprint).run.asked (respond faults) service.store := talk_calls _ _
    simp only [callsOf, log, List.filter_append, operation_eq_addRealmRoleComposites]

/-- A new service, on which the school attaches its one mapping. -/
theorem apply_attaches_school :
    let later := (({} : Service).talk (apply Blueprint.school).run).2
    (later.store.compositeNames "school" "TEACHER" "reporting").contains "VIEW_REPORTS" = true ∧
    ∃ calls last, Attaching "school" Blueprint.school.composites
        (storeBeforeMappings .none Blueprint.school {}) calls last ∧
      later.callsOf .addRealmRoleComposites = calls := by
  have finished : ∃ report, (({} : Service).talk (apply Blueprint.school).run).1 = .ok report :=
    ⟨_, rfl⟩
  obtain ⟨report, finished⟩ := finished
  obtain ⟨names, calls, last, attaching, log⟩ :=
    apply_attaches .new Blueprint.school .none finished
  refine ⟨(names "TEACHER" "reporting" "VIEW_REPORTS").2 (.inr ⟨?_, ?_, ?_⟩), calls, last,
    attaching, log⟩
  · exact ⟨_, List.mem_singleton_self _, rfl, rfl, by decide +kernel⟩
  · decide +kernel
  · decide +kernel

end RealmConvergence.Convergence
