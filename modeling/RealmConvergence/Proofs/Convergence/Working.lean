import RealmConvergence.Proofs.Convergence.Conduct
import RealmConvergence.Proofs.Convergence.Edit

/-!
# Parts of a run at work

What every part of a run has to do for its items (`Works`): the realm is there afterwards, it was
changed by edits for these items alone, and if the part came to its end they are settled. Only a
fault stops a part.

Parts that work for their items one by one work for all of them one after the other, as long as
later items are apart from earlier ones (`Works.bind`, `works_forEach`).
-/

set_option autoImplicit false

namespace RealmConvergence.Convergence

open Service (Faults Store StoredRealm respond)

variable {ε α β : Type} {faults : Faults} {store : Store} {realm : String}
  {items others : List Item} {held between : StoredRealm}

theorem ne_none_of_faulty {operation : AdminOperation} {problem : AdminError}
    (faulty : faults operation = some problem) : faults ≠ Faults.none := by
  rintro rfl
  cases faulty

/-- From a sound store, a part reaches a sound one. -/
theorem Reaches.sound {part : ExceptT ε Talk α} {goal : Except ε α → Store → Prop}
    (reaches : Reaches faults part store goal) (sound : store.Sound) :
    Reaches faults part store fun outcome later => goal outcome later ∧ later.Sound :=
  ⟨reaches, sound.run faults part.run⟩

/-- A call that reads leads to what follows its answer, and may stop the part. -/
theorem reaches_explained_reads {explain : AdminError → ε} {call : AdminCall}
    {next : call.Answer → ExceptT ε Talk β} {goal : Except ε β → Store → Prop}
    (reads : call.operation.isMutating = false) (stops : ∀ failure, goal (.error failure) store)
    (goesOn : ∀ answer, faults call.operation = none → (store.answer call).1 = .ok answer →
      Reaches faults (next answer) store goal) :
    Reaches faults (explained explain call >>= next) store goal := by
  have called : Reaches faults (explained explain call) store fun outcome later =>
      later = store ∧ ∀ answer, outcome = .ok answer →
        faults call.operation = none ∧ (store.answer call).1 = .ok answer := by
    refine reaches_explained (fun _ _ => ⟨rfl, fun answer impossible => ?_⟩) fun faultless => ?_
    · cases impossible
    refine ⟨Store.answer_of_not_mutating reads, fun answer came => ⟨faultless, ?_⟩⟩
    cases replied : (store.answer call).1 with
    | ok given =>
        rw [replied] at came
        cases came
        rfl
    | error problem =>
        rw [replied] at came
        cases came
  refine called.bind ?_ ?_
  · rintro failure later ⟨rfl, -⟩
    exact stops failure
  · rintro answer later ⟨rfl, told⟩
    obtain ⟨faultless, replied⟩ := told answer rfl
    exact goesOn answer faultless replied

/-- What a part for these items does to a realm: edits for them, after which they are settled unless
a fault stopped the part. -/
def Works (faults : Faults) (realm : String) (items : List Item) (held : StoredRealm)
    (outcome : Except Failure α) (later : Store) : Prop :=
  ∃ after, later.realms.get? realm = some after ∧ Edits items held after ∧
    match outcome with
    | .ok _ => ∀ item ∈ items, Settled item after
    | .error _ => faults ≠ Faults.none

/-- A part that is stopped by a fault before any edit has worked as far as it could. -/
theorem works_stopped (found : store.realms.get? realm = some held) {operation : AdminOperation}
    {problem : AdminError} (faulty : faults operation = some problem) {failure : Failure} :
    Works faults realm items held (.error failure : Except Failure α) store :=
  ⟨held, found, .refl, ne_none_of_faulty faulty⟩

/-- A part that finds its item settled has nothing to do. -/
theorem works_settled {item : Item} (found : store.realms.get? realm = some held)
    (settled : Settled item held) (value : α) :
    Reaches faults (pure value) store (Works faults realm [item] held) :=
  reaches_pure ⟨held, found, .refl, List.forall_mem_singleton.2 settled⟩

/-- Edits for the items may come first. -/
theorem Works.of_edits {outcome : Except Failure α} {later : Store}
    (works : Works faults realm items between outcome later) (edits : Edits items held between) :
    Works faults realm items held outcome later := by
  obtain ⟨after, found, more, ending⟩ := works
  exact ⟨after, found, edits.trans more, ending⟩

/-- A write that is an edit for its item, followed by what works from there, works for the item. -/
theorem works_edit {item : Item} {after : StoredRealm} {later : Store}
    {explain : AdminError → Failure} {call : AdminCall} {answer : call.Answer}
    {next : call.Answer → Part α} (found : store.realms.get? realm = some held)
    (answers : store.answer call = (.ok answer, later)) (edit : Edit item held after)
    (goesOn : Reaches faults (next answer) later (Works faults realm [item] after)) :
    Reaches faults (explained explain call >>= next) store (Works faults realm [item] held) := by
  refine reaches_explained_bind answers (fun _ faulty => works_stopped found faulty) ?_
  exact goesOn.mono fun _ _ works => works.of_edits (edit.edits List.mem_cons_self)

/-- A write that is an edit for its item and settles it works for the item. -/
theorem works_write {item : Item} {after : StoredRealm} {later : Store}
    {explain : AdminError → Failure} {call : AdminCall} {answer : call.Answer}
    {value : α} (found : store.realms.get? realm = some held)
    (answers : store.answer call = (.ok answer, later))
    (foundLater : later.realms.get? realm = some after) (edit : Edit item held after)
    (settled : Settled item after) :
    Reaches faults (explained explain call >>= fun _ => pure value) store
      (Works faults realm [item] held) :=
  works_edit found answers edit (works_settled foundLater settled value)

/-- **A part that works, followed by one that works for items apart from the first ones, works for
all of them.** -/
theorem Works.bind {part : Part α} {next : α → Part β} (sound : store.Sound)
    (first : Reaches faults part store (Works faults realm items held))
    (apart : ∀ earlier ∈ items, ∀ later ∈ others, Apart earlier later)
    (goesOn : ∀ value later after, later.Sound → later.realms.get? realm = some after →
      Edits items held after →
        Reaches faults (next value) later (Works faults realm others after)) :
    Reaches faults (part >>= next) store (Works faults realm (items ++ others) held) := by
  refine (first.sound sound).bind ?_ ?_
  · rintro failure later ⟨⟨after, found, edits, faulty⟩, -⟩
    exact ⟨after, found, edits.mono (List.subset_append_left items others), faulty⟩
  · rintro value later ⟨⟨after, found, edits, settled⟩, soundLater⟩
    refine (goesOn value later after soundLater found edits).mono ?_
    rintro outcome last ⟨final, foundLast, more, ending⟩
    refine ⟨final, foundLast, edits.append more, ?_⟩
    cases outcome with
    | error failure => exact ending
    | ok finished =>
        intro item member
        rcases List.mem_append.1 member with earlier | later
        · exact (settled item earlier).of_edits more (apart item earlier)
        · exact ending item later

/-- Parts that work for the items of their subjects work one after the other, from every realm with
a property that edits keep. -/
theorem works_forEach {subjects : List α} {part : α → Part Findings} {itemsOf : α → List Item}
    (kept : StoredRealm → Prop) (apart : (subjects.flatMap itemsOf).Pairwise Apart)
    (keeps : ∀ item before after, Edit item before after → kept before → kept after)
    (each : ∀ subject ∈ subjects, ∀ store held, store.Sound → store.realms.get? realm = some held →
      kept held → Reaches faults (part subject) store (Works faults realm (itemsOf subject) held)) :
    ∀ store held, store.Sound → store.realms.get? realm = some held → kept held →
      Reaches faults (forEach subjects part) store
        (Works faults realm (subjects.flatMap itemsOf) held) := by
  induction subjects with
  | nil =>
      intro store held _ found _
      exact reaches_pure ⟨held, found, .refl, fun item member => by cases member⟩
  | cons subject rest ih =>
      intro store held sound found holds
      rw [List.flatMap_cons] at apart ⊢
      obtain ⟨-, restApart, across⟩ := List.pairwise_append.1 apart
      have first := each subject List.mem_cons_self store held sound found holds
      refine Works.bind sound first across fun one later after soundLater foundLater edits => ?_
      have others := ih restApart
        (fun other member => each other (List.mem_cons_of_mem subject member)) later after
        soundLater foundLater (edits.keep (fun item _ => keeps item) holds)
      exact others.bind (fun _ _ stop => stop) fun _ _ finish => finish

end RealmConvergence.Convergence
