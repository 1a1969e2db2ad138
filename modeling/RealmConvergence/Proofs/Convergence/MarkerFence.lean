import RealmConvergence.Proofs.Collection.Place
import RealmConvergence.Proofs.Convergence.Asking
import RealmConvergence.Proofs.Convergence.ClientPatch
import RealmConvergence.Service.Inspection

/-!
# The marker is written last

The marker of a finished run stands at the end of a run. Whoever replies, and even if the blueprint
lists the marker among its attributes: a realm is never created with the marker, the first pass
sends it with the value that it has just read or not at all, and only the very last call of a run
writes it, after all earlier passes came to their ends (`Fenced`).

On a service, a run that comes to a report leaves the marker set, and one that fails leaves it as it
was (`apply_fences_marker`).
-/

set_option autoImplicit false

namespace RealmConvergence

/-- The value of the marker that a call sends along, if it does. -/
def AdminCall.sentMarker? : AdminCall → Option String
  | .createRealm record => record.attribute? initializedMarker
  | .updateRealm _ record => record.attribute? initializedMarker
  | _ => none

theorem AdminCall.sentMarker?_of_sendsNone {call : AdminCall}
    (sendsNone : call.sendsRealm = false) : call.sentMarker? = none := by
  cases call <;>
    first
    | rfl
    | cases sendsNone

namespace Convergence

open Service

variable {blueprint : Blueprint} {exchanges before after : List (Sigma AdminCall.Reply)}
  {call : AdminCall} {reply : call.Reply} {value : String}

/-! ## The passes before the last -/

/-- The passes from the second to the fifth, with what the first found out. -/
def insidePasses (blueprint : Blueprint) (realm : Findings) : Part Findings := do
  let clients ← clientPass blueprint
  let realmRoles ← realmRolePass blueprint
  let clientRoles ← clientRolePass blueprint
  let composites ← compositePass blueprint
  pure (realm ++ clients ++ realmRoles ++ clientRoles ++ composites)

/-- The passes before the last. -/
def earlierPasses (blueprint : Blueprint) : Part Findings :=
  realmPass blueprint.realm >>= insidePasses blueprint

theorem passes_eq_earlierPasses (blueprint : Blueprint) :
    passes blueprint = earlierPasses blueprint >>= fun earlier =>
      markerPass blueprint.realm.name >>= fun marker => pure (earlier ++ marker) := by
  simp only [passes, earlierPasses, insidePasses, bind_assoc, pure_bind]

theorem asks_insidePasses (blueprint : Blueprint) (realm : Findings) :
    Asks (Inside blueprint.realm.name) (insidePasses blueprint realm) := by
  refine ((asks_clientPass blueprint).mono fun _ => And.left).bind fun _ => ?_
  refine ((asks_realmRolePass blueprint).mono fun _ => And.left).bind fun _ => ?_
  refine ((asks_clientRolePass blueprint).mono fun _ => And.left).bind fun _ => ?_
  exact (asks_compositePass blueprint).bind fun _ => asks_pure _

theorem managedAttributes_marker (desired : Blueprint.Realm) :
    desired.managedAttributes.get? initializedMarker = none := by
  rw [Blueprint.Realm.managedAttributes, Table.get?_filter]
  cases desired.attributes.get? initializedMarker with
  | none => rfl
  | some value =>
      rw [Option.filter_some, if_neg]
      simp

/-! ## Calls at their places -/

/-- A call that sends the marker does not stand where one that sends none does. -/
theorem place_after {first : Sigma AdminCall.Reply} {rest : List (Sigma AdminCall.Reply)}
    (sendsNone : first.1.sentMarker? = none)
    (place : first :: rest = before ++ ⟨call, reply⟩ :: after)
    (sent : call.sentMarker? = some value) :
    ∃ less, before = first :: less ∧ rest = less ++ ⟨call, reply⟩ :: after := by
  cases before with
  | nil =>
      cases place
      rw [sent] at sendsNone
      cases sendsNone
  | cons head less =>
      obtain ⟨rfl, same⟩ := List.cons.inj place
      exact ⟨less, rfl, same⟩

/-- What has to change about a realm carries the marker with the value that was read, if at all. -/
theorem marker_of_realmPatch {current : RealmRecord} {desired : Blueprint.Realm}
    (sent : (realmPatch current desired).attribute? initializedMarker = some value) :
    current.attribute? initializedMarker = some value := by
  obtain ⟨attributes, patched, carried⟩ := Option.bind_eq_some_iff.1 sent
  simp only [realmPatch, patchedAttributes] at patched
  split at patched
  · cases patched
  · cases patched
    rw [Table.get?_override, managedAttributes_marker, Option.none_or] at carried
    cases present : current.attributes with
    | none =>
        rw [present] at carried
        cases carried
    | some attributes =>
        rw [present] at carried
        rw [RealmRecord.attribute?, present]
        exact carried

/-- The first pass sends the marker with the value that it has just read, or not at all. -/
theorem marker_of_realmPass {desired : Blueprint.Realm} {outcome : Except Failure Findings}
    (course : Dialogue.Course (realmPass desired).run exchanges outcome)
    (place : exchanges = before ++ ⟨call, reply⟩ :: after)
    (sent : call.sentMarker? = some value) :
    ∃ current record, call = .updateRealm desired.name record ∧
      before = [⟨.getRealm desired.name, .ok (some current)⟩] ∧
      current.attribute? initializedMarker = some value := by
  rcases course_explained_bind course with ⟨problem, rfl, -⟩ | ⟨current, rest, rfl, later⟩
  · obtain ⟨less, -, nowhere⟩ := place_after rfl place sent
    exact (not_place_in_nil nowhere).elim
  · obtain ⟨less, rfl, onward⟩ := place_after rfl place sent
    cases current with
    | none =>
        -- The realm is created with the attributes that are managed, and the marker is not.
        obtain ⟨created, rfl⟩ := course_explained_pure later
        have sendsNone : (AdminCall.createRealm {
            realm := some desired.name, enabled := some desired.enabled
            attributes := some desired.managedAttributes }).sentMarker? = none :=
          managedAttributes_marker desired
        obtain ⟨less, -, nowhere⟩ := place_after sendsNone onward sent
        exact (not_place_in_nil nowhere).elim
    | some current =>
        dsimp only at later
        split at later
        · obtain ⟨rfl, -⟩ := course_pure later
          exact (not_place_in_nil onward).elim
        · obtain ⟨updated, rfl⟩ := course_explained_pure later
          obtain ⟨rfl, isUpdate, -⟩ := place_in_singleton onward
          cases isUpdate
          exact ⟨current, _, rfl, rfl, marker_of_realmPatch sent⟩

/-- The last pass sends the marker with its last call, after it has read the realm. -/
theorem marker_of_markerPass {realm : String} {outcome : Except Failure Findings}
    (course : Dialogue.Course (markerPass realm).run exchanges outcome)
    (place : exchanges = before ++ ⟨call, reply⟩ :: after)
    (sent : call.sentMarker? = some value) :
    ∃ record current, call = .updateRealm realm record ∧
      before = [⟨.getRealm realm, .ok (some current)⟩] ∧ after = [] ∧ value = "true" := by
  rcases course_explained_bind course with ⟨problem, rfl, -⟩ | ⟨current, rest, rfl, later⟩
  · obtain ⟨less, -, nowhere⟩ := place_after rfl place sent
    exact (not_place_in_nil nowhere).elim
  · obtain ⟨less, rfl, onward⟩ := place_after rfl place sent
    cases current with
    | none =>
        cases later with
        | conclude => exact (not_place_in_nil onward).elim
    | some current =>
        dsimp only at later
        split at later
        · obtain ⟨rfl, -⟩ := course_pure later
          exact (not_place_in_nil onward).elim
        · obtain ⟨updated, rfl⟩ := course_explained_pure later
          obtain ⟨rfl, isUpdate, rfl⟩ := place_in_singleton onward
          cases isUpdate
          have isTrue : some "true" = some value :=
            (Table.get?_insert_self _ initializedMarker "true").symm.trans sent
          exact ⟨_, current, rfl, rfl, rfl, (Option.some.inj isTrue).symm⟩

/-! ## The fence -/

/-- Wherever the marker is sent among these exchanges, it is sent by the update of the realm that
follows the very first read, with the value that was read; or it is set by the very last call, which
follows a course of all earlier passes to their ends and one more read. -/
def Fenced (blueprint : Blueprint) (exchanges : List (Sigma AdminCall.Reply)) : Prop :=
  ∀ (before : List (Sigma AdminCall.Reply)) (call : AdminCall) (reply : call.Reply)
    (after : List (Sigma AdminCall.Reply)) (value : String),
    exchanges = before ++ ⟨call, reply⟩ :: after → call.sentMarker? = some value →
      ∃ record, call = .updateRealm blueprint.realm.name record ∧
        ((∃ current, before = [⟨.getRealm blueprint.realm.name, .ok (some current)⟩] ∧
            current.attribute? initializedMarker = some value) ∨
          (after = [] ∧ value = "true" ∧ ∃ earlier found current,
            before = earlier ++ [⟨.getRealm blueprint.realm.name, .ok (some current)⟩] ∧
            Dialogue.Course (earlierPasses blueprint).run earlier (.ok found)))

/-- In the passes before the last, the marker is sent by the first pass alone. -/
theorem marker_of_earlierPasses {outcome : Except Failure Findings}
    (course : Dialogue.Course (earlierPasses blueprint).run exchanges outcome)
    (place : exchanges = before ++ ⟨call, reply⟩ :: after)
    (sent : call.sentMarker? = some value) :
    ∃ current record, call = .updateRealm blueprint.realm.name record ∧
      before = [⟨.getRealm blueprint.realm.name, .ok (some current)⟩] ∧
      current.attribute? initializedMarker = some value := by
  rcases course_bind course with
    ⟨failure, firstCourse, -⟩ | ⟨first, realm, second, firstCourse, secondCourse, rfl⟩
  · exact marker_of_realmPass firstCourse place sent
  · rcases append_eq_append_cons place with ⟨more, isFirst, -⟩ | ⟨less, -, isSecond⟩
    · exact marker_of_realmPass firstCourse isFirst sent
    · have inside := (asks_insidePasses blueprint realm).course secondCourse ⟨call, reply⟩
        (isSecond ▸ List.mem_append_right less List.mem_cons_self)
      rw [AdminCall.sentMarker?_of_sendsNone inside.2] at sent
      cases sent

/-- **Whoever replies, the marker is fenced in every course of a run.** -/
theorem fenced_of_course {outcome : Except Failure Report}
    (course : Dialogue.Course (apply blueprint).run exchanges outcome) :
    Fenced blueprint exchanges := by
  intro before call reply after value place sent
  unfold apply at course
  split at course
  · cases course with
    | conclude => exact (not_place_in_nil place).elim
  · rw [passes_eq_earlierPasses, bind_assoc] at course
    rcases course_bind course with
      ⟨failure, earlierCourse, -⟩ | ⟨earlier, found, rest, earlierCourse, laterCourse, rfl⟩
    · obtain ⟨current, record, isUpdate, isRead, carried⟩ :=
        marker_of_earlierPasses earlierCourse place sent
      exact ⟨record, isUpdate, .inl ⟨current, isRead, carried⟩⟩
    · rcases append_eq_append_cons place with ⟨more, isEarlier, -⟩ | ⟨less, rfl, isLater⟩
      · obtain ⟨current, record, isUpdate, isRead, carried⟩ :=
          marker_of_earlierPasses earlierCourse isEarlier sent
        exact ⟨record, isUpdate, .inl ⟨current, isRead, carried⟩⟩
      · obtain ⟨withMarker, markedCourse, -⟩ := course_bind_pure.1 laterCourse
        obtain ⟨last, markerCourse, -⟩ := course_bind_pure.1 markedCourse
        obtain ⟨record, current, isUpdate, rfl, isLast, isTrue⟩ :=
          marker_of_markerPass markerCourse isLater sent
        exact ⟨record, isUpdate, .inr ⟨isLast, isTrue, earlier, found, current, rfl, earlierCourse⟩⟩

/-! ## The marker on a service -/

section Marker

variable {store : Store} {faults : Faults} {held : StoredRealm}

/-- The marker of a realm, as it can be seen from outside. -/
def markerOf (store : Store) (realm : String) : Option String :=
  (store.realm? realm).bind (·.attribute? initializedMarker)

theorem markerOf_eq_of_found {realm : String} (found : store.realms.get? realm = some held) :
    markerOf store realm = held.attributes.get? initializedMarker := by
  rw [markerOf, Store.realm?, found]
  rfl

theorem markerOf_eq_of_absent {realm : String} (absent : store.realms.get? realm = none) :
    markerOf store realm = none := by
  rw [markerOf, Store.realm?, absent]
  rfl

/-- Where the attributes of a realm stay, its marker does. -/
theorem markerOf_congr {later : Store} {realm : String}
    (same : (later.realms.get? realm).map StoredRealm.attributes =
      (store.realms.get? realm).map StoredRealm.attributes) :
    markerOf later realm = markerOf store realm := by
  have seen (some : Store) : markerOf some realm =
      ((some.realms.get? realm).map StoredRealm.attributes).bind (·.get? initializedMarker) := by
    cases found : some.realms.get? realm with
    | none => exact markerOf_eq_of_absent found
    | some held => exact markerOf_eq_of_found found
  rw [seen, seen, same]

/-- Whatever becomes of a last call, the store is as it was or as the call makes it. -/
theorem reaches_explained_pure {ε α : Type} {explain : AdminError → ε} {call : AdminCall}
    {value : α} {kept : Store → Prop} (before : kept store) (after : kept (store.answer call).2) :
    Reaches faults (explained explain call >>= fun _ => pure value) store fun _ later =>
      kept later := by
  have called : Reaches faults (explained explain call) store fun _ later => kept later :=
    reaches_explained (fun _ _ => before) fun _ => after
  exact called.bind (fun _ _ stop => stop) fun _ _ finish => finish

/-- A realm that was absent is created without the marker. -/
theorem markerOf_createRealm {desired : Blueprint.Realm}
    (absent : store.realms.get? desired.name = none) :
    markerOf (store.answer (.createRealm {
      realm := some desired.name, enabled := some desired.enabled
      attributes := some desired.managedAttributes })).2 desired.name = none := by
  simp only [Store.answer, Option.getD_some]
  split
  · exact markerOf_eq_of_absent absent
  · split
    · exact markerOf_eq_of_absent absent
    · obtain ⟨clients, started, -⟩ := store.startRealm_realms_get? desired.name desired.enabled
        desired.managedAttributes
      rw [markerOf_eq_of_found started]
      exact managedAttributes_marker desired

/-- The first pass leaves the marker as it is. -/
theorem markerOf_realmPass (desired : Blueprint.Realm) :
    Reaches faults (realmPass desired) store fun _ later =>
      markerOf later desired.name = markerOf store desired.name := by
  cases known : store.realms.get? desired.name with
  | none =>
      refine reaches_explained_bind (Store.answer_getRealm_of_absent known) (fun _ _ => rfl) ?_
      refine reaches_explained_pure rfl ?_
      rw [markerOf_createRealm known, markerOf_eq_of_absent known]
  | some held =>
      refine reaches_explained_bind (Store.answer_getRealm known) (fun _ _ => rfl) ?_
      dsimp only
      split
      · exact reaches_pure rfl
      · refine reaches_explained_pure rfl ?_
        rw [Store.answer_updateRealm known, markerOf_eq_of_found known,
          markerOf_eq_of_found (Store.putRealm_realms_get?_self _ _ _)]
        exact get?_patched_of_unlisted held.attributes (managedAttributes_marker desired)

/-- The passes that follow it do so as well. -/
theorem markerOf_insidePasses (blueprint : Blueprint) (realm : Findings) :
    Reaches faults (insidePasses blueprint realm) store fun _ later =>
      markerOf later blueprint.realm.name = markerOf store blueprint.realm.name := by
  have keeps (call : AdminCall) (before : Store) (inside : Inside blueprint.realm.name call)
      (same : markerOf before blueprint.realm.name = markerOf store blueprint.realm.name) :
      markerOf (respond faults call before).2 blueprint.realm.name =
        markerOf store blueprint.realm.name := by
    refine respond_keeps (fun later => markerOf later blueprint.realm.name =
      markerOf store blueprint.realm.name) same ?_
    exact (markerOf_congr (before.answer_attributes inside.2 blueprint.realm.name)).trans same
  exact Dialogue.AsksOnly.run_keeps keeps (asks_insidePasses blueprint realm) rfl

/-- A report means a marker that is set, a failure one that is as before. -/
def Marks {α : Type} (realm : String) (before : Store) (outcome : Except Failure α)
    (later : Store) : Prop :=
  match outcome with
  | .ok _ => markerIsSet (markerOf later realm) = true
  | .error _ => markerOf later realm = markerOf before realm

theorem Marks.of_same {α : Type} {realm : String} {before : Store} {outcome : Except Failure α}
    {later : Store} (marks : Marks realm store outcome later)
    (same : markerOf store realm = markerOf before realm) : Marks realm before outcome later := by
  cases outcome with
  | ok value => exact marks
  | error failure => exact Eq.trans marks same

/-- The last pass sets the marker, or fails and leaves it as it is. -/
theorem marks_markerPass (realm : String) :
    Reaches faults (markerPass realm) store (Marks realm store) := by
  cases known : store.realms.get? realm with
  | none =>
      exact reaches_explained_bind (Store.answer_getRealm_of_absent known) (fun _ _ => rfl)
        (reaches_throw rfl)
  | some held =>
      refine reaches_explained_bind (Store.answer_getRealm known) (fun _ _ => rfl) ?_
      dsimp only
      split
      · next isSet =>
        refine reaches_pure ?_
        show markerIsSet (markerOf store realm) = true
        rw [markerOf_eq_of_found known]
        exact isSet
      · refine reaches_explained_bind (Store.answer_updateRealm known) (fun _ _ => rfl) ?_
        refine reaches_pure ?_
        show markerIsSet (markerOf _ realm) = true
        rw [markerOf_eq_of_found (Store.putRealm_realms_get?_self _ _ _)]
        show markerIsSet ((held.attributes.override
          (held.attributes.insert initializedMarker "true")).get? initializedMarker) = true
        rw [Table.get?_override, Table.get?_insert_self, Option.some_or]
        decide

/-- Applying a blueprint sets the marker, or fails and leaves it as it is. -/
theorem marks_apply (blueprint : Blueprint) :
    Reaches faults (apply blueprint) store (Marks blueprint.realm.name store) := by
  unfold apply
  split
  · exact reaches_throw rfl
  · rw [passes_eq_earlierPasses, bind_assoc]
    have earlier : Reaches faults (earlierPasses blueprint) store fun _ later =>
        markerOf later blueprint.realm.name = markerOf store blueprint.realm.name := by
      refine (markerOf_realmPass blueprint.realm).bind (fun _ _ same => same) ?_
      intro realm later same
      exact (markerOf_insidePasses blueprint realm).mono fun _ _ stays => stays.trans same
    refine earlier.bind (fun _ _ same => same) fun found later same => ?_
    have marked : Reaches faults (markerPass blueprint.realm.name) later
        (Marks blueprint.realm.name store) :=
      (marks_markerPass blueprint.realm.name).mono fun _ _ marks => marks.of_same same
    have joined : Reaches faults (markerPass blueprint.realm.name >>= fun marker =>
        pure (found ++ marker)) later (Marks blueprint.realm.name store) :=
      marked.bind (fun _ _ stop => stop) fun _ _ finish => finish
    exact joined.bind (fun _ _ stop => stop) fun _ _ finish => finish

end Marker

/-- **The marker is written last.** In every course of a run, whoever replies and whatever the
blueprint lists, the marker is fenced. On a service, in whatever state and with whatever faults, a
run that comes to a report leaves the marker of its realm set, and one that fails leaves it exactly
as it was. -/
theorem apply_fences_marker (blueprint : Blueprint) :
    (∀ (exchanges : List (Sigma AdminCall.Reply)) (outcome : Except Failure Report),
      Dialogue.Course (apply blueprint).run exchanges outcome → Fenced blueprint exchanges) ∧
    ∀ service : Service,
      match service.talk (apply blueprint).run with
      | (.ok _, later) => markerIsSet (markerOf later.store blueprint.realm.name) = true
      | (.error _, later) => markerOf later.store blueprint.realm.name =
          markerOf service.store blueprint.realm.name := by
  refine ⟨fun _ _ course => fenced_of_course course, fun service => ?_⟩
  have marks : Reaches service.faults (apply blueprint) service.store _ := marks_apply blueprint
  unfold Reaches at marks
  rw [talk_eq]
  generalize (apply blueprint).run.run (respond service.faults) service.store = came at marks ⊢
  obtain ⟨outcome, later⟩ := came
  cases outcome with
  | ok report => exact marks
  | error failure => exact marks

/-- With a new service, a blueprint that lists the marker as set. -/
theorem apply_fences_marker_listed :
    let blueprint : Blueprint :=
      { realm := { name := "school", attributes := Table.ofList [(initializedMarker, "true")] } }
    (∃ exchanges outcome, Dialogue.Course (apply blueprint).run exchanges outcome ∧
      Fenced blueprint exchanges) ∧
    match ({} : Service).talk (apply blueprint).run with
    | (.ok _, later) => markerIsSet (markerOf later.store "school") = true
    | (.error _, later) => markerOf later.store "school" = markerOf {} "school" := by
  intro blueprint
  obtain ⟨fenced, marks⟩ := apply_fences_marker blueprint
  obtain ⟨exchanges, course⟩ := Dialogue.course_of_run Service.answer (apply blueprint).run {}
  exact ⟨⟨exchanges, _, course, fenced exchanges _ course⟩, marks {}⟩

end Convergence

end RealmConvergence
