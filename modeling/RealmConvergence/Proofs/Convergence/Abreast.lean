import RealmConvergence.Proofs.Convergence.Viewing
import RealmConvergence.Proofs.Dialogue.Amid

/-!
# Parts of a run abreast of each other

A part of a run is made alone with one store, and another one with a second store amid calls about
other realms. They stay abreast (`Abreast`) when they make calls of the same operations, come to
outcomes that agree, and leave the realm viewed alike. There is one rule for every way to build a
part. The stores may differ in all that was drawn since some point, and the parts in the identifiers
that they carry; a call on both sides must be about what is the same by name.

Calls about other realms leave the realm of the run as it is (`Twins.meanwhile`), so they need no
rule of their own.
-/

set_option autoImplicit false

namespace RealmConvergence.Convergence

open Service

/-! ## Stores that hold a realm alike -/

/-- A call about another realm was answered. -/
def Elsewhere (faults : Faults) (realm : String) (store later : Store) : Prop :=
  ∃ call : AdminCall, call.realm ≠ realm ∧ later = (respond faults call store).2

/-- Two stores hold a realm, here and there, and it is viewed alike. -/
structure Twins (lens : Lens) (realm : String) (store twin : Store)
    (place twinPlace : Option StoredRealm) : Prop where
  readable : store.Readable lens
  twinReadable : twin.Readable lens
  provides : twin.providesManagement = store.providesManagement
  there : store.realms.get? realm = place
  twinThere : twin.realms.get? realm = twinPlace
  alike : place.map (StoredRealm.view lens) = twinPlace.map (StoredRealm.view lens)

section Twins

variable {lens : Lens} {faults : Faults} {realm : String} {store twin later : Store}
  {place twinPlace : Option StoredRealm} {held twinHeld : StoredRealm}

/-- A call keeps what new realms come with. -/
theorem respond_provides (faults : Faults) (call : AdminCall) (store : Store) :
    (respond faults call store).2.providesManagement = store.providesManagement :=
  respond_keeps (·.providesManagement = store.providesManagement) rfl
    (Store.answer_keeps store call).2

theorem respond_readable (readable : store.Readable lens) (faults : Faults) (call : AdminCall) :
    (respond faults call store).2.Readable lens :=
  respond_keeps (Store.Readable lens) readable (readable.answer call)

/-- **Calls about other realms leave twins as they are.** -/
theorem Twins.meanwhile (twins : Twins lens realm store twin place twinPlace)
    (moved : Relation.ReflTransGen (Elsewhere faults realm) twin later) :
    Twins lens realm store later place twinPlace := by
  induction moved with
  | refl => exact twins
  | tail _ move ih =>
      obtain ⟨call, elsewhere, rfl⟩ := move
      refine ⟨ih.readable, respond_readable ih.twinReadable faults call, ?_, ih.there, ?_, ih.alike⟩
      · rw [respond_provides, ih.provides]
      · refine respond_keeps (fun later => later.realms.get? realm = twinPlace) ih.twinThere ?_
        rw [Store.answer_elsewhere _ call (Ne.symm elsewhere), ih.twinThere]

/-- A realm that is viewed alike after a call of either side makes twins of the stores. -/
theorem Twins.answer {twinLater : Store} {call twinCall : AdminCall} {reply : call.Reply}
    {twinReply : twinCall.Reply} (twins : Twins lens realm store twin place twinPlace)
    (answers : store.answer call = (reply, later))
    (twinAnswers : twin.answer twinCall = (twinReply, twinLater))
    (found : later.realms.get? realm = some held)
    (twinFound : twinLater.realms.get? realm = some twinHeld)
    (alike : held.view lens = twinHeld.view lens) :
    Twins lens realm later twinLater (some held) (some twinHeld) := by
  have isLater : (store.answer call).2 = later := congrArg Prod.snd answers
  have isTwinLater : (twin.answer twinCall).2 = twinLater := congrArg Prod.snd twinAnswers
  refine ⟨isLater ▸ twins.readable.answer call, isTwinLater ▸ twins.twinReadable.answer twinCall,
    ?_, found, twinFound, congrArg some alike⟩
  rw [← isLater, ← isTwinLater, (Store.answer_keeps twin twinCall).2,
    (Store.answer_keeps store call).2, twins.provides]

end Twins

/-! ## Abreast -/

section Abreast

variable {ε α β γ δ : Type}

/-- Outcomes agree: values that meet the goal, or one and the same failure. -/
def Agree (goal : α → β → Option StoredRealm → Option StoredRealm → Prop) :
    Except ε α → Except ε β → Option StoredRealm → Option StoredRealm → Prop
  | .ok value, .ok twinValue, place, twinPlace => goal value twinValue place twinPlace
  | .error failure, .error twinFailure, _, _ => failure = twinFailure
  | _, _, _, _ => False

/-- Outcomes that agree on one and the same value are the same. -/
theorem Agree.eq {goal : α → α → Option StoredRealm → Option StoredRealm → Prop}
    {own other : Except ε α} {place twinPlace : Option StoredRealm}
    (agree : Agree goal own other place twinPlace)
    (same : ∀ value twinValue, goal value twinValue place twinPlace → value = twinValue) :
    own = other := by
  cases own <;> cases other
  · exact congrArg Except.error agree
  · exact agree.elim
  · exact agree.elim
  · exact congrArg Except.ok (same _ _ agree)

/-- One part alone with its store, and another one amid calls about other realms, make calls of the
same operations and come to outcomes that agree, with twins of stores. -/
def Abreast (lens : Lens) (faults : Faults) (realm : String) (part : ExceptT ε Talk α)
    (twinPart : ExceptT ε Talk β) (store twin : Store)
    (goal : α → β → Option StoredRealm → Option StoredRealm → Prop) : Prop :=
  ∀ calls outcome last,
    Dialogue.Amid (respond faults) (Elsewhere faults realm) twinPart.run twin calls outcome last →
      calls.map AdminCall.operation =
          (part.run.asked (respond faults) store).map AdminCall.operation ∧
        ∃ place twinPlace,
          Twins lens realm (part.run.run (respond faults) store).2 last place twinPlace ∧
            Agree goal (part.run.run (respond faults) store).1 outcome place twinPlace

/-- Both sides come to the same value, and the realm is there on both, as it is asked for. -/
def SameAnd (kept : StoredRealm → StoredRealm → Prop) (value twinValue : α)
    (place twinPlace : Option StoredRealm) : Prop :=
  value = twinValue ∧
    ∃ held twinHeld, place = some held ∧ twinPlace = some twinHeld ∧ kept held twinHeld

/-- Both sides come to the same value, and the realm is there on both. -/
abbrev Same (value twinValue : α) (place twinPlace : Option StoredRealm) : Prop :=
  SameAnd (fun _ _ => True) value twinValue place twinPlace

variable {lens : Lens} {faults : Faults} {realm : String} {store twin : Store}
  {place twinPlace : Option StoredRealm} {held twinHeld : StoredRealm}
  {goal wider : α → β → Option StoredRealm → Option StoredRealm → Prop}

theorem abreast_pure {value : α} {twinValue : β}
    (twins : Twins lens realm store twin place twinPlace)
    (holds : goal value twinValue place twinPlace) :
    Abreast lens faults realm (pure value : ExceptT ε Talk α) (pure twinValue) store twin goal := by
  intro calls outcome last amid
  obtain ⟨rfl, rfl, moved⟩ := Dialogue.amid_conclude amid
  exact ⟨rfl, place, twinPlace, twins.meanwhile moved, holds⟩

theorem abreast_throw {failure : ε} (twins : Twins lens realm store twin place twinPlace) :
    Abreast lens faults realm (throw failure : ExceptT ε Talk α) (throw failure) store twin
      goal := by
  intro calls outcome last amid
  obtain ⟨rfl, rfl, moved⟩ := Dialogue.amid_conclude amid
  exact ⟨rfl, place, twinPlace, twins.meanwhile moved, rfl⟩

theorem Abreast.mono {part : ExceptT ε Talk α} {twinPart : ExceptT ε Talk β}
    (abreast : Abreast lens faults realm part twinPart store twin goal)
    (weaker : ∀ value twinValue place twinPlace, goal value twinValue place twinPlace →
      wider value twinValue place twinPlace) :
    Abreast lens faults realm part twinPart store twin wider := by
  intro calls outcome last amid
  obtain ⟨same, place, twinPlace, twins, agree⟩ := abreast calls outcome last amid
  refine ⟨same, place, twinPlace, twins, ?_⟩
  generalize (part.run.run (respond faults) store).1 = own at agree
  cases own <;> cases outcome
  · exact agree
  · exact agree
  · exact agree
  · exact weaker _ _ _ _ agree

/-- **Parts that are abreast, followed by parts that are, are abreast.** -/
theorem Abreast.bind {part : ExceptT ε Talk α} {twinPart : ExceptT ε Talk β}
    {next : α → ExceptT ε Talk γ} {twinNext : β → ExceptT ε Talk δ}
    {between : α → β → Option StoredRealm → Option StoredRealm → Prop}
    {goal : γ → δ → Option StoredRealm → Option StoredRealm → Prop}
    (first : Abreast lens faults realm part twinPart store twin between)
    (goesOn : ∀ value twinValue later twinLater place twinPlace,
      Twins lens realm later twinLater place twinPlace → between value twinValue place twinPlace →
        Abreast lens faults realm (next value) (twinNext twinValue) later twinLater goal) :
    Abreast lens faults realm (part >>= next) (twinPart >>= twinNext) store twin goal := by
  intro calls outcome last amid
  rw [run_bind] at amid ⊢
  obtain ⟨early, came, middle, late, earlyAmid, lateAmid, rfl⟩ := amid.of_andThen
  obtain ⟨sameEarly, place, twinPlace, twins, agree⟩ := first early came middle earlyAmid
  rw [Dialogue.asked_andThen, Dialogue.run_andThen, List.map_append, List.map_append, sameEarly]
  generalize part.run.run (respond faults) store = reached at twins agree
  obtain ⟨own, later⟩ := reached
  cases own with
  | ok value =>
      cases came with
      | ok twinValue =>
          obtain ⟨sameLate, ending⟩ := goesOn value twinValue later middle place twinPlace twins
            agree late outcome last lateAmid
          exact ⟨congrArg _ sameLate, ending⟩
      | error failure => exact agree.elim
  | error failure =>
      cases came with
      | ok twinValue => exact agree.elim
      | error twinFailure =>
          obtain ⟨rfl, rfl, moved⟩ := Dialogue.amid_conclude lateAmid
          exact ⟨rfl, place, twinPlace, twins.meanwhile moved, agree⟩

/-- What the part that is made alone comes to holds besides. -/
theorem Abreast.and_reaches {part : ExceptT ε Talk α} {twinPart : ExceptT ε Talk β}
    {reached : α → Option StoredRealm → Prop}
    (abreast : Abreast lens faults realm part twinPart store twin goal)
    (reaches : Reaches faults part store fun outcome later =>
      ∀ value, outcome = .ok value → reached value (later.realms.get? realm)) :
    Abreast lens faults realm part twinPart store twin fun value twinValue place twinPlace =>
      goal value twinValue place twinPlace ∧ reached value place := by
  intro calls outcome last amid
  obtain ⟨same, place, twinPlace, twins, agree⟩ := abreast calls outcome last amid
  refine ⟨same, place, twinPlace, twins, ?_⟩
  have isPlace := twins.there
  unfold Reaches at reaches
  generalize part.run.run (respond faults) store = came at agree isPlace reaches
  obtain ⟨own, later⟩ := came
  cases own with
  | ok value =>
      cases outcome with
      | ok twinValue => exact ⟨agree, isPlace ▸ reaches value rfl⟩
      | error failure => exact agree
  | error failure =>
      cases outcome with
      | ok twinValue => exact agree
      | error twinFailure => exact agree

/-! ## Calls -/

section Calls

variable {explain : AdminError → ε} {call twinCall : AdminCall}
  {next : call.Answer → ExceptT ε Talk α} {twinNext : twinCall.Answer → ExceptT ε Talk β}

/-- **Calls of one operation that both are answered lead to what follows the answers**, unless they
are told to fail. -/
theorem abreast_call (twins : Twins lens realm store twin place twinPlace)
    (same : call.operation = twinCall.operation)
    (goesOn : ∀ between, Twins lens realm store between place twinPlace →
      ∃ answer twinAnswer later twinLater, store.answer call = (.ok answer, later) ∧
        between.answer twinCall = (.ok twinAnswer, twinLater) ∧
          Abreast lens faults realm (next answer) (twinNext twinAnswer) later twinLater goal) :
    Abreast lens faults realm (explained explain call >>= next)
      (explained explain twinCall >>= twinNext) store twin goal := by
  intro calls outcome last amid
  obtain ⟨between, rest, moved, rfl, onward⟩ := Dialogue.amid_ask amid
  have twinsBetween := twins.meanwhile moved
  have asked : (explained explain call >>= next).run.asked (respond faults) store =
      call :: (afterOutcome next ((respond faults call store).1.mapError explain)).asked
        (respond faults) (respond faults call store).2 := rfl
  have ran : (explained explain call >>= next).run.run (respond faults) store =
      (afterOutcome next ((respond faults call store).1.mapError explain)).run
        (respond faults) (respond faults call store).2 := rfl
  have twinGoes : Dialogue.Amid (respond faults) (Elsewhere faults realm)
      (afterOutcome twinNext ((respond faults twinCall between).1.mapError explain))
      (respond faults twinCall between).2 rest outcome last := onward
  rw [asked, ran, List.map_cons, List.map_cons, same]
  cases faulty : faults call.operation with
  | some problem =>
      rw [respond_of_faulty (same ▸ faulty)] at twinGoes
      rw [respond_of_faulty faulty]
      obtain ⟨rfl, rfl, more⟩ := Dialogue.amid_conclude twinGoes
      exact ⟨rfl, place, twinPlace, twinsBetween.meanwhile more, rfl⟩
  | none =>
      obtain ⟨answer, twinAnswer, later, twinLater, answers, twinAnswers, abreast⟩ :=
        goesOn between twinsBetween
      rw [respond_of_faultless (same ▸ faulty), twinAnswers] at twinGoes
      rw [respond_of_faultless faulty, answers]
      obtain ⟨sameRest, ending⟩ := abreast rest outcome last twinGoes
      exact ⟨congrArg _ sameRest, ending⟩

/-- Calls that read lead to what follows their answers, with the realms as they are. -/
theorem abreast_reads {answer : call.Answer} {twinAnswer : twinCall.Answer}
    (twins : Twins lens realm store twin place twinPlace)
    (same : call.operation = twinCall.operation)
    (answers : ∀ store : Store, store.realms.get? realm = place →
      store.answer call = (.ok answer, store))
    (twinAnswers : ∀ store : Store, store.realms.get? realm = twinPlace →
      store.answer twinCall = (.ok twinAnswer, store))
    (goesOn : ∀ between, Twins lens realm store between place twinPlace →
      Abreast lens faults realm (next answer) (twinNext twinAnswer) store between goal) :
    Abreast lens faults realm (explained explain call >>= next)
      (explained explain twinCall >>= twinNext) store twin goal :=
  abreast_call twins same fun between twinsBetween =>
    ⟨answer, twinAnswer, store, between, answers store twinsBetween.there,
      twinAnswers between twinsBetween.twinThere, goesOn between twinsBetween⟩

/-- Calls that show the realm alike lead to what follows their answers. -/
theorem abreast_shows {answer : call.Answer} {twinAnswer : twinCall.Answer}
    {view twinView : RealmView} (twins : Twins lens realm store twin place twinPlace)
    (same : call.operation = twinCall.operation)
    (shows' : store.Shows lens realm call answer view)
    (twinShows : ∀ between, Twins lens realm store between place twinPlace →
      between.Shows lens realm twinCall twinAnswer twinView)
    (sameView : view = twinView)
    (goesOn : ∀ later twinLater after twinAfter,
      Twins lens realm later twinLater (some after) (some twinAfter) →
        Abreast lens faults realm (next answer) (twinNext twinAnswer) later twinLater goal) :
    Abreast lens faults realm (explained explain call >>= next)
      (explained explain twinCall >>= twinNext) store twin goal := by
  refine abreast_call twins same fun between twinsBetween => ?_
  obtain ⟨later, answers, seen⟩ := shows'
  obtain ⟨twinLater, twinAnswers, twinSeen⟩ := twinShows between twinsBetween
  obtain ⟨after, found, rfl⟩ := Option.map_eq_some_iff.1 seen
  obtain ⟨twinAfter, twinFound, rfl⟩ := Option.map_eq_some_iff.1 twinSeen
  exact ⟨answer, twinAnswer, later, twinLater, answers, twinAnswers, goesOn later twinLater after
    twinAfter (twinsBetween.answer answers twinAnswers found twinFound sameView)⟩

/-- Calls that show the realm alike, and a client of it under the internal identifiers that it has
on both sides, lead to what follows their answers. -/
theorem abreast_showsClient {answer : call.Answer} {twinAnswer : twinCall.Answer}
    {clientId key twinKey : String} {view twinView : RealmView}
    (twins : Twins lens realm store twin place twinPlace)
    (same : call.operation = twinCall.operation)
    (shows' : store.ShowsClient lens realm call answer clientId key view)
    (twinShows : ∀ between, Twins lens realm store between place twinPlace →
      between.ShowsClient lens realm twinCall twinAnswer clientId twinKey twinView)
    (sameView : view = twinView)
    (goesOn : ∀ later twinLater after twinAfter stored twinStored,
      Twins lens realm later twinLater (some after) (some twinAfter) → after.view lens = view →
        after.client? clientId = some (key, stored) →
          twinAfter.client? clientId = some (twinKey, twinStored) →
            Abreast lens faults realm (next answer) (twinNext twinAnswer) later twinLater goal) :
    Abreast lens faults realm (explained explain call >>= next)
      (explained explain twinCall >>= twinNext) store twin goal := by
  refine abreast_call twins same fun between twinsBetween => ?_
  obtain ⟨later, after, stored, answers, found, known, rfl⟩ := shows'
  obtain ⟨twinLater, twinAfter, twinStored, twinAnswers, twinFound, twinKnown, rfl⟩ :=
    twinShows between twinsBetween
  exact ⟨answer, twinAnswer, later, twinLater, answers, twinAnswers, goesOn later twinLater after
    twinAfter stored twinStored (twinsBetween.answer answers twinAnswers found twinFound sameView)
    rfl known twinKnown⟩

end Calls

/-! ## One after the other -/

theorem Twins.exists_held (twins : Twins lens realm store twin (some held) twinPlace) :
    ∃ twinHeld, twinPlace = some twinHeld ∧ held.view lens = twinHeld.view lens := by
  obtain ⟨twinHeld, isThere, same⟩ := Option.map_eq_some_iff.1 twins.alike.symm
  exact ⟨twinHeld, isThere, same.symm⟩

theorem Twins.view_eq (twins : Twins lens realm store twin (some held) (some twinHeld)) :
    held.view lens = twinHeld.view lens :=
  Option.some.inj twins.alike

theorem abreast_pure_same {kept : StoredRealm → StoredRealm → Prop} {value : α}
    (twins : Twins lens realm store twin (some held) (some twinHeld)) (holds : kept held twinHeld) :
    Abreast lens faults realm (pure value : ExceptT ε Talk α) (pure value) store twin
      (SameAnd kept) :=
  abreast_pure twins ⟨rfl, held, twinHeld, rfl, rfl, holds⟩

/-- What is kept may be forgotten. -/
theorem Abreast.same {part twinPart : ExceptT ε Talk α} {kept : StoredRealm → StoredRealm → Prop}
    (abreast : Abreast lens faults realm part twinPart store twin (SameAnd kept)) :
    Abreast lens faults realm part twinPart store twin Same := by
  refine abreast.mono ?_
  rintro value twinValue place twinPlace ⟨same, held, twinHeld, there, twinThere, -⟩
  exact ⟨same, held, twinHeld, there, twinThere, trivial⟩

/-- Calls that show the realm alike may be the last ones. -/
theorem abreast_writes {explain : AdminError → ε} {call twinCall : AdminCall}
    {answer : call.Answer} {twinAnswer : twinCall.Answer} {view twinView : RealmView} {value : α}
    (twins : Twins lens realm store twin place twinPlace)
    (same : call.operation = twinCall.operation)
    (shows' : store.Shows lens realm call answer view)
    (twinShows : ∀ between, Twins lens realm store between place twinPlace →
      between.Shows lens realm twinCall twinAnswer twinView)
    (sameView : view = twinView) :
    Abreast lens faults realm (explained explain call >>= fun _ => pure value)
      (explained explain twinCall >>= fun _ => pure value) store twin Same :=
  abreast_shows twins same shows' twinShows sameView fun _ _ _ _ twins =>
    abreast_pure_same twins trivial

/-- After parts that come to the same value, the next ones start from realms that are there. -/
theorem Abreast.bind_same {part twinPart : ExceptT ε Talk α} {next : α → ExceptT ε Talk γ}
    {twinNext : α → ExceptT ε Talk δ} {kept : StoredRealm → StoredRealm → Prop}
    {goal : γ → δ → Option StoredRealm → Option StoredRealm → Prop}
    (first : Abreast lens faults realm part twinPart store twin (SameAnd kept))
    (goesOn : ∀ value later twinLater held twinHeld,
      Twins lens realm later twinLater (some held) (some twinHeld) → kept held twinHeld →
        Abreast lens faults realm (next value) (twinNext value) later twinLater goal) :
    Abreast lens faults realm (part >>= next) (twinPart >>= twinNext) store twin goal := by
  refine first.bind ?_
  rintro value twinValue later twinLater place twinPlace twins
    ⟨rfl, held, twinHeld, rfl, rfl, holds⟩
  exact goesOn value later twinLater held twinHeld twins holds

/-- **Parts that are abreast one by one are so one after the other**, if they keep what they need of
the realms. -/
theorem abreast_forEach {subjects : List γ} {part twinPart : γ → Part Findings}
    (kept : StoredRealm → StoredRealm → Prop)
    (each : ∀ subject ∈ subjects, ∀ store twin held twinHeld,
      Twins lens realm store twin (some held) (some twinHeld) → kept held twinHeld →
        Abreast lens faults realm (part subject) (twinPart subject) store twin (SameAnd kept)) :
    ∀ store twin held twinHeld, Twins lens realm store twin (some held) (some twinHeld) →
      kept held twinHeld →
        Abreast lens faults realm (forEach subjects part) (forEach subjects twinPart) store twin
          (SameAnd kept) := by
  induction subjects with
  | nil => exact fun store twin held twinHeld twins holds => abreast_pure_same twins holds
  | cons subject rest ih =>
      intro store twin held twinHeld twins holds
      refine (each subject List.mem_cons_self store twin held twinHeld twins holds).bind_same ?_
      intro found store twin held twinHeld twins holds
      refine (ih (fun other member => each other (List.mem_cons_of_mem _ member)) store twin held
        twinHeld twins holds).bind_same ?_
      exact fun others store twin held twinHeld twins holds => abreast_pure_same twins holds

/-- Grants that are abreast are so when they are tolerated. -/
theorem abreast_tolerate {key twinKey clientId : String} (found : Findings)
    (grants : Abreast lens faults realm (grantRoles realm key) (grantRoles realm twinKey) store twin
      Same)
    (stays : Reaches faults (grantRoles realm key) store fun _ later =>
      ∃ after, later.realms.get? realm = some after) :
    Abreast lens faults realm
      (tolerate (grantToServiceAccount realm key clientId) >>= fun granted =>
        pure (found ++ granted) : Part Findings)
      (tolerate (grantToServiceAccount realm twinKey clientId) >>= fun granted =>
        pure (found ++ granted)) store twin Same := by
  intro calls outcome last amid
  rw [run_tolerate_grant] at amid ⊢
  obtain ⟨early, came, middle, late, earlyAmid, lateAmid, rfl⟩ := amid.of_andThen
  obtain ⟨rfl, rfl, moved⟩ := Dialogue.amid_conclude lateAmid
  obtain ⟨same, place, twinPlace, twins, agree⟩ := grants early came middle earlyAmid
  rw [Dialogue.asked_andThen, Dialogue.run_andThen, List.map_append, List.map_append, same]
  unfold Reaches at stays
  generalize (grantRoles realm key).run.run (respond faults) store = reached at twins agree stays
  obtain ⟨own, later⟩ := reached
  obtain ⟨after, isThere⟩ := stays
  cases twins.there.symm.trans isThere
  obtain ⟨twinAfter, rfl, -⟩ := twins.exists_held
  obtain rfl : own = came := agree.eq fun _ _ => And.left
  exact ⟨rfl, some after, some twinAfter, twins.meanwhile moved, rfl, after, twinAfter, rfl, rfl,
    trivial⟩

end Abreast

end RealmConvergence.Convergence
