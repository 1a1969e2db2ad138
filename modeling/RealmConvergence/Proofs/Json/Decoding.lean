import RealmConvergence.Json.Decoding
import RealmConvergence.Proofs.Outcome

/-!
# What a decoded value was

A decoder that succeeds says what it was given. A text comes from a string, the items of a list come
from the items of an array one by one (`Decoder.list_eq_ok`), and a field of a record that is
written as an object comes from the member of its name (`Shape.lookup_present`): visiting the
members drops no field, whatever else stands in the object and in whatever order. Each of them has
passed the check of its field (`Shape.checked_of_present`), and a record that takes no other members
has none but its fields (`Shape.mem_names_of_present`).
-/

set_option autoImplicit false

namespace RealmConvergence.Json

variable {α : Type}

/-! ## Values -/

namespace Decoder

variable {decoder : Decoder α} {found : Json}

theorem text_eq_ok {value : String} (read : text found = .ok value) : found = .string value := by
  cases found with
  | string text =>
      cases read
      rfl
  | _ => cases read

theorem natural_eq_ok_iff {value : Nat} : natural found = .ok value ↔ found = .ofNat value := by
  constructor
  · intro read
    unfold natural at read
    split at read
    · next number =>
      split at read
      · next notNegative =>
        cases read
        rw [Json.ofNat, Int.toNat_of_nonneg notNegative]
      · cases read
    · cases read
  · rintro rfl
    simp [natural, Json.ofNat]

/-- An optional value is null, or a value. -/
theorem optional_eq_ok {value : Option α} (read : decoder.optional found = .ok value) :
    found = .null ∧ value = none ∨ ∃ inner, decoder found = .ok inner ∧ value = some inner := by
  unfold optional at read
  split at read
  · cases read
    exact .inl ⟨rfl, rfl⟩
  · obtain ⟨inner, there, rfl⟩ := exists_of_map_eq_ok read
    exact .inr ⟨inner, there, rfl⟩

/-- Every item is read into one of the values. -/
theorem eachItem_eq_ok {items : List Json} {values : List α}
    (read : eachItem decoder items = .ok values) :
    ∀ item ∈ items, ∃ value ∈ values, decoder item = .ok value := by
  induction items generalizing values with
  | nil => exact fun _ member => nomatch member
  | cons item rest ih =>
      rw [eachItem] at read
      split at read
      · cases read
      · next value there =>
        obtain ⟨others, restRead, rfl⟩ := exists_of_map_eq_ok read
        intro other member
        rcases List.mem_cons.1 member with rfl | later
        · exact ⟨value, List.mem_cons_self, there⟩
        · obtain ⟨found, listed, otherRead⟩ := ih restRead other later
          exact ⟨found, List.mem_cons_of_mem _ listed, otherRead⟩

/-- A list is read off an array, item by item. -/
theorem list_eq_ok {values : List α} (read : list decoder found = .ok values) :
    ∃ items, found = .array items ∧ ∀ item ∈ items, ∃ value ∈ values, decoder item = .ok value := by
  cases found with
  | array items => exact ⟨items, rfl, eachItem_eq_ok read⟩
  | _ => cases read

end Decoder

/-! ## Records -/

namespace Shape

variable {shape : Shape} {name : String}

/-- Of the fields not yet seen, visiting the members keeps each. -/
theorem lookup_visitMembers {seen : List String} {members : List (String × Json)}
    {present : Entries Json} (visited : shape.visitMembers seen members = .ok present)
    (known : (shape.rule? name).isSome) (unseen : name ∉ seen) :
    Entries.lookup name present = Entries.lookup name members := by
  induction members generalizing seen present with
  | nil =>
      cases visited
      rfl
  | cons member rest ih =>
      obtain ⟨other, found⟩ := member
      rw [visitMembers] at visited
      split at visited
      · -- a member that is no field is not the one that is looked up
        next unknown =>
        split at visited
        · cases visited
        · have different : name ≠ other := fun same => by simp [same, unknown] at known
          rw [ih visited unseen, Entries.lookup_cons, if_neg different]
      · split at visited
        · cases visited
        · split at visited
          · cases visited
          · obtain ⟨others, restVisited, rfl⟩ := exists_of_map_eq_ok visited
            rw [Entries.lookup_cons, Entries.lookup_cons]
            split
            · rfl
            · next different => exact ih restVisited (by simp [different, unseen])

/-- The fields of a record that is written as an object are its visited members. -/
theorem visitMembers_of_present {members : List (String × Json)} {present : Entries Json}
    (read : shape.present (.object members) = .ok present) :
    shape.visitMembers [] members = .ok present := by
  rw [Shape.present] at read
  split at read
  · cases read
  · next visited =>
    obtain ⟨-, -, rfl⟩ := exists_of_map_eq_ok read
    exact visited

/-- **A field of a record that is written as an object is the member of its name.** -/
theorem lookup_present {members : List (String × Json)} {present : Entries Json}
    (read : shape.present (.object members) = .ok present) (known : (shape.rule? name).isSome) :
    Entries.lookup name present = Entries.lookup name members :=
  lookup_visitMembers (visitMembers_of_present read) known List.not_mem_nil

/-- Every visited member passes the check of its field, and only a record that takes other members
has one without a field. -/
theorem checked_of_visitMembers {seen : List String} {members : List (String × Json)}
    {present : Entries Json} (visited : shape.visitMembers seen members = .ok present) :
    ∀ member ∈ members, match shape.rule? member.1 with
      | some rule => rule.check member.2 = .ok ()
      | none => shape.strict = false := by
  induction members generalizing seen present with
  | nil => exact fun _ member => nomatch member
  | cons first rest ih =>
      obtain ⟨other, found⟩ := first
      rw [List.forall_mem_cons]
      rw [visitMembers] at visited
      split at visited
      · next unknown =>
        split at visited
        · cases visited
        · next lenient =>
          refine ⟨?_, ih visited⟩
          rw [unknown]
          exact Bool.eq_false_iff.2 lenient
      · next rule known =>
        split at visited
        · cases visited
        · split at visited
          · cases visited
          · next checked =>
            obtain ⟨others, restVisited, -⟩ := exists_of_map_eq_ok visited
            refine ⟨?_, ih restVisited⟩
            rw [known]
            exact checked

theorem checked_of_present {members : List (String × Json)} {present : Entries Json}
    (read : shape.present (.object members) = .ok present) :
    ∀ member ∈ members, match shape.rule? member.1 with
      | some rule => rule.check member.2 = .ok ()
      | none => shape.strict = false :=
  checked_of_visitMembers (visitMembers_of_present read)

theorem mem_names_of_rule? (known : (shape.rule? name).isSome) :
    name ∈ shape.fields.map FieldRule.name := by
  obtain ⟨rule, isRule⟩ := Option.isSome_iff_exists.1 known
  have named := List.find?_some isRule
  rw [← beq_iff_eq.1 named]
  exact List.mem_map_of_mem (List.mem_of_find?_eq_some isRule)

/-- **A record that takes no other members has only its fields.** -/
theorem mem_names_of_present {members : List (String × Json)} {present : Entries Json}
    (strict : shape.strict = true) (read : shape.present (.object members) = .ok present)
    {found : Json} (member : (name, found) ∈ members) :
    name ∈ shape.fields.map FieldRule.name := by
  have checked := checked_of_present read (name, found) member
  cases known : shape.rule? name with
  | none =>
      dsimp only at checked
      rw [known] at checked
      cases strict.symm.trans checked
  | some rule => exact mem_names_of_rule? (Option.isSome_of_eq_some known)

/-- The members that are fields of the record. -/
def known (shape : Shape) (members : Entries Json) : Entries Json :=
  members.filter fun member => (shape.rule? member.1).isSome

/-- **Members of a record that takes other members are visited if no field stands twice and each
passes its check.** What is kept are the fields. -/
theorem visitMembers_eq_ok_iff (lenient : shape.strict = false) {seen : List String}
    {members present : Entries Json} :
    shape.visitMembers seen members = .ok present ↔
      present = shape.known members ∧ (present.map Prod.fst).Nodup ∧
        ∀ member ∈ present, member.1 ∉ seen ∧
          ∀ rule, shape.rule? member.1 = some rule → rule.check member.2 = .ok () := by
  induction members generalizing seen present with
  | nil =>
      constructor
      · intro visited
        cases visited
        exact ⟨rfl, List.nodup_nil, fun _ member => nomatch member⟩
      · rintro ⟨rfl, -⟩
        rfl
  | cons first rest ih =>
      obtain ⟨name, found⟩ := first
      rw [visitMembers]
      cases isRule : shape.rule? name with
      | none =>
          have skips : shape.known ((name, found) :: rest) = shape.known rest :=
            List.filter_cons_of_neg (by simp [isRule])
          simp only [lenient, Bool.false_eq_true, if_false, ih, skips]
      | some rule =>
          have keeps : shape.known ((name, found) :: rest) = (name, found) :: shape.known rest :=
            List.filter_cons_of_pos (by simp [isRule])
          rw [keeps]
          constructor
          · intro visited
            dsimp only at visited
            split at visited
            · cases visited
            · next unseen =>
              split at visited
              · cases visited
              · next checked =>
                obtain ⟨others, restVisited, rfl⟩ := exists_of_map_eq_ok visited
                obtain ⟨rfl, distinct, each⟩ := ih.1 restVisited
                have notLater : name ∉ (shape.known rest).map Prod.fst := by
                  intro later
                  obtain ⟨member, listed, rfl⟩ := List.mem_map.1 later
                  exact (each member listed).1 List.mem_cons_self
                refine ⟨rfl, List.nodup_cons.2 ⟨notLater, distinct⟩, ?_⟩
                rw [List.forall_mem_cons]
                refine ⟨⟨unseen, fun other isOther => ?_⟩, fun member listed => ?_⟩
                · cases isRule.symm.trans isOther
                  exact checked
                · obtain ⟨notSeen, passes⟩ := each member listed
                  exact ⟨fun earlier => notSeen (List.mem_cons_of_mem _ earlier), passes⟩
          · rintro ⟨rfl, distinct, each⟩
            obtain ⟨⟨unseen, passes⟩, later⟩ := List.forall_mem_cons.1 each
            obtain ⟨notLater, restDistinct⟩ := List.nodup_cons.1 distinct
            have restVisited : shape.visitMembers (name :: seen) rest = .ok (shape.known rest) := by
              refine ih.2 ⟨rfl, restDistinct, fun member listed => ⟨?_, (later member listed).2⟩⟩
              intro earlier
              rcases List.mem_cons.1 earlier with same | before
              · exact notLater (List.mem_map.2 ⟨member, listed, same⟩)
              · exact (later member listed).1 before
            dsimp only
            rw [if_neg unseen, passes rule isRule, restVisited]
            rfl

/-- No field is missing where all may be. -/
theorem checkMissing_of_mayBeMissing (present : Entries Json) {rules : List FieldRule}
    (mayBe : ∀ rule ∈ rules, rule.mayBeMissing = true) : checkMissing present rules = .ok () := by
  induction rules with
  | nil => rfl
  | cons rule rest ih =>
      obtain ⟨first, later⟩ := List.forall_mem_cons.1 mayBe
      rw [checkMissing, first, Bool.true_or, if_pos rfl]
      exact ih later

/-- A record is written as an object or as an array. -/
theorem present_eq_ok {found : Json} {present : Entries Json}
    (read : shape.present found = .ok present) :
    (∃ members, found = .object members) ∨ ∃ items, found = .array items := by
  cases found with
  | object members => exact .inl ⟨members, rfl⟩
  | array items => exact .inr ⟨items, rfl⟩
  | _ => cases read

end Shape

section Fields

variable {present : Entries Json} {name : String} {decoder : Decoder α} {value : α}

theorem needed_eq_ok (read : needed present name decoder = .ok value) :
    ∃ found, Entries.lookup name present = some found ∧ decoder found = .ok value := by
  unfold needed at read
  split at read
  · next found there => exact ⟨found, there, read⟩
  · cases read

theorem withDefault_eq_ok {default : α}
    (read : withDefault present name decoder default = .ok value) :
    Entries.lookup name present = none ∧ value = default ∨
      ∃ found, Entries.lookup name present = some found ∧ decoder found = .ok value := by
  unfold withDefault at read
  split at read
  · next found there => exact .inr ⟨found, there, read⟩
  · next missing =>
    cases read
    exact .inl ⟨missing, rfl⟩

end Fields

end RealmConvergence.Json
