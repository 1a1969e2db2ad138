import RealmConvergence.Json.Reading
import RealmConvergence.Proofs.Json.Decoding
import RealmConvergence.Proofs.Json.Ordered

/-!
# What a reading passes over

A reading of a record takes the fields from an object and passes over its other members: whatever
value is written in one of these, readable or not, the same is asked for
(`Shape.knownMembers?_append_cons`). Where the whole text can be read, passing over a part of it
makes no difference: a record has the same fields either way (`Shape.exists_asked?`).
-/

set_option autoImplicit false

namespace RealmConvergence.Json

variable {α : Type}

/-- The value is an object, and the text stands in a member of the name. -/
def Written.HasText (written : Written) (name text : String) : Prop :=
  ∃ members quoted inside, written = .object members ∧ (quoted, .string inside) ∈ members ∧
    text? quoted = some name ∧ text? inside = some text

namespace Shape

variable {shape : Shape} {members : List (List Char × Written)}

/-- A field whose value can be read is among what is asked for. -/
theorem mem_of_knownMembers? {known : Entries Json}
    (read : shape.knownMembers? members = some known) {written : List Char} {held : Written}
    (member : (written, held) ∈ members) {name : String}
    (isName : Written.text? written = some name) (isField : (shape.rule? name).isSome) :
    ∃ found, held.json? = some found ∧ (name, found) ∈ known := by
  induction members generalizing known with
  | nil => cases member
  | cons first rest ih =>
      obtain ⟨other, value⟩ := first
      obtain ⟨otherName, isOther, read⟩ := Option.bind_eq_some_iff.1 read
      split at read
      · obtain ⟨found, isFound, read⟩ := Option.bind_eq_some_iff.1 read
        obtain ⟨others, isOthers, same⟩ := Option.bind_eq_some_iff.1 read
        cases same
        rcases List.mem_cons.1 member with here | later
        · cases here
          cases isName.symm.trans isOther
          exact ⟨found, isFound, List.mem_cons_self⟩
        · obtain ⟨later, isLater, listed⟩ := ih isOthers later
          exact ⟨later, isLater, List.mem_cons_of_mem _ listed⟩
      · next unknown =>
        rcases List.mem_cons.1 member with here | later
        · cases here
          cases isName.symm.trans isOther
          exact (unknown isField).elim
        · exact ih read later

/-- **A text that stands in a field is what the record has in it.** -/
theorem lookup_of_asked? (lenient : shape.strict = false) {written : Written} {asked : Json}
    {present : Entries Json} (isAsked : shape.asked? written = some asked)
    (shaped : shape.present asked = .ok present) {name text : String}
    (stands : written.HasText name text) (isField : (shape.rule? name).isSome) :
    Entries.lookup name present = some (.string text) := by
  obtain ⟨members, quoted, inside, rfl, member, isName, isText⟩ := stands
  obtain ⟨known, isKnown, rfl⟩ := Option.map_eq_some_iff.1 isAsked
  obtain ⟨found, isFound, listed⟩ := mem_of_knownMembers? isKnown member isName isField
  rw [Written.json?, isText] at isFound
  cases isFound
  obtain ⟨rfl, distinct, -⟩ := (visitMembers_eq_ok_iff lenient).1 (visitMembers_of_present shaped)
  exact Entries.lookup_of_nodup distinct (List.mem_filter.2 ⟨listed, isField⟩)

/-- **What stands in a member that is no field does not matter.** -/
theorem knownMembers?_append_cons (before after : List (List Char × Written)) {written : List Char}
    (held : Written) {name : String} (isName : Written.text? written = some name)
    (unknown : shape.rule? name = none) :
    shape.knownMembers? (before ++ (written, held) :: after) =
      shape.knownMembers? (before ++ after) := by
  induction before with
  | nil => simp [knownMembers?, isName, unknown]
  | cons first rest ih => simp only [List.cons_append, knownMembers?, ih]

/-- Where all members can be read, the fields among them are asked for. -/
theorem knownMembers?_of_membersJson? {found : Entries Json}
    (read : Written.membersJson? members = some found) :
    shape.knownMembers? members = some (shape.known found) := by
  induction members generalizing found with
  | nil =>
      cases read
      rfl
  | cons first rest ih =>
      obtain ⟨written, held⟩ := first
      obtain ⟨name, isName, read⟩ := Option.bind_eq_some_iff.1 read
      obtain ⟨value, isValue, read⟩ := Option.bind_eq_some_iff.1 read
      obtain ⟨others, isOthers, same⟩ := Option.bind_eq_some_iff.1 read
      cases same
      rw [knownMembers?, isName, ih isOthers]
      cases isField : (shape.rule? name).isSome with
      | true => simp [known, isField, isValue]
      | false => simp [known, isField]

/-- A record that takes other members does not see them. -/
theorem visitMembers_known (lenient : shape.strict = false) (seen : List String)
    (members : Entries Json) :
    shape.visitMembers seen (shape.known members) = shape.visitMembers seen members := by
  induction members generalizing seen with
  | nil => rfl
  | cons first rest ih =>
      obtain ⟨name, found⟩ := first
      cases isRule : shape.rule? name with
      | none =>
          rw [known, List.filter_cons_of_neg (by simp [isRule]), ← known, ih, visitMembers, isRule]
          simp [lenient]
      | some rule =>
          rw [known, List.filter_cons_of_pos (by simp [isRule]), ← known, visitMembers,
            visitMembers, isRule]
          simp only [ih]

/-- **A text that can be read as a whole is read in the same way where a record asks for less.** -/
theorem exists_asked? (lenient : shape.strict = false) {written : Written} {found : Json}
    (read : written.json? = some found) :
    ∃ asked, shape.asked? written = some asked ∧ shape.present asked = shape.present found := by
  cases written with
  | object members =>
      obtain ⟨all, isRead, same⟩ := Option.map_eq_some_iff.1 read
      subst same
      refine ⟨.object (shape.known all), ?_, ?_⟩
      · rw [asked?, knownMembers?_of_membersJson? isRead]
        rfl
      · rw [present, present, visitMembers_known lenient]
  | _ => exact ⟨found, read, rfl⟩

end Shape

namespace Reading

theorem record_eq_some_iff {shape : Shape} {decoder : Decoder α} {written : Written} {value : α} :
    record shape decoder written = some value ↔
      ∃ found, shape.asked? written = some found ∧ decoder found = .ok value := by
  simp only [record, Option.bind_eq_bind, Option.bind_eq_some_iff, toOption_eq_some_iff]

theorem exists_of_mapM_eq_some {reading : Reading α} {items : List Written} {values : List α}
    (read : items.mapM reading = some values) {item : Written} (member : item ∈ items) :
    ∃ value ∈ values, reading item = some value := by
  induction items generalizing values with
  | nil => cases member
  | cons first rest ih =>
      rw [List.mapM_cons] at read
      obtain ⟨value, isValue, read⟩ := Option.bind_eq_some_iff.1 read
      obtain ⟨others, isOthers, same⟩ := Option.bind_eq_some_iff.1 read
      cases same
      rcases List.mem_cons.1 member with rfl | later
      · exact ⟨value, List.mem_cons_self, isValue⟩
      · obtain ⟨found, listed, isFound⟩ := ih isOthers later
        exact ⟨found, List.mem_cons_of_mem _ listed, isFound⟩

/-- A list is read off an array, item by item. -/
theorem list_eq_some {reading : Reading α} {written : Written} {values : List α}
    (read : list reading written = some values) :
    ∃ items, written = .array items ∧
      ∀ item ∈ items, ∃ value ∈ values, reading item = some value := by
  cases written with
  | array items => exact ⟨items, rfl, fun _ member => exists_of_mapM_eq_some read member⟩
  | _ => cases read

end Reading

end RealmConvergence.Json
