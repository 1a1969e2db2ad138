import Mathlib.Data.List.Nodup
import RealmConvergence.Admin.Record
import RealmConvergence.Proofs.Json.Decoding
import RealmConvergence.Proofs.Json.Ordered

/-!
# Records on the wire

A value stands on the wire in one of four ways (`WireKind`), and a field of a record is a value that
may be absent, under a name (`WireField`). A record is written as the members of its present fields,
and it is read off the members of an object (`WireFormat`): an object is read as a record exactly if
no field stands twice in it and each field of the record is what its member says, where null says as
much as no member (`WireFormat.decode_object_eq_ok_iff`).

So records come back as they were sent, other members and nulls make no difference, and writing what
was read gives the members that were known and not null (`records_round_trip`).
-/

set_option autoImplicit false

namespace RealmConvergence

/-! ## Values on the wire -/

/-- A way in which values stand on the wire. A value is read back from what is written for it, and
what it was read from is what is written for it, up to the order of members. -/
structure WireKind (Value : Type) where
  /-- What is written for a value. -/
  encode : Value → Json
  /-- How a value is read. -/
  decoder : Json.Decoder Value
  decoder_encode : ∀ value, decoder (encode value) = .ok value
  encode_ne_null : ∀ value, encode value ≠ .null
  ordered_encode : ∀ found value, decoder found = .ok value →
    (encode value).ordered = found.ordered

namespace WireKind

open Json (Decoder)

/-- Texts are strings. -/
def text : WireKind String where
  encode := .string
  decoder := Decoder.text
  decoder_encode _ := rfl
  encode_ne_null _ := nofun
  ordered_encode found value read := by rw [Decoder.text_eq_ok read]

/-- Truth values are truth values. -/
def boolean : WireKind Bool where
  encode := .bool
  decoder := Decoder.boolean
  decoder_encode _ := rfl
  encode_ne_null _ := nofun
  ordered_encode found value read := by
    cases found with
    | bool found =>
        cases read
        rfl
    | _ => cases read

theorem eachItem_strings (values : List String) :
    Decoder.eachItem Decoder.text (values.map .string) = .ok values := by
  induction values with
  | nil => rfl
  | cons value rest ih =>
      show Except.map _ (Decoder.eachItem _ _) = _
      rw [ih]
      rfl

theorem eq_strings_of_eachItem {items : List Json} {values : List String}
    (read : Decoder.eachItem Decoder.text items = .ok values) : items = values.map .string := by
  induction items generalizing values with
  | nil =>
      cases read
      rfl
  | cons item rest ih =>
      rw [Decoder.eachItem] at read
      split at read
      · cases read
      · next value isText =>
        obtain ⟨others, restRead, rfl⟩ := exists_of_map_eq_ok read
        rw [Decoder.text_eq_ok isText, ih restRead]
        rfl

/-- Lists of texts are arrays of strings. -/
def textList : WireKind (List String) where
  encode := textsToJson
  decoder := Decoder.list Decoder.text
  decoder_encode := eachItem_strings
  encode_ne_null _ := nofun
  ordered_encode found values read := by
    cases found with
    | array items => rw [textsToJson, eq_strings_of_eachItem read]
    | _ => cases read

theorem eachMember_strings (entries : Entries String) :
    Decoder.eachMember Decoder.text (entries.mapValues .string) = .ok entries := by
  induction entries with
  | nil => rfl
  | cons entry rest ih =>
      show Except.map _ (Decoder.eachMember Decoder.text (Entries.mapValues .string rest)) = _
      rw [ih]
      rfl

theorem eq_strings_of_eachMember {members : Entries Json} {entries : Entries String}
    (read : Decoder.eachMember Decoder.text members = .ok entries) :
    members = entries.mapValues .string := by
  induction members generalizing entries with
  | nil =>
      cases read
      rfl
  | cons member rest ih =>
      obtain ⟨name, found⟩ := member
      rw [Decoder.eachMember] at read
      split at read
      · cases read
      · next value isText =>
        obtain ⟨others, restRead, rfl⟩ := exists_of_map_eq_ok read
        rw [Decoder.text_eq_ok isText, ih restRead]
        rfl

/-- A table read off entries is written like the entries, in order. -/
theorem ordered_toJson_ofList (entries : Entries String) :
    (Table.ofList entries).toJson.ordered =
      (Json.object (entries.mapValues .string)).ordered := by
  have strings (texts : Entries String) :
      (texts.mapValues Json.string).mapValues Json.ordered = texts.mapValues Json.string := by
    simp only [Entries.mapValues, List.map_map]
    exact List.map_congr_left fun entry _ => by rw [Function.comp_apply, Json.ordered]
  have sorted := Entries.ascending_putAll entries Entries.ascending_nil
  show (Json.object ((Entries.putAll entries []).mapValues .string)).ordered = _
  rw [Json.ordered_object, Json.ordered_object, strings, strings]
  have twice := Entries.mapValues_putAll Json.string (Entries.putAll entries []) []
  have once := Entries.mapValues_putAll Json.string entries []
  rw [sorted.putAll_eq] at twice
  exact congrArg Json.object (twice.symm.trans once)

/-- Tables of texts are objects of strings. -/
def texts : WireKind (Table String) where
  encode := Table.toJson
  decoder := Decoder.texts
  decoder_encode table := by
    show Except.map _ (Decoder.eachMember _ (Entries.mapValues _ table.toList)) = _
    rw [eachMember_strings]
    exact congrArg Except.ok (Table.ext_get? fun name => by
      show Entries.lookup name (Entries.putAll table.toList []) = _
      rw [table.ascending.putAll_eq]
      rfl)
  encode_ne_null _ := nofun
  ordered_encode found table read := by
    cases found with
    | object members =>
        obtain ⟨entries, membersRead, rfl⟩ := exists_of_map_eq_ok read
        rw [eq_strings_of_eachMember membersRead]
        exact ordered_toJson_ofList entries
    | _ => cases read

variable {Value : Type} (kind : WireKind Value)

/-- No value is read off null. -/
theorem decoder_null_ne_ok (value : Value) : kind.decoder .null ≠ .ok value := by
  intro read
  have same := kind.ordered_encode .null value read
  rw [Json.ordered] at same
  exact kind.encode_ne_null value (Json.eq_null_of_ordered same)

/-- What may be absent is read off null as absent, and off a value as present. -/
theorem optional_eq_ok_iff {found : Json} {value : Option Value} :
    kind.decoder.optional found = .ok value ↔
      (found = .null ∧ value = none) ∨
        ∃ inner, kind.decoder found = .ok inner ∧ value = some inner := by
  refine ⟨Json.Decoder.optional_eq_ok, ?_⟩
  rintro (⟨rfl, rfl⟩ | ⟨inner, read, rfl⟩)
  · rfl
  · cases found with
    | null => exact absurd read (kind.decoder_null_ne_ok inner)
    | _ =>
        show Except.map some (kind.decoder _) = _
        rw [read]
        rfl

end WireKind

/-! ## Fields on the wire -/

/-- A field of a record: the name of its member, how its values stand there, and its value where the
field is present. -/
structure WireField (α : Type) where
  name : String
  {Value : Type}
  kind : WireKind Value
  get : α → Option Value

namespace WireField

variable {α : Type}

/-- What a record says about the field. -/
def rule (field : WireField α) : Json.FieldRule :=
  wireRule field.name field.kind.decoder

/-- The member of the field, if the field is present. -/
def member (field : WireField α) (record : α) : Entries Json :=
  wireMember field.name field.kind.encode (field.get record)

/-- The field of the record is what is read off the members. -/
def Reads (field : WireField α) (members : Entries Json) (record : α) : Prop :=
  wireField members field.name field.kind.decoder = .ok (field.get record)

variable {field : WireField α} {members : Entries Json} {record : α}

theorem mem_member_iff {name : String} {found : Json} :
    (name, found) ∈ field.member record ↔
      ∃ value, field.get record = some value ∧ name = field.name ∧
        found = field.kind.encode value := by
  unfold member wireMember
  split
  · next absent => simp [absent]
  · next value present => simp [present]

/-- A field is absent if its member is missing or null, and is else what is read off the member. -/
theorem reads_iff : field.Reads members record ↔
    field.kind.decoder.optional ((Entries.lookup field.name members).getD .null) =
      .ok (field.get record) := by
  unfold Reads wireField Json.withDefault
  cases Entries.lookup field.name members with
  | none => exact Iff.rfl
  | some found => exact Iff.rfl

/-- Where the same stands under the name of a field, or once null and once nothing, the same field
is read. -/
theorem reads_congr {others : Entries Json}
    (same : (Entries.lookup field.name members).getD .null =
      (Entries.lookup field.name others).getD .null) :
    field.Reads members record ↔ field.Reads others record := by
  rw [reads_iff, reads_iff, same]

/-- A present field is read off a member that is not null. -/
theorem Reads.exists_found (reads : field.Reads members record) {value : field.Value}
    (present : field.get record = some value) :
    ∃ found, Entries.lookup field.name members = some found ∧ found ≠ .null ∧
      field.kind.decoder found = .ok value := by
  rw [reads_iff, present, field.kind.optional_eq_ok_iff] at reads
  rcases reads with ⟨-, absent⟩ | ⟨inner, read, same⟩
  · cases absent
  · cases same
    have notNull : (Entries.lookup field.name members).getD .null ≠ .null := by
      intro isNull
      rw [isNull] at read
      exact field.kind.decoder_null_ne_ok value read
    cases there : Entries.lookup field.name members with
    | none => exact absurd (by rw [there]; rfl) notNull
    | some found =>
        rw [there] at read notNull
        exact ⟨found, rfl, notNull, read⟩

/-- A member that is not null is read as a present field. -/
theorem Reads.exists_value (reads : field.Reads members record) {found : Json}
    (there : Entries.lookup field.name members = some found) (notNull : found ≠ .null) :
    ∃ value, field.get record = some value ∧ field.kind.decoder found = .ok value := by
  rw [reads_iff, there, Option.getD_some, field.kind.optional_eq_ok_iff] at reads
  rcases reads with ⟨isNull, -⟩ | ⟨value, read, present⟩
  · exact absurd isNull notNull
  · exact ⟨value, present, read⟩

end WireField

/-! ## Records on the wire -/

section Format

variable {α : Type}

/-- Whether a field has this name. -/
def isField (fields : List (WireField α)) (name : String) : Bool :=
  fields.any fun field => field.name == name

/-- The members that are fields. -/
def knownMembers (fields : List (WireField α)) (members : Entries Json) : Entries Json :=
  members.filter fun member => isField fields member.1

/-- Whether a value is not null. -/
def Json.tells : Json → Bool
  | .null => false
  | _ => true

/-- The members that are fields and not null. -/
def tellingMembers (fields : List (WireField α)) (members : Entries Json) : Entries Json :=
  (knownMembers fields members).filter fun member => member.2.tells

/-- A record is written and read field by field, and its shape lists the fields. -/
structure WireFormat (fields : List (WireField α)) (shape : Json.Shape) (toJson : α → Json)
    (decode : Json.Decoder α) : Prop where
  distinct : (fields.map (·.name)).Nodup
  rules : shape.fields = fields.map (·.rule)
  lenient : shape.strict = false
  written : ∀ record, toJson record = .object (fields.flatMap (·.member record))
  decoded : ∀ found record, decode found = .ok record ↔ ∃ present,
    shape.present found = .ok present ∧ ∀ field ∈ fields, field.Reads present record

/-- What is sent of records comes back, and what comes back is what was sent. -/
structure RoundTrips (fields : List (WireField α)) (toJson : α → Json) (decode : Json.Decoder α) :
    Prop where
  /-- No two fields have one name. -/
  distinct : (fields.map (·.name)).Nodup
  /-- Each present field is one member, under its name, and nothing else is. -/
  written : ∀ record, toJson record = .object (fields.flatMap (·.member record))
  /-- A record is read back from what is written for it. -/
  readBack : ∀ record, decode (toJson record) = .ok record
  /-- Members that are no fields do not matter. -/
  unknown : ∀ members others record, knownMembers fields members = knownMembers fields others →
    (decode (.object members) = .ok record ↔ decode (.object others) = .ok record)
  /-- Null says as much as no member. -/
  null : ∀ before after name record, (∀ member ∈ before ++ after, member.1 ≠ name) →
    (decode (.object (before ++ (name, .null) :: after)) = .ok record ↔
      decode (.object (before ++ after)) = .ok record)
  /-- What was read is written as the members that are fields and not null, up to order. -/
  writtenBack : ∀ members record, decode (.object members) = .ok record →
    (toJson record).ordered = (Json.object (tellingMembers fields members)).ordered

variable {fields : List (WireField α)} {shape : Json.Shape} {toJson : α → Json}
  {decode : Json.Decoder α} {members : Entries Json} {record : α}

theorem isField_iff {name : String} :
    isField fields name = true ↔ ∃ field ∈ fields, field.name = name := by
  simp only [isField, List.any_eq_true, beq_iff_eq]

theorem exists_field_of_mem_knownMembers {name : String} {found : Json}
    (member : (name, found) ∈ knownMembers fields members) : ∃ field ∈ fields, field.name = name :=
  isField_iff.1 (List.mem_filter.1 member).2

theorem mem_tellingMembers_iff {name : String} {found : Json} :
    (name, found) ∈ tellingMembers fields members ↔
      (name, found) ∈ knownMembers fields members ∧ found ≠ .null := by
  rw [tellingMembers, List.mem_filter]
  refine and_congr_right fun _ => ?_
  cases found <;> simp [Json.tells]

theorem mem_members_iff {name : String} {found : Json} :
    (name, found) ∈ fields.flatMap (·.member record) ↔ ∃ field ∈ fields, ∃ value,
      field.get record = some value ∧ name = field.name ∧ found = field.kind.encode value := by
  simp only [List.mem_flatMap, WireField.mem_member_iff]

theorem lookup_knownMembers {field : WireField α} (listed : field ∈ fields)
    (members : Entries Json) :
    Entries.lookup field.name (knownMembers fields members) = Entries.lookup field.name members :=
  Entries.lookup_filter_name members (isField_iff.2 ⟨field, listed, rfl⟩)

namespace WireFormat

variable (format : WireFormat fields shape toJson decode)
include format

theorem rule?_isSome (name : String) :
    (shape.rule? name).isSome = isField fields name := by
  rw [Json.Shape.rule?, format.rules, List.find?_map, Option.isSome_map, Bool.eq_iff_iff,
    List.find?_isSome, isField, List.any_eq_true]
  rfl

theorem known_eq (members : Entries Json) : shape.known members = knownMembers fields members := by
  unfold Json.Shape.known knownMembers
  simp only [format.rule?_isSome]

/-- The rule for a name is that of the field of the name. -/
theorem exists_field_of_rule? {name : String} {rule : Json.FieldRule}
    (isRule : shape.rule? name = some rule) :
    ∃ field ∈ fields, field.name = name ∧ rule = field.rule := by
  rw [Json.Shape.rule?, format.rules, List.find?_map] at isRule
  obtain ⟨field, found, rfl⟩ := Option.map_eq_some_iff.1 isRule
  have named := List.find?_some found
  exact ⟨field, List.mem_of_find?_eq_some found, beq_iff_eq.1 named, rfl⟩

/-- **An object is read as a record exactly if no field stands twice in it and each field of the
record is what its member says.** -/
theorem decode_object_eq_ok_iff : decode (.object members) = .ok record ↔
    ((knownMembers fields members).map Prod.fst).Nodup ∧
      ∀ field ∈ fields, field.Reads members record := by
  have readsKnown (field : WireField α) (listed : field ∈ fields) :
      field.Reads (knownMembers fields members) record ↔ field.Reads members record :=
    WireField.reads_congr (by rw [lookup_knownMembers listed])
  rw [format.decoded]
  constructor
  · rintro ⟨present, shaped, reads⟩
    rw [Json.Shape.present] at shaped
    split at shaped
    · cases shaped
    · next visited =>
      obtain ⟨-, -, rfl⟩ := exists_of_map_eq_ok shaped
      obtain ⟨rfl, distinct, -⟩ := (Json.Shape.visitMembers_eq_ok_iff format.lenient).1 visited
      rw [format.known_eq] at distinct reads
      exact ⟨distinct, fun field listed => (readsKnown field listed).1 (reads field listed)⟩
  · rintro ⟨distinct, reads⟩
    have visited : shape.visitMembers [] members = .ok (knownMembers fields members) := by
      refine (Json.Shape.visitMembers_eq_ok_iff format.lenient).2
        ⟨(format.known_eq members).symm, distinct, fun member isKnown =>
          ⟨List.not_mem_nil, fun rule isRule => ?_⟩⟩
      obtain ⟨field, listed, named, rfl⟩ := format.exists_field_of_rule? isRule
      have there : Entries.lookup field.name members = some member.2 := by
        rw [← lookup_knownMembers listed, named]
        exact Entries.lookup_of_nodup distinct isKnown
      have read := WireField.reads_iff.1 (reads field listed)
      rw [there, Option.getD_some] at read
      show Except.map _ (field.kind.decoder.optional member.2) = _
      rw [read]
      rfl
    have nothingMissing : Json.Shape.checkMissing (knownMembers fields members) shape.fields =
        .ok () := by
      refine Json.Shape.checkMissing_of_mayBeMissing _ ?_
      rw [format.rules, List.forall_mem_map]
      exact fun _ _ => rfl
    refine ⟨knownMembers fields members, ?_, fun field listed =>
      (readsKnown field listed).2 (reads field listed)⟩
    rw [Json.Shape.present, visited]
    show Except.map _ (Json.Shape.checkMissing _ _) = _
    rw [nothingMissing]
    rfl

theorem field_unique {field other : WireField α} (listed : field ∈ fields)
    (otherListed : other ∈ fields) (same : field.name = other.name) : field = other :=
  List.inj_on_of_nodup_map format.distinct listed otherListed same

/-- No name stands twice in what is written for a record. -/
theorem nodup_members (record : α) :
    ((fields.flatMap (·.member record)).map Prod.fst).Nodup := by
  have names (listed : List (WireField α)) :
      ((listed.flatMap (·.member record)).map Prod.fst).Sublist (listed.map (·.name)) := by
    induction listed with
    | nil => exact List.Sublist.slnil
    | cons field rest ih =>
        rw [List.flatMap_cons, List.map_append, List.map_cons]
        cases value : field.get record with
        | none =>
            rw [WireField.member, value, wireMember]
            exact ih.cons _
        | some value =>
            rw [WireField.member, ‹field.get record = _›, wireMember]
            exact ih.cons_cons _
  exact format.distinct.sublist (names fields)

/-- A record is read back from what is written for it. -/
theorem decode_toJson (record : α) : decode (toJson record) = .ok record := by
  rw [format.written, format.decode_object_eq_ok_iff]
  have distinct := format.nodup_members record
  refine ⟨distinct.sublist (List.filter_sublist.map _), fun field listed => ?_⟩
  rw [WireField.reads_iff]
  cases present : field.get record with
  | some value =>
      have member : (field.name, field.kind.encode value) ∈ fields.flatMap (·.member record) :=
        mem_members_iff.2 ⟨field, listed, value, present, rfl, rfl⟩
      rw [Entries.lookup_of_nodup distinct member, Option.getD_some,
        field.kind.optional_eq_ok_iff]
      exact .inr ⟨value, field.kind.decoder_encode value, rfl⟩
  | none =>
      cases there : Entries.lookup field.name (fields.flatMap (·.member record)) with
      | none => rfl
      | some found =>
          obtain ⟨other, otherListed, value, otherPresent, same, -⟩ :=
            mem_members_iff.1 (Entries.mem_of_lookup there)
          cases format.field_unique listed otherListed same
          cases present.symm.trans otherPresent

/-- Null says as much as no member. -/
theorem decode_null_iff {before after : Entries Json} {name : String}
    (single : ∀ member ∈ before ++ after, member.1 ≠ name) :
    decode (.object (before ++ (name, .null) :: after)) = .ok record ↔
      decode (.object (before ++ after)) = .ok record := by
  have notBefore : ∀ member ∈ before, member.1 ≠ name :=
    fun member listed => single member (List.mem_append_left _ listed)
  have notThere : name ∉ (knownMembers fields (before ++ after)).map Prod.fst := by
    intro stands
    obtain ⟨member, listed, same⟩ := List.mem_map.1 stands
    exact single member (List.mem_of_mem_filter listed) same
  rw [format.decode_object_eq_ok_iff, format.decode_object_eq_ok_iff]
  refine and_congr ?_ (forall₂_congr fun field listed => WireField.reads_congr ?_)
  · simp only [knownMembers, List.filter_append, List.filter_cons] at notThere ⊢
    split
    · rw [List.map_append, List.map_cons, List.nodup_middle, ← List.map_append, List.nodup_cons]
      exact and_iff_right notThere
    · exact Iff.rfl
  · rw [Entries.lookup_middle notBefore]
    split
    · next same =>
      have missing : Entries.lookup field.name (before ++ after) = none := by
        refine Option.eq_none_iff_forall_ne_some.2 fun found there => ?_
        exact single _ (Entries.mem_of_lookup there) same
      rw [missing]
      rfl
    · rfl

/-- What was read is written as the members that are fields and not null. -/
theorem ordered_toJson (read : decode (.object members) = .ok record) :
    (toJson record).ordered = (Json.object (tellingMembers fields members)).ordered := by
  obtain ⟨distinct, reads⟩ := format.decode_object_eq_ok_iff.1 read
  rw [format.written]
  refine Json.ordered_object_congr ?_ ?_
  · refine Entries.agree_of_nodup ?_
    rw [Entries.map_fst_mapValues]
    exact format.nodup_members record
  rintro ⟨name, value⟩
  simp only [Entries.mem_mapValues_iff, mem_members_iff, mem_tellingMembers_iff]
  constructor
  · rintro ⟨_, ⟨field, listed, inner, present, rfl, rfl⟩, rfl⟩
    obtain ⟨found, there, notNull, read⟩ := (reads field listed).exists_found present
    refine ⟨found, ⟨?_, notNull⟩, (field.kind.ordered_encode found inner read).symm⟩
    rw [← lookup_knownMembers listed] at there
    exact Entries.mem_of_lookup there
  · rintro ⟨found, ⟨isKnown, notNull⟩, rfl⟩
    obtain ⟨field, listed, rfl⟩ := exists_field_of_mem_knownMembers isKnown
    have there := Entries.lookup_of_nodup distinct isKnown
    rw [lookup_knownMembers listed] at there
    obtain ⟨inner, present, read⟩ := (reads field listed).exists_value there notNull
    exact ⟨_, ⟨field, listed, inner, present, rfl, rfl⟩, field.kind.ordered_encode found inner read⟩

/-- **A record that is written and read field by field comes back as it was sent.** -/
theorem roundTrips : RoundTrips fields toJson decode where
  distinct := format.distinct
  written := format.written
  readBack := format.decode_toJson
  unknown members others record same := by
    rw [format.decode_object_eq_ok_iff, format.decode_object_eq_ok_iff, same]
    refine and_congr_right' (forall₂_congr fun field listed => WireField.reads_congr ?_)
    rw [← lookup_knownMembers listed members, same, lookup_knownMembers listed]
  null _ _ _ _ single := format.decode_null_iff single
  writtenBack _ _ read := format.ordered_toJson read

end WireFormat

end Format

/-! ## The five records -/

/-- The fields of a realm. -/
def RealmRecord.fields : List (WireField RealmRecord) :=
  [⟨"id", .text, (·.id)⟩, ⟨"realm", .text, (·.realm)⟩, ⟨"enabled", .boolean, (·.enabled)⟩,
    ⟨"attributes", .texts, (·.attributes)⟩]

/-- The fields of a client. -/
def ClientRecord.fields : List (WireField ClientRecord) :=
  [⟨"id", .text, (·.id)⟩, ⟨"clientId", .text, (·.clientId)⟩, ⟨"enabled", .boolean, (·.enabled)⟩,
    ⟨"protocol", .text, (·.protocol)⟩, ⟨"publicClient", .boolean, (·.publicClient)⟩,
    ⟨"serviceAccountsEnabled", .boolean, (·.serviceAccountsEnabled)⟩,
    ⟨"redirectUris", .textList, (·.redirectUris)⟩, ⟨"webOrigins", .textList, (·.webOrigins)⟩,
    ⟨"attributes", .texts, (·.attributes)⟩, ⟨"secret", .text, (·.secret)⟩]

/-- The fields of a role. -/
def RoleRecord.fields : List (WireField RoleRecord) :=
  [⟨"id", .text, (·.id)⟩, ⟨"name", .text, (·.name)⟩, ⟨"description", .text, (·.description)⟩,
    ⟨"composite", .boolean, (·.composite)⟩, ⟨"clientRole", .boolean, (·.clientRole)⟩,
    ⟨"containerId", .text, (·.containerId)⟩]

/-- The fields of a user. -/
def UserRecord.fields : List (WireField UserRecord) :=
  [⟨"id", .text, (·.id)⟩, ⟨"username", .text, (·.username)⟩]

/-- The fields of a credential. -/
def CredentialRecord.fields : List (WireField CredentialRecord) :=
  [⟨"type", .text, (·.kind)⟩, ⟨"value", .text, (·.value)⟩]

theorem RealmRecord.wireFormat :
    WireFormat RealmRecord.fields RealmRecord.shape RealmRecord.toJson RealmRecord.decode where
  distinct := by decide
  rules := rfl
  lenient := rfl
  written record := by
    simp only [fields, List.flatMap_cons, List.flatMap_nil, List.append_nil, toJson,
      List.append_assoc]
    rfl
  decoded found record := by
    simp only [fields, List.forall_mem_cons, decode, bind_eq_ok_iff]
    constructor
    · rintro ⟨present, shaped, _, id, _, realm, _, enabled, _, attributes, rebuilt⟩
      cases rebuilt
      exact ⟨present, shaped, id, realm, enabled, attributes, nofun⟩
    · rintro ⟨present, shaped, id, realm, enabled, attributes, -⟩
      exact ⟨present, shaped, _, id, _, realm, _, enabled, _, attributes, rfl⟩

theorem ClientRecord.wireFormat :
    WireFormat ClientRecord.fields ClientRecord.shape ClientRecord.toJson ClientRecord.decode where
  distinct := by decide
  rules := rfl
  lenient := rfl
  written record := by
    simp only [fields, List.flatMap_cons, List.flatMap_nil, List.append_nil, toJson,
      List.append_assoc]
    rfl
  decoded found record := by
    simp only [fields, List.forall_mem_cons, decode, bind_eq_ok_iff]
    constructor
    · rintro ⟨present, shaped, _, id, _, clientId, _, enabled, _, protocol, _, publicClient, _,
        serviceAccounts, _, redirectUris, _, webOrigins, _, attributes, _, secret, rebuilt⟩
      cases rebuilt
      exact ⟨present, shaped, id, clientId, enabled, protocol, publicClient, serviceAccounts,
        redirectUris, webOrigins, attributes, secret, nofun⟩
    · rintro ⟨present, shaped, id, clientId, enabled, protocol, publicClient, serviceAccounts,
        redirectUris, webOrigins, attributes, secret, -⟩
      exact ⟨present, shaped, _, id, _, clientId, _, enabled, _, protocol, _, publicClient, _,
        serviceAccounts, _, redirectUris, _, webOrigins, _, attributes, _, secret, rfl⟩

theorem RoleRecord.wireFormat :
    WireFormat RoleRecord.fields RoleRecord.shape RoleRecord.toJson RoleRecord.decode where
  distinct := by decide
  rules := rfl
  lenient := rfl
  written record := by
    simp only [fields, List.flatMap_cons, List.flatMap_nil, List.append_nil, toJson,
      List.append_assoc]
    rfl
  decoded found record := by
    simp only [fields, List.forall_mem_cons, decode, bind_eq_ok_iff]
    constructor
    · rintro ⟨present, shaped, _, id, _, name, _, description, _, composite, _, clientRole, _,
        containerId, rebuilt⟩
      cases rebuilt
      exact ⟨present, shaped, id, name, description, composite, clientRole, containerId, nofun⟩
    · rintro ⟨present, shaped, id, name, description, composite, clientRole, containerId, -⟩
      exact ⟨present, shaped, _, id, _, name, _, description, _, composite, _, clientRole, _,
        containerId, rfl⟩

theorem UserRecord.wireFormat :
    WireFormat UserRecord.fields UserRecord.shape UserRecord.toJson UserRecord.decode where
  distinct := by decide
  rules := rfl
  lenient := rfl
  written record := by
    simp only [fields, List.flatMap_cons, List.flatMap_nil, List.append_nil, toJson]
    rfl
  decoded found record := by
    simp only [fields, List.forall_mem_cons, decode, bind_eq_ok_iff]
    constructor
    · rintro ⟨present, shaped, _, id, _, username, rebuilt⟩
      cases rebuilt
      exact ⟨present, shaped, id, username, nofun⟩
    · rintro ⟨present, shaped, id, username, -⟩
      exact ⟨present, shaped, _, id, _, username, rfl⟩

theorem CredentialRecord.wireFormat :
    WireFormat CredentialRecord.fields CredentialRecord.shape CredentialRecord.toJson
      CredentialRecord.decode where
  distinct := by decide
  rules := rfl
  lenient := rfl
  written record := by
    simp only [fields, List.flatMap_cons, List.flatMap_nil, List.append_nil, toJson]
    rfl
  decoded found record := by
    simp only [fields, List.forall_mem_cons, decode, bind_eq_ok_iff]
    constructor
    · rintro ⟨present, shaped, _, kind, _, value, rebuilt⟩
      cases rebuilt
      exact ⟨present, shaped, kind, value, nofun⟩
    · rintro ⟨present, shaped, kind, value, -⟩
      exact ⟨present, shaped, _, kind, _, value, rfl⟩

/-- **Records come back from the wire as they were sent.** This holds of realms, clients, roles,
users and credentials. -/
theorem records_round_trip :
    RoundTrips RealmRecord.fields RealmRecord.toJson RealmRecord.decode ∧
    RoundTrips ClientRecord.fields ClientRecord.toJson ClientRecord.decode ∧
    RoundTrips RoleRecord.fields RoleRecord.toJson RoleRecord.decode ∧
    RoundTrips UserRecord.fields UserRecord.toJson UserRecord.decode ∧
    RoundTrips CredentialRecord.fields CredentialRecord.toJson CredentialRecord.decode :=
  ⟨RealmRecord.wireFormat.roundTrips, ClientRecord.wireFormat.roundTrips,
    RoleRecord.wireFormat.roundTrips, UserRecord.wireFormat.roundTrips,
    CredentialRecord.wireFormat.roundTrips⟩

-- an address is no field of a user, and a null says that the identifier is absent
example : UserRecord.decode (.object [("email", .string "ada@school"), ("id", .null),
    ("username", .string "ada")]) = .ok { username := some "ada" } := rfl

end RealmConvergence
