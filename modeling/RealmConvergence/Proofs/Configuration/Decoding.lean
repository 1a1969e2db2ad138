import RealmConvergence.Configuration.Secrets
import RealmConvergence.Configuration.Document
import RealmConvergence.Proofs.Json.Decoding
import RealmConvergence.Proofs.Text.Blank

/-!
# Two readings of the entries for clients

The entries for clients are read twice: into the typed document, and once more, member by member,
for the variables of secrets. The two agree where an entry is written as an object: there the second
reading finds the identifier and the variable of the typed entry, both trimmed
(`ClientSection.decode_object`). An entry that is written as an array of its fields has no members,
and the second reading finds no variable in it (`nameAt?_array`).
-/

set_option autoImplicit false

namespace RealmConvergence.Configuration

open Json (Decoder Shape)

/-- The variable that an entry names for its secret, without the blanks around it. -/
def ClientSection.namedVariable (entry : ClientSection) : Option String :=
  entry.secretVariable.bind Text.trimmed?

/-- An entry that names a variable has one. -/
theorem ClientSection.isSome_of_named {entry : ClientSection}
    (isNamed : entry.namedVariable.isSome) : entry.secretVariable.isSome := by
  obtain ⟨name, names⟩ := Option.isSome_iff_exists.1 isNamed
  obtain ⟨text, has, -⟩ := Option.bind_eq_some_iff.1 names
  rw [has]
  rfl

/-- The entries for clients as they stand in a merged value. -/
def clientEntries (value : Json) : List Json :=
  ((value.at? ["clients"]).bind Json.items?).getD []

/-! ## Names in a value -/

/-- Directly below an object a name is the text of a member. -/
theorem nameAt?_object (fields : List (String × Json)) (name : String) :
    nameAt? (.object fields) [name] =
      ((Entries.lookup name fields).bind Json.text?).bind Text.trimmed? := by
  unfold nameAt?
  rw [Json.at?, Json.child?]
  cases Entries.lookup name fields <;> rfl

/-- No name but a position leads into an array. -/
theorem nameAt?_array (items : List Json) : nameAt? (.array items) ["secret_env"] = none := rfl

/-! ## One entry -/

namespace ClientSection

variable {found : Json} {entry : ClientSection}

/-- The fields of an entry that say which client it is and where its secret is. -/
theorem decode_eq_ok (read : decode found = .ok entry) :
    ∃ present, shape.present found = .ok present ∧
      Json.needed present "client_id" Decoder.text = .ok entry.client.clientId ∧
        Json.withDefault present "secret_env" (Decoder.optional Decoder.text) none =
          .ok entry.secretVariable := by
  simp only [decode, bind_eq_ok_iff] at read
  obtain ⟨present, there, _, identified, _, _, _, _, _, _, _, _, _, _, _, _, _, named, made⟩ := read
  cases made
  exact ⟨present, there, identified, named⟩

/-- **Of an entry that is written as an object, the identifier and the variable are found among its
members.** -/
theorem decode_object {fields : List (String × Json)} (read : decode (.object fields) = .ok entry) :
    nameAt? (.object fields) ["client_id"] = Text.trimmed? entry.client.clientId ∧
      nameAt? (.object fields) ["secret_env"] = entry.namedVariable := by
  obtain ⟨present, there, identified, named⟩ := decode_eq_ok read
  rw [nameAt?_object, nameAt?_object, ← Shape.lookup_present there rfl,
    ← Shape.lookup_present there rfl, namedVariable]
  constructor
  · obtain ⟨found, held, isText⟩ := Json.needed_eq_ok identified
    rw [held, Decoder.text_eq_ok isText, Option.bind_some, Json.text?, Option.bind_some]
  · rcases Json.withDefault_eq_ok named with ⟨missing, unnamed⟩ | ⟨found, held, isOptional⟩
    · rw [missing, unnamed, Option.bind_none, Option.bind_none]
    · rw [held]
      rcases Decoder.optional_eq_ok isOptional with ⟨rfl, unnamed⟩ | ⟨text, isText, names⟩
      · rw [unnamed]
        rfl
      · rw [Decoder.text_eq_ok isText, names, Option.bind_some, Json.text?]

/-- A variable is found in an entry that is written as an object and names it. -/
theorem nameAt?_secretVariable (read : decode found = .ok entry) {name : String}
    (named : nameAt? found ["secret_env"] = some name) :
    (∃ fields, found = .object fields) ∧ entry.namedVariable = some name := by
  obtain ⟨present, there, -, -⟩ := decode_eq_ok read
  rcases Shape.present_eq_ok there with ⟨fields, rfl⟩ | ⟨items, rfl⟩
  · exact ⟨⟨fields, rfl⟩, (decode_object read).2 ▸ named⟩
  · rw [nameAt?_array] at named
    cases named

end ClientSection

/-! ## The document -/

namespace Document

variable {value : Json} {document : Document}

/-- The clients of a document are a list of entries, or none. -/
theorem decode_eq_ok (read : decode value = .ok document) :
    ∃ present, shape.present value = .ok present ∧
      Json.withDefault present "clients" (Decoder.list ClientSection.decode) [] =
        .ok document.clients := by
  simp only [decode, bind_eq_ok_iff] at read
  obtain ⟨present, there, _, _, _, _, _, _, _, listed, _, _, _, _, _, _, made⟩ := read
  cases made
  exact ⟨present, there, listed⟩

/-- Every entry that stands under the clients is read into the document. -/
theorem exists_of_mem_clientEntries (read : ofValue value = .ok document) {found : Json}
    (member : found ∈ clientEntries value) :
    ∃ entry ∈ document.clients, ClientSection.decode found = .ok entry := by
  obtain ⟨present, there, listed⟩ := decode_eq_ok (mapError_eq_ok_iff.1 read)
  rcases Shape.present_eq_ok there with ⟨members, rfl⟩ | ⟨items, rfl⟩
  · have held : Entries.lookup "clients" present = Entries.lookup "clients" members :=
      Shape.lookup_present there rfl
    have entries : clientEntries (.object members) =
        ((Entries.lookup "clients" members).bind Json.items?).getD [] := by
      unfold clientEntries
      rw [Json.at?, Json.child?]
      cases Entries.lookup "clients" members <;> rfl
    rw [entries, ← held] at member
    rcases Json.withDefault_eq_ok listed with ⟨missing, -⟩ | ⟨list, holds, isList⟩
    · rw [missing] at member
      cases member
    · obtain ⟨items, rfl, each⟩ := Decoder.list_eq_ok isList
      rw [holds] at member
      exact each found member
  · -- in an array there is nothing under a name
    cases member

end Document

end RealmConvergence.Configuration
