import Mathlib.Tactic.IntervalCases
import RealmConvergence.Json.Compact
import RealmConvergence.Json.Reader

/-!
# Compact texts are told apart

The compact text of a value without numbers of double precision is that of no other value. More is
true: from a text that goes on after a value, the value and what goes on can be told
(`compactText_append_inj`), unless a digit goes on after a number.

The first character tells the kind of a value, and each escape in a string stands for one character.
Between items and members stand commas, so a container ends where no comma follows.
-/

set_option autoImplicit false

namespace RealmConvergence.Json

/-! ## Values without numbers of double precision -/

mutual
/-- Whether a number of double precision stands in a value. -/
def hasFloat : Json → Bool
  | .number (.float _) => true
  | .array items => itemsHaveFloat items
  | .object members => membersHaveFloat members
  | .null | .bool _ | .number (.integer _) | .string _ => false

/-- Whether a number of double precision stands in an item. -/
def itemsHaveFloat : List Json → Bool
  | [] => false
  | item :: rest => hasFloat item || itemsHaveFloat rest

/-- Whether a number of double precision stands in the value of a member. -/
def membersHaveFloat : List (String × Json) → Bool
  | [] => false
  | (_, value) :: rest => hasFloat value || membersHaveFloat rest
end

/-! ## Strings -/

section Characters

variable (rest : List Char)

theorem hexQuad?_oneDigit {number : Nat} (small : number < 0x10) :
    Reader.hexQuad? (['0', '0', '0'] ++ Nat.toDigits 16 number ++ rest) = some (number, rest) := by
  interval_cases number <;> rfl

theorem hexQuad?_twoDigits {number : Nat} (large : 0x10 ≤ number) (small : number < 0x20) :
    Reader.hexQuad? (['0', '0'] ++ Nat.toDigits 16 number ++ rest) = some (number, rest) := by
  interval_cases number <;> rfl

/-- A numbered escape of a control character stands for it. -/
theorem numberedEscape?_of_hexQuad? {text : List Char} {character : Char}
    (read : Reader.hexQuad? text = some (character.toNat, rest))
    (control : character.toNat < 0x20) :
    Reader.numberedEscape? text = some (character, rest) := by
  have notHigh : ¬(0xD800 ≤ character.toNat ∧ character.toNat < 0xDC00) := by omega
  have notLow : ¬(0xDC00 ≤ character.toNat ∧ character.toNat < 0xE000) := by omega
  simp only [Reader.numberedEscape?, read, Option.bind_eq_bind, Option.bind_some, if_neg notHigh,
    if_neg notLow, Char.ofNat_toNat, Option.pure_def]

/-- A character of a string is read from what is written for it. -/
theorem nextCharacter?_stringCharacter (character : Char) :
    Reader.nextCharacter? (stringCharacter character ++ rest) = some (character, rest) := by
  unfold stringCharacter
  split_ifs with isQuote isBackslash isBackspace isFormFeed isNewLine isReturn isTab isLow isControl
  · subst isQuote; rfl
  · subst isBackslash; rfl
  · subst isBackspace; rfl
  · subst isFormFeed; rfl
  · subst isNewLine; rfl
  · subst isReturn; rfl
  · subst isTab; rfl
  · exact numberedEscape?_of_hexQuad? rest (hexQuad?_oneDigit rest isLow) (by omega)
  · exact numberedEscape?_of_hexQuad? rest (hexQuad?_twoDigits rest (by omega) isControl) isControl
  · rw [List.singleton_append, Reader.nextCharacter?]
    · rfl
    · exact fun _ same => isQuote (List.cons.inj same).1
    · exact fun _ same => isBackslash (List.cons.inj same).1
    · exact fun _ _ same => isBackslash (List.cons.inj same).1

end Characters

/-- What is written of characters up to the closing quote tells them and what goes on. -/
theorem characters_append_inj {one other rest otherRest : List Char}
    (same : one.flatMap stringCharacter ++ '"' :: rest =
      other.flatMap stringCharacter ++ '"' :: otherRest) : one = other ∧ rest = otherRest := by
  have ended (text : List Char) : Reader.nextCharacter? ('"' :: text) = none := rfl
  induction one generalizing other with
  | nil =>
      cases other with
      | nil => exact ⟨rfl, (List.cons.inj same).2⟩
      | cons character others =>
          have read := congrArg Reader.nextCharacter? same
          rw [List.flatMap_cons, List.append_assoc, nextCharacter?_stringCharacter] at read
          cases read
  | cons character rest ih =>
      have read := congrArg Reader.nextCharacter? same
      rw [List.flatMap_cons, List.append_assoc, nextCharacter?_stringCharacter] at read
      cases other with
      | nil => cases read
      | cons otherCharacter others =>
          rw [List.flatMap_cons, List.append_assoc, nextCharacter?_stringCharacter] at read
          obtain ⟨sameCharacter, sameRest⟩ := Prod.mk.inj (Option.some.inj read)
          obtain ⟨sameCharacters, goesOn⟩ := ih sameRest
          exact ⟨congrArg₂ List.cons sameCharacter sameCharacters, goesOn⟩

/-- A string tells its text and what goes on after it. -/
theorem stringText_append_inj {one other : String} {rest otherRest : List Char}
    (same : stringText one ++ rest = stringText other ++ otherRest) :
    one = other ∧ rest = otherRest := by
  simp only [stringText, List.cons_append, List.append_assoc, List.nil_append, List.cons.injEq,
    true_and] at same
  obtain ⟨texts, goesOn⟩ := characters_append_inj same
  exact ⟨String.toList_injective texts, goesOn⟩

/-! ## Integers -/

/-- A text does not begin with a digit. -/
def BeginsWithoutDigit (text : List Char) : Prop :=
  ∀ first ∈ text.head?, first.isDigit = false

theorem beginsWithoutDigit_cons {first : Char} {rest : List Char} (other : first.isDigit = false) :
    BeginsWithoutDigit (first :: rest) := by
  intro found isFirst
  cases isFirst
  exact other

theorem takeWhile_isDigit_of_begins {text : List Char} (begins : BeginsWithoutDigit text) :
    text.takeWhile Char.isDigit = [] := by
  cases text with
  | nil => rfl
  | cons first rest => exact List.takeWhile_cons_of_neg (by simp [begins first rfl])

theorem isDigit_of_mem_decimalDigits {number : Nat} {digit : Char}
    (member : digit ∈ decimalDigits number) : digit.isDigit = true :=
  Nat.isDigit_of_mem_toDigits (by decide) (by decide) member

/-- Digits tell their number and what goes on, unless a digit goes on. -/
theorem decimalDigits_append_inj {one other : Nat} {rest otherRest : List Char}
    (begins : BeginsWithoutDigit rest) (otherBegins : BeginsWithoutDigit otherRest)
    (same : decimalDigits one ++ rest = decimalDigits other ++ otherRest) :
    one = other ∧ rest = otherRest := by
  have digits := congrArg (List.takeWhile Char.isDigit) same
  rw [List.takeWhile_append_of_pos fun _ => isDigit_of_mem_decimalDigits,
    List.takeWhile_append_of_pos fun _ => isDigit_of_mem_decimalDigits,
    takeWhile_isDigit_of_begins begins, takeWhile_isDigit_of_begins otherBegins, List.append_nil,
    List.append_nil] at digits
  have numbers : one = other := by
    calc
      one = Nat.ofDigitChars 10 (decimalDigits one) 0 := Nat.ofDigitChars_ten_toDigits.symm
      _ = Nat.ofDigitChars 10 (decimalDigits other) 0 := by rw [digits]
      _ = other := Nat.ofDigitChars_ten_toDigits
  rw [digits] at same
  exact ⟨numbers, List.append_cancel_left same⟩

theorem exists_digit_of_decimalDigits (number : Nat) :
    ∃ digit rest, decimalDigits number = digit :: rest ∧ digit.isDigit = true := by
  cases digits : decimalDigits number with
  | nil => exact absurd digits Nat.toDigits_ne_nil
  | cons digit rest =>
      exact ⟨digit, rest, rfl, isDigit_of_mem_decimalDigits (digits ▸ List.mem_cons_self)⟩

theorem decimalDigits_append_ne_minus (number : Nat) (rest otherRest : List Char) :
    decimalDigits number ++ rest ≠ '-' :: otherRest := by
  obtain ⟨digit, digits, written, isDigit⟩ := exists_digit_of_decimalDigits number
  rw [written, List.cons_append]
  intro same
  rw [(List.cons.inj same).1] at isDigit
  cases isDigit

/-- An integer's text tells it and what goes on, unless a digit goes on. -/
theorem integerText_append_inj {one other : Int} {rest otherRest : List Char}
    (begins : BeginsWithoutDigit rest) (otherBegins : BeginsWithoutDigit otherRest)
    (same : integerText one ++ rest = integerText other ++ otherRest) :
    one = other ∧ rest = otherRest := by
  cases one with
  | ofNat one =>
      cases other with
      | ofNat other =>
          obtain ⟨rfl, goesOn⟩ := decimalDigits_append_inj begins otherBegins same
          exact ⟨rfl, goesOn⟩
      | negSucc other => exact absurd same (decimalDigits_append_ne_minus one rest _)
  | negSucc one =>
      cases other with
      | ofNat other => exact absurd same.symm (decimalDigits_append_ne_minus other otherRest _)
      | negSucc other =>
          obtain ⟨numbers, goesOn⟩ :=
            decimalDigits_append_inj begins otherBegins (List.cons.inj same).2
          cases numbers
          exact ⟨rfl, goesOn⟩

/-! ## Kinds -/

/-- The kinds of values. -/
inductive Kind where
  | null
  | bool
  | number
  | string
  | array
  | object
deriving DecidableEq

/-- The kind of a value. -/
def kind : Json → Kind
  | .null => .null
  | .bool _ => .bool
  | .number _ => .number
  | .string _ => .string
  | .array _ => .array
  | .object _ => .object

/-- The kind of the values whose texts begin with a character. -/
def kindOf? (first : Char) : Option Kind :=
  if first = 'n' then some .null
  else if first = 't' ∨ first = 'f' then some .bool
  else if first = '-' ∨ first.isDigit then some .number
  else if first = '"' then some .string
  else if first = '[' then some .array
  else if first = '\x7b' then some .object
  else none

theorem kindOf?_of_isDigit {digit : Char} (isDigit : digit.isDigit = true) :
    kindOf? digit = some .number := by
  have other (first : Char) (notDigit : first.isDigit = false) : digit ≠ first := by
    rintro rfl
    rw [isDigit] at notDigit
    cases notDigit
  simp only [kindOf?, other 'n' rfl, other 't' rfl, other 'f' rfl, isDigit, or_true, or_self,
    if_false, if_true]

/-- **The first character of a text tells the kind of the value.** -/
theorem exists_first_of_compactText {value : Json} (integral : value.hasFloat = false) :
    ∃ first rest, compactText value = first :: rest ∧ kindOf? first = some value.kind := by
  cases value with
  | null =>
      rw [compactText]
      exact ⟨_, _, rfl, rfl⟩
  | bool value =>
      rw [compactText]
      cases value
      · exact ⟨_, _, rfl, rfl⟩
      · exact ⟨_, _, rfl, rfl⟩
  | number number =>
      cases number with
      | float value => cases integral
      | integer value =>
          rw [compactText]
          cases value with
          | ofNat value =>
              obtain ⟨digit, rest, written, isDigit⟩ := exists_digit_of_decimalDigits value
              exact ⟨digit, rest, written, kindOf?_of_isDigit isDigit⟩
          | negSucc value => exact ⟨_, _, rfl, rfl⟩
  | string text =>
      rw [compactText]
      exact ⟨_, _, rfl, rfl⟩
  | array items =>
      rw [compactText]
      exact ⟨_, _, rfl, rfl⟩
  | object members =>
      rw [compactText]
      exact ⟨_, _, rfl, rfl⟩

/-- Values with texts that go on to the same are of one kind. -/
theorem kind_of_compactText_append {one other : Json} (integral : one.hasFloat = false)
    (otherIntegral : other.hasFloat = false) {rest otherRest : List Char}
    (same : compactText one ++ rest = compactText other ++ otherRest) : one.kind = other.kind := by
  obtain ⟨first, text, written, ofKind⟩ := exists_first_of_compactText integral
  obtain ⟨otherFirst, otherText, otherWritten, otherOfKind⟩ :=
    exists_first_of_compactText otherIntegral
  rw [written, otherWritten, List.cons_append, List.cons_append] at same
  rw [(List.cons.inj same).1, otherOfKind] at ofKind
  exact (Option.some.inj ofKind).symm

/-- A value's text does not begin with what begins no value. -/
theorem compactText_append_ne {value : Json} (integral : value.hasFloat = false) {other : Char}
    (beginsNone : kindOf? other = none) (rest otherRest : List Char) :
    compactText value ++ rest ≠ other :: otherRest := by
  obtain ⟨first, text, written, ofKind⟩ := exists_first_of_compactText integral
  rw [written, List.cons_append]
  intro same
  rw [(List.cons.inj same).1, beginsNone] at ofKind
  cases ofKind

/-! ## Values -/

section Later

variable {α : Type} {write : List α → List Char} {close : Char}

/-- What is written of a list after its first entry. -/
def later (write : List α → List Char) : List α → List Char
  | [] => []
  | next :: rest => ',' :: write (next :: rest)

theorem beginsWithoutDigit_later (closes : close.isDigit = false) (entries : List α)
    (rest : List Char) : BeginsWithoutDigit (later write entries ++ close :: rest) := by
  cases entries with
  | nil => exact beginsWithoutDigit_cons closes
  | cons next others => exact beginsWithoutDigit_cons rfl

/-- After a comma there are more entries, and where the list is closed there are none. -/
theorem write_of_later (nothing : write [] = []) (closes : close ≠ ',') {entries others : List α}
    {rest otherRest : List Char}
    (same : later write entries ++ close :: rest = later write others ++ close :: otherRest) :
    write entries ++ close :: rest = write others ++ close :: otherRest := by
  cases entries with
  | nil =>
      cases others with
      | nil =>
          rw [nothing]
          exact same
      | cons other others => exact absurd (List.cons.inj same).1 closes
  | cons next entries =>
      cases others with
      | nil => exact absurd (List.cons.inj same).1.symm closes
      | cons other others => exact (List.cons.inj same).2

end Later

theorem compactItems_cons (item : Json) (rest : List Json) :
    compactItems (item :: rest) = compactText item ++ later compactItems rest := by
  cases rest with
  | nil => rw [compactItems, later, List.append_nil]
  | cons next others => rw [compactItems, later]

theorem compactMembers_cons (name : String) (value : Json) (rest : List (String × Json)) :
    compactMembers ((name, value) :: rest) =
      stringText name ++ ':' :: (compactText value ++ later compactMembers rest) := by
  cases rest with
  | nil => rw [compactMembers, later, List.append_nil]
  | cons next others => rw [compactMembers, later, List.append_assoc, List.cons_append]

mutual
/-- **A value's text tells it and what goes on, unless a digit goes on.** -/
theorem compactText_append_inj : ∀ (one : Json) {other : Json} {rest otherRest : List Char},
    one.hasFloat = false → other.hasFloat = false → BeginsWithoutDigit rest →
      BeginsWithoutDigit otherRest → compactText one ++ rest = compactText other ++ otherRest →
        one = other ∧ rest = otherRest
  | .null, other, rest, otherRest, integral, otherIntegral, _, _, same => by
    have kinds := kind_of_compactText_append integral otherIntegral same
    cases other with
    | null => exact ⟨rfl, List.append_cancel_left same⟩
    | _ => cases kinds
  | .bool value, other, rest, otherRest, integral, otherIntegral, _, _, same => by
    have kinds := kind_of_compactText_append integral otherIntegral same
    cases other with
    | bool otherValue =>
        rw [compactText, compactText] at same
        cases value <;> cases otherValue
        · exact ⟨rfl, List.append_cancel_left same⟩
        · cases (List.cons.inj same).1
        · cases (List.cons.inj same).1
        · exact ⟨rfl, List.append_cancel_left same⟩
    | _ => cases kinds
  | .number (.float _), _, _, _, integral, _, _, _, _ => nomatch integral
  | .number (.integer value), other, rest, otherRest, integral, otherIntegral, begins, otherBegins,
      same => by
    have kinds := kind_of_compactText_append integral otherIntegral same
    cases other with
    | number otherValue =>
        cases otherValue with
        | float _ => cases otherIntegral
        | integer otherValue =>
            rw [compactText, compactText] at same
            obtain ⟨rfl, goesOn⟩ := integerText_append_inj begins otherBegins same
            exact ⟨rfl, goesOn⟩
    | _ => cases kinds
  | .string text, other, rest, otherRest, integral, otherIntegral, _, _, same => by
    have kinds := kind_of_compactText_append integral otherIntegral same
    cases other with
    | string otherText =>
        rw [compactText, compactText] at same
        obtain ⟨rfl, goesOn⟩ := stringText_append_inj same
        exact ⟨rfl, goesOn⟩
    | _ => cases kinds
  | .array items, other, rest, otherRest, integral, otherIntegral, _, _, same => by
    have kinds := kind_of_compactText_append integral otherIntegral same
    cases other with
    | array others =>
        rw [compactText, compactText, List.cons_append, List.append_assoc, List.cons_append,
          List.append_assoc] at same
        obtain ⟨rfl, goesOn⟩ :=
          compactItems_append_inj items integral otherIntegral (List.cons.inj same).2
        exact ⟨rfl, goesOn⟩
    | _ => cases kinds
  | .object members, other, rest, otherRest, integral, otherIntegral, _, _, same => by
    have kinds := kind_of_compactText_append integral otherIntegral same
    cases other with
    | object others =>
        rw [compactText, compactText, List.cons_append, List.append_assoc, List.cons_append,
          List.append_assoc] at same
        obtain ⟨rfl, goesOn⟩ :=
          compactMembers_append_inj members integral otherIntegral (List.cons.inj same).2
        exact ⟨rfl, goesOn⟩
    | _ => cases kinds

/-- The texts of items up to the closing bracket tell them and what goes on. -/
theorem compactItems_append_inj : ∀ (items : List Json) {others : List Json}
    {rest otherRest : List Char}, itemsHaveFloat items = false → itemsHaveFloat others = false →
      compactItems items ++ ']' :: rest = compactItems others ++ ']' :: otherRest →
        items = others ∧ rest = otherRest
  | [], others, rest, otherRest, _, otherIntegral, same => by
    cases others with
    | nil => exact ⟨rfl, (List.cons.inj same).2⟩
    | cons other others =>
        rw [compactItems_cons, List.append_assoc] at same
        have first := (Bool.or_eq_false_iff.1 otherIntegral).1
        exact absurd same.symm (compactText_append_ne first rfl _ _)
  | item :: items, others, rest, otherRest, integral, otherIntegral, same => by
    obtain ⟨first, restIntegral⟩ := Bool.or_eq_false_iff.1 integral
    cases others with
    | nil =>
        rw [compactItems_cons, List.append_assoc] at same
        exact absurd same (compactText_append_ne first rfl _ _)
    | cons other others =>
        obtain ⟨otherFirst, otherRestIntegral⟩ := Bool.or_eq_false_iff.1 otherIntegral
        rw [compactItems_cons, compactItems_cons, List.append_assoc, List.append_assoc] at same
        obtain ⟨rfl, goesOn⟩ := compactText_append_inj item first otherFirst
          (beginsWithoutDigit_later rfl items rest)
          (beginsWithoutDigit_later rfl others otherRest) same
        obtain ⟨sameLater, ends⟩ := compactItems_append_inj items restIntegral otherRestIntegral
          (write_of_later (by rw [compactItems]) (by decide) goesOn)
        exact ⟨congrArg (item :: ·) sameLater, ends⟩

/-- The texts of members up to the closing brace tell them and what goes on. -/
theorem compactMembers_append_inj : ∀ (members : List (String × Json))
    {others : List (String × Json)} {rest otherRest : List Char},
      membersHaveFloat members = false → membersHaveFloat others = false →
        compactMembers members ++ '\x7d' :: rest = compactMembers others ++ '\x7d' :: otherRest →
          members = others ∧ rest = otherRest
  | [], others, rest, otherRest, _, _, same => by
    cases others with
    | nil => exact ⟨rfl, (List.cons.inj same).2⟩
    | cons other others =>
        rw [compactMembers_cons other.1 other.2] at same
        cases (List.cons.inj same).1
  | (name, value) :: members, others, rest, otherRest, integral, otherIntegral, same => by
    obtain ⟨first, restIntegral⟩ := Bool.or_eq_false_iff.1 integral
    cases others with
    | nil =>
        rw [compactMembers_cons] at same
        cases (List.cons.inj same).1
    | cons other others =>
        obtain ⟨otherName, otherValue⟩ := other
        obtain ⟨otherFirst, otherRestIntegral⟩ := Bool.or_eq_false_iff.1 otherIntegral
        rw [compactMembers_cons, compactMembers_cons, List.append_assoc, List.append_assoc,
          List.cons_append, List.cons_append, List.append_assoc, List.append_assoc] at same
        obtain ⟨rfl, afterName⟩ := stringText_append_inj same
        obtain ⟨rfl, goesOn⟩ := compactText_append_inj value first otherFirst
          (beginsWithoutDigit_later rfl members rest)
          (beginsWithoutDigit_later rfl others otherRest) (List.cons.inj afterName).2
        obtain ⟨sameLater, ends⟩ := compactMembers_append_inj members restIntegral
          otherRestIntegral (write_of_later (by rw [compactMembers]) (by decide) goesOn)
        exact ⟨congrArg ((name, value) :: ·) sameLater, ends⟩
end

/-- **Values without numbers of double precision have one compact text only if they are one
value.** -/
theorem compact_injective {one other : Json} (integral : one.hasFloat = false)
    (otherIntegral : other.hasFloat = false) (same : one.compact = other.compact) :
    one = other := by
  have texts := String.ofList_injective same
  rw [← List.append_nil (compactText one), ← List.append_nil (compactText other)] at texts
  have begins : BeginsWithoutDigit [] := nofun
  exact (compactText_append_inj one integral otherIntegral begins begins texts).1

end RealmConvergence.Json
