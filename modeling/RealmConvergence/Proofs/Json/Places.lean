import RealmConvergence.Json.Pointer
import RealmConvergence.Proofs.Collection.Table
import RealmConvergence.Proofs.Text.Parts

/-!
# Places and leaves

A place inside a value is a path of tokens, and a pointer writes a path as one text. Slashes and
tildes in a token are escaped, so the pointer of a path leads along that path and no other
(`Pointer.path?_ofPath`), and a position in an array has one spelling only
(`position?_eq_some_iff`).

The leaves of a value in byte order are the places with nothing below them (`mem_leaves_iff`). They
are listed as they come in the document (`pairwise_leaves`), which of two places puts at most one
before the other (`Precedes.asymm`).
-/

set_option autoImplicit false

namespace RealmConvergence.Json

/-! ## Positions -/

/-- Only zero is written with a zero in front. -/
theorem eq_nil_of_toDigits {number : Nat} {rest : List Char}
    (digits : Nat.toDigits 10 number = '0' :: rest) : number = 0 ∧ rest = [] := by
  induction number using Nat.strongRecOn generalizing rest with
  | ind number ih =>
      by_cases small : number < 10
      · rw [Nat.toDigits_of_lt_base small] at digits
        obtain ⟨isZero, isLast⟩ := List.cons.inj digits
        exact ⟨Nat.digitChar_eq_zero.1 isZero, isLast.symm⟩
      · rw [Nat.toDigits_of_base_le (by decide) (Nat.le_of_not_lt small)] at digits
        cases front : Nat.toDigits 10 (number / 10) with
        | nil => exact absurd front Nat.toDigits_ne_nil
        | cons first others =>
            rw [front] at digits
            obtain ⟨rfl, -⟩ := List.cons.inj digits
            obtain ⟨isZero, -⟩ := ih (number / 10) (by omega) front
            omega

/-- A digit writes its value. -/
theorem toDigits_of_isDigit {digit : Char} (isDigit : digit.isDigit = true) :
    digit.toNat - '0'.toNat < 10 ∧ Nat.toDigits 10 (digit.toNat - '0'.toNat) = [digit] := by
  have zero : '0'.toNat = 48 := rfl
  have bounds : 48 ≤ digit.toNat ∧ digit.toNat ≤ 57 := by
    simpa [Char.isDigit, UInt32.le_iff_toNat_le] using isDigit
  have small : digit.toNat - '0'.toNat < 10 := by omega
  refine ⟨small, ?_⟩
  rw [Nat.toDigits_of_lt_base small]
  congr 1
  refine Char.toNat_inj.1 ?_
  rw [Nat.toNat_digitChar_of_lt_ten small]
  omega

/-- Digits after a number that is not zero are written after its own. -/
theorem toDigits_ofDigitChars {digits : List Char} {value : Nat} (positive : 0 < value)
    (areDigits : ∀ digit ∈ digits, digit.isDigit = true) :
    Nat.toDigits 10 (Nat.ofDigitChars 10 digits value) = Nat.toDigits 10 value ++ digits := by
  induction digits generalizing value with
  | nil => exact (List.append_nil _).symm
  | cons digit rest ih =>
      obtain ⟨small, same⟩ := toDigits_of_isDigit (areDigits digit List.mem_cons_self)
      have appended := Nat.toDigits_append_toDigits (by decide : 1 < 10) positive small
      calc Nat.toDigits 10 (Nat.ofDigitChars 10 (digit :: rest) value)
          = Nat.toDigits 10 (10 * value + (digit.toNat - '0'.toNat)) ++ rest :=
            ih (Nat.add_pos_left (Nat.mul_pos (by decide) positive) _) fun other member =>
              areDigits other (List.mem_cons_of_mem _ member)
        _ = Nat.toDigits 10 value ++ (digit :: rest) := by
            rw [← appended, same, List.append_assoc, List.singleton_append]

/-- Digits without a zero in front are how the number that they are read as is written. -/
theorem toDigits_of_no_zero {first : Char} {rest : List Char} (nonzero : first ≠ '0')
    (areDigits : ∀ digit ∈ first :: rest, digit.isDigit = true) :
    Nat.toDigits 10 (Nat.ofDigitChars 10 (first :: rest) 0) = first :: rest := by
  obtain ⟨-, same⟩ := toDigits_of_isDigit (areDigits first List.mem_cons_self)
  have positive : 0 < first.toNat - '0'.toNat := by
    refine Nat.pos_of_ne_zero fun isZero => nonzero ?_
    rw [isZero, Nat.toDigits_zero] at same
    exact (List.cons.inj same).1.symm
  have read : Nat.ofDigitChars 10 (first :: rest) 0 =
      Nat.ofDigitChars 10 rest (first.toNat - '0'.toNat) := by
    show Nat.ofDigitChars 10 rest (10 * 0 + (first.toNat - '0'.toNat)) = _
    rw [Nat.mul_zero, Nat.zero_add]
  rw [read, toDigits_ofDigitChars positive fun digit member =>
    areDigits digit (List.mem_cons_of_mem _ member), same, List.singleton_append]

/-- **A position is given by its number alone.** -/
theorem position?_eq_some_iff {token : String} {index : Nat} :
    position? token = some index ↔ token = toString index := by
  have written : (toString index).toList = Nat.toDigits 10 index := by
    rw [Nat.toString_eq_repr, Nat.toList_repr]
  constructor
  · intro found
    refine String.toList_inj.1 (Eq.trans ?_ written.symm)
    unfold position? at found
    split at found
    · cases found
    · next isZero =>
      cases found
      rw [isZero, Nat.toDigits_zero]
    · cases found
    · next notNil _ noZero =>
      split at found
      · next all =>
        cases found
        generalize token.toList = digits at *
        cases digits with
        | nil => exact (notNil rfl).elim
        | cons first rest =>
            have nonzero : first ≠ '0' := fun same => noZero rest (same ▸ rfl)
            exact (toDigits_of_no_zero nonzero (List.all_eq_true.1 all)).symm
      · cases found
  · rintro rfl
    unfold position?
    rw [written]
    split
    · next none => exact absurd none Nat.toDigits_ne_nil
    · next isZero => rw [(eq_nil_of_toDigits isZero).1]
    · next rest notAlone isZero => exact (notAlone (eq_nil_of_toDigits isZero).2).elim
    · rw [if_pos]
      · exact congrArg some Nat.ofDigitChars_ten_toDigits
      · exact List.all_eq_true.2 fun digit member =>
          Nat.isDigit_of_mem_toDigits (by decide) (by decide) member

/-! ## Pointers -/

namespace Pointer

/-- An escaped token holds no slash. -/
theorem escape_whole (token : List Char) :
    ∀ character ∈ escape token, (character == '/') = false := by
  suffices none : '/' ∉ escape token from
    fun character member => beq_eq_false_iff_ne.2 fun isSlash => none (isSlash ▸ member)
  induction token with
  | nil => exact List.not_mem_nil
  | cons head rest ih =>
      unfold escape
      split
      · next isNil => cases isNil
      · next isTilde => cases isTilde; simpa using ih
      · next isSlash => cases isSlash; simpa using ih
      · next _ other same =>
        cases same
        simpa [ih] using fun isSlash => other isSlash.symm

theorem toList_ofPath_cons (token : String) (path : Path) :
    (ofPath (token :: path)).toList = '/' :: escape token.toList ++ (ofPath path).toList := by
  simp [ofPath, tokenText, String.join_cons]

/-- The parts of a pointer after its first slash are the escaped tokens. -/
theorem partsBetween_ofPath (token : String) (path : Path) :
    Text.partsBetween (· == '/') (escape token.toList ++ (ofPath path).toList) =
      (token :: path).map fun step => escape step.toList := by
  induction path generalizing token with
  | nil =>
      rw [ofPath, List.map_nil, String.join_nil, String.toList_empty, List.append_nil]
      exact Text.partsBetween_of_whole (escape_whole _)
  | cons next rest ih =>
      rw [toList_ofPath_cons, List.cons_append,
        Text.partsBetween_append (escape_whole _) (beq_self_eq_true _), ih]
      rfl

/-- **The pointer of a path leads along the path.** -/
theorem path?_ofPath (path : Path) : path? (ofPath path) = some path := by
  cases path with
  | nil => rfl
  | cons token rest =>
      unfold path?
      rw [toList_ofPath_cons]
      simp only [List.cons_append, partsBetween_ofPath, List.map_map, Function.comp_def,
        unescape_escape, String.ofList_toList, List.map_id']

/-- Paths with the same pointer are the same. -/
theorem ofPath_inj {path other : Path} (same : ofPath path = ofPath other) : path = other := by
  have leads := path?_ofPath path
  rw [same, path?_ofPath] at leads
  exact (Option.some.inj leads).symm

theorem toList_ofPath_append (front rest : Path) :
    (ofPath (front ++ rest)).toList = (ofPath front).toList ++ (ofPath rest).toList := by
  rw [ofPath, List.map_append, String.join_append, String.toList_append]
  rfl

/-- **A pointer that goes on after a slash leads on from the same place.** -/
theorem path?_of_toList_eq {upper pointer : String} {path : Path} {below : List Char}
    (leads : path? upper = some path) (longer : pointer.toList = upper.toList ++ '/' :: below) :
    ∃ rest, path? pointer = some (path ++ rest) := by
  refine ⟨(Text.partsBetween (· == '/') below).map fun token => String.ofList (unescape token), ?_⟩
  unfold path? at leads ⊢
  rw [longer]
  split at leads
  · next isRoot =>
    cases leads
    rw [isRoot]
    rfl
  · next tokens isRooted =>
    cases leads
    have parts : Text.partsBetween (· == '/') (tokens ++ '/' :: below) =
        Text.partsBetween (· == '/') tokens ++ Text.partsBetween (· == '/') below :=
      @Text.partsBetween_separated (· == '/') '/' below (beq_self_eq_true '/') tokens
    rw [isRooted, List.cons_append, ← List.map_append, ← parts]
    rfl
  · cases leads

end Pointer

/-- What stands at the pointer of a path is what stands at the path. -/
theorem atPointer?_ofPath (value : Json) (path : Path) :
    value.atPointer? (Pointer.ofPath path) = value.at? path := by
  rw [atPointer?, Pointer.path?_ofPath, Option.bind_some]

/-! ## Values in byte order -/

theorem itemsInOrder_iff {items : List Json} :
    ItemsInOrder items ↔ ∀ item ∈ items, InOrder item := by
  induction items with
  | nil => simp [ItemsInOrder]
  | cons item rest ih => simp [ItemsInOrder, ih]

theorem membersInOrder_iff {members : List (String × Json)} :
    MembersInOrder members ↔ ∀ member ∈ members, InOrder member.2 := by
  induction members with
  | nil => simp [MembersInOrder]
  | cons member rest ih => simp [MembersInOrder, ih]

/-- What stands inside a value in byte order is in byte order too. -/
theorem InOrder.child {value inner : Json} {token : String} (ordered : value.InOrder)
    (inside : value.child? token = some inner) : inner.InOrder := by
  cases value with
  | array items =>
      obtain ⟨index, -, found⟩ := Option.bind_eq_some_iff.1 inside
      exact itemsInOrder_iff.1 ordered inner (List.mem_of_getElem? found)
  | object members =>
      exact membersInOrder_iff.1 ordered.2 (token, inner) (Entries.mem_of_lookup inside)
  | _ => cases inside

/-- A path leads where its end leads from the place of its beginning. -/
theorem at?_append (value : Json) (front rest : Path) :
    value.at? (front ++ rest) = (value.at? front).bind (·.at? rest) := by
  induction front generalizing value with
  | nil => rfl
  | cons token front ih =>
      rw [List.cons_append, at?, at?]
      cases value.child? token with
      | none => rfl
      | some inner => exact ih inner

/-- What stands at a place of a value in byte order is in byte order too. -/
theorem InOrder.at? {value inner : Json} {path : Path} (ordered : value.InOrder)
    (there : value.at? path = some inner) : inner.InOrder := by
  induction path generalizing value with
  | nil =>
      cases there
      exact ordered
  | cons token rest ih =>
      obtain ⟨next, inside, further⟩ := Option.bind_eq_some_iff.1 there
      exact ih (ordered.child inside) further

/-! ## Leaves and their places -/

theorem mem_itemLeaves {items : List Json} {position : Nat} {leaf : Path × Json} :
    leaf ∈ itemLeaves position items ↔ ∃ index item, items[index]? = some item ∧
      ∃ inner ∈ leaves item, leaf = (toString (position + index) :: inner.1, inner.2) := by
  induction items generalizing position with
  | nil => simp [itemLeaves]
  | cons first rest ih =>
      rw [itemLeaves, List.mem_append, ih, List.mem_map]
      constructor
      · rintro (⟨inner, member, rfl⟩ | ⟨index, item, found, inner, member, rfl⟩)
        · exact ⟨0, first, rfl, inner, member, rfl⟩
        · exact ⟨index + 1, item, found, inner, member, by rw [Nat.add_right_comm, Nat.add_assoc]⟩
      · rintro ⟨index, item, found, inner, member, rfl⟩
        cases index with
        | zero =>
            cases found
            exact .inl ⟨inner, member, rfl⟩
        | succ index =>
            refine .inr ⟨index, item, found, inner, member, ?_⟩
            rw [Nat.add_right_comm, Nat.add_assoc]

theorem mem_memberLeaves {members : List (String × Json)} {leaf : Path × Json} :
    leaf ∈ memberLeaves members ↔ ∃ member ∈ members, ∃ inner ∈ leaves member.2,
      leaf = (member.1 :: inner.1, inner.2) := by
  induction members with
  | nil => simp [memberLeaves]
  | cons first rest ih =>
      rw [memberLeaves, List.mem_append, ih, List.mem_map]
      constructor
      · rintro (⟨inner, member, rfl⟩ | ⟨member, inRest, found⟩)
        · exact ⟨first, List.mem_cons_self, inner, member, rfl⟩
        · exact ⟨member, List.mem_cons_of_mem _ inRest, found⟩
      · rintro ⟨member, here, inner, below, rfl⟩
        rcases List.mem_cons.1 here with rfl | inRest
        · exact .inl ⟨inner, below, rfl⟩
        · exact .inr ⟨member, inRest, inner, below, rfl⟩

/-- The leaves of an array are those of its items. -/
theorem mem_leaves_array {items : List Json} {token : String} {path : Path} {leaf : Json} :
    (token :: path, leaf) ∈ (array items).leaves ↔ (token :: path, leaf) ∈ itemLeaves 0 items := by
  cases items with
  | nil => simp [leaves, itemLeaves]
  | cons item rest => rw [leaves]

/-- The leaves of an object are those of its members. -/
theorem mem_leaves_object {members : List (String × Json)} {token : String} {path : Path}
    {leaf : Json} : (token :: path, leaf) ∈ (object members).leaves ↔
      (token :: path, leaf) ∈ memberLeaves members := by
  cases members with
  | nil => simp [leaves, memberLeaves]
  | cons member rest => rw [leaves]

theorem leaves_of_isLeaf {value : Json} (isLeaf : value.isLeaf = true) :
    value.leaves = [([], value)] := by
  cases value with
  | array items =>
      cases items with
      | nil => rfl
      | cons item rest => cases isLeaf
  | object members =>
      cases members with
      | nil => rfl
      | cons member rest => cases isLeaf
  | _ => rfl

theorem ne_nil_of_mem_leaves {value : Json} {leaf : Path × Json} (isInner : value.isLeaf = false)
    (member : leaf ∈ value.leaves) : leaf.1 ≠ [] := by
  cases value with
  | array items =>
      cases items with
      | nil => cases isInner
      | cons item rest =>
          rw [leaves] at member
          obtain ⟨index, item, -, inner, -, rfl⟩ := mem_itemLeaves.1 member
          exact List.cons_ne_nil _ _
  | object members =>
      cases members with
      | nil => cases isInner
      | cons first rest =>
          rw [leaves] at member
          obtain ⟨other, -, inner, -, rfl⟩ := mem_memberLeaves.1 member
          exact List.cons_ne_nil _ _
  | _ => cases isInner

/-- The root is a leaf if nothing is below it. -/
theorem nil_mem_leaves_iff {value leaf : Json} :
    ([], leaf) ∈ value.leaves ↔ value = leaf ∧ leaf.isLeaf = true := by
  cases isLeaf : value.isLeaf with
  | true =>
      rw [leaves_of_isLeaf isLeaf, List.mem_singleton]
      constructor
      · intro same
        cases same
        exact ⟨rfl, isLeaf⟩
      · rintro ⟨rfl, -⟩
        rfl
  | false =>
      constructor
      · exact fun member => (ne_nil_of_mem_leaves isLeaf member rfl).elim
      · rintro ⟨rfl, other⟩
        cases isLeaf.symm.trans other

/-- Every other leaf is one of a value one step inside. -/
theorem cons_mem_leaves_iff {value leaf : Json} {token : String} {path : Path}
    (ordered : value.InOrder) :
    (token :: path, leaf) ∈ value.leaves ↔
      ∃ inner, value.child? token = some inner ∧ (path, leaf) ∈ inner.leaves := by
  cases value with
  | array items =>
      simp only [mem_leaves_array, mem_itemLeaves, child?, Option.bind_eq_some_iff,
        position?_eq_some_iff, Nat.zero_add]
      constructor
      · rintro ⟨index, item, found, inner, member, same⟩
        cases same
        exact ⟨item, ⟨index, rfl, found⟩, member⟩
      · rintro ⟨item, ⟨index, rfl, found⟩, member⟩
        exact ⟨index, item, found, _, member, rfl⟩
  | object members =>
      rw [mem_leaves_object, mem_memberLeaves]
      constructor
      · rintro ⟨⟨name, value⟩, here, inner, member, same⟩
        cases same
        exact ⟨value, ordered.1.mem_iff.1 here, member⟩
      · rintro ⟨value, here, member⟩
        exact ⟨(token, value), Entries.mem_of_lookup here, _, member, rfl⟩
  | _ => simp [leaves, child?]

/-- **The leaves are the places with nothing below them.** -/
theorem mem_leaves_iff {value leaf : Json} {path : Path} (ordered : value.InOrder) :
    (path, leaf) ∈ value.leaves ↔ value.at? path = some leaf ∧ leaf.isLeaf = true := by
  induction path generalizing value with
  | nil => simp [nil_mem_leaves_iff, at?]
  | cons token rest ih =>
      rw [cons_mem_leaves_iff ordered, at?]
      constructor
      · rintro ⟨inner, inside, member⟩
        obtain ⟨there, isLeaf⟩ := (ih (ordered.child inside)).1 member
        exact ⟨Option.bind_eq_some_iff.2 ⟨inner, inside, there⟩, isLeaf⟩
      · rintro ⟨there, isLeaf⟩
        obtain ⟨inner, inside, there⟩ := Option.bind_eq_some_iff.1 there
        exact ⟨inner, inside, (ih (ordered.child inside)).2 ⟨there, isLeaf⟩⟩

/-- Every value has a leaf. -/
theorem leaves_ne_nil : ∀ value : Json, value.leaves ≠ []
  | .array [] | .object [] | .null | .bool _ | .number _ | .string _ => List.cons_ne_nil _ _
  | .array (item :: rest) => by
    rw [leaves, itemLeaves]
    exact List.append_ne_nil_of_left_ne_nil (mt List.map_eq_nil_iff.1 (leaves_ne_nil item)) _
  | .object ((name, value) :: rest) => by
    rw [leaves, memberLeaves]
    exact List.append_ne_nil_of_left_ne_nil (mt List.map_eq_nil_iff.1 (leaves_ne_nil value)) _

/-! ## The order of the document -/

/-- One place of a value comes before another in the document: in a member whose name is earlier in
byte order, or in an earlier item, or in the same one and before the other there. -/
inductive Precedes : Json → Path → Path → Prop where
  /-- In members with different names. -/
  | member {members : List (String × Json)} {name other : String} {path rest : Path}
      (earlier : name < other) : Precedes (.object members) (name :: path) (other :: rest)
  /-- In items at different positions. -/
  | item {items : List Json} {position other : Nat} {path rest : Path}
      (earlier : position < other) :
      Precedes (.array items) (toString position :: path) (toString other :: rest)
  /-- In the same value one step inside. -/
  | within {value inner : Json} {token : String} {path rest : Path}
      (inside : value.child? token = some inner) (earlier : Precedes inner path rest) :
      Precedes value (token :: path) (token :: rest)

theorem toString_inj {position other : Nat} (same : toString position = toString other) :
    position = other := by
  have read := position?_eq_some_iff.2 same
  rw [position?_eq_some_iff.2 rfl] at read
  exact Option.some.inj read

/-- Two places are told apart by their first steps, or by the steps after the same first one. -/
theorem Precedes.firstStep {value : Json} {token next : String} {path rest : Path}
    (earlier : Precedes value (token :: path) (next :: rest)) :
    (∃ members, value = .object members ∧ token < next) ∨
      (∃ (items : List Json) (position other : Nat), value = .array items ∧
        token = toString position ∧ next = toString other ∧ position < other) ∨
      (token = next ∧ ∃ inner, value.child? token = some inner ∧ Precedes inner path rest) := by
  cases earlier with
  | member earlier => exact .inl ⟨_, rfl, earlier⟩
  | item earlier => exact .inr (.inl ⟨_, _, _, rfl, rfl, rfl, earlier⟩)
  | within inside earlier => exact .inr (.inr ⟨rfl, _, inside, earlier⟩)

/-- Of two places at most one comes before the other. -/
theorem Precedes.asymm {value : Json} {path other : Path} (earlier : Precedes value path other) :
    ¬Precedes value other path := by
  intro later
  induction earlier with
  | member earlier =>
      rcases later.firstStep with ⟨_, -, later⟩ | ⟨_, _, _, isArray, -⟩ | ⟨same, -⟩
      · exact String.lt_irrefl _ (String.lt_trans earlier later)
      · cases isArray
      · exact String.lt_irrefl _ (same ▸ earlier)
  | item earlier =>
      rcases later.firstStep with ⟨_, isObject, -⟩ | ⟨_, _, _, -, first, second, later⟩ | ⟨same, -⟩
      · cases isObject
      · have := toString_inj first
        have := toString_inj second
        omega
      · have := toString_inj same
        omega
  | within inside earlier ih =>
      rcases later.firstStep with ⟨_, -, later⟩ | ⟨_, _, _, -, first, second, later⟩ |
        ⟨-, inner, otherInside, later⟩
      · exact String.lt_irrefl _ later
      · have := toString_inj (first.symm.trans second)
        omega
      · cases inside.symm.trans otherInside
        exact ih later

mutual
/-- **The leaves stand in the order of the document.** -/
theorem pairwise_leaves : ∀ value : Json, value.InOrder →
    value.leaves.Pairwise fun left right => Precedes value left.1 right.1
  | .array [], _ | .object [], _ | .null, _ | .bool _, _ | .number _, _ | .string _, _ =>
    List.pairwise_singleton _ _
  | .array (item :: rest), ordered =>
    pairwise_itemLeaves (item :: rest) (item :: rest) 0 ordered fun index => by rw [Nat.zero_add]
  | .object (member :: rest), ordered =>
    pairwise_memberLeaves (member :: rest) (member :: rest) ordered.1 ordered.2
      fun _ here => ordered.1.mem_iff.1 here

/-- The leaves of items that stand in an array from a position on. -/
theorem pairwise_itemLeaves (all : List Json) : ∀ (items : List Json) (position : Nat),
    ItemsInOrder items → (∀ index, items[index]? = all[position + index]?) →
      (itemLeaves position items).Pairwise fun left right => Precedes (.array all) left.1 right.1
  | [], _, _, _ => .nil
  | item :: rest, position, ordered, stand => by
    have inside : (array all).child? (toString position) = some item :=
      Option.bind_eq_some_iff.2 ⟨position, position?_eq_some_iff.2 rfl, (stand 0).symm⟩
    refine List.pairwise_append.2 ⟨?_, ?_, ?_⟩
    · refine List.pairwise_map.2 ((pairwise_leaves item ordered.1).imp fun earlier => ?_)
      exact .within inside earlier
    · refine pairwise_itemLeaves all rest (position + 1) ordered.2 fun index => ?_
      rw [Nat.add_right_comm, Nat.add_assoc, ← stand (index + 1), List.getElem?_cons_succ]
    · intro left here right later
      obtain ⟨inner, -, rfl⟩ := List.mem_map.1 here
      obtain ⟨index, other, -, below, -, rfl⟩ := mem_itemLeaves.1 later
      exact .item (by omega)

/-- The leaves of members that stand in an object. -/
theorem pairwise_memberLeaves (all : List (String × Json)) : ∀ members : List (String × Json),
    Entries.Ascending members → MembersInOrder members →
      (∀ member ∈ members, Entries.lookup member.1 all = some member.2) →
      (memberLeaves members).Pairwise fun left right => Precedes (.object all) left.1 right.1
  | [], _, _, _ => .nil
  | (name, value) :: rest, ascending, ordered, stand => by
    obtain ⟨first, restAscending⟩ := List.pairwise_cons.1 ascending
    refine List.pairwise_append.2 ⟨?_, ?_, ?_⟩
    · refine List.pairwise_map.2 ((pairwise_leaves value ordered.1).imp fun earlier => ?_)
      exact .within (stand _ List.mem_cons_self) earlier
    · exact pairwise_memberLeaves all rest restAscending ordered.2 fun member here =>
        stand member (List.mem_cons_of_mem _ here)
    · intro left here right later
      obtain ⟨inner, -, rfl⟩ := List.mem_map.1 here
      obtain ⟨other, inRest, below, -, rfl⟩ := mem_memberLeaves.1 later
      exact .member (first other inRest)
end

end RealmConvergence.Json
