import RealmConvergence.Proofs.Json.Places

/-!
# The pointers of leaves

The leaves of a value below the root are listed by their pointers. The pointers are those of all
leaves in the order of the document, no two are the same, and each leads back to its leaf
(`leafPointers_lead_back`).

Two other readings of the definitions are proved equal to them. The pointers are what a walk through
the value collects that carries the text of the way so far and adds to it (`pointersAfter_empty`),
where the position of an item is added as it is, because digits need no escape. An escaped token is
written by replacing tildes first and slashes after them, and read by replacing in the opposite
order (`escape_eq_replaceEach`, `path?_of_rooted`); in no other order would a token such as `~1`
come back.
-/

set_option autoImplicit false

namespace RealmConvergence.Json

/-! ## Escapes as replacements -/

namespace Pointer

/-- A character is replaced with a text wherever it stands. -/
def replaceEach (character : Char) (replacement token : List Char) : List Char :=
  token.flatMap fun other => if other = character then replacement else [other]

/-- Tildes are escaped first, and slashes after them. -/
theorem escape_eq_replaceEach (token : List Char) :
    escape token = replaceEach '/' ['~', '1'] (replaceEach '~' ['~', '0'] token) := by
  unfold replaceEach
  induction token with
  | nil => rfl
  | cons head rest ih =>
      by_cases isTilde : head = '~'
      · subst isTilde
        simp [escape, ih]
      · by_cases isSlash : head = '/'
        · subst isSlash
          simp [escape, ih]
        · simp [escape, isTilde, isSlash, ih]

/-- From left to right, a tilde and the mark that follows it are replaced with one character. -/
def replaceMarked (mark replacement : Char) : List Char → List Char
  | [] => []
  | [last] => [last]
  | first :: next :: rest =>
    if first = '~' ∧ next = mark then replacement :: replaceMarked mark replacement rest
    else first :: replaceMarked mark replacement (next :: rest)

theorem replaceMarked_marked (mark replacement : Char) (rest : List Char) :
    replaceMarked mark replacement ('~' :: mark :: rest) =
      replacement :: replaceMarked mark replacement rest := by
  rw [replaceMarked, if_pos ⟨rfl, rfl⟩]

theorem replaceMarked_cons_of_ne {mark replacement character : Char} (notTilde : character ≠ '~')
    (rest : List Char) : replaceMarked mark replacement (character :: rest) =
      character :: replaceMarked mark replacement rest := by
  cases rest with
  | nil => rfl
  | cons next rest => rw [replaceMarked, if_neg fun marked => notTilde marked.1]

/-- A tilde stays where its mark does not follow. -/
theorem replaceMarked_unmarked {mark replacement : Char} {rest : List Char}
    (unmarked : rest.head? ≠ some mark) :
    replaceMarked mark replacement ('~' :: rest) = '~' :: replaceMarked mark replacement rest := by
  cases rest with
  | nil => rfl
  | cons next rest => rw [replaceMarked, if_neg fun marked => unmarked (congrArg some marked.2)]

/-- What stands first afterwards stood there before, or is the replacement. -/
theorem head?_replaceMarked {mark replacement first : Char} {token : List Char}
    (isFirst : (replaceMarked mark replacement token).head? = some first) :
    token.head? = some first ∨ first = replacement := by
  unfold replaceMarked at isFirst
  split at isFirst
  · cases isFirst
  · exact .inl isFirst
  · split at isFirst
    · exact .inr (Option.some.inj isFirst).symm
    · exact .inl isFirst

/-- **Slashes are read back first, and tildes after them.** -/
theorem unescape_eq_replaceMarked (token : List Char) :
    unescape token = replaceMarked '0' '~' (replaceMarked '1' '/' token) := by
  fun_induction unescape token with
  | case1 => rfl
  | case2 rest ih =>
      have unmarked : ('0' :: rest).head? ≠ some '1' := by simp
      have plain : '0' ≠ '~' := by decide
      rw [replaceMarked_unmarked unmarked, replaceMarked_cons_of_ne plain, replaceMarked_marked, ih]
  | case3 rest ih =>
      have plain : '/' ≠ '~' := by decide
      rw [replaceMarked_marked, replaceMarked_cons_of_ne plain, ih]
  | case4 character rest noZero noOne ih =>
      by_cases isTilde : character = '~'
      · subst isTilde
        have notZero : rest.head? ≠ some '0' := fun isZero => by
          obtain ⟨others, rfl⟩ := List.head?_eq_some_iff.1 isZero
          exact noZero others rfl rfl
        have notOne : rest.head? ≠ some '1' := fun isOne => by
          obtain ⟨others, rfl⟩ := List.head?_eq_some_iff.1 isOne
          exact noOne others rfl rfl
        -- a slash that is read back comes between a tilde and whatever follows, and is no mark
        have stillNotZero : (replaceMarked '1' '/' rest).head? ≠ some '0' := fun isZero =>
          (head?_replaceMarked isZero).elim notZero (by decide)
        rw [replaceMarked_unmarked notOne, replaceMarked_unmarked stillNotZero, ih]
      · rw [replaceMarked_cons_of_ne isTilde, replaceMarked_cons_of_ne isTilde, ih]

/-- **Reading a pointer**: what stands between the slashes after the first one, with the escapes
replaced. -/
theorem path?_of_rooted {pointer : String} {rest : List Char}
    (rooted : pointer.toList = '/' :: rest) :
    path? pointer = some ((Text.partsBetween (· == '/') rest).map fun token =>
      String.ofList (replaceMarked '0' '~' (replaceMarked '1' '/' token))) := by
  unfold path?
  rw [rooted]
  simp only [unescape_eq_replaceMarked]

/-! ## Texts of paths -/

theorem escape_of_plain {token : List Char}
    (plain : ∀ character ∈ token, character ≠ '~' ∧ character ≠ '/') : escape token = token := by
  induction token with
  | nil => rfl
  | cons head rest ih =>
      obtain ⟨⟨noTilde, noSlash⟩, plainRest⟩ := List.forall_mem_cons.1 plain
      rw [escape, ih plainRest] <;> assumption

/-- A position needs no escape. -/
theorem escape_toString (position : Nat) :
    escape (toString position).toList = (toString position).toList := by
  refine escape_of_plain fun character member => ?_
  rw [Nat.toString_eq_repr, Nat.toList_repr] at member
  have isDigit : character.isDigit = true :=
    Nat.isDigit_of_mem_toDigits (by decide) (by decide) member
  constructor <;> rintro rfl <;> exact absurd isDigit (by decide)

theorem tokenText_eq (token : String) :
    tokenText token = "/" ++ String.ofList (escape token.toList) := by
  rw [tokenText, String.ofList_cons]
  rfl

theorem ofPath_append_singleton (path : Path) (token : String) :
    ofPath (path ++ [token]) = ofPath path ++ "/" ++ String.ofList (escape token.toList) := by
  rw [String.append_assoc, ← tokenText_eq, ofPath, List.map_append, String.join_append]
  simp [ofPath, String.join_cons]

theorem ofPath_isEmpty {path : Path} (inside : path ≠ []) : ¬(ofPath path).isEmpty = true := by
  obtain ⟨token, rest, rfl⟩ := List.exists_cons_of_ne_nil inside
  rw [String.isEmpty_iff, ← String.toList_inj, toList_ofPath_cons]
  exact List.cons_ne_nil _ _

end Pointer

open Pointer (ofPath ofPath_append_singleton ofPath_isEmpty escape escape_toString replaceEach
  replaceMarked)

/-! ## One walk with a growing text -/

mutual
/-- The pointers of leaves that a walk collects below a value that it came to on the way written in
front. At the root there is no way in front, and a leaf is not listed. -/
def pointersAfter (front : String) : Json → List String
  | .array (item :: rest) => itemPointersAfter front 0 (item :: rest)
  | .object (first :: rest) => memberPointersAfter front (first :: rest)
  | _ => if front.isEmpty then [] else [front]

/-- The pointers collected below items, the first of which stands at a position. -/
def itemPointersAfter (front : String) (position : Nat) : List Json → List String
  | [] => []
  | item :: rest =>
    pointersAfter (front ++ "/" ++ toString position) item ++
      itemPointersAfter front (position + 1) rest

/-- The pointers collected below members. -/
def memberPointersAfter (front : String) : List (String × Json) → List String
  | [] => []
  | (name, value) :: rest =>
    pointersAfter (front ++ "/" ++ String.ofList (escape name.toList)) value ++
      memberPointersAfter front rest
end

theorem pointersAfter_of_isLeaf {value : Json} {front : String} (isLeaf : value.isLeaf = true) :
    pointersAfter front value = if front.isEmpty then [] else [front] := by
  cases value with
  | array items =>
      cases items with
      | nil => rfl
      | cons item rest => cases isLeaf
  | object members =>
      cases members with
      | nil => rfl
      | cons member rest => cases isLeaf
  | _ => rfl

mutual
/-- Below a value that is not the root, the walk collects the pointers of all leaves. -/
theorem pointersAfter_ofPath : ∀ (value : Json) {path : Path}, path ≠ [] →
    pointersAfter (ofPath path) value = value.leaves.map fun leaf => ofPath (path ++ leaf.1)
  | .array (item :: rest), path, _ => itemPointersAfter_ofPath (item :: rest) 0 path
  | .object (first :: rest), path, _ => memberPointersAfter_ofPath (first :: rest) path
  | .array [], _, inside | .object [], _, inside | .null, _, inside | .bool _, _, inside
  | .number _, _, inside | .string _, _, inside => by
    rw [pointersAfter_of_isLeaf rfl, if_neg (ofPath_isEmpty inside), leaves_of_isLeaf rfl,
      List.map_singleton, List.append_nil]

theorem itemPointersAfter_ofPath : ∀ (items : List Json) (position : Nat) (path : Path),
    itemPointersAfter (ofPath path) position items =
      (itemLeaves position items).map fun leaf => ofPath (path ++ leaf.1)
  | [], _, _ => rfl
  | item :: rest, position, path => by
    have here := pointersAfter_ofPath item (List.concat_ne_nil (toString position) path)
    rw [ofPath_append_singleton, escape_toString, String.ofList_toList] at here
    rw [itemPointersAfter, itemLeaves, List.map_append, here,
      itemPointersAfter_ofPath rest (position + 1) path, List.map_map]
    simp only [Function.comp_def, List.append_assoc, List.singleton_append]

theorem memberPointersAfter_ofPath : ∀ (members : List (String × Json)) (path : Path),
    memberPointersAfter (ofPath path) members =
      (memberLeaves members).map fun leaf => ofPath (path ++ leaf.1)
  | [], _ => rfl
  | (name, value) :: rest, path => by
    have here := pointersAfter_ofPath value (List.concat_ne_nil name path)
    rw [ofPath_append_singleton] at here
    rw [memberPointersAfter, memberLeaves, List.map_append, here,
      memberPointersAfter_ofPath rest path, List.map_map]
    simp only [Function.comp_def, List.append_assoc, List.singleton_append]
end

variable {value : Json}

/-- Every leaf of a value with something below it is below the root. -/
theorem innerLeaves_of_isInner (isInner : value.isLeaf = false) :
    value.innerLeaves = value.leaves :=
  List.filter_eq_self.2 fun _ member => by simpa using ne_nil_of_mem_leaves isInner member

/-- **The pointers listed are those that one walk collects**, starting with no text. -/
theorem pointersAfter_empty (value : Json) : pointersAfter "" value = value.leafPointers := by
  cases isLeaf : value.isLeaf with
  | true =>
      rw [pointersAfter_of_isLeaf isLeaf, leafPointers, innerLeaves, leaves_of_isLeaf isLeaf]
      rfl
  | false =>
      rw [leafPointers, innerLeaves_of_isInner isLeaf]
      cases value with
      | array items =>
          cases items with
          | nil => cases isLeaf
          | cons item rest => exact itemPointersAfter_ofPath (item :: rest) 0 []
      | object members =>
          cases members with
          | nil => cases isLeaf
          | cons member rest => exact memberPointersAfter_ofPath (member :: rest) []
      | _ => cases isLeaf

/-! ## Leaves and their pointers -/

/-- These are the leaves of a value with their places, in the order of the document. -/
structure ListsLeaves (value : Json) (listed : List (Path × Json)) : Prop where
  /-- Listed are the places with nothing below them, and what stands there. -/
  mem_iff : ∀ path leaf, (path, leaf) ∈ listed ↔ value.at? path = some leaf ∧ leaf.isLeaf = true
  /-- They are listed as they come. -/
  inOrder : listed.Pairwise fun left right => Precedes value left.1 right.1

/-- No place is listed twice. -/
theorem ListsLeaves.ne {listed : List (Path × Json)} (lists : ListsLeaves value listed) :
    listed.Pairwise fun left right => left.1 ≠ right.1 := by
  refine lists.inOrder.imp fun earlier same => ?_
  rw [same] at earlier
  exact earlier.asymm earlier

theorem ListsLeaves.nodup {listed : List (Path × Json)} (lists : ListsLeaves value listed) :
    listed.Nodup :=
  lists.ne.imp fun different same => different (congrArg Prod.fst same)

/-- The leaves are listed in one way. -/
theorem ListsLeaves.unique {listed others : List (Path × Json)} (lists : ListsLeaves value listed)
    (otherLists : ListsLeaves value others) : listed = others := by
  have sameLeaves : listed.Perm others :=
    (List.perm_ext_iff_of_nodup lists.nodup otherLists.nodup).2 fun (path, leaf) =>
      (lists.mem_iff path leaf).trans (otherLists.mem_iff path leaf).symm
  exact sameLeaves.eq_of_pairwise (fun _ _ _ _ earlier later => absurd later earlier.asymm)
    lists.inOrder otherLists.inOrder

theorem listsLeaves_leaves (ordered : value.InOrder) : ListsLeaves value value.leaves where
  mem_iff _ _ := mem_leaves_iff ordered
  inOrder := pairwise_leaves value ordered

/-- **The pointers of leaves lead back to them.** Below an array or an object that is not empty the
leaves stand in one order, that of the document. Each of them has one pointer in the list, in this
order, and no pointer is listed twice. What is read at the pointers is the leaves, one after the
other. A token is escaped by replacing tildes first and slashes after them, and a pointer is read by
parting it at the slashes and replacing in the opposite order. -/
theorem leafPointers_lead_back (ordered : value.InOrder) (isInner : value.isLeaf = false) :
    (∀ listed, ListsLeaves value listed ↔ listed = value.leaves) ∧
    pointersAfter "" value = value.leafPointers ∧
    value.leafPointers = value.leaves.map (fun leaf => ofPath leaf.1) ∧
    value.leafPointers.Nodup ∧
    value.leafPointers.map value.atPointer? = value.leaves.map (fun leaf => some leaf.2) ∧
    (∀ token, escape token = replaceEach '/' ['~', '1'] (replaceEach '~' ['~', '0'] token)) ∧
    ∀ pointer ∈ value.leafPointers, ∃ rest, pointer.toList = '/' :: rest ∧
      value.atPointer? pointer = value.at? ((Text.partsBetween (· == '/') rest).map fun token =>
        String.ofList (replaceMarked '0' '~' (replaceMarked '1' '/' token))) := by
  have lists := listsLeaves_leaves ordered
  have pointers : value.leafPointers = value.leaves.map fun leaf => ofPath leaf.1 := by
    rw [leafPointers, innerLeaves_of_isInner isInner]
  refine ⟨fun listed => ⟨fun other => other.unique lists, fun same => same ▸ lists⟩,
    pointersAfter_empty value, pointers, ?_, ?_, Pointer.escape_eq_replaceEach, ?_⟩
  · rw [pointers]
    refine List.pairwise_map.2 (lists.ne.imp fun different same => ?_)
    exact different (Pointer.ofPath_inj same)
  · rw [pointers, List.map_map]
    refine List.map_congr_left fun leaf member => ?_
    have there := ((lists.mem_iff leaf.1 leaf.2).1 member).1
    rw [Function.comp_apply, atPointer?_ofPath, there]
  · intro pointer member
    rw [pointers] at member
    obtain ⟨leaf, isLeaf, rfl⟩ := List.mem_map.1 member
    obtain ⟨token, others, isPath⟩ :=
      List.exists_cons_of_ne_nil (ne_nil_of_mem_leaves isInner isLeaf)
    rw [isPath]
    have rooted := Pointer.toList_ofPath_cons token others
    exact ⟨_, rooted, congrArg (·.bind value.at?) (Pointer.path?_of_rooted rooted)⟩

/-- A document with names that are empty or look like escapes. -/
def escapedDocument : Json :=
  .object [("", .null), ("a/b", .array [.bool true, .object []]),
    ("~1", .object [("~01", .string "slash")])]

/-- Each name comes back as it was written. -/
theorem leafPointers_lead_back_escaped :
    escapedDocument.InOrder ∧ escapedDocument.isLeaf = false ∧
      escapedDocument.leafPointers = ["/", "/a~1b/0", "/a~1b/1", "/~01/~001"] ∧
      ["/", "/a~1b/0", "/a~1b/1", "/~01/~001"].map escapedDocument.atPointer? =
        [some .null, some (.bool true), some (.object []), some (.string "slash")] := by
  have ordered : escapedDocument.InOrder :=
    ⟨(List.pairwise_map (f := Prod.fst)).1 (by decide), trivial,
      ⟨trivial, ⟨List.Pairwise.nil, trivial⟩, trivial⟩,
      ⟨List.pairwise_singleton _ _, trivial, trivial⟩, trivial⟩
  obtain ⟨-, -, pointers, -, leadBack, -⟩ := leafPointers_lead_back ordered rfl
  have listed : escapedDocument.leafPointers = ["/", "/a~1b/0", "/a~1b/1", "/~01/~001"] :=
    pointers.trans (by decide +kernel)
  exact ⟨ordered, rfl, listed, listed ▸ leadBack⟩

end RealmConvergence.Json
