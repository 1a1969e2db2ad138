import RealmConvergence.Configuration.Document
import RealmConvergence.Configuration.UnusedKeys
import RealmConvergence.Proofs.Collection.Table
import RealmConvergence.Proofs.Json.Places

/-!
# Which keys are unused

The places that are read are given as pointers, and leaves are compared with them as texts. The
texts agree with the places: one pointer covers another exactly if its path leads there or above it
(`covers_ofPath_iff`), whatever slashes and tildes stand in the names, because an escaped token
holds no slash and ends at the next one.

So the list of unused keys is exact (`unusedKeys_exact`). It names the leaves below the root that no
place that is read leads to or above, each once and in byte order, and where unused keys are not
allowed the configuration is refused exactly if there is one.
-/

set_option autoImplicit false

namespace RealmConvergence.Configuration

open Json (Path)
open Json.Pointer (ofPath path? path?_ofPath)

variable {value : Json} {path upper : Path}

/-! ## Pointers and their places -/

/-- A pointer covers what it is, and what goes on after it with a slash. -/
theorem covers_iff {upper pointer : List Char} : covers upper pointer = true ↔
    pointer = upper ∨ ∃ below, pointer = upper ++ '/' :: below := by
  unfold covers
  rw [Bool.and_eq_true, List.isPrefixOf_iff_prefix]
  constructor
  · rintro ⟨⟨rest, rfl⟩, ends⟩
    rw [List.drop_left] at ends
    cases rest with
    | nil => exact .inl (List.append_nil _)
    | cons next below => exact .inr ⟨below, by rw [beq_iff_eq.1 ends]⟩
  · rintro (rfl | ⟨below, rfl⟩)
    · exact ⟨List.prefix_rfl, by rw [List.drop_length]⟩
    · exact ⟨List.prefix_append _ _, by rw [List.drop_left]; rfl⟩

/-- **Pointers cover each other as their places do**: exactly the places from the one on. -/
theorem covers_ofPath_iff :
    covers (ofPath upper).toList (ofPath path).toList = true ↔ upper <+: path := by
  rw [covers_iff]
  constructor
  · rintro (same | ⟨below, longer⟩)
    · cases Json.Pointer.ofPath_inj (String.toList_inj.1 same)
      exact List.prefix_rfl
    · obtain ⟨rest, leads⟩ :=
        Json.Pointer.path?_of_toList_eq (path?_ofPath upper) longer
      rw [path?_ofPath] at leads
      exact ⟨rest, (Option.some.inj leads).symm⟩
  · rintro ⟨rest, rfl⟩
    cases rest with
    | nil => exact .inl (by rw [List.append_nil])
    | cons token rest =>
        rw [Json.Pointer.toList_ofPath_append, Json.Pointer.toList_ofPath_cons]
        exact .inr ⟨_, rfl⟩

/-! ## Places that are read -/

/-- A place that is read leads here, or above. -/
def IsRead (path : Path) : Prop :=
  ∃ pointer ∈ consumedPointers, ∃ upper, path? pointer = some upper ∧ upper <+: path

/-- The pointers of places that are read are written in the one way that there is. -/
theorem ofPath_of_consumed {pointer : String} (consumed : pointer ∈ consumedPointers) :
    ∃ upper, path? pointer = some upper ∧ ofPath upper = pointer := by
  have all : ∀ pointer ∈ consumedPointers,
      (path? pointer).map ofPath = some pointer := by decide +kernel
  exact Option.map_eq_some_iff.1 (all pointer consumed)

/-- **The comparison of texts tells which places are read.** -/
theorem isConsumed_ofPath_iff : isConsumed (ofPath path) = true ↔ IsRead path := by
  unfold isConsumed IsRead
  rw [List.any_eq_true]
  refine exists_congr fun pointer => and_congr_right fun consumed => ?_
  obtain ⟨upper, leads, written⟩ := ofPath_of_consumed consumed
  rw [← written, covers_ofPath_iff, path?_ofPath]
  constructor
  · exact fun above => ⟨upper, rfl, above⟩
  · rintro ⟨other, same, above⟩
    rwa [Option.some.inj same]

/-! ## Leaves that are not read -/

/-- A leaf below the root that no place that is read leads to or above. -/
structure UnusedLeaf (value : Json) (path : Path) : Prop where
  /-- It is not the root. -/
  isInner : path ≠ []
  /-- Nothing is below it. -/
  isLeaf : ∃ leaf, value.at? path = some leaf ∧ leaf.isLeaf = true
  /-- It is not read. -/
  isUnread : ¬IsRead path

theorem mem_innerLeaves_iff (ordered : value.InOrder) {leaf : Json} :
    (path, leaf) ∈ value.innerLeaves ↔
      path ≠ [] ∧ value.at? path = some leaf ∧ leaf.isLeaf = true := by
  unfold Json.innerLeaves
  rw [List.mem_filter, Json.mem_leaves_iff ordered, decide_eq_true_iff, and_comm]

/-- **The pointers listed are those of the leaves that are not read.** -/
theorem mem_unusedPointers_iff (ordered : value.InOrder) {pointer : String} :
    pointer ∈ (unusedPointers value).toList ↔
      ∃ path, UnusedLeaf value path ∧ pointer = ofPath path := by
  unfold unusedPointers
  rw [NameSet.mem_toList_iff, NameSet.contains_ofList, List.contains_iff_mem, List.mem_filter,
    Json.leafPointers, List.mem_map]
  constructor
  · rintro ⟨⟨⟨path, leaf⟩, member, rfl⟩, unread⟩
    obtain ⟨isInner, found, isLeaf⟩ := (mem_innerLeaves_iff ordered).1 member
    refine ⟨path, ⟨isInner, ⟨leaf, found, isLeaf⟩, fun isRead => ?_⟩, rfl⟩
    rw [isConsumed_ofPath_iff.2 isRead] at unread
    cases unread
  · rintro ⟨path, ⟨isInner, ⟨leaf, found, isLeaf⟩, isUnread⟩, rfl⟩
    refine ⟨⟨(path, leaf), (mem_innerLeaves_iff ordered).2 ⟨isInner, found, isLeaf⟩, rfl⟩, ?_⟩
    rw [Bool.not_eq_true', Bool.eq_false_iff]
    exact fun consumed => isUnread (isConsumed_ofPath_iff.1 consumed)

/-- Where unused keys are not allowed, a configuration without any is accepted. -/
theorem unusedKeys_fail_of_nil (none : (unusedPointers value).toList = []) :
    unusedKeys value .fail = .ok [] := by
  unfold unusedKeys
  rw [none]
  rfl

/-- A configuration with unused keys is refused. -/
theorem unusedKeys_fail_of_ne_nil (some : (unusedPointers value).toList ≠ []) :
    unusedKeys value .fail = .error (.unusedKeys (unusedPointers value).toList) := by
  unfold unusedKeys
  exact if_pos ⟨rfl, by rwa [List.isEmpty_iff]⟩

/-- **A configuration is accepted if every leaf is read.** -/
theorem unusedKeys_fail_eq_ok_iff (ordered : value.InOrder) :
    unusedKeys value .fail = .ok [] ↔ ∀ path, ¬UnusedLeaf value path := by
  constructor
  · intro accepted path unused
    have listed := (mem_unusedPointers_iff ordered).2 ⟨path, unused, rfl⟩
    rw [unusedKeys_fail_of_ne_nil (List.ne_nil_of_mem listed)] at accepted
    cases accepted
  · intro none
    refine unusedKeys_fail_of_nil (List.eq_nil_iff_forall_not_mem.2 fun pointer listed => ?_)
    obtain ⟨path, unused, -⟩ := (mem_unusedPointers_iff ordered).1 listed
    exact none path unused

/-! ## Unknown sections -/

/-- Only below sections of the document is anything read. -/
theorem isSection_of_isRead {name : String} (isRead : IsRead (name :: path)) :
    (Document.shape.rule? name).isSome := by
  have sections : ∀ pointer ∈ consumedPointers, ((path? pointer).bind List.head?).any
      (fun name => (Document.shape.rule? name).isSome) = true := by decide +kernel
  obtain ⟨pointer, consumed, upper, leads, above⟩ := isRead
  have isSection := sections pointer consumed
  rw [leads, Option.bind_some] at isSection
  rcases List.prefix_cons_iff.1 above with rfl | ⟨rest, rfl, -⟩
  · cases isSection
  · exact isSection

/-- **What the document does not know is not read**, and has a leaf that says so. -/
theorem exists_unusedLeaf_of_unknown {members : List (String × Json)} {name : String} {inner : Json}
    (ordered : (Json.object members).InOrder) (member : (name, inner) ∈ members)
    (unknown : Document.shape.rule? name = none) :
    ∃ path, UnusedLeaf (.object members) (name :: path) := by
  have inside : (Json.object members).child? name = some inner := ordered.1.mem_iff.1 member
  obtain ⟨⟨path, leaf⟩, isBelow⟩ := List.exists_mem_of_ne_nil _ (Json.leaves_ne_nil inner)
  obtain ⟨found, isLeaf⟩ := (Json.mem_leaves_iff (ordered.child inside)).1 isBelow
  refine ⟨path, List.cons_ne_nil _ _, ⟨leaf, ?_, isLeaf⟩, fun isRead => ?_⟩
  · exact Option.bind_eq_some_iff.2 ⟨inner, inside, found⟩
  · have isSection := isSection_of_isRead isRead
    rw [unknown] at isSection
    cases isSection

/-! ## The report -/

/-- **Unused keys are reported exactly.** Where they are allowed, the pointers of all leaves below
the root that are not read are listed in byte order, each once, and of no others; places are
compared by their pointers, whatever stands in the names. Where they are not allowed, the
configuration is refused exactly if one is listed, and the error counts them all. A section that the
document does not know has at least one of them. -/
theorem unusedKeys_exact (ordered : value.InOrder) :
    ∃ listed : List String, unusedKeys value .warn = .ok listed ∧ listed.Pairwise (· < ·) ∧
      (∀ pointer, pointer ∈ listed ↔ ∃ path, UnusedLeaf value path ∧ pointer = ofPath path) ∧
      (∀ path, isConsumed (ofPath path) = true ↔ IsRead path) ∧
      (listed = [] → unusedKeys value .fail = .ok []) ∧
      (listed ≠ [] → ∃ problem, unusedKeys value .fail = .error problem ∧
        problem.chain = [s!"CONFIG_UNUSED_KEYS: {listed.length} unused config leaf key(s): " ++
          Text.quotedList (listed.take 12)]) ∧
      ∀ members name inner, value = .object members → (name, inner) ∈ members →
        Document.shape.rule? name = none → ∃ path, ofPath (name :: path) ∈ listed := by
  refine ⟨(unusedPointers value).toList, rfl, ?_, fun pointer => mem_unusedPointers_iff ordered,
    fun path => isConsumed_ofPath_iff, unusedKeys_fail_of_nil,
    fun some => ⟨_, unusedKeys_fail_of_ne_nil some, rfl⟩, ?_⟩
  · exact List.pairwise_map.2 (unusedPointers value).table.ascending
  · rintro members name inner rfl member unknown
    obtain ⟨path, unused⟩ := exists_unusedLeaf_of_unknown ordered member unknown
    exact ⟨path, (mem_unusedPointers_iff ordered).2 ⟨name :: path, unused, rfl⟩⟩

/-- A configuration with a setting that no run has, and with names that begin as a section does. -/
def strayDocument : Json :=
  .object [("bootstrap", .object [("force", .bool true), ("retries", .array [])]),
    ("realm", .object [("a~b", .null)]), ("realm/name", .string "school"), ("realm_", .object [])]

/-- What is below the realm is read whatever its name is, and a name that only begins with it is
not. -/
theorem unusedKeys_exact_stray :
    strayDocument.InOrder ∧
      unusedKeys strayDocument .warn =
        .ok ["/bootstrap/retries", "/realm_", "/realm~1name"] ∧
      (∃ path, UnusedLeaf strayDocument path ∧ "/realm~1name" = ofPath path) ∧
      (¬∃ path, UnusedLeaf strayDocument path ∧ "/realm/a~0b" = ofPath path) ∧
      ∃ problem, unusedKeys strayDocument .fail = .error problem ∧
        problem.chain = [s!"CONFIG_UNUSED_KEYS: {3} unused config leaf key(s): " ++
          Text.quotedList ["/bootstrap/retries", "/realm_", "/realm~1name"]] := by
  have inOrder : strayDocument.InOrder :=
    ⟨(List.pairwise_map (f := Prod.fst)).1 (by decide),
      ⟨List.pairwise_pair.2 (by decide), trivial, trivial, trivial⟩,
      ⟨List.pairwise_singleton _ _, trivial, trivial⟩, trivial, ⟨List.Pairwise.nil, trivial⟩,
      trivial⟩
  obtain ⟨listed, warned, -, exact, -, -, refused, -⟩ := unusedKeys_exact inOrder
  have known : (unusedKeys strayDocument .warn).toOption =
      some ["/bootstrap/retries", "/realm_", "/realm~1name"] := by decide +kernel
  rw [warned] at known
  obtain rfl := Option.some.inj known
  refine ⟨inOrder, warned, (exact _).1 (by simp), fun read => ?_, refused (List.cons_ne_nil _ _)⟩
  exact absurd ((exact _).2 read) (by decide)

end RealmConvergence.Configuration
