import Mathlib.Data.List.Forall2
import RealmConvergence.Http.Url
import RealmConvergence.Proofs.Outcome
import RealmConvergence.Proofs.Text.Parts
import RealmConvergence.Text.Bytes

/-!
# Segments of an address

The segments of an address are what stands between the slashes of its path as it is written
(`Url.pathSegments`). An address that is read from a text has at least one segment, and its path
consists of its segments (`segments_of_parse`).

A segment stands for a name if it decodes to the name and nothing reads it in another way
(`StandsFor`). The segment that is added for a name stands for it exactly if the name is plain
(`standsFor_addedSegment_iff`). What is added for other names may be dropped, or undo what was added
before. A name adds a segment of its own at most, and if every name of a list does, all that was
added are the segments of the names in turn (`countP_foldl_addSegment`).
-/

set_option autoImplicit false

namespace RealmConvergence.Http

/-! ## Encoded texts -/

namespace Percent

variable {mayStand : Char → Bool} {text : List Char} {character : Char}

/-- The two digits of a byte are letters or digits. -/
theorem isAlphanum_digit {value : Nat} (small : value < 16) : (digit value).isAlphanum = true := by
  have all : ∀ other : Fin 16, (digit other.val).isAlphanum = true := by decide
  exact all ⟨value, small⟩

/-- What stands in an encoded byte. -/
theorem mem_encodeByte {byte : UInt8} (member : character ∈ encodeByte byte) :
    character = '%' ∨ character.isAlphanum = true := by
  have bound : byte.toNat < 256 := UInt8.toNat_lt byte
  have high : byte.toNat / 16 < 16 := by omega
  have low : byte.toNat % 16 < 16 := by omega
  simp only [encodeByte, List.mem_cons, List.not_mem_nil, or_false] at member
  rcases member with rfl | rfl | rfl
  · exact .inl rfl
  · exact .inr (isAlphanum_digit high)
  · exact .inr (isAlphanum_digit low)

/-- What stands in an encoded text stood in the text and may stand, or writes a byte. -/
theorem mem_encode (member : character ∈ encode mayStand text) :
    (character ∈ text ∧ mayStand character = true) ∨ character = '%' ∨
      character.isAlphanum = true := by
  obtain ⟨original, inText, member⟩ := List.mem_flatMap.1 member
  unfold encodeChar at member
  split at member
  · next stands =>
    cases List.mem_singleton.1 member
    exact .inl ⟨inText, stands⟩
  · obtain ⟨byte, -, inByte⟩ := List.mem_flatMap.1 member
    exact .inr (mem_encodeByte inByte)

/-- A character is encoded as itself, or as more than one character with a percent sign first. -/
theorem encodeChar_cases (mayStand : Char → Bool) (character : Char) :
    (mayStand character = true ∧ encodeChar mayStand character = [character]) ∨
      (mayStand character = false ∧ ∃ high low rest,
        encodeChar mayStand character = '%' :: high :: low :: rest) := by
  unfold encodeChar
  split
  · next stands => exact .inl ⟨stands, rfl⟩
  · next excluded =>
    refine .inr ⟨Bool.eq_false_iff.2 excluded, ?_⟩
    obtain ⟨byte, others, bytes⟩ := List.exists_cons_of_ne_nil
      (List.ne_nil_of_length_pos (String.length_utf8EncodeChar character ▸ character.utf8Size_pos))
    rw [bytes, List.flatMap_cons]
    exact ⟨_, _, _, rfl⟩

/-- **An encoded text is no shorter**, and it is longer unless every character may stand. -/
theorem length_encode (mayStand : Char → Bool) (text : List Char) :
    text.length ≤ (encode mayStand text).length ∧
      ((encode mayStand text).length = text.length →
        ∀ character ∈ text, mayStand character = true) := by
  induction text with
  | nil => exact ⟨Nat.le_refl _, fun _ _ never => nomatch never⟩
  | cons first rest ih =>
      rw [encode, List.flatMap_cons, List.length_append, List.length_cons, List.forall_mem_cons]
      have longer : rest.length ≤ (rest.flatMap (encodeChar mayStand)).length := ih.1
      rcases encodeChar_cases mayStand first with ⟨stands, same⟩ | ⟨-, high, low, more, same⟩
      · rw [same, List.length_singleton]
        exact ⟨by omega, fun sum => ⟨stands, ih.2 (by unfold encode; omega)⟩⟩
      · rw [same, List.length_cons, List.length_cons, List.length_cons]
        exact ⟨by omega, fun sum => by omega⟩

theorem encode_eq_self_iff :
    encode mayStand text = text ↔ ∀ character ∈ text, mayStand character = true := by
  constructor
  · exact fun same => (length_encode mayStand text).2 (congrArg List.length same)
  · intro stand
    induction text with
    | nil => rfl
    | cons first rest ih =>
        obtain ⟨here, others⟩ := List.forall_mem_cons.1 stand
        rw [encode, List.flatMap_cons, encodeChar, if_pos here, List.singleton_append]
        exact congrArg _ (ih others)

end Percent

/-- The bytes of a text write the text. -/
theorem ofBytes?_flatMap (text : List Char) :
    Text.ofBytes? (text.flatMap String.utf8EncodeChar) = some (String.ofList text) := by
  have bytes : (⟨(text.flatMap String.utf8EncodeChar).toArray⟩ : ByteArray) = text.utf8Encode :=
    ByteArray.ext List.data_toByteArray.symm
  rw [Text.ofBytes?, bytes, String.fromUTF8?, dif_pos ByteArray.isValidUTF8_utf8Encode]
  exact congrArg some (String.toByteArray_inj.1 String.toByteArray_ofList.symm)

/-- Texts are told by what is encoded of them, if percent signs are encoded. -/
theorem Percent.encode_injective {mayStand : Char → Bool} (percent : mayStand '%' = false) :
    Function.Injective (encode mayStand) := by
  intro first second same
  have bytes := congrArg (fun text => Text.ofBytes? (decode text)) same
  simp only [decode_encode percent, ofBytes?_flatMap] at bytes
  exact String.ofList_injective (Option.some.inj bytes)

/-- A small letter comes from itself or from its capital. -/
theorem eq_of_toLower {character small : Char} (same : character.toLower = small) :
    character = small ∨
      (character.toNat + 32 = small.toNat ∧ 65 ≤ character.toNat ∧ character.toNat ≤ 90) := by
  unfold Char.toLower at same
  split at same
  · next isCapital =>
    obtain ⟨least, greatest⟩ := isCapital
    have low : 65 ≤ character.toNat := least
    have high : character.toNat ≤ 90 := greatest
    refine .inr ⟨?_, low, high⟩
    rw [← same]
    show character.toNat + 32 = (character.val + 32).toNat
    rw [UInt32.toNat_add, Nat.mod_eq_of_lt]
    · rfl
    · exact Nat.lt_of_le_of_lt (Nat.add_le_add_right high 32) (by decide)
  · exact .inl same

/-- A character that is no letter comes from itself. -/
theorem eq_of_toLower_of_lt {character small : Char} (same : character.toLower = small)
    (low : small.toNat < 97) : character = small := by
  rcases eq_of_toLower same with plain | ⟨sum, least, -⟩
  · exact plain
  · omega

namespace Url

/-- The segments of an address: what stands between the slashes of its path as it is written. -/
def pathSegments (url : Url) : List String :=
  ((Text.partsBetween (· == '/') url.pathText.toList).drop 1).map String.ofList

/-- No slash stands in a segment. -/
def Whole (segment : String) : Prop := ∀ character ∈ segment.toList, (character == '/') = false

theorem toList_pathText {url : Url} {path : List String} (isPath : url.path = .segments path) :
    url.pathText.toList = path.flatMap fun segment => '/' :: segment.toList := by
  simp [pathText, UrlPath.text, isPath, String.toList_join, List.flatMap_map]

/-- Segments without a slash are the segments of their path. -/
theorem pathSegments_of_whole {url : Url} {path : List String} (isPath : url.path = .segments path)
    (whole : ∀ segment ∈ path, Whole segment) : url.pathSegments = path := by
  have found : Text.partsBetween (· == '/') ((path.map String.toList).flatMap ('/' :: ·)) =
      [] :: path.map String.toList :=
    @Text.partsBetween_flatMap (· == '/') '/' (beq_self_eq_true '/') _ (List.forall_mem_map.2 whole)
  rw [List.flatMap_map] at found
  rw [pathSegments, toList_pathText isPath, found, List.drop_one, List.tail_cons, List.map_map]
  simp only [Function.comp_def, String.ofList_toList, List.map_id']

/-! ## Paths that are read -/

variable {scheme : String} {held : List String}

theorem Whole.nil : Whole "" := fun _ member => nomatch member

/-- What is written for a part without a slash has no slash. -/
theorem whole_writtenAfter (noFile : scheme ≠ "file") {part : List Char}
    (whole : ∀ character ∈ part, (character == '/') = false) :
    Whole (writtenAfter scheme held part) := by
  intro character member
  rw [writtenAfter, if_neg fun isDrive => noFile isDrive.1, String.toList_ofList] at member
  rcases Percent.mem_encode member with ⟨inPart, -⟩ | rfl | isAlphanum
  · exact whole character inPart
  · rfl
  · refine beq_eq_false_iff_ne.2 ?_
    rintro rfl
    cases isAlphanum

theorem mem_parent {path : List String} {segment : String} (member : segment ∈ parent path) :
    segment ∈ path := by
  unfold parent at member
  split at member
  · exact member
  · exact List.dropLast_subset path member

/-- What a part makes of the segments before it: each segment was there, or is empty, or is what is
written for the part; and after the last part there is a segment. -/
theorem resolve_cons (scheme : String) (held : List String) (part : List Char)
    (rest : List (List Char)) :
    ∃ next, resolve scheme held (part :: rest) = resolve scheme next rest ∧
      (∀ segment ∈ next,
        segment ∈ held ∨ segment = "" ∨ segment = writtenAfter scheme held part) ∧
      (rest = [] → next ≠ []) := by
  have opened (path : List String) (inHeld : ∀ segment ∈ path, segment ∈ held) :
      (∀ segment ∈ if rest.isEmpty then path ++ [""] else path,
        segment ∈ held ∨ segment = "" ∨ segment = writtenAfter scheme held part) ∧
      (rest = [] → (if rest.isEmpty then path ++ [""] else path) ≠ []) := by
    constructor
    · intro segment member
      split at member
      · rcases List.mem_append.1 member with early | last
        · exact .inl (inHeld segment early)
        · exact .inr (.inl (List.mem_singleton.1 last))
      · exact .inl (inHeld segment member)
    · rintro rfl
      exact List.append_ne_nil_of_right_ne_nil _ (List.cons_ne_nil _ _)
  refine ⟨_, rfl, ?_⟩
  dsimp only
  split
  · exact opened (parent held) fun _ => mem_parent
  · split
    · exact opened held fun _ => id
    · refine ⟨fun segment member => ?_, fun _ =>
        List.append_ne_nil_of_right_ne_nil _ (List.cons_ne_nil _ _)⟩
      rcases List.mem_append.1 member with early | last
      · exact .inl early
      · exact .inr (.inr (List.mem_singleton.1 last))

/-- **Resolving parts without slashes** gives segments without slashes, and at least one. -/
theorem resolve_whole (noFile : scheme ≠ "file") (parts : List (List Char))
    (whole : ∀ part ∈ parts, ∀ character ∈ part, (character == '/') = false)
    (heldWhole : ∀ segment ∈ held, Whole segment) :
    (∀ segment ∈ resolve scheme held parts, Whole segment) ∧
      (parts ≠ [] → resolve scheme held parts ≠ []) := by
  induction parts generalizing held with
  | nil => exact ⟨heldWhole, fun some => absurd rfl some⟩
  | cons part rest ih =>
      obtain ⟨partWhole, restWhole⟩ := List.forall_mem_cons.1 whole
      obtain ⟨next, same, each, some⟩ := resolve_cons scheme held part rest
      have nextWhole : ∀ segment ∈ next, Whole segment := by
        intro segment member
        rcases each segment member with early | rfl | rfl
        · exact heldWhole segment early
        · exact .nil
        · exact whole_writtenAfter noFile partWhole
      obtain ⟨allWhole, someLater⟩ := ih restWhole nextWhole
      rw [same]
      refine ⟨allWhole, fun _ => ?_⟩
      by_cases isLast : rest = []
      · subst isLast
        exact some rfl
      · exact someLater isLast

/-- The segments that are read from a text have no slash, and there is one. -/
theorem readSegments_whole (noFile : scheme ≠ "file") (text : List Char) :
    readSegments scheme text ≠ [] ∧ ∀ segment ∈ readSegments scheme text, Whole segment := by
  obtain ⟨some, each⟩ := @Text.partsBetween_whole (endsSegment (isSpecial scheme)) text
  have whole : ∀ part ∈ Text.partsBetween (endsSegment (isSpecial scheme)) text,
      ∀ character ∈ part, (character == '/') = false := by
    intro part member character inPart
    have inside := (each part member character inPart).2
    rw [endsSegment, Bool.or_eq_false_iff] at inside
    exact inside.1
  have none : ∀ segment ∈ ([] : List String), Whole segment := fun _ member => nomatch member
  obtain ⟨allWhole, someRead⟩ := resolve_whole noFile _ whole none
  exact ⟨someRead some, allWhole⟩

/-! ## Addresses of the web -/

theorem isSpecial_of_isWeb (web : isWeb scheme = true) : isSpecial scheme = true := by
  rcases Bool.or_eq_true_iff.1 web with isHttp | isHttps
  · rw [beq_iff_eq.1 isHttp]
    rfl
  · rw [beq_iff_eq.1 isHttps]
    rfl

theorem ne_file_of_isWeb (web : isWeb scheme = true) : scheme ≠ "file" := by
  rintro rfl
  exact absurd web (by decide)

theorem schemePath_of_isWeb (web : isWeb scheme = true) (path : List String) :
    schemePath scheme path = path := by
  rw [schemePath, if_neg fun isFile => ne_file_of_isWeb web (beq_iff_eq.1 isFile)]

/-- What follows the host of an address of the web is read as segments. -/
theorem path_of_readHierarchy (web : isWeb scheme = true) {text : List Char} {followed : Bool}
    {authority : Option Authority} {path : UrlPath}
    (isRead : readHierarchy scheme text followed = .ok (authority, path)) :
    ∃ segments, path = .segments segments ∧ segments ≠ [] ∧
      ∀ segment ∈ segments, Whole segment := by
  have special := isSpecial_of_isWeb web
  unfold readHierarchy at isRead
  dsimp only at isRead
  rw [if_pos special] at isRead
  obtain ⟨host, -, built⟩ := bind_eq_ok_iff.1 isRead
  cases built
  refine ⟨_, rfl, ?_⟩
  unfold readPath
  dsimp only
  rw [special, Bool.not_true, Bool.and_false, if_neg Bool.false_ne_true, schemePath_of_isWeb web]
  exact readSegments_whole (ne_file_of_isWeb web) _

/-- **An address that is read consists of segments**, at least one, and they are the segments of its
path as it is written. -/
theorem segments_of_parse {text : String} {base : Url} (parsed : parse text = .ok base)
    (web : isWeb base.scheme = true) :
    base.path = .segments base.pathSegments ∧ base.pathSegments ≠ [] ∧
      ∀ segment ∈ base.pathSegments, Whole segment := by
  obtain ⟨path, isPath, some, whole⟩ : ∃ path, base.path = .segments path ∧ path ≠ [] ∧
      ∀ segment ∈ path, Whole segment := by
    unfold parse at parsed
    obtain ⟨⟨scheme, rest⟩, -, parsed⟩ := bind_eq_ok_iff.1 parsed
    dsimp only at parsed
    split at parsed
    · next isFile =>
      obtain ⟨⟨authority, path⟩, -, built⟩ := bind_eq_ok_iff.1 parsed
      cases built
      exact absurd (beq_iff_eq.1 isFile) (ne_file_of_isWeb web)
    · obtain ⟨⟨authority, path⟩, isRead, built⟩ := bind_eq_ok_iff.1 parsed
      cases built
      exact path_of_readHierarchy web isRead
  rw [pathSegments_of_whole isPath whole]
  exact ⟨isPath, some, whole⟩

/-! ## Names -/

/-- The name means no place of its own, and nothing in it is dropped. -/
def IsPlain (name : String) : Prop :=
  name ≠ "." ∧ name ≠ ".." ∧ ∀ character ∈ name.toList, isBreak character = false

instance (name : String) : Decidable (IsPlain name) :=
  decidable_of_iff (name ≠ "." ∧ name ≠ ".." ∧ name.toList.any isBreak = false) <| by
    simp only [IsPlain, List.any_eq_false, Bool.not_eq_true]

/-- The segment stands for the name, and for nothing else. -/
structure StandsFor (segment name : String) : Prop where
  /-- The segment decodes to the name. -/
  decodes : Text.ofBytes? (Percent.decode segment.toList) = some name
  /-- Nothing in the segment ends it or the path. -/
  whole : ∀ character ∈ segment.toList, character ∉ ['/', '\\', '?', '#']
  /-- The segment does not mean the place itself. -/
  isNoDot : isDot segment.toList = false
  /-- The segment does not mean the place above. -/
  isNoTwoDots : isTwoDots segment.toList = false

/-- A segment stands for one name only. -/
theorem StandsFor.unique {segment first second : String} (one : StandsFor segment first)
    (other : StandsFor segment second) : first = second :=
  Option.some.inj (one.decodes.symm.trans other.decodes)

/-- What is added for a name to an address of the web. -/
def addedSegment (name : String) : String := String.ofList (writtenSegment true name)

/-- A segment that is added decodes to its name without breaks. -/
theorem decode_writtenSegment (name : String) :
    Text.ofBytes? (Percent.decode (writtenSegment true name)) =
      some (String.ofList (name.toList.filter fun character => !isBreak character)) := by
  rw [writtenSegment, Percent.decode_encode (by decide), ofBytes?_flatMap]

/-- A character that is encoded and is no part of what is encoded is not in an added segment. -/
theorem not_mem_writtenSegment {name : String} {character : Char}
    (encoded : mayStandInSegment true character = false ∧ character ≠ '%' ∧
      character.isAlphanum = false) : character ∉ writtenSegment true name := by
  obtain ⟨noStanding, noSign, noAlphanum⟩ := encoded
  intro member
  rcases Percent.mem_encode member with ⟨-, stands⟩ | isSign | isAlphanum
  · exact Bool.eq_false_iff.1 noStanding stands
  · exact noSign isSign
  · exact Bool.eq_false_iff.1 noAlphanum isAlphanum

/-- Nothing in a segment that is added ends it or the path. -/
theorem whole_writtenSegment {name : String} {character : Char}
    (member : character ∈ writtenSegment true name) : character ∉ ['/', '\\', '?', '#'] := by
  have encoded : ∀ other ∈ ['/', '\\', '?', '#'], mayStandInSegment true other = false ∧
      other ≠ '%' ∧ other.isAlphanum = false := by
    simp only [List.forall_mem_cons, List.not_mem_nil, false_implies, implies_true]
    decide
  exact fun ends => not_mem_writtenSegment (encoded character ends) member

/-- A dot, as it may be written. -/
inductive WritesDot : List Char → Prop where
  /-- The dot itself. -/
  | plain : WritesDot ['.']
  /-- The dot encoded, with a small letter. -/
  | small : WritesDot ['%', '2', 'e']
  /-- The dot encoded, with a capital. -/
  | capital : WritesDot ['%', '2', 'E']

theorem writesDot_of_small_eq_dot {segment : List Char} (same : segment.map Char.toLower = ['.']) :
    WritesDot segment := by
  obtain ⟨character, rest, rfl, isDot, none⟩ := List.map_eq_cons_iff.1 same
  cases List.map_eq_nil_iff.1 none
  cases eq_of_toLower_of_lt isDot (by decide)
  exact .plain

theorem writesDot_of_small_eq_code {segment : List Char}
    (same : segment.map Char.toLower = ['%', '2', 'e']) : WritesDot segment := by
  obtain ⟨sign, rest, rfl, isSign, same⟩ := List.map_eq_cons_iff.1 same
  obtain ⟨high, rest, rfl, isHigh, same⟩ := List.map_eq_cons_iff.1 same
  obtain ⟨low, rest, rfl, isLow, none⟩ := List.map_eq_cons_iff.1 same
  cases List.map_eq_nil_iff.1 none
  cases eq_of_toLower_of_lt isSign (by decide)
  cases eq_of_toLower_of_lt isHigh (by decide)
  rcases eq_of_toLower isLow with rfl | ⟨sum, -, -⟩
  · exact .small
  · have isCapital : low = 'E' := Char.toNat_inj.1 (Nat.add_right_cancel sum)
    rw [isCapital]
    exact .capital

theorem writesDot_of_small {segment small : List Char} (same : segment.map Char.toLower = small)
    (dot : small = ['.'] ∨ small = ['%', '2', 'e']) : WritesDot segment := by
  rcases dot with rfl | rfl
  · exact writesDot_of_small_eq_dot same
  · exact writesDot_of_small_eq_code same

theorem writesDot_of_isDot {segment : List Char} (dot : isDot segment = true) :
    WritesDot segment := by
  simp only [isDot, Bool.or_eq_true, beq_iff_eq] at dot
  exact writesDot_of_small rfl dot

theorem writesDot_of_isTwoDots {segment : List Char} (dots : isTwoDots segment = true) :
    ∃ first second, segment = first ++ second ∧ WritesDot first ∧ WritesDot second := by
  -- the four ways to write two dots are those to write a dot twice
  have parts : ∃ one other, segment.map Char.toLower = one ++ other ∧
      (one = ['.'] ∨ one = ['%', '2', 'e']) ∧ (other = ['.'] ∨ other = ['%', '2', 'e']) := by
    simp only [isTwoDots, Bool.or_eq_true, beq_iff_eq] at dots
    rcases dots with ((same | same) | same) | same
    · exact ⟨['.'], ['.'], same, .inl rfl, .inl rfl⟩
    · exact ⟨['.'], ['%', '2', 'e'], same, .inl rfl, .inr rfl⟩
    · exact ⟨['%', '2', 'e'], ['.'], same, .inr rfl, .inl rfl⟩
    · exact ⟨['%', '2', 'e'], ['%', '2', 'e'], same, .inr rfl, .inr rfl⟩
  obtain ⟨one, other, same, isOne, isOther⟩ := parts
  obtain ⟨first, second, rfl, sameOne, sameOther⟩ := List.map_eq_append_iff.1 same
  exact ⟨first, second, rfl, writesDot_of_small sameOne isOne,
    writesDot_of_small sameOther isOther⟩

theorem decode_of_writesDot {segment : List Char} (dot : WritesDot segment) (rest : List Char) :
    Percent.decode (segment ++ rest) = String.utf8EncodeChar '.' ++ Percent.decode rest := by
  cases dot with
  | plain => exact Percent.decode_cons (by decide) rest
  | small => rfl
  | capital => rfl

/-- What means the place itself decodes to a dot. -/
theorem decode_of_isDot {segment : List Char} (dot : isDot segment = true) :
    Text.ofBytes? (Percent.decode segment) = some "." := by
  have bytes := decode_of_writesDot (writesDot_of_isDot dot) []
  rw [List.append_nil] at bytes
  rw [bytes]
  exact ofBytes?_flatMap ['.']

/-- What means the place above decodes to two dots. -/
theorem decode_of_isTwoDots {segment : List Char} (dots : isTwoDots segment = true) :
    Text.ofBytes? (Percent.decode segment) = some ".." := by
  obtain ⟨first, second, rfl, one, other⟩ := writesDot_of_isTwoDots dots
  have bytes := decode_of_writesDot other []
  rw [List.append_nil] at bytes
  rw [decode_of_writesDot one, bytes]
  exact ofBytes?_flatMap ['.', '.']

/-- **The segment that is added for a name stands for it exactly if the name is plain.** -/
theorem standsFor_addedSegment_iff {name : String} :
    StandsFor (addedSegment name) name ↔ IsPlain name := by
  constructor
  · intro stands
    refine ⟨?_, ?_, ?_⟩
    · rintro rfl
      exact absurd stands.isNoDot (by decide)
    · rintro rfl
      exact absurd stands.isNoTwoDots (by decide)
    · have kept := stands.decodes
      rw [addedSegment, String.toList_ofList, decode_writtenSegment] at kept
      have same := congrArg String.toList (Option.some.inj kept)
      rw [String.toList_ofList, List.filter_eq_self] at same
      intro character member
      simpa using same character member
  · rintro ⟨noDot, noTwoDots, unbroken⟩
    have kept : name.toList.filter (fun character => !isBreak character) = name.toList :=
      List.filter_eq_self.2 fun character member => by rw [unbroken character member]; rfl
    have decodes : Text.ofBytes? (Percent.decode (writtenSegment true name)) = some name := by
      rw [decode_writtenSegment, kept, String.ofList_toList]
    refine ⟨?_, ?_, ?_, ?_⟩ <;> rw [addedSegment, String.toList_ofList]
    · exact decodes
    · exact fun character => whole_writtenSegment
    · refine Bool.eq_false_iff.2 fun dot => noDot ?_
      exact Option.some.inj (decodes.symm.trans (decode_of_isDot dot))
    · refine Bool.eq_false_iff.2 fun dots => noTwoDots ?_
      exact Option.some.inj (decodes.symm.trans (decode_of_isTwoDots dots))

/-! ## Adding names -/

/-- The segments that further ones are put after. The path of a root alone has none. -/
def kept (path : List String) : List String := if path = [""] then [] else path

/-- How many segments of a path are not empty. -/
def filled (path : List String) : Nat := path.countP (· ≠ "")

@[simp] theorem filled_append (early late : List String) :
    filled (early ++ late) = filled early + filled late :=
  List.countP_append

@[simp] theorem filled_empty : filled [""] = 0 := rfl

@[simp] theorem filled_kept (path : List String) : filled (kept path) = filled path := by
  unfold kept
  split
  · next isRoot =>
    rw [isRoot]
    rfl
  · rfl

theorem filled_singleton {segment : String} (some : segment ≠ "") : filled [segment] = 1 := by
  rw [filled, List.countP_singleton, if_pos (decide_eq_true some)]

theorem filled_parent_le (path : List String) : filled (parent path) ≤ filled path := by
  unfold parent
  split
  · exact Nat.le_refl _
  · exact (List.dropLast_sublist path).countP_le

theorem kept_append {path : List String} {segment : String} (some : segment ≠ "") :
    kept (path ++ [segment]) = path ++ [segment] := by
  refine if_neg fun isRoot => some ?_
  have last := congrArg List.getLast? isRoot
  rw [List.getLast?_concat] at last
  exact Option.some.inj last

/-- The ways to add a name to an address of the web. -/
theorem addSegment_eq (web : isWeb scheme = true) (path : List String) (name : String) :
    addSegment scheme path name =
      if name = "." ∨ name = ".." then path
      else if writtenSegment true name = ['.', '.'] then parent (kept path) ++ [""]
      else if writtenSegment true name = ['.'] then kept path ++ [""]
      else kept path ++ [addedSegment name] := by
  unfold addSegment
  simp only [schemePath_of_isWeb web, isSpecial_of_isWeb web]
  rfl

/-- **A name fills a segment of its own at most**, and if it does, it is put after the others. -/
theorem filled_addSegment (web : isWeb scheme = true) (path : List String) (name : String) :
    filled (addSegment scheme path name) ≤ filled path + 1 ∧
      (filled (addSegment scheme path name) = filled path + 1 →
        addSegment scheme path name = kept path ++ [addedSegment name] ∧
          addedSegment name ≠ "") := by
  rw [addSegment_eq web]
  split
  · exact ⟨Nat.le_succ _, fun more => absurd more (Nat.ne_of_lt (Nat.lt_succ_self _))⟩
  · split
    · have fewer := filled_parent_le (kept path)
      rw [filled_kept] at fewer
      rw [filled_append, filled_empty, Nat.add_zero]
      exact ⟨Nat.le_succ_of_le fewer, fun more => absurd more (by omega)⟩
    · split
      · rw [filled_append, filled_empty, filled_kept]
        exact ⟨Nat.le_succ _, fun more => absurd more (by omega)⟩
      · rw [filled_append, filled_kept]
        by_cases none : addedSegment name = ""
        · rw [none, filled_empty]
          exact ⟨Nat.le_succ _, fun more => absurd more (by omega)⟩
        · rw [filled_singleton none]
          exact ⟨Nat.le_refl _, fun _ => ⟨rfl, none⟩⟩

/-- **Names fill as many segments as they are at most**, and if they do, they are put after the
others in turn. -/
theorem filled_foldl_addSegment (web : isWeb scheme = true) (names : List String)
    (path : List String) :
    filled (names.foldl (addSegment scheme) path) ≤ filled path + names.length ∧
      (filled (names.foldl (addSegment scheme) path) = filled path + names.length →
        kept (names.foldl (addSegment scheme) path) = kept path ++ names.map addedSegment) := by
  induction names generalizing path with
  | nil => exact ⟨Nat.le_refl _, fun _ => by rw [List.map_nil, List.append_nil]; rfl⟩
  | cons name rest ih =>
      obtain ⟨bound, appended⟩ := filled_addSegment web path name
      obtain ⟨restBound, restAppended⟩ := ih (addSegment scheme path name)
      rw [List.foldl_cons, List.length_cons]
      refine ⟨by omega, fun all => ?_⟩
      obtain ⟨isAppended, some⟩ := appended (by omega)
      rw [restAppended (by omega), isAppended, kept_append some, List.append_assoc]
      rfl

/-- A plain name is put after the others. -/
theorem addSegment_of_isPlain (web : isWeb scheme = true) (path : List String) {name : String}
    (plain : IsPlain name) (some : name ≠ "") :
    addSegment scheme path name = kept path ++ [addedSegment name] ∧ addedSegment name ≠ "" := by
  have stands := standsFor_addedSegment_iff.2 plain
  have decodes := stands.decodes
  rw [addedSegment, String.toList_ofList] at decodes
  -- a segment that decodes to another name is not the one that is written
  have other {written : List Char} {read : String} (reads : Text.ofBytes? (Percent.decode written) =
      .some read) (differs : name ≠ read) : writtenSegment true name ≠ written := by
    intro same
    rw [same, reads] at decodes
    exact differs (Option.some.inj decodes).symm
  constructor
  · rw [addSegment_eq web, if_neg (not_or.2 ⟨plain.1, plain.2.1⟩),
      if_neg (other (decode_of_isTwoDots rfl) plain.2.1),
      if_neg (other (decode_of_isDot rfl) plain.1)]
  · intro none
    have isEmpty := congrArg String.toList none
    rw [addedSegment, String.toList_ofList] at isEmpty
    have reads : Text.ofBytes? (Percent.decode []) = .some "" := ofBytes?_flatMap []
    exact other reads some isEmpty

/-- **Plain names are put after the others** in turn. -/
theorem kept_foldl_addSegment (web : isWeb scheme = true) {names : List String}
    (plain : ∀ name ∈ names, IsPlain name) (some : ∀ name ∈ names, name ≠ "")
    (path : List String) :
    kept (names.foldl (addSegment scheme) path) = kept path ++ names.map addedSegment := by
  induction names generalizing path with
  | nil => rw [List.map_nil, List.append_nil]; rfl
  | cons name rest ih =>
      obtain ⟨namePlain, restPlain⟩ := List.forall_mem_cons.1 plain
      obtain ⟨nameSome, restSome⟩ := List.forall_mem_cons.1 some
      obtain ⟨isAppended, added⟩ := addSegment_of_isPlain web path namePlain nameSome
      rw [List.foldl_cons, ih restPlain restSome, isAppended, kept_append added, List.append_assoc]
      rfl

end Url

end RealmConvergence.Http
