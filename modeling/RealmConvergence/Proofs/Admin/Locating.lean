import Mathlib.Data.List.DropRight
import RealmConvergence.Proofs.Admin.Addressing

/-!
# The identifier at the end of a location

A service tells where a new client stands, and the identifier of the client is what stands last in
this location. It is read as it is written, and written anew when it is used in an address. So it
leads back to the client exactly if nothing in it is encoded or dropped and it means a place of its
own (`WrittenAsIs`). For any other one the next address is another place.

A query or a fragment of the base address stands after the identifier, and is read with it or in
place of it (`leadsBack_iff`).
-/

set_option autoImplicit false

namespace RealmConvergence.Admin

open Http (Url UrlPath)
open Http.Url Http.Percent

variable {connection : AdminConnection} {base : Url} {scheme : String}

/-! ## The last part of a text -/

section LastPart

variable {α : Type} {holds : α → Bool} {early late part : List α} {stop : α}

theorem rtakeWhile_append_cons (stops : ¬holds stop) (all : ∀ item ∈ part, holds item) :
    (early ++ stop :: part).rtakeWhile holds = part := by
  induction part using List.reverseRecOn with
  | nil => exact List.rtakeWhile_concat_neg holds early stop stops
  | append_singleton rest last ih =>
      obtain ⟨allRest, holdsLast⟩ := List.forall_mem_append.1 all
      rw [← List.cons_append, ← List.append_assoc,
        List.rtakeWhile_concat_pos _ _ _ (holdsLast last List.mem_cons_self), ih allRest]

/-- Where an end stops, what stands before it does not matter. -/
theorem rtakeWhile_append_of_mem (member : stop ∈ late) (stops : ¬holds stop) :
    (early ++ late).rtakeWhile holds = late.rtakeWhile holds := by
  induction late using List.reverseRecOn with
  | nil => cases member
  | append_singleton rest last ih =>
      rw [← List.append_assoc, List.rtakeWhile_concat, List.rtakeWhile_concat]
      split
      · next goesOn =>
        rcases List.mem_append.1 member with inRest | isLast
        · rw [ih inRest]
        · exact absurd goesOn (List.mem_singleton.1 isLast ▸ stops)
      · rfl

/-- What stands before an end that is kept is kept. -/
theorem rdropWhile_append_of_ne_nil (some : late.rdropWhile holds ≠ []) :
    (early ++ late).rdropWhile holds = early ++ late.rdropWhile holds := by
  induction late using List.reverseRecOn with
  | nil => exact absurd (List.rdropWhile_nil holds) some
  | append_singleton rest last ih =>
      rw [List.rdropWhile_concat] at some
      rw [← List.append_assoc, List.rdropWhile_concat, List.rdropWhile_concat]
      split at some
      · next drops => rw [if_pos drops, if_pos drops, ih some]
      · next keeps => rw [if_neg keeps, if_neg keeps, List.append_assoc]

theorem rdropWhile_cons_of_neg (keeps : ¬holds stop) :
    (stop :: late).rdropWhile holds = stop :: late.rdropWhile holds := by
  induction late using List.reverseRecOn with
  | nil => exact List.rdropWhile_concat_neg holds [] stop keeps
  | append_singleton rest last ih =>
      rw [← List.cons_append, List.rdropWhile_concat, List.rdropWhile_concat]
      split
      · exact ih
      · rfl

theorem rdropWhile_append_of_forall (all : ∀ item ∈ late, holds item) :
    (early ++ late).rdropWhile holds = early.rdropWhile holds := by
  induction late using List.reverseRecOn with
  | nil => rw [List.append_nil]
  | append_singleton rest last ih =>
      obtain ⟨allRest, holdsLast⟩ := List.forall_mem_append.1 all
      rw [← List.append_assoc,
        List.rdropWhile_concat_pos _ _ _ (holdsLast last List.mem_cons_self), ih allRest]

end LastPart

/-- A text without the slashes at its end. -/
def withoutSlashes (text : List Char) : List Char := text.rdropWhile (· == '/')

/-- What stands after the last slash of a text, but for slashes at its end. -/
def lastPart (text : List Char) : List Char := (withoutSlashes text).rtakeWhile (· ≠ '/')

/-- The identifier of a location is its last part. -/
theorem idOfLocation?_eq (location : String) :
    idOfLocation? location =
      if (lastPart location.toList).isEmpty then none
      else some (String.ofList (lastPart location.toList)) :=
  rfl

variable {early late part : List Char}

theorem withoutSlashes_append_replicate (text : List Char) (slashes : Nat) :
    withoutSlashes (text ++ List.replicate slashes '/') = withoutSlashes text :=
  rdropWhile_append_of_forall fun _ member => beq_iff_eq.2 (List.eq_of_mem_replicate member)

theorem withoutSlashes_of_not_mem (noSlash : '/' ∉ part) : withoutSlashes part = part := by
  refine List.rdropWhile_eq_self_iff.2 fun some isSlash => noSlash ?_
  exact beq_iff_eq.1 isSlash ▸ List.getLast_mem some

/-- What stands up to a character that is no slash is kept. -/
theorem withoutSlashes_append_cons {mark : Char} (noSlash : mark ≠ '/') (part rest : List Char) :
    withoutSlashes (part ++ mark :: rest) = part ++ mark :: withoutSlashes rest := by
  have trimmed : (mark :: rest).rdropWhile (· == '/') = mark :: withoutSlashes rest :=
    rdropWhile_cons_of_neg fun isSlash => noSlash (beq_iff_eq.1 isSlash)
  rw [withoutSlashes, rdropWhile_append_of_ne_nil (trimmed ▸ List.cons_ne_nil _ _), trimmed]

/-- A part without slashes, after a slash and before slashes only, is the last part. -/
theorem lastPart_append (some : withoutSlashes part ≠ []) (noSlash : '/' ∉ withoutSlashes part) :
    lastPart (early ++ '/' :: part) = withoutSlashes part := by
  have kept : withoutSlashes ((early ++ ['/']) ++ part) = (early ++ ['/']) ++ withoutSlashes part :=
    rdropWhile_append_of_ne_nil some
  rw [lastPart, List.append_cons, kept, List.append_assoc, List.singleton_append]
  exact rtakeWhile_append_cons (by decide) fun character member =>
    decide_eq_true fun isSlash => noSlash (isSlash ▸ member)

/-- The last part does not depend on what stands before a slash that is not at the end. -/
theorem lastPart_append_of_mem (slash : '/' ∈ withoutSlashes late) :
    lastPart (early ++ late) = lastPart late := by
  have kept : withoutSlashes (early ++ late) = early ++ withoutSlashes late :=
    rdropWhile_append_of_ne_nil (List.ne_nil_of_mem slash)
  rw [lastPart, kept]
  exact rtakeWhile_append_of_mem slash (by decide)

/-! ## The last segment -/

/-- The last segment of a path that is not empty. -/
def lastFilled (path : List String) : Option String := path.reverse.find? (· ≠ "")

theorem lastFilled_append (path : List String) (segment : String) :
    lastFilled (path ++ [segment]) = if segment = "" then lastFilled path else some segment := by
  rw [lastFilled, List.reverse_append, List.reverse_singleton, List.singleton_append,
    List.find?_cons]
  by_cases none : segment = "" <;> simp [none, lastFilled]

theorem ne_empty_of_lastFilled {path : List String} {segment : String}
    (last : lastFilled path = some segment) : segment ≠ "" :=
  of_decide_eq_true (List.find?_some (p := fun other => decide (other ≠ "")) last)

theorem lastFilled_kept (path : List String) : lastFilled (kept path) = lastFilled path := by
  unfold kept
  split
  · next isRoot =>
    rw [isRoot]
    rfl
  · rfl

theorem withoutSlashes_toList {segment : String} (whole : Whole segment) :
    withoutSlashes segment.toList = segment.toList :=
  withoutSlashes_of_not_mem fun slash => Bool.eq_false_iff.1 (whole '/' slash) rfl

/-- The last segment that is not empty is the last part of a path as it is written. -/
theorem lastPart_of_lastFilled {path : List String} {segment : String} (front : List Char)
    (slashes : Nat) (whole : ∀ segment ∈ path, Whole segment)
    (last : lastFilled path = some segment) :
    lastPart (front ++ (path.flatMap fun segment => '/' :: segment.toList) ++
      List.replicate slashes '/') = segment.toList := by
  induction path using List.reverseRecOn generalizing slashes with
  | nil => cases last
  | append_singleton rest final ih =>
      obtain ⟨restWhole, finalWhole⟩ := List.forall_mem_append.1 whole
      rw [lastFilled_append] at last
      rw [List.flatMap_append, List.flatMap_singleton]
      split at last
      · next isEmpty =>
        have shorter := ih (slashes + 1) restWhole last
        rw [isEmpty, String.toList_empty, List.append_assoc, List.append_assoc]
        rwa [List.append_assoc] at shorter
      · next isFilled =>
        cases last
        have trimmed : withoutSlashes (segment.toList ++ List.replicate slashes '/') =
            segment.toList := by
          rw [withoutSlashes_append_replicate]
          exact withoutSlashes_toList (finalWhole segment List.mem_cons_self)
        have noSlash : '/' ∉ segment.toList := fun slash =>
          Bool.eq_false_iff.1 (finalWhole segment List.mem_cons_self '/' slash) rfl
        rw [← List.append_assoc, List.append_assoc, List.cons_append, lastPart_append, trimmed]
        · rw [trimmed]
          exact fun none => isFilled (String.toList_eq_nil_iff.1 none)
        · rwa [trimmed]

/-! ## Names as they are written -/

/-- A name without breaks. -/
def unbroken (name : String) : List Char := name.toList.filter fun character => !isBreak character

/-- The name is written as it is but for breaks, and means a place of its own. -/
def WrittenAsIs (name : String) : Prop :=
  unbroken name ∉ [[], ['.'], ['.', '.']] ∧
    ∀ character ∈ unbroken name, mayStandInSegment true character = true

instance (name : String) : Decidable (WrittenAsIs name) :=
  decidable_of_iff (unbroken name ∉ [[], ['.'], ['.', '.']] ∧
    (unbroken name).all (mayStandInSegment true) = true) <| by
      rw [WrittenAsIs, List.all_eq_true]

variable {name : String}

theorem toList_addedSegment (name : String) :
    (addedSegment name).toList = encode (mayStandInSegment true) (unbroken name) :=
  String.toList_ofList

/-- A name is written as a text that may stand exactly if it is the text but for breaks. -/
theorem writtenSegment_eq_iff {text : List Char}
    (stand : text.all (mayStandInSegment true) = true) :
    writtenSegment true name = text ↔ unbroken name = text := by
  have written : writtenSegment true name = encode (mayStandInSegment true) (unbroken name) := rfl
  have asIs : encode (mayStandInSegment true) text = text :=
    encode_eq_self_iff.2 (List.all_eq_true.1 stand)
  constructor
  · intro same
    refine @encode_injective (mayStandInSegment true) (by decide) _ _ ?_
    rw [← written, same, asIs]
  · intro same
    rw [written, same, asIs]

/-- There is no break in what is written. -/
theorem unbroken_addedSegment (name : String) :
    unbroken (addedSegment name) = (addedSegment name).toList := by
  have encoded : ∀ other ∈ ['\t', '\n', '\r'], mayStandInSegment true other = false ∧
      other ≠ '%' ∧ other.isAlphanum = false := by
    simp only [List.forall_mem_cons, List.not_mem_nil, false_implies, implies_true]
    decide
  refine List.filter_eq_self.2 fun character member => ?_
  refine Bool.not_eq_true' _ ▸ Bool.eq_false_iff.2 fun breaks => ?_
  have isBreak : character ∈ ['\t', '\n', '\r'] := by
    simpa [Http.Url.isBreak, or_assoc] using breaks
  exact not_mem_writtenSegment (encoded character isBreak) (toList_addedSegment name ▸ member)

/-- What is written for a name is written as it is exactly if all of the name may stand. -/
theorem addedSegment_addedSegment_iff :
    addedSegment (addedSegment name) = addedSegment name ↔
      ∀ character ∈ unbroken name, mayStandInSegment true character = true := by
  have written : addedSegment (addedSegment name) = addedSegment name ↔
      encode (mayStandInSegment true) (addedSegment name).toList = (addedSegment name).toList := by
    rw [← String.toList_inj, toList_addedSegment (addedSegment name), unbroken_addedSegment]
  rw [written, encode_eq_self_iff, toList_addedSegment]
  constructor
  · intro stand character member
    rcases encodeChar_cases (mayStandInSegment true) character with ⟨stands, -⟩ | ⟨-, _, _, _, same⟩
    · exact stands
    · have sign : '%' ∈ encode (mayStandInSegment true) (unbroken name) :=
        List.mem_flatMap.2 ⟨character, member, same ▸ List.mem_cons_self⟩
      exact absurd (stand '%' sign) (by decide)
  · intro stand
    rwa [encode_eq_self_iff.2 stand]

/-! ## Below the clients of a realm -/

theorem toList_addedSegment_eq_iff {text : List Char}
    (stand : text.all (mayStandInSegment true) = true) :
    (addedSegment name).toList = text ↔ unbroken name = text := by
  rw [addedSegment, String.toList_ofList, writtenSegment_eq_iff stand]

theorem addedSegment_eq_empty_iff : addedSegment name = "" ↔ unbroken name = [] := by
  rw [← String.toList_eq_nil_iff, toList_addedSegment_eq_iff (by decide)]

/-- The place to which a name leads below the clients of a realm. -/
inductive LeadsTo (above : List String) (name : String) : List String → Prop where
  /-- Dots are passed over. -/
  | passed (isDots : name = "." ∨ name = "..") : LeadsTo above name (above ++ ["clients"])
  /-- Two dots with breaks lead above the clients. -/
  | upward (isTwoDots : unbroken name = ['.', '.']) (isBroken : name ≠ "..") :
      LeadsTo above name (above ++ [""])
  /-- Breaks alone, or with a dot, leave the place open. -/
  | opened (isOpen : unbroken name ∈ [[], ['.']]) :
      LeadsTo above name (above ++ ["clients"] ++ [""])
  /-- Any other name has a segment of its own. -/
  | own (isOther : unbroken name ∉ [[], ['.'], ['.', '.']]) :
      LeadsTo above name (above ++ ["clients"] ++ [addedSegment name])

/-- **A name below the clients leads to one of these places.** -/
theorem leads_addSegment (web : isWeb scheme = true) (above : List String) (name : String) :
    LeadsTo above name (addSegment scheme (above ++ ["clients"]) name) := by
  have isKept : kept (above ++ ["clients"]) = above ++ ["clients"] := kept_append (by decide)
  have isAbove : parent (above ++ ["clients"]) = above := by
    rw [parent, List.getLast?_concat, List.dropLast_concat]
    rfl
  have isTwoDots : writtenSegment true name = ['.', '.'] ↔ unbroken name = ['.', '.'] :=
    writtenSegment_eq_iff (by decide)
  have isDot : writtenSegment true name = ['.'] ↔ unbroken name = ['.'] :=
    writtenSegment_eq_iff (by decide)
  rw [addSegment_eq web, isKept, isAbove]
  split
  · next isDots => exact .passed isDots
  · next noDots =>
    split
    · next two => exact .upward (isTwoDots.1 two) fun same => noDots (.inr same)
    · next noTwo =>
      split
      · next one => exact .opened (by rw [isDot.1 one]; decide)
      · next noOne =>
        by_cases none : addedSegment name = ""
        · rw [none]
          exact .opened (by rw [addedSegment_eq_empty_iff.1 none]; decide)
        · refine .own ?_
          rw [isTwoDots] at noTwo
          rw [isDot] at noOne
          rw [addedSegment_eq_empty_iff] at none
          simp only [List.mem_cons, List.not_mem_nil, or_false, not_or]
          exact ⟨none, noOne, noTwo⟩

/-- Nothing but a name of two dots with breaks leads above the clients. -/
theorem LeadsTo.unbroken_of_upward {above : List String}
    (leads : LeadsTo above name (above ++ [""])) : unbroken name = ['.', '.'] ∧ name ≠ ".." := by
  have below (rest : List String) (same : above ++ [""] = above ++ "clients" :: rest) : False :=
    absurd (List.cons.inj (List.append_cancel_left same)).1 (by decide)
  generalize isPlace : above ++ [""] = place at leads
  cases leads with
  | passed => exact (below [] isPlace).elim
  | upward isTwoDots isBroken => exact ⟨isTwoDots, isBroken⟩
  | opened | own =>
      rw [List.append_assoc] at isPlace
      exact (below _ isPlace).elim

/-- A name that is not only dots and breaks has a segment of its own below the clients. -/
theorem LeadsTo.eq_own {above place : List String} (leads : LeadsTo above name place)
    (isOther : unbroken name ∉ [[], ['.'], ['.', '.']]) :
    place = above ++ ["clients"] ++ [addedSegment name] := by
  cases leads with
  | passed isDots => rcases isDots with rfl | rfl <;> exact absurd (by decide) isOther
  | upward isTwoDots => exact absurd (by rw [isTwoDots]; decide) isOther
  | opened isOpen => exact absurd (List.mem_append_left [['.', '.']] isOpen) isOther
  | own => rfl

/-- The segment of a name, used as a name, leads to the segment exactly if all of the name may
stand. -/
theorem addSegment_addedSegment_iff (web : isWeb scheme = true) (above : List String)
    (isOther : unbroken name ∉ [[], ['.'], ['.', '.']]) :
    addSegment scheme (above ++ ["clients"]) (addedSegment name) =
        above ++ ["clients"] ++ [addedSegment name] ↔
      ∀ character ∈ unbroken name, mayStandInSegment true character = true := by
  have same (text : List Char) (stand : text.all (mayStandInSegment true) = true) :
      unbroken (addedSegment name) = text ↔ unbroken name = text := by
    rw [unbroken_addedSegment, toList_addedSegment_eq_iff stand]
  have writtenOther : unbroken (addedSegment name) ∉ [[], ['.'], ['.', '.']] := by
    simp only [List.mem_cons, List.not_mem_nil, or_false] at isOther ⊢
    rwa [same [] rfl, same ['.'] rfl, same ['.', '.'] rfl]
  rw [(leads_addSegment web above (addedSegment name)).eq_own writtenOther,
    ← addedSegment_addedSegment_iff, List.append_cancel_left_eq, List.cons.injEq]
  exact and_iff_left rfl

/-- **The last segment of the place of a client leads back there exactly if the client's name is
written as it is.** -/
theorem addSegment_lastFilled_iff (web : isWeb scheme = true) {above : List String}
    {upper : String} (last : lastFilled above = some upper)
    (isUnbroken : unbroken upper = upper.toList) (name : String) :
    ∃ read, lastFilled (addSegment scheme (above ++ ["clients"]) name) = some read ∧
      (addSegment scheme (above ++ ["clients"]) read =
        addSegment scheme (above ++ ["clients"]) name ↔ WrittenAsIs name) := by
  -- in a place without a segment of its own the clients are read, and they lead below themselves
  have lastClients : lastFilled (above ++ ["clients"]) = some "clients" := lastFilled_append _ _
  have clients : addSegment scheme (above ++ ["clients"]) "clients" =
      above ++ ["clients"] ++ ["clients"] :=
    (leads_addSegment web above "clients").eq_own (by decide)
  have leads := leads_addSegment web above name
  generalize addSegment scheme (above ++ ["clients"]) name = place at leads
  cases leads with
  | passed isDots =>
      refine ⟨"clients", lastClients, fun same => ?_, fun always => ?_⟩
      · rw [clients] at same
        cases List.append_right_eq_self.1 same
      · rcases isDots with rfl | rfl <;> exact absurd always (by decide)
  | upward isTwoDots =>
      refine ⟨upper, (lastFilled_append _ _).trans last, fun same => ?_, fun always => ?_⟩
      · obtain ⟨dots, isBroken⟩ := (same ▸ leads_addSegment web above upper).unbroken_of_upward
        rw [isUnbroken] at dots
        exact absurd (String.toList_inj.1 dots) isBroken
      · exact absurd always.1 (by rw [isTwoDots]; decide)
  | opened isOpen =>
      refine ⟨"clients", (lastFilled_append _ _).trans lastClients, fun same => ?_,
        fun always => absurd (List.mem_append_left [['.', '.']] isOpen) always.1⟩
      rw [clients] at same
      exact absurd (List.append_cancel_left same) (by decide)
  | own isOther =>
      have some : addedSegment name ≠ "" := fun none =>
        isOther (by rw [addedSegment_eq_empty_iff.1 none]; decide)
      refine ⟨addedSegment name, (lastFilled_append _ _).trans (if_neg some), ?_⟩
      rw [addSegment_addedSegment_iff web above isOther]
      exact ⟨fun stand => ⟨isOther, stand⟩, fun always => always.2⟩

/-- Whatever a realm adds below the realms, the last segment has no break. -/
theorem lastFilled_addSegment_realm (web : isWeb scheme = true) {path above : List String}
    (realms : kept path = above ++ ["admin"] ++ ["realms"]) (realm : String) :
    ∃ upper, lastFilled (addSegment scheme path realm) = some upper ∧
      unbroken upper = upper.toList := by
  have lastRealms : lastFilled (kept path) = some "realms" := realms ▸ lastFilled_append _ _
  have isAbove : parent (kept path) = above ++ ["admin"] := by
    rw [realms, parent, List.getLast?_concat, List.dropLast_concat]
    rfl
  rw [addSegment_eq web]
  split
  · exact ⟨"realms", lastFilled_kept path ▸ lastRealms, by decide⟩
  · split
    · rw [isAbove]
      exact ⟨"admin", (lastFilled_append _ _).trans (lastFilled_append _ _), by decide⟩
    · split
      · exact ⟨"realms", (lastFilled_append _ _).trans lastRealms, by decide⟩
      · by_cases none : addedSegment realm = ""
        · rw [none]
          exact ⟨"realms", (lastFilled_append _ _).trans lastRealms, by decide⟩
        · exact ⟨addedSegment realm, (lastFilled_append _ _).trans (if_neg none),
            unbroken_addedSegment realm⟩

/-- The clients of a realm have a segment of their own, below a last one that has no break. -/
theorem foldl_addSegment_clients (web : isWeb scheme = true) (path : List String)
    (realm : String) :
    ∃ above upper,
      ["admin", "realms", realm, "clients"].foldl (addSegment scheme) path = above ++ ["clients"] ∧
        lastFilled above = some upper ∧ unbroken upper = upper.toList := by
  have realms : kept (["admin", "realms"].foldl (addSegment scheme) path) =
      kept path ++ ["admin"] ++ ["realms"] := by
    rw [kept_foldl_addSegment web (by decide) (by decide), List.append_assoc]
    rfl
  obtain ⟨upper, last, isUnbroken⟩ := lastFilled_addSegment_realm web realms realm
  have added (segments : List String) :
      addSegment scheme segments "clients" = kept segments ++ ["clients"] :=
    (addSegment_of_isPlain web segments (by decide) (by decide)).1
  exact ⟨_, upper, added _, (lastFilled_kept _).trans last, isUnbroken⟩

/-! ## Addresses of clients -/

/-- What follows the path of an address. -/
def ending (url : Url) : String :=
  (url.query.map ("?" ++ ·)).getD "" ++ (url.fragment.map ("#" ++ ·)).getD ""

/-- An address as it is written, with slashes after it. -/
def location (url : Url) (slashes : Nat) : String :=
  url.text ++ String.ofList (List.replicate slashes '/')

/-- A location is written with the segments of the path before its ending. -/
theorem toList_location {url : Url} {path : List String} (isPath : url.path = .segments path)
    (slashes : Nat) :
    ∃ front, (location url slashes).toList =
      front ++ (path.flatMap fun segment => '/' :: segment.toList) ++
        ((ending url).toList ++ List.replicate slashes '/') := by
  refine ⟨(url.scheme ++ ":" ++ (url.authority.map fun authority =>
    "//" ++ Authority.text authority).getD "" ++ url.separator).toList, ?_⟩
  rw [location, Url.text, ending, ← toList_pathText isPath]
  simp only [String.toList_append, String.toList_ofList, List.append_assoc]

/-- What is read from the location of a client, used again as the client, leads to its path. -/
def LeadsBack (connection : AdminConnection) (realm : String) (url : Url) (slashes : Nat) : Prop :=
  ∃ read again, idOfLocation? (location url slashes) = some read ∧
    realmUrl connection realm ["clients", read] = .ok again ∧ again.pathText = url.pathText

theorem idOfLocation?_of_lastPart {location segment : String}
    (last : lastPart location.toList = segment.toList) (some : segment ≠ "") :
    idOfLocation? location = .some segment := by
  have full : segment.toList.isEmpty ≠ true := fun isEmpty =>
    some (String.toList_eq_nil_iff.1 (List.isEmpty_iff.1 isEmpty))
  rw [idOfLocation?_eq, last, if_neg full, String.ofList_toList]

/-- Paths whose segments have no slash are told by their text. -/
theorem segments_inj_of_pathText {url other : Url} {path another : List String}
    (isPath : url.path = .segments path) (isOther : other.path = .segments another)
    (whole : ∀ segment ∈ path, Whole segment) (otherWhole : ∀ segment ∈ another, Whole segment) :
    url.pathText = other.pathText ↔ path = another := by
  constructor
  · intro same
    have segments : url.pathSegments = other.pathSegments := by rw [pathSegments, same]; rfl
    rwa [pathSegments_of_whole isPath whole, pathSegments_of_whole isOther otherWhole] at segments
  · rintro rfl
    rw [pathText, pathText, isPath, isOther]

/-- An ending starts with the sign of a query or of a fragment. -/
theorem toList_ending {url : Url} (some : ending url ≠ "") :
    ∃ mark rest, (ending url).toList = mark :: rest ∧ mark ∈ ['?', '#'] := by
  unfold ending at some ⊢
  generalize url.query = query at some ⊢
  generalize url.fragment = fragment at some ⊢
  match query, fragment with
  | .some query, _ => exact ⟨'?', _, by simp; rfl, by decide⟩
  | .none, .some fragment => exact ⟨'#', _, by simp; rfl, by decide⟩
  | .none, .none => exact absurd rfl some

/-- A name that begins with a segment and goes on with the sign of a query or of a fragment does not
lead to the segment: what is written for it is longer. -/
theorem addSegment_ne_of_mark (web : isWeb scheme = true) (above early : List String)
    {segment : String} {mark : Char} {rest : List Char} (isMark : mark ∈ ['?', '#'])
    (isRead : name.toList = segment.toList ++ mark :: rest) :
    addSegment scheme (above ++ ["clients"]) name ≠ early ++ [segment] := by
  have noBreak : isBreak mark = false := by
    simp only [List.mem_cons, List.not_mem_nil, or_false] at isMark
    rcases isMark with rfl | rfl <;> rfl
  have inName : mark ∈ unbroken name :=
    List.mem_filter.2 ⟨isRead ▸ List.mem_append_right _ List.mem_cons_self, by rw [noBreak]; rfl⟩
  have isOther : unbroken name ∉ [[], ['.'], ['.', '.']] := by
    intro isDots
    simp only [List.mem_cons, List.not_mem_nil, or_false] at isDots isMark
    rcases isDots with same | same | same <;> rw [same] at inName <;>
      rcases isMark with rfl | rfl <;> exact absurd inName (by decide)
  rw [(leads_addSegment web above name).eq_own isOther]
  intro same
  have isSegment : addedSegment name = segment :=
    (List.cons.inj (List.append_inj' same rfl).2).1
  -- the segment would be written for a name that begins with the segment and has more
  have longer := (length_encode (mayStandInSegment true) (unbroken name)).1
  have isUnbroken : (unbroken segment).length = segment.toList.length := by
    rw [← isSegment, unbroken_addedSegment]
  rw [← toList_addedSegment, isSegment] at longer
  have parts : unbroken name = unbroken segment ++ unbroken (String.ofList (mark :: rest)) := by
    rw [unbroken, isRead, List.filter_append, unbroken, unbroken, String.toList_ofList]
  rw [parts, List.length_append, isUnbroken, unbroken, String.toList_ofList,
    List.filter_cons_of_pos (by rw [noBreak]; rfl), List.length_cons] at longer
  omega

/-! ## Back to the client -/

section Back

variable {url : Url} {early : List String} {segment : String}

/-- Without an ending, the last segment that is not empty is read from a location. -/
theorem idOfLocation?_of_lastFilled {path : List String} (isPath : url.path = .segments path)
    (whole : ∀ segment ∈ path, Whole segment) (last : lastFilled path = some segment)
    (noEnding : ending url = "") (slashes : Nat) :
    idOfLocation? (location url slashes) = some segment := by
  obtain ⟨front, isLocation⟩ := toList_location isPath slashes
  rw [noEnding, String.toList_empty, List.nil_append] at isLocation
  refine idOfLocation?_of_lastPart ?_ (ne_empty_of_lastFilled last)
  rw [isLocation]
  exact lastPart_of_lastFilled front slashes whole last

/-- An ending without slashes is read with the last segment. -/
theorem idOfLocation?_of_ending (isPath : url.path = .segments (early ++ [segment]))
    (whole : Whole segment) (hasEnding : ending url ≠ "")
    (noSlash : '/' ∉ withoutSlashes (ending url).toList) (slashes : Nat) :
    ∃ read mark rest, idOfLocation? (location url slashes) = some read ∧
      read.toList = segment.toList ++ mark :: rest ∧ mark ∈ ['?', '#'] := by
  obtain ⟨front, isLocation⟩ := toList_location isPath slashes
  obtain ⟨mark, rest, isEnding, isMark⟩ := toList_ending hasEnding
  have noBar : mark ≠ '/' := by
    rintro rfl
    exact absurd isMark (by decide)
  have noMoreSlash : '/' ∉ mark :: withoutSlashes rest := by
    rwa [isEnding, ← List.nil_append (mark :: rest), withoutSlashes_append_cons noBar] at noSlash
  have part : withoutSlashes
      (segment.toList ++ ((ending url).toList ++ List.replicate slashes '/')) =
        segment.toList ++ mark :: withoutSlashes rest := by
    rw [← List.append_assoc, withoutSlashes_append_replicate, isEnding,
      withoutSlashes_append_cons noBar]
  have some : segment.toList ++ mark :: withoutSlashes rest ≠ [] :=
    List.append_ne_nil_of_right_ne_nil _ (List.cons_ne_nil _ _)
  have last : lastPart (location url slashes).toList =
      segment.toList ++ mark :: withoutSlashes rest := by
    rw [isLocation, List.flatMap_append, List.flatMap_singleton, ← List.append_assoc front,
      List.append_assoc, List.cons_append, lastPart_append, part]
    · rwa [part]
    · rw [part, List.mem_append]
      rintro (inSegment | inEnding)
      · exact Bool.eq_false_iff.1 (whole '/' inSegment) rfl
      · exact noMoreSlash inEnding
  refine ⟨String.ofList (segment.toList ++ mark :: withoutSlashes rest), mark, withoutSlashes rest,
    ?_, String.toList_ofList, isMark⟩
  refine idOfLocation?_of_lastPart (last.trans String.toList_ofList.symm) fun none => some ?_
  have isEmpty := congrArg String.toList none
  rwa [String.toList_ofList] at isEmpty

/-- An ending with a slash that is not at its end is read in place of the last segment. -/
theorem idOfLocation?_of_mem {path : List String} (isPath : url.path = .segments path)
    (slash : '/' ∈ withoutSlashes (ending url).toList) (slashes : Nat) :
    idOfLocation? (location url slashes) = idOfLocation? (ending url) := by
  obtain ⟨front, isLocation⟩ := toList_location isPath slashes
  have last : lastPart (location url slashes).toList = lastPart (ending url).toList := by
    rw [isLocation, lastPart_append_of_mem]
    · exact congrArg (List.rtakeWhile _) (withoutSlashes_append_replicate _ _)
    · rwa [withoutSlashes_append_replicate]
  rw [idOfLocation?_eq, idOfLocation?_eq, last]

end Back

/-- The clients of a realm stand below a base of the web, each in its place, and a location that is
read leads back to the client's path exactly if what is read has the same place. -/
theorem realmUrl_clients (parsed : Url.parse connection.baseUrl = .ok base)
    (web : isWeb base.scheme = true) (realm : String) :
    ∃ above upper, lastFilled above = some upper ∧ unbroken upper = upper.toList ∧
      ∀ client, ∃ url, realmUrl connection realm ["clients", client] = .ok url ∧
        url.path = .segments (addSegment base.scheme (above ++ ["clients"]) client) ∧
        (∀ segment ∈ addSegment base.scheme (above ++ ["clients"]) client, Whole segment) ∧
        ending url = ending base ∧
        ∀ slashes read, idOfLocation? (location url slashes) = some read →
          (LeadsBack connection realm url slashes ↔
            addSegment base.scheme (above ++ ["clients"]) read =
              addSegment base.scheme (above ++ ["clients"]) client) := by
  obtain ⟨above, upper, isClients, last, isUnbroken⟩ :=
    foldl_addSegment_clients web (closed base.pathSegments) realm
  have address (client : String) : ∃ url, realmUrl connection realm ["clients", client] = .ok url ∧
      url.path = .segments (addSegment base.scheme (above ++ ["clients"]) client) ∧
      (∀ segment ∈ addSegment base.scheme (above ++ ["clients"]) client, Whole segment) ∧
      ending url = ending base := by
    obtain ⟨isUrl, whole⟩ :=
      resourceUrl_segments parsed web ["admin", "realms", realm, "clients", client]
    rw [← isClients]
    exact ⟨_, isUrl, rfl, whole, rfl⟩
  refine ⟨above, upper, last, isUnbroken, fun client => ?_⟩
  obtain ⟨url, isUrl, isPath, whole, sameEnding⟩ := address client
  refine ⟨url, isUrl, isPath, whole, sameEnding, fun slashes read isRead => ?_⟩
  obtain ⟨again, isAgain, isAgainPath, againWhole, -⟩ := address read
  rw [← segments_inj_of_pathText isAgainPath isPath againWhole whole]
  constructor
  · rintro ⟨other, reached, isOther, isReached, same⟩
    cases isRead.symm.trans isOther
    cases isAgain.symm.trans isReached
    exact same
  · exact fun same => ⟨read, again, isRead, isAgain, same⟩

/-- **What is read from the location of a client leads back to the client exactly if its identifier
is written as it is.** So it is if nothing follows the path of the base. What follows it without a
slash is read with the identifier, which then never leads back; and if it has a slash, the same is
read for every client. -/
theorem leadsBack_iff (parsed : Url.parse connection.baseUrl = .ok base)
    (web : isWeb base.scheme = true) (realm client : String) (slashes : Nat) :
    ∃ url, realmUrl connection realm ["clients", client] = .ok url ∧
      (ending base = "" → (LeadsBack connection realm url slashes ↔ WrittenAsIs client)) ∧
      (ending base ≠ "" → '/' ∉ withoutSlashes (ending base).toList →
        ¬LeadsBack connection realm url slashes) ∧
      ('/' ∈ withoutSlashes (ending base).toList →
        idOfLocation? (location url slashes) = idOfLocation? (ending base)) := by
  obtain ⟨above, upper, last, isUnbroken, clients⟩ := realmUrl_clients parsed web realm
  obtain ⟨url, isUrl, isPath, whole, sameEnding, leadsBack⟩ := clients client
  obtain ⟨read, isLast, back⟩ := addSegment_lastFilled_iff web last isUnbroken client
  refine ⟨url, isUrl, fun noEnding => ?_, fun hasEnding noSlash => ?_, fun slash => ?_⟩
  · rw [← back]
    exact leadsBack slashes read
      (idOfLocation?_of_lastFilled isPath whole isLast (sameEnding.trans noEnding) slashes)
  · obtain none | ⟨early, segment, isPlace⟩ :=
      List.eq_nil_or_concat' (addSegment base.scheme (above ++ ["clients"]) client)
    · rw [none] at isLast
      cases isLast
    rw [isPlace] at isPath whole leadsBack
    rw [← sameEnding] at hasEnding noSlash
    obtain ⟨read, mark, rest, isRead, isName, isMark⟩ := idOfLocation?_of_ending isPath
      (whole segment (List.mem_append_right _ List.mem_cons_self)) hasEnding noSlash slashes
    rw [leadsBack slashes read isRead]
    exact addSegment_ne_of_mark web above early isMark isName
  · rw [← sameEnding] at slash ⊢
    exact idOfLocation?_of_mem isPath slash slashes

/-- An identifier of digits, letters and hyphens is read from its location, with a slash after it,
and leads back. -/
theorem leadsBack_iff_hyphens :
    ∃ base url, Url.parse belowPath.baseUrl = .ok base ∧ isWeb base.scheme = true ∧
      ending base = "" ∧ realmUrl belowPath "school" ["clients", "7f3a-22"] = .ok url ∧
      LeadsBack belowPath "school" url 1 := by
  have shape : (Url.parse belowPath.baseUrl).toOption.map
      (fun base => (isWeb base.scheme, ending base)) = some (true, "") := by decide +kernel
  obtain ⟨base, parsed, same⟩ := exists_of_toOption_map shape
  obtain ⟨web, noEnding⟩ := Prod.mk.inj same
  obtain ⟨url, isUrl, back, -⟩ := leadsBack_iff parsed web "school" "7f3a-22" 1
  exact ⟨base, url, parsed, web, noEnding, isUrl, (back noEnding).2 (by decide +kernel)⟩

/-- A blank in an identifier is encoded in its location. What is read is encoded once more, and
leads to another path. -/
theorem blank_leads_astray :
    ∃ url again, realmUrl belowPath "school" ["clients", "a b"] = .ok url ∧
      url.pathText = "/auth/admin/realms/school/clients/a%20b" ∧
      idOfLocation? (location url 0) = some "a%20b" ∧
      realmUrl belowPath "school" ["clients", "a%20b"] = .ok again ∧
      again.pathText = "/auth/admin/realms/school/clients/a%2520b" ∧
      ¬LeadsBack belowPath "school" url 0 := by
  have shape : (realmUrl belowPath "school" ["clients", "a b"]).toOption.map
      (fun url => (url.pathText, idOfLocation? (location url 0))) =
      some ("/auth/admin/realms/school/clients/a%20b", some "a%20b") := by decide +kernel
  have againShape : (realmUrl belowPath "school" ["clients", "a%20b"]).toOption.map Url.pathText =
      some "/auth/admin/realms/school/clients/a%2520b" := by decide +kernel
  obtain ⟨url, isUrl, same⟩ := exists_of_toOption_map shape
  obtain ⟨isText, isRead⟩ := Prod.mk.inj same
  obtain ⟨again, isAgain, isAgainText⟩ := exists_of_toOption_map againShape
  refine ⟨url, again, isUrl, isText, isRead, isAgain, isAgainText, ?_⟩
  rintro ⟨read, reached, isOther, isReached, back⟩
  cases isRead.symm.trans isOther
  cases isAgain.symm.trans isReached
  exact absurd (isAgainText.symm.trans (back.trans isText)) (by decide)

end RealmConvergence.Admin
