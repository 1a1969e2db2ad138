import RealmConvergence.Proofs.Admin.Calling
import RealmConvergence.Proofs.Http.Segments

/-!
# Where requests go

Names of realms, clients and roles become segments of an address. An address below the base is the
address of the names if it has a segment for each of them, which stands for it, after the segments
of the base (`Addresses`). This is so exactly if every name is plain and the path of the base does
not consist of two slashes, and then other names have another address; every request of a call goes
to the address of the call's names (`resourceUrl_addresses_iff`).

A name with a meaning of its own in a path has none as a segment. The names of the place itself and
of the place above are passed over, so what is meant for a role goes to all roles
(`resourceUrl_passes_over`), and breaks in a name are dropped.
-/

set_option autoImplicit false

namespace RealmConvergence.Admin

open Dialogue (Course)
open Http (Wire Request Url)
open Http.Url

/-! ## Addresses below the base -/

/-- Segments without an empty one at their end. -/
def withoutEmptyEnd (segments : List String) : List String :=
  if segments.getLast? = some "" then segments.dropLast else segments

/-- The address is the one of the names below a base: it differs from the base in its path alone,
and its segments are those of the base and one for each name, which stands for it. -/
structure Addresses (base : Url) (names : List String) (url : Url) : Prop where
  /-- All but the path is as in the base. -/
  elsewhere : url = { base with path := url.path }
  /-- The segments of the names come after those of the base. -/
  below : ∃ written, url.pathSegments = withoutEmptyEnd base.pathSegments ++ written ∧
    List.Forall₂ StandsFor written names

variable {connection : AdminConnection} {base : Url} {names : List String}

/-! ## The path of the base -/

theorem closed_eq_withoutEmptyEnd (first second : String) (rest : List String) :
    closed (first :: second :: rest) = withoutEmptyEnd (first :: second :: rest) :=
  rfl

theorem filled_closed (path : List String) :
    filled (closed path) = filled (withoutEmptyEnd path) := by
  match path with
  | [] => rfl
  | [only] =>
    unfold withoutEmptyEnd
    split
    · next isEmpty =>
      cases Option.some.inj isEmpty
      rfl
    · rfl
  | first :: second :: rest => rw [closed_eq_withoutEmptyEnd]

/-- The path of a base is kept but for an empty end, unless it consists of two slashes. -/
theorem kept_closed_iff {path : List String} (some : path ≠ []) :
    kept (closed path) = withoutEmptyEnd path ↔ path ≠ ["", ""] := by
  match path with
  | [] => exact absurd rfl some
  | [only] =>
    refine ⟨fun _ => by simp, fun _ => ?_⟩
    by_cases isEmpty : only = ""
    · subst isEmpty
      rfl
    · have lastFull : withoutEmptyEnd [only] = [only] :=
        if_neg fun last => isEmpty (Option.some.inj last)
      rw [lastFull]
      exact if_neg fun isRoot => isEmpty (List.cons.inj isRoot).1
  | first :: second :: rest =>
    rw [closed_eq_withoutEmptyEnd]
    constructor
    · rintro same isTwoSlashes
      rw [isTwoSlashes] at same
      exact absurd same (by decide)
    · intro noTwoSlashes
      refine if_neg fun isRoot => noTwoSlashes ?_
      unfold withoutEmptyEnd at isRoot
      split at isRoot
      · next last =>
        have whole := List.dropLast_append_getLast? "" last
        rw [isRoot] at whole
        exact whole.symm
      · cases isRoot

/-! ## The path of an address -/

theorem whole_addedSegment (name : String) : Whole (addedSegment name) := by
  intro character member
  rw [addedSegment, String.toList_ofList] at member
  refine beq_eq_false_iff_ne.2 ?_
  rintro rfl
  exact whole_writtenSegment member (by decide)

/-- Adding a name to segments without slashes brings no slash into any. -/
theorem whole_addSegment {scheme : String} (web : isWeb scheme = true) {path : List String}
    (whole : ∀ segment ∈ path, Whole segment) (name : String) :
    ∀ segment ∈ addSegment scheme path name, Whole segment := by
  have keptWhole : ∀ segment ∈ kept path, Whole segment := by
    unfold kept
    split
    · exact fun _ member => nomatch member
    · exact whole
  have extended {early : List String} {last : String}
      (earlyWhole : ∀ segment ∈ early, Whole segment)
      (lastWhole : Whole last) : ∀ segment ∈ early ++ [last], Whole segment := by
    intro segment member
    rcases List.mem_append.1 member with before | isLast
    · exact earlyWhole segment before
    · rwa [List.mem_singleton.1 isLast]
  rw [addSegment_eq web]
  split
  · exact whole
  · split
    · exact extended (fun segment member => keptWhole segment (mem_parent member)) .nil
    · split
      · exact extended keptWhole .nil
      · exact extended keptWhole (whole_addedSegment name)

theorem whole_foldl_addSegment {scheme : String} (web : isWeb scheme = true) (names : List String)
    {path : List String} (whole : ∀ segment ∈ path, Whole segment) :
    ∀ segment ∈ names.foldl (addSegment scheme) path, Whole segment := by
  induction names generalizing path with
  | nil => exact whole
  | cons name rest ih => exact ih (whole_addSegment web whole name)

theorem mem_of_mem_closed {path : List String} {segment : String}
    (member : segment ∈ closed path) : segment ∈ path := by
  match path with
  | [] => exact member
  | [only] => exact member
  | first :: second :: rest =>
    rw [closed_eq_withoutEmptyEnd] at member
    unfold withoutEmptyEnd at member
    split at member
    · exact List.dropLast_subset _ member
    · exact member

/-- The segments of the names are added to a base of the web. -/
theorem resourceUrl_segments (parsed : Url.parse connection.baseUrl = .ok base)
    (web : isWeb base.scheme = true) (names : List String) :
    resourceUrl connection names = .ok { base with
        path := .segments (names.foldl (addSegment base.scheme) (closed base.pathSegments)) } ∧
      ∀ segment ∈ names.foldl (addSegment base.scheme) (closed base.pathSegments),
        Whole segment := by
  obtain ⟨isPath, -, whole⟩ := segments_of_parse parsed web
  constructor
  · simp only [resourceUrl, parsed, Url.extend?, isPath]
  · exact whole_foldl_addSegment web names fun segment member =>
      whole segment (mem_of_mem_closed member)

/-- A base of the web can carry names. -/
theorem resourceUrl_eq_ok (parsed : Url.parse connection.baseUrl = .ok base)
    (web : isWeb base.scheme = true) (names : List String) :
    ∃ url, resourceUrl connection names = .ok url ∧ url = { base with path := url.path } ∧
      url.pathSegments = names.foldl (addSegment base.scheme) (closed base.pathSegments) := by
  obtain ⟨isUrl, whole⟩ := resourceUrl_segments parsed web names
  exact ⟨_, isUrl, rfl, pathSegments_of_whole rfl whole⟩

/-! ## Names and their segments -/

theorem kept_of_filled {path : List String} (some : 0 < filled path) : kept path = path :=
  if_neg fun isRoot => by simp [isRoot] at some

/-- No empty segment stands for a name. -/
theorem ne_empty_of_standsFor {segment name : String} (stands : StandsFor segment name)
    (named : name ≠ "") : segment ≠ "" := by
  rintro rfl
  exact named (Option.some.inj (stands.decodes.symm.trans (Http.ofBytes?_flatMap [])))

/-- As many segments are filled as there are names that they stand for. -/
theorem filled_of_standsFor {written : List String} (stand : List.Forall₂ StandsFor written names)
    (named : ∀ name ∈ names, name ≠ "") : filled written = names.length := by
  induction stand with
  | nil => rfl
  | cons stands _ ih =>
      obtain ⟨firstNamed, restNamed⟩ := List.forall_mem_cons.1 named
      rw [← List.singleton_append, filled_append, ih restNamed,
        filled_singleton (ne_empty_of_standsFor stands firstNamed), List.length_cons, Nat.add_comm]

theorem forall₂_standsFor_iff :
    List.Forall₂ StandsFor (names.map addedSegment) names ↔ ∀ name ∈ names, IsPlain name := by
  rw [List.forall₂_map_left_iff, List.forall₂_same]
  exact forall₂_congr fun name _ => standsFor_addedSegment_iff

/-- **What is added to a base is the address of the names** exactly if every name is plain and the
base does not consist of two slashes. -/
theorem addresses_iff {url : Url} (web : isWeb base.scheme = true) (some : base.pathSegments ≠ [])
    (elsewhere : url = { base with path := url.path })
    (isAdded : url.pathSegments = names.foldl (addSegment base.scheme) (closed base.pathSegments))
    (any : names ≠ []) (named : ∀ name ∈ names, name ≠ "") :
    Addresses base names url ↔ (∀ name ∈ names, IsPlain name) ∧ base.pathSegments ≠ ["", ""] := by
  have count : 0 < names.length := List.length_pos_iff.2 any
  constructor
  · rintro ⟨-, written, below, stand⟩
    rw [isAdded] at below
    -- no segment is lost: there are as many as in the base, and one for each name
    have all : filled (names.foldl (addSegment base.scheme) (closed base.pathSegments)) =
        filled (closed base.pathSegments) + names.length := by
      rw [below, filled_append, filled_of_standsFor stand named, filled_closed]
    have added := (filled_foldl_addSegment web names _).2 all
    rw [kept_of_filled (by omega), below] at added
    have sameLength : written.length = (names.map addedSegment).length := by
      rw [stand.length_eq, List.length_map]
    obtain ⟨sameBase, rfl⟩ := List.append_inj' added sameLength
    exact ⟨forall₂_standsFor_iff.1 stand, (kept_closed_iff some).1 sameBase.symm⟩
  · rintro ⟨plain, noTwoSlashes⟩
    have added := kept_foldl_addSegment web plain named (closed base.pathSegments)
    refine ⟨elsewhere, names.map addedSegment, ?_, forall₂_standsFor_iff.2 plain⟩
    rw [isAdded, ← (kept_closed_iff some).2 noTwoSlashes, ← added, kept_of_filled]
    have more := congrArg filled added
    rw [filled_kept, filled_append,
      filled_of_standsFor (forall₂_standsFor_iff.2 plain) named] at more
    omega

/-- Plain names below a base are told by their segments. -/
theorem names_of_foldl_addSegment {scheme : String} (web : isWeb scheme = true)
    {path first second : List String} (plain : ∀ name ∈ first, IsPlain name ∧ name ≠ "")
    (otherPlain : ∀ name ∈ second, IsPlain name ∧ name ≠ "")
    (same : first.foldl (addSegment scheme) path = second.foldl (addSegment scheme) path) :
    first = second := by
  have added := kept_foldl_addSegment web (fun name isName => (plain name isName).1)
    (fun name isName => (plain name isName).2) path
  rw [same, kept_foldl_addSegment web (fun name isName => (otherPlain name isName).1)
    (fun name isName => (otherPlain name isName).2) path] at added
  have sameSegments := List.append_cancel_left added
  have stand := forall₂_standsFor_iff.2 fun name isName => (plain name isName).1
  rw [← sameSegments] at stand
  exact List.right_unique_forall₂' (fun _ _ _ one other => one.unique other) stand
    (forall₂_standsFor_iff.2 fun name isName => (otherPlain name isName).1)

/-! ## Requests -/

/-- A user in the address is no part of its path. -/
theorem path_withoutUser (url : Url) : (Http.withoutUser url).2.path = url.path := by
  unfold Http.withoutUser
  split
  · rfl
  · dsimp only
    split
    · rfl
    · split <;> rfl

/-- The request of a call goes to the path of its address. -/
theorem path_request (call : AdminCall) (url : Url) (token : String) :
    (call.request url token).url.path = url.path := by
  cases call <;> exact path_withoutUser url

/-- **All requests of a call go to its address**, but those for tokens. -/
theorem place_of_callTraffic {call : AdminCall} {traffic : Traffic} {came : Option call.Reply}
    (shown : CallTraffic connection call traffic came) :
    ∀ request answer, ⟨Wire.send request, answer⟩ ∈ traffic →
      ForToken connection (.send request) ∨
        ∃ url, resourceUrl connection (["admin", "realms"] ++ call.path) = .ok url ∧
          request.url.path = url.path := by
  have own {call : AdminCall} {request : Request} (requests : call.Requests connection request) :
      ∃ url, resourceUrl connection (["admin", "realms"] ++ call.path) = .ok url ∧
        request.url.path = url.path := by
    obtain ⟨url, token, place, rfl⟩ := requests
    exact ⟨url, place, path_request call url token⟩
  induction shown with
  | unsent _ aside | brokenOff aside => exact fun request answer member => .inl (aside _ member)
  | once aside requests tells =>
      intro request answer member
      rcases List.mem_append.1 member with early | last
      · exact .inl (aside _ early)
      · cases List.mem_singleton.1 last
        exact .inr (own requests)
  | again aside requests lookup fails ih =>
      intro request answer member
      rcases List.mem_append.1 member with early | late
      · exact .inl (aside _ early)
      · rcases List.mem_cons.1 late with same | later
        · cases same
          exact .inr (own requests)
        · exact ih request answer later

/-- **Every request goes to exactly what it names**, where names are plain. Below a base of the web
names have an address; it is the address of the names exactly if every name is plain and the base
does not consist of two slashes. Plain names have one address, which other plain names do not have.
All requests of a call go to the address of the names that the call is about, but those for
tokens. -/
theorem resourceUrl_addresses_iff (parsed : Url.parse connection.baseUrl = .ok base)
    (web : isWeb base.scheme = true) :
    (∀ names : List String, names ≠ [] → (∀ name ∈ names, name ≠ "") →
      ∃ url, resourceUrl connection names = .ok url ∧
        (Addresses base names url ↔
          (∀ name ∈ names, IsPlain name) ∧ base.pathSegments ≠ ["", ""])) ∧
    (∀ first second : List String, (∀ name ∈ first, IsPlain name ∧ name ≠ "") →
      (∀ name ∈ second, IsPlain name ∧ name ≠ "") →
      resourceUrl connection first = resourceUrl connection second → first = second) ∧
    ∀ (call : AdminCall) (token : Option Token) (traffic : Traffic) (came : Option call.Reply)
      (last : Option Token), Course (settle connection call token) traffic (came, last) →
      ∀ request answer, ⟨Wire.send request, answer⟩ ∈ traffic →
        ForToken connection (.send request) ∨
          ∃ url, resourceUrl connection (["admin", "realms"] ++ call.path) = .ok url ∧
            request.url.path = url.path := by
  obtain ⟨-, some, -⟩ := segments_of_parse parsed web
  refine ⟨fun names any named => ?_, fun first second plain otherPlain same => ?_, ?_⟩
  · obtain ⟨url, isUrl, elsewhere, isAdded⟩ := resourceUrl_eq_ok parsed web names
    exact ⟨url, isUrl, addresses_iff web some elsewhere isAdded any named⟩
  · obtain ⟨url, isUrl, -, isAdded⟩ := resourceUrl_eq_ok parsed web first
    obtain ⟨other, isOther, -, otherAdded⟩ := resourceUrl_eq_ok parsed web second
    obtain rfl : url = other := Except.ok.inj (isUrl.symm.trans (same.trans isOther))
    exact names_of_foldl_addSegment web plain otherPlain (isAdded.symm.trans otherAdded)
  · exact fun call token traffic came last course =>
      place_of_callTraffic (callTraffic_of_course course)

/-- A connection to a service on the same machine that stands below a path. -/
def belowPath : AdminConnection :=
  { baseUrl := "http://[::1]:8080/auth/", adminRealm := "master", clientId := "admin-cli"
    credentials := .password "admin" "admin" }

theorem parse_belowPath : ∃ base, Url.parse belowPath.baseUrl = .ok base ∧ base.scheme = "http" ∧
    base.query = none ∧ base.pathSegments = ["auth", ""] := by
  have shape : (Url.parse belowPath.baseUrl).toOption.map
      (fun base => (base.scheme, base.query, base.pathSegments)) =
      some ("http", none, ["auth", ""]) := by decide +kernel
  obtain ⟨base, parsed, same⟩ := exists_of_toOption_map shape
  simp only [Prod.mk.injEq] at same
  exact ⟨base, parsed, same⟩

/-- A role of the school has a blank in its name, and its address has the role as one segment. -/
theorem resourceUrl_addresses_iff_school :
    ∃ base url, Url.parse belowPath.baseUrl = .ok base ∧ isWeb base.scheme = true ∧
      realmUrl belowPath "school" ["roles", "HEAD TEACHER"] = .ok url ∧
      Addresses base ["admin", "realms", "school", "roles", "HEAD TEACHER"] url := by
  obtain ⟨base, parsed, isHttp, -, isPath⟩ := parse_belowPath
  have web : isWeb base.scheme = true := isHttp ▸ rfl
  obtain ⟨url, isUrl, addresses⟩ := (resourceUrl_addresses_iff parsed web).1
    ["admin", "realms", "school", "roles", "HEAD TEACHER"] (by decide) (by decide)
  refine ⟨base, url, parsed, web, isUrl, addresses.2 ⟨by decide, ?_⟩⟩
  rw [isPath]
  decide

/-! ## Names that mean another place -/

/-- **The names of the place itself and of the place above are passed over**, so the address is the
one of the other names. -/
theorem resourceUrl_passes_over (connection : AdminConnection) (before after : List String)
    {name : String} (means : name = "." ∨ name = "..") :
    resourceUrl connection (before ++ name :: after) =
      resourceUrl connection (before ++ after) := by
  have passed (scheme : String) (path : List String) : addSegment scheme path name = path :=
    if_pos means
  unfold resourceUrl
  split
  · rfl
  · next base _ =>
    have same : base.extend? (before ++ name :: after) = base.extend? (before ++ after) := by
      unfold Url.extend?
      split
      · rfl
      · rw [List.foldl_append, List.foldl_cons, passed, ← List.foldl_append]
    rw [same]

/-- The address for tokens has no segment for an administration realm that is named by two dots, and
for one with a tab in its name it has the segment of another. -/
theorem tokenUrl_misses_realm :
    ∃ base above broken, Url.parse belowPath.baseUrl = .ok base ∧ isWeb base.scheme = true ∧
      base.query = none ∧
      tokenUrl { belowPath with adminRealm := ".." } = .ok above ∧
      above.pathSegments = ["auth", "realms", "protocol", "openid-connect", "token"] ∧
      ¬Addresses base ["realms", "..", "protocol", "openid-connect", "token"] above ∧
      tokenUrl { belowPath with adminRealm := "a\tb" } = .ok broken ∧
      broken.pathSegments = ["auth", "realms", "ab", "protocol", "openid-connect", "token"] ∧
      ¬Addresses base ["realms", "a\tb", "protocol", "openid-connect", "token"] broken := by
  obtain ⟨base, parsed, isHttp, noQuery, isPath⟩ := parse_belowPath
  have web : isWeb base.scheme = true := isHttp ▸ rfl
  have some : base.pathSegments ≠ [] := isPath ▸ List.cons_ne_nil _ _
  obtain ⟨above, isAbove, elsewhere, added⟩ := resourceUrl_eq_ok parsed web
    ["realms", "..", "protocol", "openid-connect", "token"]
  obtain ⟨broken, isBroken, otherElsewhere, otherAdded⟩ := resourceUrl_eq_ok parsed web
    ["realms", "a\tb", "protocol", "openid-connect", "token"]
  refine ⟨base, above, broken, parsed, web, noQuery, isAbove, ?_, ?_, isBroken, ?_, ?_⟩
  · rw [added, isHttp, isPath]
    decide +kernel
  · rw [addresses_iff web some elsewhere added (by decide) (by decide)]
    exact fun plain => absurd plain.1 (by decide)
  · rw [otherAdded, isHttp, isPath]
    decide +kernel
  · rw [addresses_iff web some otherElsewhere otherAdded (by decide) (by decide)]
    exact fun plain => absurd plain.1 (by decide)

end RealmConvergence.Admin
