import RealmConvergence.Proofs.Configuration.Layers

/-!
# What a merge holds at every place

Objects are merged member by member, so what a merge holds is told place by place, where a place is
a path of member names. What stands there in the added value decides (`merge_overrides`): anything
but an object replaces what was held, an object takes in what was held where that is an object too,
and where the added value has nothing, the last thing on the way decides whether what was held is
still seen.

So layers lose a place only where a later one has something other than an object on the way there,
and they make up no place (`mergeAll_keepsPlaces`). Merging the same layer a second time changes
nothing (`merge_merge_self`).
-/

set_option autoImplicit false

namespace RealmConvergence

/-! ## Places below the members of objects -/

namespace Json

/-- Whether a value is an object. -/
def isObject (value : Json) : Bool := value.members?.isSome

/-- The value at a path of member names. -/
def memberAt? (value : Json) : List String → Option Json
  | [] => some value
  | name :: rest => (value.member? name).bind (·.memberAt? rest)

theorem memberAt?_append (value : Json) (front rest : List String) :
    value.memberAt? (front ++ rest) = (value.memberAt? front).bind (·.memberAt? rest) := by
  induction front generalizing value with
  | nil => rfl
  | cons name front ih =>
      rw [List.cons_append, memberAt?, memberAt?]
      cases value.member? name with
      | none => rfl
      | some inner => exact ih inner

theorem InOrder.member? {value inner : Json} {name : String} (ordered : value.InOrder)
    (isMember : value.member? name = some inner) : inner.InOrder := by
  cases value with
  | object members => exact ordered.child isMember
  | _ => cases isMember

/-- What stands at a place of a value in byte order is in byte order too. -/
theorem InOrder.memberAt? {value inner : Json} {path : List String} (ordered : value.InOrder)
    (found : value.memberAt? path = some inner) : inner.InOrder := by
  induction path generalizing value with
  | nil =>
      cases found
      exact ordered
  | cons name rest ih =>
      obtain ⟨next, isMember, there⟩ := Option.bind_eq_some_iff.1 found
      exact ih (ordered.member? isMember) there

/-- On a path that leads nowhere there is a last place, which lacks the next member. -/
theorem exists_lastOnTheWay {value : Json} {path : List String}
    (missing : value.memberAt? path = none) :
    ∃ front name rest last, path = front ++ name :: rest ∧ value.memberAt? front = some last ∧
      last.member? name = none := by
  induction path generalizing value with
  | nil => cases missing
  | cons name rest ih =>
      cases found : value.member? name with
      | none => exact ⟨[], name, rest, value, rfl, rfl, found⟩
      | some inner =>
          rw [memberAt?, found] at missing
          obtain ⟨front, next, beyond, last, rfl, there, lacks⟩ := ih missing
          refine ⟨name :: front, next, beyond, last, rfl, ?_, lacks⟩
          rw [memberAt?, found]
          exact there

/-- The longest part of a path that leads somewhere in a value, and what stands there. -/
structure LastOnTheWay (value : Json) (path front : List String) (last : Json) : Prop where
  onTheWay : front <+: path
  found : value.memberAt? front = some last
  longest : ∀ further, further <+: path → (value.memberAt? further).isSome → further <+: front

/-- A place that lacks the next member is the last on the way. -/
theorem LastOnTheWay.of_lacks {value last : Json} {front rest : List String} {name : String}
    (found : value.memberAt? front = some last) (lacks : last.member? name = none) :
    LastOnTheWay value (front ++ name :: rest) front last where
  onTheWay := List.prefix_append front _
  found := found
  longest further onTheWay there := by
    rcases List.prefix_or_prefix_of_prefix onTheWay (List.prefix_append front (name :: rest)) with
      shorter | ⟨more, rfl⟩
    · exact shorter
    · rw [memberAt?_append, found, Option.bind_some] at there
      cases more with
      | nil => exact (List.append_nil front).symm ▸ List.prefix_rfl
      | cons next others =>
          obtain ⟨rfl, -⟩ :=
            List.cons_prefix_cons.1 ((List.prefix_append_right_inj front).1 onTheWay)
          rw [memberAt?, lacks] at there
          cases there

end Json

namespace Configuration

open Json (LastOnTheWay)

variable {held added : Json}

/-! ## One step -/

theorem merge_null (added : Json) : merge .null added = added := by
  cases added <;> rfl

theorem merge_of_not_isObject (held : Json) (isOther : added.isObject = false) :
    merge held added = added := by
  cases added with
  | object members => cases isOther
  | _ => rfl

/-- Members written over each other: a name that is added is merged, and any other stays. -/
theorem lookup_mergeMembers {added : List (String × Json)} (ordered : Entries.Ascending added)
    (held : List (String × Json)) (name : String) :
    Entries.lookup name (mergeMembers held added) =
      match Entries.lookup name added with
      | some value => some (merge ((Entries.lookup name held).getD .null) value)
      | none => Entries.lookup name held := by
  induction added generalizing held with
  | nil => rfl
  | cons member rest ih =>
      obtain ⟨other, value⟩ := member
      obtain ⟨first, restOrdered⟩ := List.pairwise_cons.1 ordered
      rw [mergeMembers, ih restOrdered, Entries.lookup_cons, Entries.lookup_put]
      by_cases same : name = other
      · subst same
        rw [Entries.lookup_eq_none_of_lt first, if_pos rfl, if_pos rfl]
      · rw [if_neg same, if_neg same]

/-- **The members of a merge.** A member that is added is merged with the one that was held. Of the
other members that were held, an added object keeps all, and anything else none. -/
theorem member?_merge (ordered : added.InOrder) (held : Json) (name : String) :
    (merge held added).member? name =
      match added.member? name with
      | some value => some (merge ((held.member? name).getD .null) value)
      | none => if added.isObject then held.member? name else none := by
  cases added with
  | object added =>
      cases held with
      | object members => exact lookup_mergeMembers ordered.1 members name
      | _ =>
          show Entries.lookup name added = match Entries.lookup name added with
            | some value => some (merge .null value)
            | none => none
          cases Entries.lookup name added with
          | none => rfl
          | some value => exact congrArg some (merge_null value).symm
  | _ => rfl

/-! ## All places -/

/-- Where the added value has something, that is merged with what was held there. -/
theorem memberAt?_merge (ordered : added.InOrder) (held : Json) {path : List String}
    {value : Json} (found : added.memberAt? path = some value) :
    (merge held added).memberAt? path =
      some (merge ((held.memberAt? path).getD .null) value) := by
  induction path generalizing held added with
  | nil =>
      cases found
      rfl
  | cons name rest ih =>
      obtain ⟨inner, isMember, there⟩ := Option.bind_eq_some_iff.1 found
      have innerOrdered : inner.InOrder := ordered.member? isMember
      rw [Json.memberAt?, member?_merge ordered, isMember, Option.bind_some,
        ih innerOrdered _ there, Json.memberAt?]
      cases held.member? name with
      | some before => rfl
      | none => cases rest <;> rfl

/-- Where the added value has nothing, what was held is seen if the last thing on the way there is
an object. -/
theorem memberAt?_merge_beyond (ordered : added.InOrder) (held : Json) {front rest : List String}
    {name : String} {last : Json} (found : added.memberAt? front = some last)
    (lacks : last.member? name = none) :
    (merge held added).memberAt? (front ++ name :: rest) =
      if last.isObject then held.memberAt? (front ++ name :: rest) else none := by
  have lastOrdered : last.InOrder := ordered.memberAt? found
  rw [Json.memberAt?_append, memberAt?_merge ordered held found, Option.bind_some, Json.memberAt?,
    member?_merge lastOrdered, lacks, Json.memberAt?_append]
  cases last.isObject with
  | false => rfl
  | true => cases held.memberAt? front <;> rfl

/-- What a merge holds, place by place. -/
structure Overrides (held added merged : Json) : Prop where
  /-- Anything but an object replaces what was held. -/
  replaces : ∀ path value, added.memberAt? path = some value → value.isObject = false →
    merged.memberAt? path = some value
  /-- An object is taken as it is where no object was held. -/
  takes : ∀ path members, added.memberAt? path = some (.object members) →
    (∀ kept, held.memberAt? path ≠ some (.object kept)) →
      merged.memberAt? path = some (.object members)
  /-- An object leaves the other members of the object that was held as they were. -/
  joins : ∀ path members kept, added.memberAt? path = some (.object members) →
    held.memberAt? path = some (.object kept) → ∃ joined,
      merged.memberAt? path = some (.object joined) ∧
        ∀ name, Entries.lookup name members = none →
          Entries.lookup name joined = Entries.lookup name kept
  /-- Where nothing is added, what was held is seen exactly if the last thing that is added on the
  way there is an object. -/
  shows : ∀ path, added.memberAt? path = none → ∃ front last,
    LastOnTheWay added path front last ∧
      merged.memberAt? path = if last.isObject then held.memberAt? path else none

/-- **A merge overrides what was held by what is added, at every place.** -/
theorem merge_overrides (ordered : added.InOrder) (held : Json) :
    Overrides held added (merge held added) where
  replaces path value found isOther := by
    rw [memberAt?_merge ordered held found, merge_of_not_isObject _ isOther]
  takes path members found noObject := by
    rw [memberAt?_merge ordered held found]
    cases before : held.memberAt? path with
    | none => rfl
    | some value =>
        cases value with
        | object kept => exact absurd before (noObject kept)
        | _ => rfl
  joins path members kept found before := by
    refine ⟨mergeMembers kept members, ?_, fun name lacks => ?_⟩
    · rw [memberAt?_merge ordered held found, before]
      rfl
    · rw [lookup_mergeMembers (ordered.memberAt? found).1, lacks]
  shows path missing := by
    obtain ⟨front, name, rest, last, rfl, found, lacks⟩ := Json.exists_lastOnTheWay missing
    exact ⟨front, last, .of_lacks found lacks, memberAt?_merge_beyond ordered held found lacks⟩

/-! ## Places lost and found -/

/-- Something other than an object stands on the way to a place. -/
def Obstructs (value : Json) (path : List String) : Prop :=
  ∃ front other, front <+: path ∧ front ≠ path ∧ value.memberAt? front = some other ∧
    other.isObject = false

/-- A merge loses a place only where what is added obstructs it. -/
theorem obstructs_of_lost (ordered : added.InOrder) {path : List String}
    (there : (held.memberAt? path).isSome) (lost : (merge held added).memberAt? path = none) :
    Obstructs added path := by
  cases found : added.memberAt? path with
  | some value =>
      rw [memberAt?_merge ordered held found] at lost
      cases lost
  | none =>
      obtain ⟨front, last, onTheWay, seen⟩ := (merge_overrides ordered held).shows path found
      cases isObject : last.isObject with
      | false =>
          refine ⟨front, last, onTheWay.onTheWay, ?_, onTheWay.found, isObject⟩
          rintro rfl
          cases found.symm.trans onTheWay.found
      | true =>
          rw [seen, isObject, if_pos rfl] at lost
          rw [lost] at there
          cases there

/-- A merge makes up no place. -/
theorem held_or_added_of_merged (ordered : added.InOrder) {path : List String}
    (there : ((merge held added).memberAt? path).isSome) :
    (held.memberAt? path).isSome ∨ (added.memberAt? path).isSome := by
  cases found : added.memberAt? path with
  | some value => exact .inr rfl
  | none =>
      obtain ⟨front, last, -, seen⟩ := (merge_overrides ordered held).shows path found
      rw [seen] at there
      split at there
      · exact .inl there
      · cases there

/-! ## The same layer again -/

mutual
/-- Merging the same value in a second time changes nothing. -/
theorem merge_merge_self : ∀ (added : Json) {held : Json}, held.InOrder → added.InOrder →
    merge (merge held added) added = merge held added
  | .object added, held, heldOrdered, ordered => by
    have once := inOrder_merge (.object added) heldOrdered ordered
    have twice := inOrder_merge (.object added) once ordered
    have members := member?_merge ordered held
    obtain ⟨joined, isObject⟩ : ∃ joined, merge held (.object added) = .object joined := by
      cases held <;> exact ⟨_, rfl⟩
    rw [isObject] at once twice members ⊢
    refine congrArg Json.object (Entries.eq_of_lookup_eq twice.1 once.1 fun name => ?_)
    rw [lookup_mergeMembers ordered.1]
    cases found : Entries.lookup name added with
    | none => rfl
    | some value =>
        have merged : Entries.lookup name joined =
            some (merge ((held.member? name).getD .null) value) := by
          have isMember := members name
          rw [show (Json.object added).member? name = some value from found] at isMember
          exact isMember
        have before : ((held.member? name).getD .null).InOrder := by
          cases inner : held.member? name with
          | none => trivial
          | some value => exact heldOrdered.member? inner
        rw [merged]
        exact congrArg some (merge_merge_member added found before ordered.2)
  | .null, _, _, _ | .bool _, _, _, _ | .number _, _, _, _ | .string _, _, _, _
  | .array _, _, _, _ => rfl

theorem merge_merge_member : ∀ (added : List (String × Json)) {name : String} {value held : Json},
    Entries.lookup name added = some value → held.InOrder → Json.MembersInOrder added →
      merge (merge held value) value = merge held value
  | [], _, _, _, found, _, _ => nomatch found
  | (other, first) :: rest, name, value, held, found, heldOrdered, ordered => by
    rw [Entries.lookup_cons] at found
    split at found
    · cases found
      exact merge_merge_self first heldOrdered ordered.1
    · exact merge_merge_member rest found heldOrdered ordered.2
end

/-! ## Any number of layers -/

/-- What layers become when they are merged one after the other: a place of one layer is lost only
where a later layer obstructs it, and every place below the root is one of some layer. -/
structure KeepsPlaces (layers : List Json) (merged : Json) : Prop where
  loses : ∀ before layer after path, layers = before ++ layer :: after →
    (layer.memberAt? path).isSome → merged.memberAt? path = none →
      ∃ later ∈ after, Obstructs later path
  finds : ∀ path, path ≠ [] → (merged.memberAt? path).isSome →
    ∃ layer ∈ layers, (layer.memberAt? path).isSome

/-- Merging more layers loses a place only where one of them obstructs it. -/
theorem exists_obstructs_of_lost {layers : List Json} (ordered : ∀ layer ∈ layers, layer.InOrder)
    {path : List String} (there : (held.memberAt? path).isSome)
    (lost : (layers.foldl merge held).memberAt? path = none) :
    ∃ later ∈ layers, Obstructs later path := by
  induction layers generalizing held with
  | nil =>
      rw [List.foldl_nil] at lost
      rw [lost] at there
      cases there
  | cons layer rest ih =>
      obtain ⟨first, others⟩ := List.forall_mem_cons.1 ordered
      cases merged : (merge held layer).memberAt? path with
      | none => exact ⟨layer, List.mem_cons_self, obstructs_of_lost first there merged⟩
      | some value =>
          obtain ⟨later, member, obstructs⟩ :=
            ih others (Option.isSome_of_eq_some merged) lost
          exact ⟨later, List.mem_cons_of_mem layer member, obstructs⟩

/-- Merging more layers makes up no place. -/
theorem held_or_layer_of_merged {layers : List Json} (ordered : ∀ layer ∈ layers, layer.InOrder)
    {path : List String} (there : ((layers.foldl merge held).memberAt? path).isSome) :
    (held.memberAt? path).isSome ∨ ∃ layer ∈ layers, (layer.memberAt? path).isSome := by
  induction layers generalizing held with
  | nil => exact .inl there
  | cons layer rest ih =>
      obtain ⟨first, others⟩ := List.forall_mem_cons.1 ordered
      rcases ih others there with merged | ⟨later, member, found⟩
      · rcases held_or_added_of_merged first merged with before | found
        · exact .inl before
        · exact .inr ⟨layer, List.mem_cons_self, found⟩
      · exact .inr ⟨later, List.mem_cons_of_mem layer member, found⟩

/-- **Layers that are merged in order keep their places**, unless a later one obstructs them. -/
theorem mergeAll_keepsPlaces {layers : List Json} (ordered : ∀ layer ∈ layers, layer.InOrder) :
    KeepsPlaces layers (mergeAll layers) where
  loses before layer after path places there lost := by
    subst places
    have parts := List.forall_mem_append.1 ordered
    obtain ⟨layerOrdered, afterOrdered⟩ := List.forall_mem_cons.1 parts.2
    rw [mergeAll, List.foldl_append, List.foldl_cons] at lost
    refine exists_obstructs_of_lost afterOrdered ?_ lost
    obtain ⟨value, found⟩ := Option.isSome_iff_exists.1 there
    rw [memberAt?_merge layerOrdered _ found]
    rfl
  finds path below there := by
    rcases held_or_layer_of_merged ordered there with root | found
    · cases path with
      | nil => exact absurd rfl below
      | cons name rest => cases root
    · exact found

/-- The last layer once more changes nothing. -/
theorem mergeAll_repeated {layers : List Json} {last : Json}
    (ordered : ∀ layer ∈ layers, layer.InOrder) (lastOrdered : last.InOrder) :
    mergeAll (layers ++ [last, last]) = mergeAll (layers ++ [last]) := by
  rw [mergeAll, mergeAll, List.foldl_append, List.foldl_append]
  exact merge_merge_self last (inOrder_mergeAll ordered) lastOrdered

/-! ## The law of merges -/

/-- **Merges, place by place.** What is added overrides what was held: anything but an object
replaces what stands at its place, an object takes in what was held there, and where nothing is
added, what was held is seen unless something other than an object is added on the way. So a place
is lost only where it is obstructed, no place is made up, and the same value merged in again changes
nothing. All this is true of any number of layers too. -/
theorem merge_by_place (heldOrdered : held.InOrder) (ordered : added.InOrder) :
    Overrides held added (merge held added) ∧
      (∀ path, (held.memberAt? path).isSome → (merge held added).memberAt? path = none →
        Obstructs added path) ∧
      (∀ path, ((merge held added).memberAt? path).isSome →
        (held.memberAt? path).isSome ∨ (added.memberAt? path).isSome) ∧
      merge (merge held added) added = merge held added ∧
      ∀ layers : List Json, (∀ layer ∈ layers, layer.InOrder) →
        KeepsPlaces layers (mergeAll layers) ∧
          mergeAll (layers ++ [added, added]) = mergeAll (layers ++ [added]) :=
  ⟨merge_overrides ordered held, fun _ => obstructs_of_lost ordered,
    fun _ => held_or_added_of_merged ordered, merge_merge_self added heldOrdered ordered,
    fun _ layersOrdered =>
      ⟨mergeAll_keepsPlaces layersOrdered, mergeAll_repeated layersOrdered ordered⟩⟩

/-- A layer with clients and a realm. -/
def schoolLayer : Json :=
  .object [("clients", .array [.string "portal", .string "reporting"]),
    ("realm", .object [("enabled", .bool true), ("name", .string "school")])]

/-- A layer that replaces the clients and touches one setting of the realm. -/
def closedLayer : Json :=
  .object [("clients", .null), ("realm", .object [("enabled", .bool false)])]

/-- The clients are replaced as a whole and the setting is overridden, while the name of the realm
stays. -/
theorem merge_by_place_school :
    schoolLayer.InOrder ∧ closedLayer.InOrder ∧
      Overrides schoolLayer closedLayer (merge schoolLayer closedLayer) ∧
      (merge schoolLayer closedLayer).memberAt? ["clients"] = some .null ∧
      (merge schoolLayer closedLayer).memberAt? ["realm", "enabled"] = some (.bool false) ∧
      ((merge schoolLayer closedLayer).memberAt? ["realm", "name"]).isSome ∧
      merge (merge schoolLayer closedLayer) closedLayer = merge schoolLayer closedLayer ∧
      KeepsPlaces [schoolLayer, closedLayer] (mergeAll [schoolLayer, closedLayer]) := by
  have ascending (first second : Json) (names : String × String) (ahead : names.1 < names.2) :
      Entries.Ascending [(names.1, first), (names.2, second)] :=
    List.pairwise_pair.2 ahead
  have held : schoolLayer.InOrder :=
    ⟨ascending _ _ ("clients", "realm") (by decide), ⟨trivial, trivial, trivial⟩,
      ⟨ascending _ _ ("enabled", "name") (by decide), trivial, trivial, trivial⟩, trivial⟩
  have added : closedLayer.InOrder :=
    ⟨ascending _ _ ("clients", "realm") (by decide), trivial,
      ⟨List.pairwise_singleton _ _, trivial, trivial⟩, trivial⟩
  obtain ⟨overrides, loses, -, again, layered⟩ := merge_by_place held added
  have stays : ((merge schoolLayer closedLayer).memberAt? ["realm", "name"]).isSome := by
    rw [Option.isSome_iff_ne_none]
    intro lost
    -- The way leads through the root and the realm, and both are objects.
    obtain ⟨front, other, onTheWay, different, found, isOther⟩ := loses ["realm", "name"] rfl lost
    rcases List.prefix_cons_iff.1 onTheWay with rfl | ⟨more, rfl, later⟩
    · cases found
      cases isOther
    · rcases List.prefix_cons_iff.1 later with rfl | ⟨last, rfl, atEnd⟩
      · cases found
        cases isOther
      · rw [List.prefix_nil.1 atEnd] at different
        exact different rfl
  exact ⟨held, added, overrides, overrides.replaces ["clients"] .null rfl rfl,
    overrides.replaces ["realm", "enabled"] (.bool false) rfl rfl, stays, again,
    (layered [schoolLayer, closedLayer] (by simp [held, added])).1⟩

end Configuration

end RealmConvergence
