import RealmConvergence.Yaml.Event
import RealmConvergence.Yaml.Scalar

/-!
# YAML values

A document is a tree of scalars, sequences and mappings. Keys are values of any kind, no two of them
equal; a tag of the document's own marks a value. Aliases are replaced by what they name, within
limits on nesting and on repetition.

Names of anchors are numbered as they come, a new number being the count of the names known so far.
An alias stands for the node that was last given its number.
-/

set_option autoImplicit false

namespace RealmConvergence.Yaml

/-- A YAML value. -/
inductive Value where
  | scalar (meaning : Scalar)
  | sequence (items : List Value)
  | mapping (entries : List (Value × Value))
  | tagged (tag : String) (content : Value)

namespace Value

instance : Inhabited Value := ⟨.scalar .null⟩

/-- Equality of scalars: the two zeros are equal, and so are all values that are no number. -/
def sameScalar : Scalar → Scalar → Bool
  | .real (.finite left), .real (.finite right) => left.sameValue right
  | left, right => left == right

mutual
/-- Equality of values. The order of mappings does not count. -/
def same : Value → Value → Bool
  | .scalar left, .scalar right => sameScalar left right
  | .sequence left, .sequence right => sameItems left right
  | .mapping left, .mapping right => left.length == right.length && allIn left right
  | .tagged leftTag left, .tagged rightTag right => leftTag == rightTag && same left right
  | _, _ => false

/-- Equality of items, one by one. -/
def sameItems : List Value → List Value → Bool
  | [], [] => true
  | left :: lefts, right :: rights => same left right && sameItems lefts rights
  | _, _ => false

/-- Whether every entry of a mapping stands in another. -/
def allIn : List (Value × Value) → List (Value × Value) → Bool
  | [], _ => true
  | (key, value) :: rest, others =>
    (match others.find? fun other => same key other.1 with
      | some other => same value other.2
      | none => false) && allIn rest others
end

/-- Events whose aliases are numbers. -/
structure Document where
  /-- The events; an alias holds the number of its name. -/
  events : Array (Event × Nat)
  /-- The events at which the numbers were given, the last one first. -/
  targets : List (Nat × Nat)

/-- Number the names of anchors; `names` are those known so far, `position` events have gone
before. -/
def number (names : List (String × Nat)) (position : Nat) (document : Document) :
    List Event → Except ReadError Document
  | [] => .ok document
  | event :: rest =>
    let define (properties : Properties) : Except ReadError Document :=
      let document := { document with events := document.events.push (event, 0) }
      match properties.anchor with
      | none => number names (position + 1) document rest
      | some name =>
        let fresh := names.length
        let known := (name, fresh) :: names.filter fun entry => entry.1 ≠ name
        number known (position + 1)
          { document with targets := (fresh, position) :: document.targets } rest
    match event with
    | .alias name =>
      match names.lookup name with
      | none => .error .unknownAnchor
      | some found =>
        number names (position + 1)
          { document with events := document.events.push (event, found) } rest
    | .scalar properties _ _ => define properties
    | .sequenceStart properties => define properties
    | .mappingStart properties => define properties
    | .sequenceEnd => define {}
    | .mappingEnd => define {}

/-- What has been read of a document. -/
structure Read (α : Type) where
  /-- What was read. -/
  found : α
  /-- The event that follows. -/
  next : Nat
  /-- How many aliases have been followed. -/
  jumps : Nat

/-- How many aliases may be followed. -/
def Document.jumpLimit (document : Document) : Nat := 100 * document.events.size

mutual
/-- The value at an event. `depth` collections may still be opened; `tagTaken` says that the tag of
the node has been seen. -/
def build (document : Document) :
    (fuel depth : Nat) → (tagTaken : Bool) → (position jumps : Nat) →
      Except ReadError (Read Value)
  | 0, _, _, _, _ => .error .tooMuchRepetition
  | fuel + 1, depth, tagTaken, position, jumps =>
    let tagged (properties : Properties)
        (untagged : Except ReadError (Read Value)) : Except ReadError (Read Value) :=
      match if tagTaken then none else properties.tag with
      | some (.own tag) =>
        (build document fuel depth true position jumps).map fun read =>
          { read with found := .tagged tag read.found }
      | _ => untagged
    match document.events[position]? with
    | some (.alias _, name) =>
      if document.jumpLimit < jumps + 1 then .error .tooMuchRepetition
      else
        match document.targets.lookup name with
        | none => .error .unknownAnchor
        | some target =>
          (build document fuel depth false target (jumps + 1)).map fun read =>
            { read with next := position + 1 }
    | some (.scalar properties text plain, _) =>
      tagged properties <|
        let meaning := match if tagTaken then none else properties.tag with
          | some (.global tag) => Scalar.ofTagged tag text
          | _ => if plain then Scalar.ofPlain text else .ok (.text text)
        meaning.map fun found => ⟨.scalar found, position + 1, jumps⟩
    | some (.sequenceStart properties, _) =>
      tagged properties <|
        match depth with
        | 0 => .error .tooDeep
        | depth + 1 =>
          (buildItems document fuel depth (position + 1) jumps).map fun read =>
            { read with found := .sequence read.found }
    | some (.mappingStart properties, _) =>
      tagged properties <|
        match depth with
        | 0 => .error .tooDeep
        | depth + 1 =>
          (buildEntries document fuel depth [] (position + 1) jumps).map fun read =>
            { read with found := .mapping read.found }
    | _ => .error .badStructure

/-- The items of a sequence up to its end. -/
def buildItems (document : Document) :
    (fuel depth position jumps : Nat) → Except ReadError (Read (List Value))
  | 0, _, _, _ => .error .tooMuchRepetition
  | fuel + 1, depth, position, jumps =>
    match document.events[position]? with
    | some (.sequenceEnd, _) => .ok ⟨[], position + 1, jumps⟩
    | _ =>
      match build document fuel depth false position jumps with
      | .error problem => .error problem
      | .ok item =>
        (buildItems document fuel depth item.next item.jumps).map fun rest =>
          { rest with found := item.found :: rest.found }

/-- The entries of a mapping up to its end, after the keys already read. -/
def buildEntries (document : Document) :
    (fuel depth : Nat) → (keys : List Value) → (position jumps : Nat) →
      Except ReadError (Read (List (Value × Value)))
  | 0, _, _, _, _ => .error .tooMuchRepetition
  | fuel + 1, depth, keys, position, jumps =>
    match document.events[position]? with
    | some (.mappingEnd, _) => .ok ⟨[], position + 1, jumps⟩
    | _ =>
      match build document fuel depth false position jumps with
      | .error problem => .error problem
      | .ok key =>
        if keys.any (same key.found) then .error .duplicateKey
        else
          match build document fuel depth false key.next key.jumps with
          | .error problem => .error problem
          | .ok value =>
            (buildEntries document fuel depth (key.found :: keys) value.next value.jumps).map
              fun rest => { rest with found := (key.found, value.found) :: rest.found }
end

/-- How many collections may stand inside each other. -/
def depthLimit : Nat := 128

/-- The value that events stand for. -/
def ofEvents (events : List Event) : Except ReadError Value := do
  let document ← number [] 0 ⟨#[], []⟩ events
  let fuel := (2 * events.length + 8) * (depthLimit + 4)
  (build document fuel depthLimit false 0 0).map Read.found

/-- The value that a text writes; null where the text holds no document. -/
def ofText (text : String) : Except ReadError Value := do
  match ← Event.ofTokens (← Token.ofText text) with
  | none => pure (.scalar .null)
  | some events => ofEvents events

end Value

end RealmConvergence.Yaml
