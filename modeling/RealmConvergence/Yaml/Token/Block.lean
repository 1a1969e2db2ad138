import RealmConvergence.Yaml.Token.Basic

/-!
# Block texts

A block text is a run of lines that are indented further than what is around them. A literal one
keeps its line breaks; in a folded one a single break between lines that do not start with a blank
becomes a space. The head may give the indentation and say what becomes of the line breaks at the
end: one is kept, all are kept, or none.
-/

set_option autoImplicit false

namespace RealmConvergence.Yaml.Block

/-- What becomes of the line breaks at the end. -/
inductive Chomping where
  /-- One line break is kept. -/
  | clip
  /-- No line break is kept. -/
  | strip
  /-- All line breaks are kept. -/
  | keep
deriving DecidableEq

/-- The chomping that an indicator asks for. -/
def chomping? (character : Option Char) : Option Chomping :=
  match character with
  | some '+' => some .keep
  | some '-' => some .strip
  | _ => none

/-- The indentation that an indicator gives, where it is a digit. -/
def increment? (character : Option Char) : Option Nat :=
  match character with
  | some digit => if digit.isDigit then some (digit.toNat - '0'.toNat) else none
  | none => none

/-- The indicators of the head, in either order. -/
def head (cursor : Cursor) : Except ReadError (Chomping × Option Nat × Cursor) :=
  let found : Chomping × Option Nat × Nat :=
    match chomping? (cursor.ahead 0), increment? (cursor.ahead 0) with
    | some chomping, _ =>
      match increment? (cursor.ahead 1) with
      | some increment => (chomping, some increment, 2)
      | none => (chomping, none, 1)
    | none, some increment =>
      match chomping? (cursor.ahead 1) with
      | some chomping => (chomping, some increment, 2)
      | none => (.clip, some increment, 1)
    | none, none => (.clip, none, 0)
  match found with
  | (_, some 0, _) => .error .badBlockText
  | (chomping, increment, count) => .ok (chomping, increment, cursor.skip count)

/-- Read indentation and empty lines. `indent` is zero while the indentation is not known;
`deepest` is the deepest column seen. The result holds the breaks of the empty lines. -/
def emptyLines (indent : Nat) :
    (fuel : Nat) → (deepest : Nat) → (breaks : List Char) → Cursor →
      Except ReadError (Nat × List Char × Cursor)
  | 0, deepest, breaks, cursor => .ok (deepest, breaks, cursor)
  | fuel + 1, deepest, breaks, cursor =>
    let spaces := cursor.rest.takeWhile (· == ' ')
    let count := if indent = 0 then spaces.length else min spaces.length (indent - cursor.column)
    let cursor := cursor.skip count
    let deepest := max deepest cursor.column
    if (indent = 0 ∨ cursor.column < indent) ∧ cursor.isAt 0 '\t' then .error .badBlockText
    else
      match cursor.takeBreak with
      | (some stands, next) => emptyLines indent fuel deepest (breaks ++ [stands]) next
      | (none, _) => .ok (deepest, breaks, cursor)

/-- What has been read of a block text. -/
structure Lines where
  /-- The text, last character first. -/
  read : List Char := []
  /-- The break at the end of the last line. -/
  lastBreak : List Char := []
  /-- The breaks of the empty lines after it. -/
  emptyBreaks : List Char
  /-- Whether the last line starts with a blank. -/
  startsBlank : Bool := false

/-- Read the lines that stand at the indentation. -/
def lines (literal : Bool) (indent : Nat) : (fuel : Nat) → Lines → Cursor →
    Except ReadError (Lines × Cursor)
  | 0, found, cursor => .ok (found, cursor)
  | fuel + 1, found, cursor =>
    if cursor.column = indent ∧ cursor.rest ≠ [] then
      let startsBlank := cursor.isBlankAt 0
      let joint :=
        if !literal && found.lastBreak == ['\n'] && !found.startsBlank && !startsBlank then
          if found.emptyBreaks.isEmpty then [' '] else found.emptyBreaks
        else found.lastBreak ++ found.emptyBreaks
      let (line, next) := cursor.takeWhile fun character => !isBreak character
      let (lastBreak, next) := next.takeBreak
      match emptyLines indent (next.rest.length + 1) 0 [] next with
      | .error problem => .error problem
      | .ok (_, emptyBreaks, next) =>
        lines literal indent fuel {
          read := line.reverse ++ joint.reverse ++ found.read
          lastBreak := lastBreak.toList
          emptyBreaks := emptyBreaks
          startsBlank := startsBlank } next
    else .ok (found, cursor)

/-- The text of the lines with the breaks at its end that are kept. -/
def Lines.text (found : Lines) (chomping : Chomping) : String :=
  let tail := match chomping with
    | .strip => []
    | .clip => found.lastBreak
    | .keep => found.lastBreak ++ found.emptyBreaks
  String.ofList (found.read.reverse ++ tail)

/-- A block text, read from its indicator on. `parent` is the indentation of the collection around
it, -1 where there is none. -/
def scan (parent : Int) (cursor : Cursor) : Except ReadError (Token × Cursor) :=
  let literal := cursor.isAt 0 '|'
  match head (cursor.skip 1) with
  | .error problem => .error problem
  | .ok (chomping, increment, next) =>
    match next.skipLineEnd? with
    | none => .error .badBlockText
    | some next =>
      let given := match increment with
        | some increment => (max parent 0).toNat + increment
        | none => 0
      match emptyLines given (next.rest.length + 1) 0 [] next with
      | .error problem => .error problem
      | .ok (deepest, emptyBreaks, next) =>
        let indent := if given = 0 then max (max deepest (parent + 1).toNat) 1 else given
        (lines literal indent (next.rest.length + 1) { emptyBreaks := emptyBreaks } next).map
          fun (found, next) => (.scalar (found.text chomping) false, next)

end RealmConvergence.Yaml.Block
