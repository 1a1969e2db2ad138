import RealmConvergence.Json.Basic
import RealmConvergence.Text.Parts

/-!
# Places in a JSON value

A place in a value is given by a path: the member names and item positions that lead to it. A
pointer is the text of a path, each token after a slash; a tilde and a slash inside a token are
escaped. The leaves of a value are the scalars, nulls and empty containers in it, in the order of
the document. They are listed by their pointers, but a value that is itself a leaf has none to list.

`unescape_escape` says that reading an escaped token gives the token back.
-/

set_option autoImplicit false

namespace RealmConvergence.Json

/-- A path: names of members and positions of items, from the outside to the inside. -/
abbrev Path := List String

namespace Pointer

/-- A token with its tildes and slashes escaped. -/
def escape : List Char → List Char
  | [] => []
  | '~' :: rest => '~' :: '0' :: escape rest
  | '/' :: rest => '~' :: '1' :: escape rest
  | character :: rest => character :: escape rest

/-- The token that an escaped token stands for. -/
def unescape : List Char → List Char
  | [] => []
  | '~' :: '0' :: rest => '~' :: unescape rest
  | '~' :: '1' :: rest => '/' :: unescape rest
  | character :: rest => character :: unescape rest

/-- The text of one token, with its slash. -/
def tokenText (token : String) : String :=
  String.ofList ('/' :: escape token.toList)

/-- The text of a path. -/
def ofPath (path : Path) : String :=
  String.join (path.map tokenText)

/-- The path that a text gives. The empty text leads nowhere else than to the root; any other has to
start with a slash, and gives one step after each slash. -/
def path? (pointer : String) : Option Path :=
  match pointer.toList with
  | [] => some []
  | '/' :: rest =>
    some ((Text.partsBetween (· == '/') rest).map fun token => String.ofList (unescape token))
  | _ => none

/-- Reading an escaped token gives the token back. -/
theorem unescape_escape (token : List Char) : unescape (escape token) = token := by
  induction token with
  | nil => rfl
  | cons head rest ih =>
    by_cases tilde : head = '~'
    · subst tilde; simp [escape, unescape, ih]
    · by_cases slash : head = '/'
      · subst slash; simp [escape, unescape, ih]
      · simp [escape, unescape, tilde, ih]

end Pointer

/-- The position that a token gives: decimal digits without a zero before others. -/
def position? (token : String) : Option Nat :=
  match token.toList with
  | [] => none
  | ['0'] => some 0
  | '0' :: _ => none
  | digits =>
    if digits.all Char.isDigit then
      some (digits.foldl (fun value digit => 10 * value + (digit.toNat - '0'.toNat)) 0)
    else none

/-- The value one step inside a value. -/
def child? (value : Json) (token : String) : Option Json :=
  match value with
  | .object members => Entries.lookup token members
  | .array items => (position? token).bind (items[·]?)
  | _ => none

/-- The value at a path. -/
def at? (value : Json) : Path → Option Json
  | [] => some value
  | token :: rest => (value.child? token).bind (·.at? rest)

/-- The value at a pointer. -/
def atPointer? (value : Json) (pointer : String) : Option Json :=
  (Pointer.path? pointer).bind value.at?

mutual
/-- The leaves of a value, each with its path, in the order of the document. -/
def leaves : Json → List (Path × Json)
  | .array (item :: rest) => itemLeaves 0 (item :: rest)
  | .object (first :: rest) => memberLeaves (first :: rest)
  | leaf => [([], leaf)]

/-- The leaves of items, the first of which stands at a position. -/
def itemLeaves (position : Nat) : List Json → List (Path × Json)
  | [] => []
  | item :: rest =>
    (leaves item).map (fun leaf => (toString position :: leaf.1, leaf.2)) ++
      itemLeaves (position + 1) rest

/-- The leaves of members. -/
def memberLeaves : List (String × Json) → List (Path × Json)
  | [] => []
  | (name, value) :: rest =>
    (leaves value).map (fun leaf => (name :: leaf.1, leaf.2)) ++ memberLeaves rest
end

/-- The leaves below the root. A value that is itself a leaf has none. -/
def innerLeaves (value : Json) : List (Path × Json) :=
  value.leaves.filter fun leaf => leaf.1 ≠ []

/-- The pointers of the leaves below the root, in the order of the document. -/
def leafPointers (value : Json) : List String :=
  value.innerLeaves.map fun leaf => Pointer.ofPath leaf.1

end RealmConvergence.Json
