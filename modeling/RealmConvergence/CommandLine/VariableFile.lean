import RealmConvergence.CommandLine.Environment
import RealmConvergence.Text.Alphanumeric
import RealmConvergence.Text.Blank
import RealmConvergence.Text.Bytes

/-!
# Files of environment variables

A file of environment variables has a name, an equals sign and a value on each line. Values may
stand in quotes, which lets them run over several lines; between double quotes and outside quotes a
backslash escapes the next character, and a dollar sign stands for the value of a variable. A hash
sign after a blank starts a comment.

Lines are read in turn up to the first that is not understood. A variable that has a value already
keeps it.
-/

set_option autoImplicit false

namespace RealmConvergence.CommandLine.VariableFile

/-! ## Lines -/

/-- Where the end of a line leaves a reader that only looks for quotes and comments. -/
inductive LineState where
  /-- Outside quotes. -/
  | complete
  /-- After a blank outside quotes. -/
  | blank
  /-- After a backslash outside quotes. -/
  | escape
  /-- Between single quotes. -/
  | strong
  /-- After a backslash between single quotes. -/
  | strongEscape
  /-- Between double quotes. -/
  | weak
  /-- After a backslash between double quotes. -/
  | weakEscape
deriving DecidableEq

/-- The state after a character outside quotes. -/
def LineState.afterPlain (character : Char) : LineState :=
  if character = '\\' then .escape
  else if character = '"' then .weak
  else if character = '\'' then .strong
  else .complete

/-- The state after a character, or none where a comment starts. -/
def LineState.next? (state : LineState) (character : Char) : Option LineState :=
  match state with
  | .blank => if character = '#' then none else some (.afterPlain character)
  | .complete =>
    if Text.isBlank character && character ≠ '\n' && character ≠ '\r' then some .blank
    else some (.afterPlain character)
  | .escape => some .complete
  | .weak =>
    if character = '\\' then some .weakEscape else if character = '"' then some .complete
    else some .weak
  | .weakEscape => some .weak
  | .strong =>
    if character = '\\' then some .strongEscape else if character = '\'' then some .complete
    else some .strong
  | .strongEscape => some .strong

/-- The part of a line before a comment, and the state at the end of the line if there is none. -/
def scanLine (state : LineState) : List Char → List Char × Option LineState
  | [] => ([], some state)
  | character :: rest =>
    match state.next? character with
    | none => ([], none)
    | some next =>
      let (kept, last) := scanLine next rest
      (character :: kept, last)

/-- A line without its break. -/
def withoutBreak (line : List Char) : List Char :=
  match line.reverse with
  | '\n' :: '\r' :: rest => rest.reverse
  | '\n' :: rest => rest.reverse
  | _ => line

/-- The bytes of a file in lines, each with its break. -/
def byteLines : List UInt8 → List (List UInt8)
  | [] => []
  | byte :: rest =>
    if byte = 10 then [byte] :: byteLines rest
    else
      match byteLines rest with
      | [] => [[byte]]
      | line :: others => (byte :: line) :: others

/-- Lines joined as far as quotes run; `held` has been read of the current one. What cannot be read
is none, and nothing follows it. -/
def joinLines (held : List Char) (state : LineState) :
    List (List UInt8) → List (Option (List Char))
  | [] => if state = .complete then [] else [none]
  | bytes :: rest =>
    match Text.ofBytes? bytes with
    | none => [none]
    | some text =>
      let line := held ++ text.toList
      if (line.dropWhile Text.isBlank).head? = some '#' then
        some [] :: joinLines [] .complete rest
      else
        match scanLine state text.toList with
        | (kept, none) => some (held ++ kept) :: joinLines [] .complete rest
        | (_, some .complete) => some (withoutBreak line) :: joinLines [] .complete rest
        | (_, some other) => joinLines line other rest

/-! ## Values -/

/-- How a reference to a variable is written. -/
inductive Reference where
  /-- There is no reference. -/
  | absent
  /-- A dollar sign and a name. -/
  | bare
  /-- A dollar sign and a name in braces. -/
  | braced
deriving DecidableEq

/-- How far a value has been read. -/
structure Reading where
  /-- Inside single quotes. -/
  strong : Bool := false
  /-- Inside double quotes. -/
  weak : Bool := false
  /-- After a backslash. -/
  escaped : Bool := false
  /-- After a blank that ends the value. -/
  ended : Bool := false
  /-- Inside a reference. -/
  reference : Reference := .absent
  /-- The name of the variable so far. -/
  name : List Char := []
  /-- The value so far. -/
  output : List Char := []
deriving DecidableEq

/-- A character after a backslash. -/
def unescape? (character : Char) : Option Char :=
  if character = 'n' then some '\n'
  else if ['\\', '\'', '"', '$', ' '].contains character then some character
  else none

/-- Put the value of the named variable. -/
def Reading.substituted (reading : Reading) (look : String → String) : Reading :=
  { reading with
    output := reading.output ++ (look (String.ofList reading.name)).toList
    name := [] }

/-- Read a character of a reference. A name without braces is made of letters and numbers of any
script. -/
def Reading.referenceCharacter (reading : Reading) (look : String → String) (character : Char) :
    Reading :=
  if Text.isAlphanumeric character then { reading with name := reading.name ++ [character] }
  else
    match reading.reference with
    | .braced =>
      if character = '\x7d' then { reading.substituted look with reference := .absent }
      else { reading with name := reading.name ++ [character] }
    | _ =>
      if character = '\x7b' ∧ reading.name.isEmpty then { reading with reference := .braced }
      else
        let read := reading.substituted look
        if character = '$' then { read with reference := .bare }
        else { read with reference := .absent, output := read.output ++ [character] }

/-- Read a character that starts or ends nothing inside a reference. -/
def Reading.plainCharacter (reading : Reading) (character : Char) : Reading :=
  if character = '$' then { reading with reference := .bare }
  else if reading.weak then
    if character = '"' then { reading with weak := false }
    else if character = '\\' then { reading with escaped := true }
    else { reading with output := reading.output ++ [character] }
  else if character = '\'' then { reading with strong := true }
  else if character = '"' then { reading with weak := true }
  else if character = '\\' then { reading with escaped := true }
  else if character = ' ' ∨ character = '\t' then { reading with ended := true }
  else { reading with output := reading.output ++ [character] }

/-- Read the rest of a value. -/
def readValue (look : String → String) (reading : Reading) : List Char → Option (List Char)
  | [] =>
    if reading.reference = .braced || reading.strong || reading.weak then none
    else some (reading.substituted look).output
  | character :: rest =>
    if reading.ended then
      if character = ' ' ∨ character = '\t' then readValue look reading rest
      else if character = '#' then readValue look reading []
      else none
    else if reading.escaped then
      match unescape? character with
      | some meant =>
        readValue look { reading with escaped := false, output := reading.output ++ [meant] } rest
      | none => none
    else if reading.strong then
      if character = '\'' then readValue look { reading with strong := false } rest
      else readValue look { reading with output := reading.output ++ [character] } rest
    else if reading.reference ≠ .absent then
      readValue look (reading.referenceCharacter look character) rest
    else readValue look (reading.plainCharacter character) rest
termination_by text => text.length

/-! ## Assignments -/

/-- A text without the blanks before it. -/
def skipBlanks (text : List Char) : List Char := text.dropWhile Text.isBlank

/-- The name at the start of a text, and what follows it and blanks. -/
def readName? (text : List Char) : Option (List Char × List Char) :=
  match text with
  | [] => none
  | first :: _ =>
    let inName (character : Char) : Bool :=
      character.isAlphanum || character == '_' || character == '.'
    if first.isAlpha || first == '_' then
      some (text.takeWhile inName, skipBlanks (text.dropWhile inName))
    else none

/-- The name of an assignment and the text of its value; a word for exporting may stand before. -/
def readAssignment? (text : List Char) : Option (List Char × List Char) := do
  let (name, rest) ← readName? text
  match rest with
  | '=' :: value => some (name, skipBlanks value)
  | _ =>
    if name == "export".toList then do
      let (name, rest) ← readName? rest
      match rest with
      | '=' :: value => some (name, skipBlanks value)
      | _ => none
    else none

/-- The name and the value that a line assigns; nothing for a blank line or a comment. -/
def readLine (look : String → String) (line : List Char) : Option (Option (String × String)) :=
  let text := skipBlanks (Text.trimEndChars line)
  if text.isEmpty || text.head? = some '#' then some none
  else
    match readAssignment? text with
    | none => none
    | some (name, value) =>
      if value.isEmpty || value.head? = some '#' then some (some (String.ofList name, ""))
      else
        (readValue look {} value).map fun found =>
          some (String.ofList name, String.ofList found)

/-- Read lines in turn; `assigned` are the values that the file has given so far. -/
def assign (environment : Environment) (assigned : Table String) :
    List (Option (List Char)) → Environment
  | some line :: rest =>
    let look (name : String) : String :=
      ((environment.value? name).or (assigned.get? name)).getD ""
    match readLine look line with
    | none => environment
    | some none => assign environment assigned rest
    | some (some (name, value)) =>
      let known := if environment.contains name then environment else environment.insert name value
      assign known (assigned.insert name value) rest
  | _ => environment

/-- Bytes without the mark that says how they are ordered. -/
def withoutOrderMark : List UInt8 → List UInt8
  | 0xEF :: 0xBB :: 0xBF :: rest => rest
  | bytes => bytes

/-- The environment with the variables of a file. -/
def load (environment : Environment) (bytes : List UInt8) : Environment :=
  assign environment ∅ (joinLines [] .complete (byteLines (withoutOrderMark bytes)))

end RealmConvergence.CommandLine.VariableFile
