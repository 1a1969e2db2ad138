/-!
# Commands

A command line names a command and then its options, flags and paths in any order. An option takes
its value after an equals sign or from the next word, which must not look like an option itself.
After two hyphens every word is a path. An option with one value, and a flag, may stand only once.
-/

set_option autoImplicit false

namespace RealmConvergence.CommandLine

/-- What is to be done. -/
inductive Command where
  /-- Print the digest and the text of a merged configuration. -/
  | configHash (paths : List String)
  /-- Check a configuration without speaking to the service. -/
  | validate (paths : List String) (strict : Bool)
  /-- Print whether a run would take place. -/
  | status (paths : List String)
  /-- Run. -/
  | apply (paths : List String) (timeout : Option Nat) (json strict : Bool)
deriving DecidableEq

/-- What a command line comes to that names no command to be done. -/
inductive Usage where
  /-- The words are no command line. -/
  | misuse
  /-- Help is asked for. -/
  | help
deriving DecidableEq

/-- What the words of a command line give. -/
structure Words where
  /-- Values of the configuration option. -/
  configPaths : List String := []
  /-- Words that are no options. -/
  paths : List String := []
  /-- The value of the timeout option. -/
  timeout : Option Nat := none
  /-- Whether the JSON flag is there. -/
  json : Bool := false
  /-- Whether the strict flag is there. -/
  strict : Bool := false
deriving DecidableEq

/-- What may follow a command. -/
structure Grammar where
  /-- Paths without an option. -/
  allowsPaths : Bool := false
  /-- Paths after the configuration option. -/
  allowsConfig : Bool := false
  /-- The timeout and the JSON flag. -/
  allowsRunOptions : Bool := false
  /-- The strict flag. -/
  allowsStrict : Bool := false
deriving DecidableEq

/-- A number of seconds below `2 ^ 64`, perhaps after a plus sign. -/
def seconds? (text : String) : Option Nat :=
  let digits := match text.toList with
    | '+' :: rest => rest
    | characters => characters
  if digits.isEmpty || !digits.all Char.isDigit then none
  else
    let value := digits.foldl
      (fun value digit => 10 * value + (digit.toNat - '0'.toNat)) 0
    if value < Nat.pow 2 64 then some value else none

/-- Whether a word looks like an option. A single hyphen is a path. -/
def looksLikeOption (word : List Char) : Bool :=
  match word with
  | '-' :: _ :: _ => true
  | _ => false

/-- Give an option its value. -/
def giveValue (grammar : Grammar) (name : List Char) (value : String) (words : Words) :
    Except Usage Words :=
  if grammar.allowsConfig && name == "config".toList then
    .ok { words with configPaths := words.configPaths ++ [value] }
  else if grammar.allowsRunOptions && name == "timeout-secs".toList then
    match words.timeout, seconds? value with
    | none, some count => .ok { words with timeout := some count }
    | _, _ => .error .misuse
  else .error .misuse

/-- Whether an option takes a value. -/
def takesValue (grammar : Grammar) (name : List Char) : Bool :=
  (grammar.allowsConfig && name == "config".toList) ||
    (grammar.allowsRunOptions && name == "timeout-secs".toList)

/-- Raise a flag. -/
def raiseFlag (grammar : Grammar) (name : List Char) (words : Words) : Except Usage Words :=
  if grammar.allowsRunOptions && name == "json".toList && !words.json then
    .ok { words with json := true }
  else if grammar.allowsStrict && name == "strict".toList && !words.strict then
    .ok { words with strict := true }
  else .error .misuse

/-- Take words as paths. -/
def addPaths (grammar : Grammar) (added : List String) (words : Words) : Except Usage Words :=
  if added.isEmpty || grammar.allowsPaths then .ok { words with paths := words.paths ++ added }
  else .error .misuse

/-- Read the words after a command. -/
def readWords (grammar : Grammar) (words : Words) : List String → Except Usage Words
  | [] => .ok words
  | word :: rest =>
    match word.toList with
    | ['-', '-'] => addPaths grammar rest words
    | '-' :: '-' :: option =>
      let name := option.takeWhile (· ≠ '=')
      match option.dropWhile (· ≠ '=') with
      | _ :: value =>
        match giveValue grammar name (String.ofList value) words with
        | .ok words => readWords grammar words rest
        | .error usage => .error usage
      | [] =>
        if name == "help".toList then .error .help
        else if takesValue grammar name then
          match rest with
          | [] => .error .misuse
          | value :: others =>
            if looksLikeOption value.toList then .error .misuse
            else
              match giveValue grammar name value words with
              | .ok words => readWords grammar words others
              | .error usage => .error usage
        else
          match raiseFlag grammar name words with
          | .ok words => readWords grammar words rest
          | .error usage => .error usage
    | '-' :: 'h' :: _ => .error .help
    | '-' :: _ :: _ => .error .misuse
    | _ =>
      match addPaths grammar [word] words with
      | .ok words => readWords grammar words rest
      | .error usage => .error usage

/-- Refuse an empty list of paths. -/
def requirePaths (paths : List String) (command : Command) : Except Usage Command :=
  if paths.isEmpty then .error .misuse else .ok command

/-- The names of the commands. -/
def commandNames : List String := ["apply", "status", "validate", "config-hash", "help"]

/-- What a question for help comes to, which may name one command. -/
def askForHelp : List String → Usage
  | [] => .help
  | [name] => if name ∈ commandNames then .help else .misuse
  | _ => .misuse

/-- The command of a command line. -/
def Command.parse : List String → Except Usage Command
  | "apply" :: rest => do
    let words ← readWords
      { allowsConfig := true, allowsRunOptions := true, allowsStrict := true } {} rest
    requirePaths words.configPaths
      (.apply words.configPaths words.timeout words.json words.strict)
  | "status" :: rest => do
    let words ← readWords { allowsConfig := true } {} rest
    requirePaths words.configPaths (.status words.configPaths)
  | "validate" :: rest => do
    let words ← readWords { allowsConfig := true, allowsStrict := true } {} rest
    requirePaths words.configPaths (.validate words.configPaths words.strict)
  | "config-hash" :: rest => do
    let words ← readWords { allowsPaths := true } {} rest
    requirePaths words.paths (.configHash words.paths)
  | "help" :: rest => .error (askForHelp rest)
  | word :: _ =>
    match word.toList with
    | '-' :: 'h' :: _ => .error .help
    | _ => .error (if word == "--help" then .help else .misuse)
  | [] => .error .misuse

end RealmConvergence.CommandLine
