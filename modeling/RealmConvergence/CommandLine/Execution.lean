import RealmConvergence.Admin.Session
import RealmConvergence.Blueprint.References
import RealmConvergence.CommandLine.Arguments
import RealmConvergence.CommandLine.FileTree
import RealmConvergence.CommandLine.VariableFile
import RealmConvergence.Configuration.Assembly
import RealmConvergence.Convergence.Run
import RealmConvergence.Text.Bytes

/-!
# Carrying out commands

A command reads the layers of a configuration from files and its secrets from the environment, to
which a file beside them may add. It prints its results line by line. A command that fails prints
the chain of causes and ends with code 1; words that are no command line end with code 2. A run that
is broken off ends with code 101.
-/

set_option autoImplicit false

namespace RealmConvergence.CommandLine

open Http (Wire)

/-! ## What a command works with -/

/-- The words for a file whose bytes are no text. -/
def noText : String := "stream did not contain valid UTF-8"

/-- What surrounds a command. -/
structure Surroundings where
  /-- The bytes of a file. -/
  fileBytes : String → Except FileProblem (List UInt8)
  /-- The variables of the environment. -/
  environment : Environment

/-- The identity and the times of a run. -/
structure RunStamp where
  /-- The identity of the run. -/
  runId : String
  /-- When the run started. -/
  startedAt : String
  /-- When the run finished. -/
  finishedAt : String
deriving DecidableEq

/-- What a command comes to. -/
structure Result where
  /-- The code with which the program ends. -/
  code : Nat
  /-- Printed results, without the break at the end of each. -/
  printed : List String := []
  /-- What is told of a failure, without the break at its end. -/
  complaint : Option String := none
deriving DecidableEq

/-! ## Complaints -/

/-- A text whose further lines are indented. -/
def indentLines (indentation : String) (text : String) : String :=
  ("\n" ++ indentation).intercalate ((text.toList.splitOn '\n').map String.ofList)

/-- A number, right-aligned in five places. -/
def fivePlaces (number : Nat) : String :=
  let digits := toString number
  String.ofList (List.replicate (5 - digits.length) ' ') ++ digits

/-- The causes of a failure, numbered where there are several. -/
def causeLines (causes : List String) : List String :=
  match causes with
  | [] => []
  | [only] => ["    " ++ indentLines "    " only]
  | _ => causes.mapIdx fun position cause =>
    fivePlaces position ++ ": " ++ indentLines "       " cause

/-- What is told of a failure. -/
def complaintOf (chain : List String) : String :=
  match chain with
  | [] => "Error: "
  | [only] => "Error: " ++ only
  | outermost :: causes =>
    "Error: " ++ outermost ++ "\n\nCaused by:\n" ++ "\n".intercalate (causeLines causes)

/-- A command that failed after printing some lines. -/
def failed (printed : List String) (chain : List String) : Result :=
  { code := 1, printed, complaint := some (complaintOf chain) }

/-- A command that was broken off after printing some lines. -/
def brokenOff (printed : List String) : Result :=
  { code := 101, printed, complaint := some Admin.beyondClock }

/-! ## Files and environment -/

/-- The file that adds to the environment. -/
def variableFile : String := ".env.local"

/-- The environment with what the file beside the configuration adds. -/
def environmentOf (surroundings : Surroundings) : Environment :=
  match surroundings.fileBytes variableFile with
  | .ok bytes => VariableFile.load surroundings.environment bytes
  | .error _ => surroundings.environment

/-- The texts of files. -/
def readLayers (surroundings : Surroundings) :
    List String → Except ConfigurationError (List String)
  | [] => .ok []
  | path :: rest =>
    match surroundings.fileBytes path with
    | .error problem => .error (.unreadableFile path problem.message)
    | .ok bytes =>
      match Text.ofBytes? bytes with
      | none => .error (.unreadableFile path noText)
      | some text => (readLayers surroundings rest).map (text :: ·)

/-- The files that a command line reads as layers. -/
def layerPaths (arguments : List String) : List String :=
  match Command.parse arguments with
  | .ok (.configHash paths) => paths
  | .ok (.validate paths _) => paths
  | .ok (.status paths) => paths
  | .ok (.apply paths _ _ _) => paths
  | .error _ => []

/-- The words of a text that may name variables. -/
def wordsOf (text : List Char) : List String :=
  let inName (character : Char) : Bool :=
    Text.isAlphanumeric character || character == '_' || character == '.'
  (Text.partsBetween (fun character => !inName character) text).map String.ofList

/-- The names of all variables that a command line may look up: the default ones, every text of its
layers, and every word of the file that adds to the environment. -/
def variableNames (fileBytes : String → Except FileProblem (List UInt8)) (arguments : List String) :
    List String :=
  let layers := readLayers ⟨fileBytes, ∅⟩ (layerPaths arguments) >>= Configuration.load
  let named := match layers with
    | .ok merged => merged.value.leaves.filterMap fun leaf => leaf.2.text?.map Text.trim
    | .error _ => []
  let words := match fileBytes variableFile with
    | .ok bytes => wordsOf (Text.ofBytes bytes)
    | .error _ => []
  (Configuration.defaultUsernameVariable :: Configuration.defaultPasswordVariable ::
    (named ++ words)).filter fun name => !name.isEmpty

/-- What happens to unused keys. -/
def policyOf (strict : Bool) : Configuration.UnusedKeyPolicy :=
  if strict then .fail else .warn

/-- The configuration of a run. -/
def prepare (surroundings : Surroundings) (paths : List String) (strict : Bool) :
    Except ConfigurationError Configuration.RunConfiguration := do
  let layers ← readLayers surroundings paths
  Configuration.prepare layers (policyOf strict) (environmentOf surroundings).value?

/-! ## Commands without the service -/

/-- Print the digest and the text of a configuration. -/
def configHash (surroundings : Surroundings) (paths : List String) : Result :=
  match readLayers surroundings paths >>= Configuration.load with
  | .error problem => failed [] problem.chain
  | .ok merged =>
    { code := 0, printed := [s!"config_hash={merged.digest}", merged.canonicalText] }

/-- The lines about a configuration that was checked. -/
def checkLines (check : Configuration.OfflineCheck) : List String :=
  let blueprint := check.blueprint
  [s!"config_hash={check.digest}",
    s!"realm={blueprint.realm.name} clients={blueprint.clients.length} " ++
      s!"realm_roles={blueprint.realmRoles.length} client_roles={blueprint.clientRoles.length} " ++
      s!"composites={blueprint.composites.length}"] ++
    blueprint.undeclaredReferences.map (fun reference => s!"warning: {reference.message}") ++
    check.unused.map fun pointer => s!"warning: unused config key {pointer}"

/-- Check a configuration. -/
def validate (surroundings : Surroundings) (paths : List String) (strict : Bool) : Result :=
  let checked := readLayers surroundings paths >>= fun layers =>
    Configuration.checkOffline layers (policyOf strict)
  match checked with
  | .error problem => failed [] problem.chain
  | .ok check => { code := 0, printed := checkLines check }

/-! ## Commands that speak to the service -/

/-- A computation over the wire. -/
abbrev OverWire (α : Type) := Dialogue Wire Wire.Reply α

/-- A part of a run over the wire, where it is not broken off. -/
def conduct {α : Type} (connection : AdminConnection) (part : Convergence.Part α) :
    OverWire (Option (Except Convergence.Failure α)) :=
  (Admin.overWire connection part.run none).andThen fun reached => .conclude reached.1

/-- The word for a truth value. -/
def truthWord (holds : Bool) : String := if holds then "true" else "false"

/-- Print whether a run would take place. -/
def status (surroundings : Surroundings) (paths : List String) : OverWire Result :=
  match prepare surroundings paths false with
  | .error problem => .conclude (failed [] problem.chain)
  | .ok configuration =>
    let settings := configuration.settings
    let heading := [s!"config_hash={configuration.digest}",
      "enabled=" ++ truthWord settings.enabled]
    let deciding := Convergence.decideByMarker settings.force configuration.blueprint.realm.name
    (conduct configuration.connection deciding).andThen fun outcome =>
      .conclude <|
        match outcome with
        | none => brokenOff heading
        | some (.error failure) => failed heading failure.chain
        | some (.ok decision) =>
          { code := 0
            printed := heading ++
              ["provision=" ++ truthWord decision.proceeds] ++
              (decision.reason.map fun reason => s!"reason={reason}").toList }

/-- A computation that is broken off when an answer comes too late, in milliseconds. -/
def within {α : Type} (limit start : Nat) : OverWire α → OverWire (Option α)
  | .conclude value => .conclude (some value)
  | .ask .clock resume => .ask .clock fun now => within limit start (resume now)
  | .ask (.send request) resume =>
    .ask (.send request) fun response => .ask .clock fun now =>
      if start + limit < now then .conclude none else within limit start (resume response)

/-- A report as a JSON value. -/
def reportJson (stamp : RunStamp) (report : Report) : Json :=
  .object [
    ("run_id", .string stamp.runId),
    ("realm", .string report.realm),
    ("started_at", .string stamp.startedAt),
    ("finished_at", if report.finished then .string stamp.finishedAt else .null),
    ("steps", .array (report.steps.map fun step => .object [
      ("kind", .string step.kind.name),
      ("key", .string step.key),
      ("action", .string step.action.name),
      ("detail", .ofText? step.detail)])),
    ("warnings", .array (report.warnings.map .string))]

/-- The lines about a run that came to its end. -/
def runLines (stamp : RunStamp) (json : Bool) (outcome : Convergence.Outcome)
    (report : Option Report) : List String :=
  outcome.line ::
    match report with
    | none => []
    | some report =>
      report.warnings.map (fun warning => s!"warning: {warning}") ++
        if json then [(reportJson stamp report).indented] else []

/-- Run, within a number of seconds. -/
def apply (stamp : RunStamp) (surroundings : Surroundings) (paths : List String)
    (timeout : Option Nat) (json strict : Bool) : OverWire Result :=
  match prepare surroundings paths strict with
  | .error problem => .conclude (failed [] problem.chain)
  | .ok configuration =>
    let settings := configuration.settings
    let realm := configuration.blueprint.realm.name
    let seconds := timeout.getD settings.timeoutSeconds
    let running := Convergence.initializeRealm settings.enabled settings.force
      configuration.blueprint
    .ask .clock fun start =>
      (within (1000 * seconds) start (conduct configuration.connection running)).andThen
        fun finished => .conclude <|
          match finished with
          | none =>
            failed [] [s!"BOOTSTRAP_TIMEOUT: realm '{realm}' not converged within {seconds}s"]
          | some none => brokenOff []
          | some (some (.error failure)) =>
            failed [] (s!"bootstrap of realm '{realm}' failed" :: failure.chain)
          | some (some (.ok (outcome, report))) =>
            { code := 0, printed := runLines stamp json outcome report }

/-! ## All commands -/

/-- Carry out a command. -/
def carryOut (stamp : RunStamp) (surroundings : Surroundings) : Command → OverWire Result
  | .configHash paths => .conclude (configHash surroundings paths)
  | .validate paths strict => .conclude (validate surroundings paths strict)
  | .status paths => status surroundings paths
  | .apply paths timeout json strict => apply stamp surroundings paths timeout json strict

/-- Carry out a command line. -/
def execute (stamp : RunStamp) (surroundings : Surroundings) (arguments : List String) :
    OverWire Result :=
  match Command.parse arguments with
  | .ok command => carryOut stamp surroundings command
  | .error .help => .conclude { code := 0 }
  | .error .misuse => .conclude { code := 2 }

end RealmConvergence.CommandLine
