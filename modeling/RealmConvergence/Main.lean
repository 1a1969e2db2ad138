import RealmConvergence.CommandLine.Execution
import RealmConvergence.Http.Exchange
import Std.Time.Format

/-!
# The program

The outermost layer: arguments, files, environment, and the ends of the program. The program has no
wire of its own. A request that a command sends is lost at once, as it is on a host without a
network; everything else, and what comes of lost requests, is decided by the library.
-/

set_option autoImplicit false

open RealmConvergence CommandLine

/-- The bytes of a file, or why there are none. -/
def readBytes (path : String) : IO (Except FileProblem (List UInt8)) := do
  try
    let bytes ← IO.FS.readBinFile path
    pure (.ok bytes.toList)
  catch problem =>
    match problem with
    | .noFileOrDirectory .. => pure (.error .absent)
    | .inappropriateType _ 21 _ => pure (.error .isDirectory)
    | .inappropriateType .. => pure (.error .notInDirectory)
    | .invalidArgument .. => pure (.error .nameTooLong)
    | other => pure (.error (.other (toString other)))

/-- The bytes of the file that adds to the environment, from the working directory or the nearest
directory above that has one. -/
def readVariableBytes : IO (Except FileProblem (List UInt8)) := do
  let depth := ((← IO.currentDir).toString.toList.filter (· == '/')).length
  for level in [0:depth + 1] do
    let found ← readBytes (String.join (List.replicate level "../") ++ variableFile)
    match found with
    | .ok bytes => return .ok bytes
    | .error _ => pure ()
  pure (.error .absent)

/-- The values of variables. -/
def readVariables (names : List String) : IO (Table String) := do
  let mut found : Table String := ∅
  for name in names do
    if let some value ← IO.getEnv name then
      found := found.insert name value
  pure found

/-- The identity of a run: sixteen random bytes in hexadecimal digits. -/
def drawRunId : IO String := do
  let mut text := ""
  for position in [0:16] do
    let byte ← IO.rand 0 255
    if [4, 6, 8, 10].contains position then text := text ++ "-"
    text := text ++ (if byte < 16 then "0" else "") ++ String.ofList (Nat.toDigits 16 byte)
  pure text

def main (arguments : List String) : IO UInt32 := do
  let layers ← (layerPaths arguments).mapM fun path => do pure (path, ← readBytes path)
  let files := (variableFile, ← readVariableBytes) :: layers
  let fileBytes (path : String) : Except FileProblem (List UInt8) :=
    (files.lookup path).getD (.error .absent)
  let environment ← readVariables (variableNames fileBytes arguments)
  let time := s!"{← Std.Time.PlainDateTime.now}Z"
  let stamp : RunStamp := { runId := ← drawRunId, startedAt := time, finishedAt := time }
  let (result, _) := (execute stamp ⟨fileBytes, environment⟩ arguments).run
    Http.ScriptedWire.respond { isConnected := false }
  let output ← IO.getStdout
  for line in result.printed do
    output.putStrLn line
  if let some complaint := result.complaint then
    (← IO.getStderr).putStrLn complaint
  pure (UInt32.ofNat result.code)
