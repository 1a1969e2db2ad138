import RealmConvergence.Text.Parts

/-!
# Files

Files are read by path. A path leads step by step from the working directory, or from the root if it
starts with a slash, through directories to a file; the steps of one and two dots lead nowhere and
to the directory above. A file tree holds the files below a working directory and says what comes of
reading a path in it. Outside the tree nothing is known to be.
-/

set_option autoImplicit false

namespace RealmConvergence.CommandLine

/-- Why a file has no text. -/
inductive FileProblem where
  /-- There is no such file. -/
  | absent
  /-- The path leads to a directory. -/
  | isDirectory
  /-- The path leads through something that is no directory. -/
  | notInDirectory
  /-- The path or a step of it is too long. -/
  | nameTooLong
  /-- The file cannot be read for another reason. -/
  | other (reason : String)
deriving DecidableEq

/-- The words for a file that has no text. -/
def FileProblem.message : FileProblem → String
  | .absent => "No such file or directory (os error 2)"
  | .isDirectory => "Is a directory (os error 21)"
  | .notInDirectory => "Not a directory (os error 20)"
  | .nameTooLong => "File name too long (os error 36)"
  | .other reason => reason

/-- The files below a working directory, each with its path and its bytes. -/
structure FileTree where
  /-- Files, each under the steps that lead to it. -/
  files : List (List (List Char) × List UInt8)

namespace FileTree

/-- The greatest number of bytes in a step of a path. -/
def stepLimit : Nat := 255

/-- The greatest number of bytes in a path. -/
def pathLimit : Nat := 4095

/-- The steps of a path. -/
def steps (path : String) : List (List Char) := Text.partsBetween (· == '/') path.toList

/-- A tree of files with their paths. -/
def ofFiles (files : List (String × List UInt8)) : FileTree where
  files := files.map fun file =>
    ((steps file.1).filter fun step => step ≠ [] && step ≠ ['.'], file.2)

/-- Where a path has led. -/
inductive Place where
  /-- In a directory of the tree, reached by these steps. -/
  | directory (reached : List (List Char))
  /-- At a file. -/
  | file (bytes : List UInt8)
  /-- In a directory outside the tree. -/
  | outside
deriving DecidableEq

/-- What a step leads to in a directory of the tree. -/
def child (tree : FileTree) (reached : List (List Char)) : Except FileProblem Place :=
  match tree.files.lookup reached with
  | some bytes => .ok (.file bytes)
  | none =>
    if tree.files.any fun file => reached.isPrefixOf file.1 then .ok (.directory reached)
    else .error .absent

/-- Take one step. -/
def step (tree : FileTree) (place : Place) (name : List Char) : Except FileProblem Place :=
  match place with
  | .file _ => .error .notInDirectory
  | .outside =>
    if name = [] ∨ name = ['.'] ∨ name = ['.', '.'] then .ok .outside
    else if stepLimit < (String.ofList name).utf8ByteSize then .error .nameTooLong
    else .error .absent
  | .directory reached =>
    if name = [] ∨ name = ['.'] then .ok place
    else if name = ['.', '.'] then
      .ok (if reached = [] then .outside else .directory reached.dropLast)
    else if stepLimit < (String.ofList name).utf8ByteSize then .error .nameTooLong
    else tree.child (reached ++ [name])

/-- The bytes at a path. -/
def read (tree : FileTree) (path : String) : Except FileProblem (List UInt8) :=
  if pathLimit < path.utf8ByteSize then .error .nameTooLong
  else if path.isEmpty then .error .absent
  else
    let start : Place := if path.toList.head? = some '/' then .outside else .directory []
    match (steps path).foldlM tree.step start with
    | .error problem => .error problem
    | .ok (.file bytes) => .ok bytes
    | .ok _ => .error .isDirectory

end FileTree

end RealmConvergence.CommandLine
