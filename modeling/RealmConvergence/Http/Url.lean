import RealmConvergence.Http.Host

/-!
# Addresses

An address has a scheme, mostly a host with a port, a path, and perhaps a query and a fragment. A
path is a list of segments; some addresses have no such path but an unstructured rest. Reading an
address is forgiving: blanks around it and line breaks in it are dropped, capitals in the scheme are
made small, a port that the scheme has anyway is left out, a dot and two dots in the path are
resolved, and characters that may not stand are percent-encoded. With the schemes of the web a
backslash is as good as a slash.

Segments can be added to a path (`Url.extend?`). A segment is encoded so that it reads back as one
segment; the segments that mean the place itself and the place above are passed over.
-/

set_option autoImplicit false

namespace RealmConvergence.Http

/-- Who and where the host is. -/
structure Authority where
  /-- The name of a user, as it is written. -/
  user : String := ""
  /-- A password, as it is written. -/
  password : Option String := none
  /-- The host. -/
  host : Host
  /-- The port, where it is not the one of the scheme. -/
  port : Option Nat := none
deriving DecidableEq

/-- What follows the host. -/
inductive UrlPath where
  /-- Segments, as they are written, each after a slash. -/
  | segments (list : List String)
  /-- A rest that has no segments. -/
  | rest (text : String)
deriving DecidableEq

/-- An address. -/
structure Url where
  /-- The scheme, in small letters. -/
  scheme : String
  /-- Who and where the host is. -/
  authority : Option Authority
  /-- The path. -/
  path : UrlPath
  /-- The query, as it is written. -/
  query : Option String := none
  /-- The fragment, as it is written. -/
  fragment : Option String := none
deriving DecidableEq

namespace Url

/-! ## Schemes -/

/-- The port of a scheme. -/
def defaultPort? (scheme : String) : Option Nat :=
  if scheme == "http" || scheme == "ws" then some 80
  else if scheme == "https" || scheme == "wss" then some 443
  else if scheme == "ftp" then some 21
  else none

/-- The schemes whose addresses always have a path. -/
def isSpecial (scheme : String) : Bool :=
  scheme == "file" || (defaultPort? scheme).isSome

/-- Whether a request can be sent to addresses of a scheme. -/
def isWeb (scheme : String) : Bool := scheme == "http" || scheme == "https"

/-! ## Paths -/

/-- Whether a segment means the place itself. -/
def isDot (segment : List Char) : Bool :=
  let small := segment.map Char.toLower
  small == ['.'] || small == ['%', '2', 'e']

/-- Whether a segment means the place above. -/
def isTwoDots (segment : List Char) : Bool :=
  let small := segment.map Char.toLower
  small == ['.', '.'] || small == ['.', '%', '2', 'e'] || small == ['%', '2', 'e', '.'] ||
    small == ['%', '2', 'e', '%', '2', 'e']

/-- Whether a segment is the letter of a drive, with its sign: a colon or a bar. -/
def isDrive (segment : List Char) : Bool :=
  match segment with
  | [letter, sign] => letter.isAlpha && (sign == ':' || sign == '|')
  | _ => false

/-- The path above a path. Nothing is above a drive. -/
def parent (path : List String) : List String :=
  if path.getLast?.any fun segment => isDrive segment.toList then path else path.dropLast

/-- A segment as it is written after others. The drive at the start of a file's path has a colon. -/
def writtenAfter (scheme : String) (held : List String) (segment : List Char) : String :=
  String.ofList <|
    if scheme = "file" ∧ held = [] ∧ isDrive segment then segment.take 1 ++ [':']
    else Percent.encode (Percent.printableExcept Percent.pathExcluded) segment

/-- The segments after further ones, as they are read. A dot or two dots at the end leave the path
open. -/
def resolve (scheme : String) (held : List String) : List (List Char) → List String
  | [] => held
  | segment :: rest =>
    let opened (path : List String) : List String := if rest.isEmpty then path ++ [""] else path
    let next :=
      if isTwoDots segment then opened (parent held)
      else if isDot segment then opened held
      else held ++ [writtenAfter scheme held segment]
    resolve scheme next rest

/-- The path of a file has no empty segment before others. -/
def dropEmptyFirst : List String → List String
  | "" :: next :: rest => dropEmptyFirst (next :: rest)
  | path => path

/-- The segments of a path, as the scheme has them. -/
def schemePath (scheme : String) (path : List String) : List String :=
  if scheme == "file" then dropEmptyFirst path else path

/-- Whether a character ends a segment. -/
def endsSegment (special : Bool) (character : Char) : Bool :=
  character == '/' || (special && character == '\\')

/-- Read the segments of a text that follows the first slash of a path. -/
def readSegments (scheme : String) (text : List Char) : List String :=
  resolve scheme [] (Text.partsBetween (endsSegment (isSpecial scheme)) text)

/-- A text without the slash that it may start with. -/
def withoutSlash (special : Bool) : List Char → List Char
  | [] => []
  | first :: rest => if endsSegment special first then rest else first :: rest

/-- Read the segments of a path. -/
def readPath (scheme : String) (text : List Char) : List String :=
  let special := isSpecial scheme
  if text.isEmpty && !special then []
  else schemePath scheme (readSegments scheme (withoutSlash special text))

/-! ## Hosts and users -/

/-- What stands before the first character that ends the host and its users. -/
def authorityText (special : Bool) (text : List Char) : List Char × List Char :=
  let continues (character : Char) : Bool :=
    !(endsSegment special character || character == '?' || character == '#')
  (text.takeWhile continues, text.dropWhile continues)

/-- What stands before the last at sign, if there is one, and what stands after it. -/
def splitUser (text : List Char) : Option (List Char) × List Char :=
  if '@' ∈ text then
    let host := (text.reverse.takeWhile (· ≠ '@')).reverse
    (some (text.take (text.length - host.length - 1)), host)
  else (none, text)

/-- A name and a password, as they are written. -/
def readUser (text : List Char) : String × Option String :=
  let written (part : List Char) : String :=
    String.ofList (Percent.encode (Percent.printableExcept Percent.userExcluded) part)
  let name := text.takeWhile (· ≠ ':')
  match text.dropWhile (· ≠ ':') with
  | _ :: password => (written name, if password.isEmpty then none else some (written password))
  | [] => (written name, none)

/-- What stands before the colon of the port, brackets aside, and what follows. -/
def splitPort (inBrackets : Bool) : List Char → List Char × List Char
  | [] => ([], [])
  | character :: rest =>
    if character = ':' ∧ ¬inBrackets then ([], character :: rest)
    else
      let inside := if character = '[' then true else if character = ']' then false else inBrackets
      let (host, after) := splitPort inside rest
      (character :: host, after)

/-- A port, unless it is the one of the scheme. -/
def readPort (scheme : String) (digits : List Char) : Except UrlError (Option Nat) :=
  if digits.isEmpty then .ok none
  else if !digits.all Char.isDigit then .error .badPort
  else
    let port := Text.number 10 digits
    if 65535 < port then .error .badPort
    else .ok (if defaultPort? scheme = some port then none else some port)

/-- Read users, host and port; `followed` says that something comes after them. -/
def readAuthority (scheme : String) (text : List Char) (followed : Bool) :
    Except UrlError Authority := do
  let special := isSpecial scheme
  let (userText, rest) := splitUser text
  let (user, password) := readUser (userText.getD [])
  let named := user ≠ "" ∨ password.isSome
  if userText = some [] ∧ rest.isEmpty ∧ followed then .error .emptyHost
  let (hostText, portText) := splitPort false rest
  if special ∧ hostText.isEmpty then .error .emptyHost
  let host ← if special then Host.parse hostText else Host.parseOther hostText
  if host = .name "" ∧ ¬portText.isEmpty then .error .emptyHost
  let port ← readPort scheme (portText.drop 1)
  if host = .name "" ∧ named then .error .emptyHost
  pure { user, password, host, port }

/-- The host of a file as it is read. The local host is the same as none. -/
def readLocalHost (text : List Char) : Except UrlError Host :=
  if text.isEmpty then .ok (.name "")
  else (Host.parse text).map fun host => if host = .name "localhost" then .name "" else host

/-! ## Whole addresses -/

/-- Whether a character may be dropped at the ends of an address. -/
def isMargin (character : Char) : Bool := character.toNat ≤ 0x20

/-- Whether a character is dropped anywhere in an address. -/
def isBreak (character : Char) : Bool :=
  character == '\t' || character == '\n' || character == '\r'

/-- A text without margins and breaks. -/
def cleaned (text : List Char) : List Char :=
  let trimmed := ((text.dropWhile isMargin).reverse.dropWhile isMargin).reverse
  trimmed.filter fun character => !isBreak character

/-- The scheme in small letters, and what follows its colon. -/
def readScheme : List Char → Except UrlError (String × List Char)
  | [] => .error .noScheme
  | first :: rest =>
    let inScheme (character : Char) : Bool :=
      character.isAlphanum || character == '+' || character == '-' || character == '.'
    if !first.isAlpha then .error .noScheme
    else
      match rest.dropWhile inScheme with
      | ':' :: after =>
        .ok (String.ofList ((first :: rest.takeWhile inScheme).map Char.toLower), after)
      | _ => .error .noScheme

/-- The part of a text before a query or a fragment, the query and the fragment. -/
def splitQuery (special : Bool) (text : List Char) :
    List Char × Option String × Option String :=
  let beforeFragment := text.takeWhile (· ≠ '#')
  let fragment := match text.dropWhile (· ≠ '#') with
    | _ :: rest =>
      some (String.ofList (Percent.encode (Percent.printableExcept Percent.fragmentExcluded) rest))
    | [] => none
  let excluded := if special then '\'' :: Percent.queryExcluded else Percent.queryExcluded
  let query := match beforeFragment.dropWhile (· ≠ '?') with
    | _ :: rest => some (String.ofList (Percent.encode (Percent.printableExcept excluded) rest))
    | [] => none
  (beforeFragment.takeWhile (· ≠ '?'), query, fragment)

/-- The place of a file on a host, given the segments of its path. A path that starts at a drive has
no host. -/
def filePlace (host : Host) (segments : List String) : Option Authority × UrlPath :=
  let startsAtDrive := segments.head?.any fun segment => isDrive segment.toList
  (some { host := if startsAtDrive then .name "" else host },
    .segments (schemePath "file" segments))

/-- Read the address of a file. Without a host, all that follows two slashes is its path; what looks
like a drive is no host. -/
def readLocal (text : List Char) : Except UrlError (Option Authority × UrlPath) :=
  let isSlash := endsSegment true
  let isHostless := match text with
    | first :: second :: _ => !(isSlash first && isSlash second)
    | _ => true
  if isHostless then
    pure (filePlace (.name "") (readSegments "file" (withoutSlash true text)))
  else do
    let rest := text.drop 2
    let (hostText, after) := authorityText true rest
    if isDrive hostText then pure (filePlace (.name "") (readSegments "file" rest))
    else
      let host ← readLocalHost hostText
      let path := if host = .name "" then after else withoutSlash true after
      pure (filePlace host (readSegments "file" path))

/-- Read an address of any other scheme; `followed` says that a query or a fragment comes after
it. -/
def readHierarchy (scheme : String) (text : List Char) (followed : Bool) :
    Except UrlError (Option Authority × UrlPath) :=
  let special := isSpecial scheme
  let withHost (rest : List Char) : Except UrlError (Option Authority × UrlPath) := do
    let (hostText, after) := authorityText special rest
    let authority ← readAuthority scheme hostText (!after.isEmpty || followed)
    pure (some authority, .segments (readPath scheme after))
  if special then withHost (text.dropWhile (endsSegment true))
  else
    match text with
    | '/' :: '/' :: rest => withHost rest
    | '/' :: _ => pure (none, .segments (readPath scheme text))
    | _ =>
      pure (none, .rest (String.ofList (Percent.encode (Percent.printableExcept []) text)))

/-- Read an address. -/
def parse (text : String) : Except UrlError Url := do
  let (scheme, rest) ← readScheme (cleaned text.toList)
  let (hierarchy, query, fragment) := splitQuery (isSpecial scheme) rest
  let (authority, path) ←
    if scheme == "file" then readLocal hierarchy
    else readHierarchy scheme hierarchy (query.isSome || fragment.isSome)
  pure { scheme, authority, path, query, fragment }

/-! ## Writing -/

/-- A path as it is written. -/
def UrlPath.text : UrlPath → String
  | .segments list => String.join (list.map ("/" ++ ·))
  | .rest text => text

/-- Users, host and port as they are written. -/
def Authority.text (authority : Authority) : String :=
  let password := (authority.password.map (":" ++ ·)).getD ""
  let user := authority.user ++ password
  (if user.isEmpty then "" else user ++ "@") ++ authority.host.text ++
    (authority.port.map fun port => s!":{port}").getD ""

/-- The path of an address as it is written. -/
def pathText (url : Url) : String := UrlPath.text url.path

/-- What keeps an empty first segment apart from a host. -/
def separator (url : Url) : String :=
  match url.authority, url.path with
  | none, .segments ("" :: _ :: _) => "/."
  | _, _ => ""

/-- An address as it is written. -/
def text (url : Url) : String :=
  url.scheme ++ ":" ++
    (url.authority.map fun authority => "//" ++ Authority.text authority).getD "" ++
    url.separator ++ url.pathText ++ (url.query.map ("?" ++ ·)).getD "" ++
    (url.fragment.map ("#" ++ ·)).getD ""

/-! ## Adding to a path -/

/-- Whether a character of an added segment may stand. -/
def mayStandInSegment (special : Bool) : Char → Bool :=
  Percent.printableExcept
    (if special then '\\' :: Percent.segmentExcluded else Percent.segmentExcluded)

/-- An added segment as it is written; breaks are dropped. -/
def writtenSegment (special : Bool) (segment : String) : List Char :=
  Percent.encode (mayStandInSegment special)
    (segment.toList.filter fun character => !isBreak character)

/-- A path without an empty segment at its end. -/
def closed (path : List String) : List String :=
  match path with
  | [] => []
  | [only] => [only]
  | path => if path.getLast? = some "" then path.dropLast else path

/-- Add a segment to a path. The path of a root alone has no segment to be kept. -/
def addSegment (scheme : String) (path : List String) (segment : String) : List String :=
  if segment = "." ∨ segment = ".." then path
  else
    let base := if path = [""] then [] else path
    let written := writtenSegment (isSpecial scheme) segment
    schemePath scheme <|
      if written = ['.', '.'] then parent base ++ [""]
      else if written = ['.'] then base ++ [""]
      else base ++ [String.ofList written]

/-- The address with segments added to its path, where it has one. -/
def extend? (url : Url) (added : List String) : Option Url :=
  match url.path with
  | .rest _ => none
  | .segments path =>
    some { url with path := .segments (added.foldl (addSegment url.scheme) (closed path)) }

end Url

end RealmConvergence.Http
