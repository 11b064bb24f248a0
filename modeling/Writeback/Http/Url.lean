import Writeback.Host.Basic
import Writeback.Http.Path

/-!
# URLs

A URL of a web scheme (`http`, `https`, `ws`, `wss`, `ftp`) is brought into its normal form: the
scheme in lower case, the host in the form that names have in ASCII, the port left out when it is
the scheme's own, `.` and `..` segments resolved, and characters that may not stand in a part
percent encoded. An existing percent sign is kept. In these URLs, and in those of files, a backslash
separates like a slash, and any number of slashes may stand before the host.

A URL of another scheme may do without a host. It has a path with slashes, in which dots are
resolved too, or a text in which only controls and what is outside ASCII is encoded. A text without
a scheme is no URL.
-/

namespace Writeback.Http

structure Credentials where
  username : String
  password : Option String
deriving DecidableEq, Repr

/-- Whom a URL asks: a host and a port, and on whose behalf. -/
structure Authority where
  credentials : Option Credentials := none
  host : Host
  port : Option Nat := none
deriving DecidableEq, Repr

structure Url where
  scheme : String
  authority : Option Authority := none
  path : String
  query : Option String := none
  fragment : Option String := none
deriving DecidableEq, Repr

/-- The text of credentials, with the sign that parts them from the host. -/
def Credentials.text (c : Credentials) : String :=
  match c.password with
  | some password => c.username ++ ":" ++ password ++ "@"
  | none => c.username ++ "@"

/-- Whether the username can be read, and there is something to send. -/
def Credentials.isReadable (c : Credentials) : Bool :=
  let read (text : String) : Option (List Char) := Text.percentDecode? text.toList
  match read c.username with
  | none => false
  | some name => !name.isEmpty || (c.password.bind read).isSome

/-- The text of an authority after its two slashes. -/
def Authority.text (a : Authority) : String :=
  let credentials := match a.credentials with
    | some c => c.text
    | none => ""
  let port := match a.port with
    | some port => ":" ++ toString port
    | none => ""
  credentials ++ a.host.text ++ port

/-- The characters encoded in a query, and in one of a web scheme. -/
def queryListed (web : Bool) : String := if web then " \"#<>'" else " \"#<>"

def fragmentListed : String := " \"<>`"

def credentialsListed : String := pathListed ++ "/:;=@[\\]^|"

def defaultPort? (scheme : String) : Option Nat :=
  [("http", 80), ("https", 443), ("ws", 80), ("wss", 443), ("ftp", 21)].lookup scheme

/-- Whether a character is a slash of any kind. -/
def isSlash (c : Char) : Bool := c = '/' || c = '\\'

def encoded (listed : String) (cs : List Char) : String :=
  String.ofList (Text.percentEncode listed cs)

/-- A text before the last sign and after it, if there is one. -/
def cutAtLast (sign : Char) (cs : List Char) : Option (List Char × List Char) :=
  let after := cs.reverse.takeWhile fun c => c != sign
  match cs.reverse.drop after.length with
  | _ :: before => some (before.reverse, after.reverse)
  | [] => none

/-- The credentials before the sign. An empty password is none. -/
def credentials? (cs : List Char) : Option Credentials :=
  let name := cs.takeWhile fun c => c != ':'
  let password := cs.drop (name.length + 1)
  if name.isEmpty && password.isEmpty then none
  else some {
    username := encoded credentialsListed name
    password := if password.isEmpty then none else some (encoded credentialsListed password) }

/-- The host that a place begins with, up to a colon outside brackets, and the rest. -/
def hostPart : (inBrackets : Bool) → List Char → List Char × List Char
  | _, [] => ([], [])
  | inBrackets, c :: rest =>
    if c = ':' && !inBrackets then ([], c :: rest)
    else
      let (host, after) := hostPart (c = '[' || (inBrackets && c != ']')) rest
      (c :: host, after)

/-- The port that is written by digits: none when there is no digit or it is the scheme's own, and
an error when it is no port number. -/
def port? (scheme : String) (digits : List Char) : Option (Option Nat) :=
  if !digits.all Char.isDigit then none
  else
    let n := digits.foldl (fun n c => n * 10 + (c.toNat - '0'.toNat)) 0
    if 65535 < n then none
    else if digits.isEmpty || defaultPort? scheme = some n then some none
    else some (some n)

/-- Reads the authority at the beginning of a text, and gives the rest. -/
def authority? (scheme : String) (cs : List Char) : Option (Authority × List Char) := do
  let web := (defaultPort? scheme).isSome
  let ends (c : Char) : Bool := c = '/' || c = '?' || c = '#' || (web && c = '\\')
  let place := cs.takeWhile fun c => !ends c
  let rest := cs.dropWhile fun c => !ends c
  let (credentials, target) := match cutAtLast '@' place with
    | some (who, target) => (credentials? who, target)
    | none => (none, place)
  if place = ['@'] && !rest.isEmpty then none
  let (hostText, after) := hostPart false target
  if hostText.isEmpty && (web || credentials.isSome || !after.isEmpty) then none
  let host ← if web then Host.ofWeb? hostText else Host.ofOther? hostText
  let portText := (after.drop 1).takeWhile fun c => c != '\\'
  let port ← port? scheme portText
  some ({ credentials := credentials, host := host, port := port },
    after.drop (portText.length + 1) ++ rest)

/-- A text in three parts: before the first question mark, up to the first hash, and after it. -/
def splitTail (cs : List Char) : List Char × Option (List Char) × Option (List Char) :=
  let front := cs.takeWhile fun c => c != '#'
  let fragment := (cs.dropWhile fun c => c != '#').tail?
  let path := front.takeWhile fun c => c != '?'
  (path, (front.dropWhile fun c => c != '?').tail?, fragment)

/-- The scheme of a text, and what follows the colon. -/
def scheme? (cs : List Char) : Option (String × List Char) :=
  let isPart (c : Char) : Bool := c.isAlphanum || c = '+' || c = '-' || c = '.'
  match cs with
  | first :: _ =>
    if first.isAlpha then
      match cs.dropWhile isPart with
      | ':' :: rest => some (String.ofList ((cs.takeWhile isPart).map Char.toLower), rest)
      | _ => none
    else none
  | [] => none

/-- The characters of a text that count: no control characters or spaces around it, and no tabs or
line breaks within. -/
def stripped (text : String) : List Char :=
  let isEdge (c : Char) : Bool := c.toNat ≤ 0x20
  let inner := ((text.toList.dropWhile isEdge).reverse.dropWhile isEdge).reverse
  inner.filter fun c => c != '\t' && c != '\n' && c != '\r'

namespace Url

/-- A URL with the path, the query and the fragment that a text ends in; `path` brings the path into
its form. -/
def withTail (scheme : String) (authority : Option Authority) (path : List Char → List Char)
    (cs : List Char) : Url :=
  let (pathText, query, fragment) := splitTail cs
  let web := (defaultPort? scheme).isSome || scheme = "file"
  { scheme := scheme
    authority := authority
    path := String.ofList (path pathText)
    query := query.map (encoded (queryListed web))
    fragment := fragment.map (encoded fragmentListed) }

/-- Reads a URL of a web scheme after its colon. -/
def ofWeb? (scheme : String) (cs : List Char) : Option Url := do
  let (authority, rest) ← authority? scheme (cs.dropWhile isSlash)
  some (withTail scheme (some authority)
    (fun path => joinSegments (segmentsOf isSlash (path.drop 1))) rest)

/-- The host of a file, and the rest; a drive is no host, and the local host is left out. -/
def fileHost? (cs : List Char) : Option (Host × List Char) := do
  let ends (c : Char) : Bool := isSlash c || c = '?' || c = '#'
  let place := cs.takeWhile fun c => !ends c
  let rest := cs.dropWhile fun c => !ends c
  if isDrive place then some (.verbatim "", cs)
  else if place.isEmpty then some (.verbatim "", rest)
  else
    let host ← Host.ofWeb? place
    some (if host = .domain "localhost" then .verbatim "" else host, rest)

/-- Reads a URL of a file after its colon. A host counts only when the path does not begin with a
drive. -/
def ofFile? (cs : List Char) : Option Url := do
  let (host, rest) ← match cs with
    | a :: b :: more =>
      if isSlash a && isSlash b then fileHost? more else some (.verbatim "", cs)
    | _ => some (.verbatim "", cs)
  let after (path : List Char) : List Char := if path.head?.any isSlash then path.drop 1 else path
  let drive := (fileSegmentsOf isSlash (after (splitTail rest).1)).2
  some (withTail "file" (some { host := if drive then .verbatim "" else host })
    (fun path => joinSegments (fileSegmentsOf isSlash (after path)).1) rest)

/-- The path of a URL of another scheme after its authority. -/
def pathAfterAuthority : List Char → List Char
  | [] => []
  | '/' :: path => joinSegments (segmentsOf (· = '/') path)
  | path => joinSegments (segmentsOf (· = '/') path)

/-- The path of a URL without an authority. One that begins with two slashes gets a segment of a dot
before them, so that it is not read as an authority. -/
def pathAlone : List Char → List Char
  | '/' :: path =>
    match joinSegments (segmentsOf (· = '/') path) with
    | '/' :: '/' :: more => '/' :: '.' :: '/' :: '/' :: more
    | segments => segments
  | path => Text.percentEncode "" path

/-- Reads a URL of another scheme after its colon. -/
def ofOther? (scheme : String) : List Char → Option Url
  | '/' :: '/' :: cs => do
    let (authority, rest) ← authority? scheme cs
    some (withTail scheme (some authority) pathAfterAuthority rest)
  | cs => some (withTail scheme none pathAlone cs)

def parse? (text : String) : Option Url := do
  let (scheme, rest) ← scheme? (stripped text)
  if (defaultPort? scheme).isSome then ofWeb? scheme rest
  else if scheme = "file" then ofFile? rest
  else ofOther? scheme rest

/-- A URL without the credentials that are sent apart from it. Those that cannot be read stay. -/
def withoutCredentials (u : Url) : Url :=
  match u.authority with
  | some a =>
    if a.credentials.any Credentials.isReadable then
      { u with authority := some { a with credentials := none } }
    else u
  | none => u

def text (u : Url) : String :=
  let authority := match u.authority with
    | none => ""
    | some a => "//" ++ a.text
  let query := match u.query with
    | none => ""
    | some q => "?" ++ q
  let fragment := match u.fragment with
    | none => ""
    | some f => "#" ++ f
  u.scheme ++ ":" ++ authority ++ u.path ++ query ++ fragment

end Url

end Writeback.Http
