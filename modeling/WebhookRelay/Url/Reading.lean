import WebhookRelay.Text.Blank
import WebhookRelay.Text.Cut
import WebhookRelay.Url

/-!
Reading URLs as web clients do: blanks around the text and line breaks in it do not count, and
schemes of the web take `\` for `/`.
-/

namespace WebhookRelay.Url

/-- What a scheme says about the rest. -/
inductive Family where
  | web (port : Nat)
  | file
  | other
  deriving DecidableEq, Repr

namespace Family

def ofScheme (scheme : List Char) : Family :=
  let ports := [("https", 443), ("http", 80), ("wss", 443), ("ws", 80), ("ftp", 21)]
  match ports.lookup (String.ofList scheme) with
  | some port => .web port
  | none => if scheme = "file".toList then .file else .other

def isSpecial (family : Family) : Bool := family != .other

def isSlash (family : Family) (c : Char) : Bool := c == '/' || (c == '\\' && family.isSpecial)

/-- What ends the authority. -/
def isEnd (family : Family) (c : Char) : Bool := family.isSlash c || c == '?' || c == '#'

end Family

def isSecretReserved (c : Char) : Bool := Path.isReserved c || c ∈ "/:;=@[\\]^|".toList

def isQueryReserved (special : Bool) (c : Char) : Bool :=
  Host.isControl c || c ∈ " \"#<>".toList || (special && c == '\'')

def isFragmentReserved (c : Char) : Bool := Host.isControl c || c ∈ " \"<>`".toList

/-- Without the blanks and controls at the ends, and without tabs and line breaks. -/
def clean (text : List Char) : List Char :=
  let isEdge (c : Char) : Bool := c.toNat ≤ 0x20
  (Text.dropTail isEdge (text.dropWhile isEdge)).filter fun c =>
    !(c == '\t' || c == '\n' || c == '\x0d')

/-- The scheme in lower case, and what follows its colon. -/
def splitScheme? (text : List Char) : Option (List Char × List Char) :=
  let isMark (c : Char) : Bool := c.isAlphanum || c == '+' || c == '-' || c == '.'
  match Text.splitFirst? ':' text with
  | some (first :: scheme, rest) =>
    if first.isAlpha && scheme.all isMark then some ((first :: scheme).map Char.toLower, rest)
    else none
  | _ => none

/-- Cuts a host with a port at the first colon that is not in brackets. -/
def splitPort (inBrackets : Bool) : List Char → List Char × Option (List Char)
  | [] => ([], none)
  | ':' :: rest =>
    if inBrackets then
      let (host, port) := splitPort inBrackets rest
      (':' :: host, port)
    else ([], some rest)
  | c :: rest =>
    let (host, port) := splitPort (c == '[' || (inBrackets && c != ']')) rest
    (c :: host, port)

/-- The port and what follows its digits, which is nothing unless a `\` stands there. No port is
kept that the scheme implies. -/
def readPort (family : Family) (text : List Char) : Except Fault (Option Nat × List Char) := do
  let digits := text.takeWhile Char.isDigit
  let rest := text.dropWhile Char.isDigit
  let port := digits.foldl (fun n d => 10 * n + (d.toNat - 0x30)) 0
  if 65535 < port ∨ (rest ≠ [] ∧ rest.head? ≠ some '\\') then .error .badPort
  else if digits.isEmpty ∨ family = .web port then .ok (none, rest)
  else .ok (some port, rest)

/-- Reads what stands between the slashes and the path. The rest of it belongs to the path.
`bare` says that nothing follows. -/
def readAuthority (family : Family) (bare : Bool) (text : List Char) :
    Except Fault (Authority × List Char) := do
  let (login, address) :=
    match Text.splitLast? '@' text with
    | some (login, address) => (some login, address)
    | none => (none, text)
  let (user, password) :=
    match Text.splitFirst? ':' (login.getD []) with
    | some (user, password) => (user, password)
    | none => (login.getD [], [])
  let (hostText, portText) := splitPort false address
  if hostText.isEmpty then
    if family.isSpecial || portText.isSome || !user.isEmpty || !password.isEmpty ||
        (login.isSome && login.getD [] == [] && !bare) then
      .error .emptyHost
  let host ← if family.isSpecial then Host.ofDomain hostText else Host.verbatim hostText
  let (port, rest) ← readPort family (portText.getD [])
  let spell (text : List Char) := String.ofList (Text.Percent.encode isSecretReserved text)
  return ({ user := spell user, password := spell password, host, port }, rest)

/-- A file lies on a host without login or port. It is left out if it is the local one. -/
def readFileHost (text : List Char) : Except Fault Host := do
  let host ← if text.isEmpty then .ok (.name "") else Host.ofDomain text
  return if host = .name "localhost" then .name "" else host

/-- The path of a URL with an authority, which starts with a slash wherever the scheme is of the
web or anything follows. -/
def readPath (family : Family) (text : List Char) : Path :=
  let text := if family.isSpecial then text.map fun c => if c == '\\' then '/' else c else text
  match text with
  | '/' :: rest => Path.ofText (family = .file) rest
  | [] => if family.isSpecial then .segments [""] else .segments []
  | text => Path.ofText (family = .file) text

/-- What follows the path: a query from the first `?` on and a fragment from the first `#` on. -/
structure Tail where
  path : List Char
  query : Option String
  fragment : Option String

def Tail.ofText (special : Bool) (text : List Char) : Tail :=
  let (text, fragment) :=
    match Text.splitFirst? '#' text with
    | some (text, fragment) => (text, some fragment)
    | none => (text, none)
  let (path, query) :=
    match Text.splitFirst? '?' text with
    | some (path, query) => (path, some query)
    | none => (text, none)
  { path
    query := query.map fun q => String.ofList (Text.Percent.encode (isQueryReserved special) q)
    fragment := fragment.map fun f => String.ofList (Text.Percent.encode isFragmentReserved f) }

/-- Reads a URL that names a host. `text` is what follows the slashes after the scheme. -/
def readHosted (scheme : List Char) (family : Family) (text : List Char) : Except Fault Url := do
  let beyond := text.dropWhile (!family.isEnd ·)
  let (authority, rest) ←
    readAuthority family beyond.isEmpty (text.takeWhile (!family.isEnd ·))
  let tail := Tail.ofText family.isSpecial (rest ++ beyond)
  return {
    scheme := String.ofList scheme
    authority := some authority
    path := readPath family tail.path
    query := tail.query
    fragment := tail.fragment }

/-- What follows the two slashes of a file's URL, any of which may be left out. -/
def fileText : List Char → List Char
  | c :: d :: rest =>
    if Family.file.isSlash c then if Family.file.isSlash d then rest else c :: d :: rest
    else '/' :: c :: d :: rest
  | [c] => if Family.file.isSlash c then [c] else ['/', c]
  | [] => []

/-- Reads the URL of a file. A drive in the place of the host belongs to the path, and a path with
a drive has no host. -/
def readFile (text : List Char) : Except Fault Url := do
  let text := fileText text
  let hostText := text.takeWhile (!Family.file.isEnd ·)
  let drive := Path.isDrive hostText
  let host ← readFileHost (if drive then [] else hostText)
  let tail := Tail.ofText true (if drive then text else text.dropWhile (!Family.file.isEnd ·))
  let path := readPath .file tail.path
  return {
    scheme := "file"
    authority := some { host := if path.hasDrive then .name "" else host }
    path
    query := tail.query
    fragment := tail.fragment }

/-- Reads a URL without a host. Its path is one text unless it starts with a slash. -/
def readPlain (scheme : List Char) (text : List Char) : Url :=
  let tail := Tail.ofText false text
  let path :=
    match tail.path with
    | '/' :: path => Path.ofText false path
    | path => .whole (String.ofList (Text.Percent.encode Host.isControl path))
  { scheme := String.ofList scheme
    authority := none
    path
    query := tail.query
    fragment := tail.fragment }

def parse (text : String) : Except Fault Url :=
  match splitScheme? (clean text.toList) with
  | none => .error .noScheme
  | some (scheme, rest) =>
    match Family.ofScheme scheme with
    | .web port => readHosted scheme (.web port) (rest.dropWhile (Family.web port).isSlash)
    | .file => readFile rest
    | .other =>
      match Text.stripLead? ['/', '/'] rest with
      | some rest => readHosted scheme .other rest
      | none => .ok (readPlain scheme rest)

end WebhookRelay.Url
