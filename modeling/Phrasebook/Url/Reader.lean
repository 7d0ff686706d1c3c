import Phrasebook.Number.Decimal
import Phrasebook.Url.Host
import Phrasebook.Url.Path

namespace Phrasebook.Url

/-! Reading absolute URLs.

The parts of a URL are brought into their normal form: the scheme and the host in lower case, no
port that the scheme implies, no dot segments in the path, and characters that may not stand in a
URL as percent-encoded bytes.
-/

def queryUnsafe : List Char := [' ', '"', '#', '<', '>']

def userUnsafe : List Char :=
  pathUnsafe ++ ['/', ':', ';', '=', '@', '[', '\\', ']', '^', '|']

/-- The text without control characters and spaces at both ends, and without any line breaks and
tabs. -/
def cleaned (text : String) : List Char :=
  let isBlank (c : Char) := c.toNat ≤ 0x20
  let trimmed := ((text.toList.dropWhile isBlank).reverse.dropWhile isBlank).reverse
  trimmed.filter fun c => c ≠ '\t' && c ≠ '\n' && c ≠ '\r'

def readScheme (cs : List Char) : Option (String × List Char) :=
  let isSchemeChar (c : Char) := c.isAlphanum || c = '+' || c = '-' || c = '.'
  match cs, cs.dropWhile isSchemeChar with
  | first :: _, ':' :: rest =>
      if first.isAlpha then
        some (String.ofList ((cs.takeWhile isSchemeChar).map Char.toLower), rest)
      else
        none
  | _, _ => none

def cutAt (mark : Char) (cs : List Char) : List Char × Option (List Char) :=
  (cs.takeWhile (· ≠ mark), (cs.dropWhile (· ≠ mark)).tail?)

def cutAtLast (cs : List Char) : Option (List Char) × List Char :=
  let backward := cs.reverse
  (((backward.dropWhile (· ≠ '@')).tail?).map List.reverse, (backward.takeWhile (· ≠ '@')).reverse)

def readCredentials (cs : List Char) : Option Credentials :=
  let (user, password) := cutAt ':' cs
  let password := (password.filter (!·.isEmpty)).map (percentEncode userUnsafe)
  if user.isEmpty && password.isNone then none
  else some ⟨percentEncode userUnsafe user, password⟩

/-- The host up to a colon that does not stand in brackets, or up to a slash. -/
def splitHost (backslashes inBrackets : Bool) : List Char → List Char × List Char
  | [] => ([], [])
  | c :: cs =>
      if (c = ':' && !inBrackets) || isSlash backslashes c then
        ([], c :: cs)
      else
        let (host, rest) := splitHost backslashes (c = '[' || (inBrackets && c ≠ ']')) cs
        (c :: host, rest)

/-- The port after a colon, none if there is no digit, and what follows it. -/
def readPort : List Char → Except UrlFault (Option Nat × List Char)
  | ':' :: cs =>
      let digits := cs.takeWhile Char.isDigit
      let rest := cs.dropWhile Char.isDigit
      if UInt16.size ≤ digitsValue digits || rest.head?.any (!isSlash true ·) then
        .error .invalidPort
      else
        .ok (if digits.isEmpty then none else some (digitsValue digits), rest)
  | cs => .ok (none, cs)

/-- The path after an authority.  Where a backslash is no slash, a path that does not start with a
slash is put after one. -/
def readPath (backslashes : Bool) : List Char → String
  | c :: cs => pathText backslashes (if isSlash backslashes c then cs else c :: cs)
  | [] => if backslashes then "/" else ""

structure Place where
  credentials : Option Credentials
  host : Option String
  port : Option Nat
  path : String

/-- What follows two slashes, up to the query.  An `@` with nothing on either side of it can stand
at the end of the URL only. -/
def readAuthority (scheme : String) (isEnd : Bool) (cs : List Char) : Except UrlFault Place := do
  let kind := schemeKind scheme
  let backslashes := kind = .network
  let (before, hostStart) := cutAtLast (cs.takeWhile (!isSlash backslashes ·))
  let rest := hostStart ++ cs.dropWhile (!isSlash backslashes ·)
  if before.any List.isEmpty && hostStart.isEmpty && !(rest.isEmpty && isEnd) then
    .error .emptyHost
  else do
    let credentials := before.bind readCredentials
    let (hostText, rest) := splitHost backslashes false rest
    let host ← readHost kind hostText
    if host.isEmpty && (credentials.isSome || rest.head? = some ':') then
      .error .emptyHost
    else do
      let (port, rest) ← readPort rest
      let port := if port = defaultPort scheme then none else port
      .ok ⟨credentials, some host, port, readPath backslashes rest⟩

/-- The path of a file after two slashes and a host.  This computer is no host, and a drive belongs
to this computer. -/
def readFileAuthority (cs : List Char) : Except UrlFault Place := do
  let hostText := cs.takeWhile (!isSlash true ·)
  let rest := (cs.dropWhile (!isSlash true ·)).drop 1
  if isDrive hostText then
    .ok ⟨none, some "", none, joinSegments (fileSegments cs)⟩
  else if hostText.isEmpty then
    .ok ⟨none, some "", none, joinSegments (fileSegments rest)⟩
  else do
    let host ← readHost .file hostText
    let segments := fileSegments rest
    let isHere := host = "localhost" || segments.any isDrive
    .ok ⟨none, some (if isHere then "" else host), none, joinSegments segments⟩

def readFilePlace : List Char → Except UrlFault Place
  | first :: second :: cs =>
      if isSlash true first && isSlash true second then
        readFileAuthority cs
      else
        .ok ⟨none, some "", none, joinSegments (fileSegments (first :: second :: cs))⟩
  | cs => .ok ⟨none, some "", none, joinSegments (fileSegments cs)⟩

def readPlace (scheme : String) (isEnd : Bool) (cs : List Char) : Except UrlFault Place :=
  match schemeKind scheme, cs with
  | .file, cs => readFilePlace cs
  | .network, cs => readAuthority scheme isEnd (cs.dropWhile (isSlash true))
  | .other, '/' :: '/' :: cs => readAuthority scheme isEnd cs
  | .other, '/' :: cs => .ok ⟨none, none, none, pathText false cs⟩
  | .other, cs => .ok ⟨none, none, none, percentEncode [] cs⟩

def read (text : String) : Except UrlFault Url := do
  let some (scheme, rest) := readScheme (cleaned text) | .error .relative
  let (rest, fragment) := cutAt '#' rest
  let (rest, query) := cutAt '?' rest
  let queryUnsafe := if schemeKind scheme = .other then queryUnsafe else '\x27' :: queryUnsafe
  let place ← readPlace scheme (query.isNone && fragment.isNone) rest
  .ok {
    scheme
    credentials := place.credentials
    host := place.host
    port := place.port
    path := place.path
    query := query.map (percentEncode queryUnsafe)
    fragment := fragment.map (percentEncode fragmentUnsafe) }

end Phrasebook.Url
