import SignedHttp.Text.Digit
import SignedHttp.Url.Host

/-!
# Addresses

An address is taken apart into scheme, user information, host, port, path, query and
fragment, each brought into its normal form, and written again from these parts. The
scheme and the host are in lower case, the scheme's own port is left out, `.` and `..`
are resolved in the path, and what may not stand is escaped. An empty path stays empty.

Key definitions: `Url`, `Url.parse`, `Url.text`, `Url.hostField`.
-/

namespace SignedHttp

/-- The parts of an address in normal form. Parts that may be left out are empty when
they are; a query or fragment may also be there and empty. -/
structure Url where
  scheme : String
  user : String
  host : String
  portNumber : Option Int
  path : String
  query : Option String
  fragment : Option String
deriving DecidableEq, Repr

namespace Url

def maxLength : Nat := 65536

/-- What stands before a separator and after it, or all of the text and nothing. -/
def cut (isSeparator : Char → Bool) (s : List Char) : List Char × Option (List Char) :=
  (s.takeWhile (!isSeparator ·),
    match s.dropWhile (!isSeparator ·) with
    | [] => none
    | _ :: after => some after)

def cutLast (separator : Char) (s : List Char) : Option (List Char) × List Char :=
  match cut (· = separator) s.reverse with
  | (after, none) => (none, after.reverse)
  | (after, some before) => (some before.reverse, after.reverse)

/-- The scheme in front of a colon, and the text after it. A colon at the very start
ends an empty scheme. -/
def cutScheme (s : List Char) : List Char × List Char :=
  let isSchemeChar (c : Char) : Bool := c.isAlphanum || c = '+' || c = '.' || c = '-'
  let name := s.takeWhile isSchemeChar
  match s.dropWhile isSchemeChar with
  | ':' :: after => if name.isEmpty || name.head?.any Char.isAlpha then (name, after) else ([], s)
  | _ => ([], s)

def cutAuthority : List Char → List Char × List Char
  | '/' :: '/' :: s =>
    let isEnd (c : Char) : Bool := c = '/' || c = '?' || c = '#'
    (s.takeWhile (!isEnd ·), s.dropWhile (!isEnd ·))
  | s => ([], s)

/-- The host at the start of an authority without user information, and what follows
it: up to a colon, or in brackets. -/
def cutHost (s : List Char) : List Char × List Char :=
  match s with
  | '[' :: _ =>
    match cutLast ']' s with
    | (some before, after) => (before ++ [']'], after)
    | (none, _) => (s.takeWhile (· != ':'), s.dropWhile (· != ':'))
  | _ => (s.takeWhile (· != ':'), s.dropWhile (· != ':'))

/-- The number that a port is written as: decimal digits of any script, which single low
lines may group, with an optional sign and blanks around it. -/
def readNumber? (s : List Char) : Option Int := do
  let (negative, digits) := match ← Text.plainNumeral? s with
    | '-' :: digits => (true, digits)
    | '+' :: digits => (false, digits)
    | digits => (false, digits)
  guard (!digits.isEmpty && digits.all Char.isDigit && digits.length ≤ Text.Decimal.maxDigits)
  let n := Int.ofNat (Text.Decimal.value digits)
  return if negative then -n else n

def defaultPorts : List (String × Int) :=
  [("ftp", 21), ("http", 80), ("https", 443), ("ws", 80), ("wss", 443)]

/-- The port that an address shows. The scheme counts as it is spelled. -/
def normalPort (scheme text : List Char) : Except UrlDefect (Option Int) :=
  if text.isEmpty then .ok none
  else match readNumber? text with
    | none => .error (.portNumber (.ofList text))
    | some n => .ok (if defaultPorts.lookup (.ofList scheme) = some n then none else some n)

/-- The segments with `.` left out and `..` taken back together with the segment before
it; the empty segment at the start of a path stays. The segments that are kept so far
are held last first. -/
def resolve (kept : List (List Char)) : List (List Char) → List (List Char)
  | [] => kept.reverse
  | segment :: rest =>
    if segment = ['.'] then resolve kept rest
    else if segment = ['.', '.'] then
      resolve (if kept = [[]] then kept else kept.drop 1) rest
    else resolve (segment :: kept) rest

def resolvePath (path : List Char) : List Char :=
  ['/'].intercalate (resolve [] (Text.pieces (· = '/') path))

def checkPath (hasScheme hasAuthority : Bool) (path : List Char) : Except UrlDefect Unit :=
  if hasAuthority then
    if path.isEmpty || path.head? = some '/' then .ok () else .error .detachedPath
  else if hasScheme then .ok ()
  else match path with
    | '/' :: '/' :: _ => .error .doubleSlash
    | ':' :: _ => .error .leadingColon
    | _ => .ok ()

def isControl (c : Char) : Bool :=
  c < ' ' || c = '\x7f'

def parse (text : String) : Except UrlDefect Url := do
  let s := text.toList
  if maxLength < s.length then throw .tooLong
  if let some index := s.findIdx? isControl then throw (.control (s.getD index ' ') index)
  let (scheme, rest) := cutScheme s
  let (authority, rest) := cutAuthority rest
  let (rest, fragment) := cut (· = '#') rest
  let (path, query) := cut (· = '?') rest
  let (user, address) := cutLast '@' authority
  let (hostText, afterHost) := cutHost address
  let user := escape mayStandInUser (user.getD [])
  let host ← normalHost hostText
  let number ← normalPort scheme
    (if afterHost.head? = some ':' then afterHost.drop 1 else afterHost)
  let hasScheme := !scheme.isEmpty
  let hasAuthority := !user.isEmpty || !host.isEmpty || number.isSome
  checkPath hasScheme hasAuthority path
  let path := if hasScheme || hasAuthority then resolvePath path else path
  return {
    scheme := .ofList (scheme.map Char.toLower)
    user := .ofList user
    host := .ofList host
    portNumber := number
    path := .ofList (escape mayStandInPath path)
    query := query.map fun s => .ofList (escape mayStandInQuery s)
    fragment := fragment.map fun s => .ofList (escape mayStandInFragment s) }

/-- Host and port as a `Host` field carries them; an IPv6 address is in brackets. -/
def hostField (url : Url) : String :=
  let host := if url.host.toList.contains ':' then "[" ++ url.host ++ "]" else url.host
  match url.portNumber with
  | some number => host ++ ":" ++ Text.Decimal.numeral number
  | none => host

def authority (url : Url) : String :=
  if url.user.isEmpty then url.hostField else url.user ++ "@" ++ url.hostField

def text (url : Url) : String :=
  (if url.scheme.isEmpty then "" else url.scheme ++ ":") ++
    (if url.authority.isEmpty then "" else "//" ++ url.authority) ++ url.path ++
    (url.query.elim "" ("?" ++ ·)) ++ (url.fragment.elim "" ("#" ++ ·))

end Url

end SignedHttp
