import SignedHttp.Fault
import SignedHttp.Text.Case
import SignedHttp.Text.Decimal
import SignedHttp.Text.Hex
import SignedHttp.Text.Piece
import SignedHttp.Url.Escape

/-!
# Hosts of addresses

A host is a dotted IPv4 address, an IPv6 address in brackets, or a name. What looks
like an address must be one. A name is put into lower case; one in ASCII is escaped, and
any other is spelled as it goes over the wire.

Key definitions: `normalHost`.
-/

namespace SignedHttp.Url

/-- Whether the host looks like an IPv4 address: four groups of digits between points. -/
def looksDotted (s : List Char) : Bool :=
  let groups := Text.pieces (· = '.') s
  groups.length = 4 && groups.all fun group => !group.isEmpty && group.all Char.isDigit

/-- Whether a group of an IPv4 address is a number up to 255 without leading zeros. -/
def isOctet (s : List Char) : Bool :=
  !s.isEmpty && s.length ≤ 3 && s.all Char.isDigit && (s.length = 1 || s.head? != some '0') &&
    Text.Decimal.value s ≤ 255

def isAddress4 (s : List Char) : Bool :=
  let groups := Text.pieces (· = '.') s
  groups.length = 4 && groups.all isOctet

/-- Whether a group of an IPv6 address is one to four hexadecimal digits. -/
def isHextet (s : List Char) : Bool :=
  !s.isEmpty && s.length ≤ 4 && s.all fun c => (Text.Hex.digit? c).isSome

/-- Whether the groups between colons are those of an IPv6 address. Empty groups stand
for the zeros that are left out, in one place only: one group inside, one more for each end
that they are at. -/
def isAddress6Groups (groups : List (List Char)) : Bool :=
  if groups.all (!·.isEmpty) then groups.length = 8 && groups.all isHextet
  else
    let high := groups.takeWhile (!·.isEmpty)
    let low := (groups.reverse.takeWhile (!·.isEmpty)).reverse
    let empties := 1 + (if high.isEmpty then 1 else 0) + (if low.isEmpty then 1 else 0)
    groups = high ++ List.replicate empties [] ++ low &&
      high.length + low.length < 8 && high.all isHextet && low.all isHextet

/-- Whether the text is an IPv6 address, with a zone if there is one. -/
def isAddress6 (s : List Char) : Bool :=
  let address := s.takeWhile (· != '%')
  let zone := s.dropWhile (· != '%')
  let zoneFits := match zone with
    | [] => true
    | _ :: name => !name.isEmpty && !name.contains '%'
  let groups := Text.pieces (· = ':') address
  let groups := match groups.reverse with
    | last :: others =>
      if last.contains '.' then
        if isAddress4 last then (['0'] :: ['0'] :: others).reverse else [['.']]
      else groups
    | [] => []
  zoneFits && !address.contains '/' && 3 ≤ groups.length && isAddress6Groups groups

/-- The host as an address shows it, without brackets. -/
def normalHost (s : List Char) : Except UrlDefect (List Char) :=
  let bracketed := s.head? = some '[' && s.getLast? = some ']' && 2 ≤ s.length
  if looksDotted s then
    if isAddress4 s then .ok s else .error (.address4 (.ofList s))
  else if bracketed then
    let address := (s.drop 1).dropLast
    if isAddress6 address then .ok address else .error (.address6 (.ofList s))
  else if s.all Text.Ascii.isAscii then .ok (escape mayStandInHost (s.map Char.toLower))
  else (HostName.spelled (Text.lower (.ofList s)).toList).mapError fun _ => .hostName (.ofList s)

end SignedHttp.Url
