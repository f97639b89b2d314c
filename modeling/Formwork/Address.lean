import Formwork.Text.Percent
import Formwork.Text.Cut
/-!
# Addresses

The address of the sign-in page is parsed into scheme, host, path and query, and written with further parameters; its
fragment is dropped.  A host may be an IPv6 address in brackets, and must not contain characters whose NFKC
normalization has a delimiter of addresses (`misleading`).

`Address.page` is the text of an address in front of its query.
-/
namespace Formwork

/-- An address. -/
structure Address where
  /-- The scheme in lower case, empty if there is none. -/
  scheme : List Char
  /-- The host, with user information and port if they are given. -/
  host : List Char
  /-- The path. -/
  path : List Char
  /-- The query. -/
  query : List (String × String)
deriving DecidableEq, Inhabited

namespace Address

/-! ## Hosts -/

/-- A decimal number below 256 without leading zeros. -/
def isOctet (s : List Char) : Bool :=
  s ≠ [] && s.length ≤ 3 && s.all Char.isDigit && (s = ['0'] || s.head? ≠ some '0')
    && s.foldl (fun value c => value * 10 + (c.toNat - 48)) 0 < 256

/-- An IPv4 address. -/
def isOctets (s : List Char) : Bool :=
  let octets := s.splitOn '.'
  octets.length = 4 && octets.all isOctet

/-- A group of an IPv6 address: up to four hexadecimal digits. -/
def isGroup (s : List Char) : Bool := s ≠ [] && s.length ≤ 4 && s.all Text.isHexDigit

/-- All parts are groups; a single empty part stands for none. -/
def areGroups (parts : List (List Char)) : Bool := parts = [[]] || parts.all isGroup

/-- Eight groups, or fewer with one gap. -/
def fillAddress (parts : List (List Char)) : Bool :=
  match (parts.drop 1).dropLast.findIdx? (· = []) with
  | none => parts.length = 8 && parts.all isGroup
  | some i =>
    areGroups (parts.take (i + 1)) && areGroups (parts.drop (i + 2))
      && (parts.filter (· ≠ [])).length ≤ 7

/-- An IPv6 address, in which an IPv4 address may stand for the last two groups. -/
def isGrouped (s : List Char) : Bool :=
  let parts := s.splitOn ':'
  match parts.reverse with
  | last :: before =>
    if last.contains '.' then isOctets last && fillAddress (before.reverse ++ [['0'], ['0']])
    else fillAddress parts
  | [] => false

/-- The content of brackets: a future version with its address, or an IPv6 address with an optional zone. -/
def isBracketed (s : List Char) : Bool :=
  match s with
  | 'v' :: rest =>
    let behind := rest.dropWhile Text.isHexDigit
    !(rest.takeWhile Text.isHexDigit).isEmpty && behind.head? = some '.' && 1 < behind.length
  | _ =>
    match Text.cut '%' s with
    | (groups, none) => isGrouped groups
    | (groups, some zone) => isGrouped groups && zone ≠ [] && !zone.contains '%'

/-- The characters whose NFKC normalization has a delimiter of addresses. -/
def misleading : List Nat := [
  0x2047, 0x2048, 0x2049, 0x2100, 0x2101, 0x2105, 0x2106, 0x2a74, 0xfe13, 0xfe16, 0xfe55, 0xfe56, 0xfe5f,
  0xfe6b, 0xff03, 0xff0f, 0xff1a, 0xff1f, 0xff20]

/-- The brackets of a host are a pair around a valid content. -/
def hasFitBrackets (host : List Char) : Bool :=
  match Text.cut '[' host with
  | (_, none) => !host.contains ']'
  | (_, some rest) => host.contains ']' && isBracketed (Text.cut ']' rest).1

/-- A valid host. -/
def isHost (s : List Char) : Bool := hasFitBrackets s && s.all fun c => !misleading.contains c.toNat

/-! ## Reading and writing -/

/-- A text without control characters and spaces in front, and without line ends and tabs anywhere. -/
def trimmed (s : List Char) : List Char :=
  (s.dropWhile fun c => c.toNat ≤ 0x20).filter fun c => c ≠ '\t' && c ≠ '\n' && c ≠ '\r'

/-- The scheme of an address, and what follows its colon. -/
def splitScheme (s : List Char) : List Char × List Char :=
  match Text.cut ':' s with
  | (scheme, some rest) =>
    if (scheme.head?.any Char.isAlpha)
        && scheme.all fun c => c.isAlphanum || c = '+' || c = '-' || c = '.' then
      (scheme.map Char.toLower, rest)
    else ([], s)
  | _ => ([], s)

/-- A character at which a host ends. -/
def endsHost (c : Char) : Bool := c = '/' || c = '?' || c = '#'

/-- The host of an address without its scheme, and what follows it. -/
def splitHost : List Char → List Char × List Char
  | '/' :: '/' :: rest => (rest.takeWhile (!endsHost ·), rest.dropWhile (!endsHost ·))
  | s => ([], s)

/-- A path without a semicolon at its end, if that is the only one of its last segment. -/
def withoutParameterMark (path : List Char) : List Char :=
  match path.reverse with
  | ';' :: before => if (before.takeWhile (· ≠ '/')).contains ';' then path else before.reverse
  | _ => path

/-- A query parameter: its name, and its value behind the first equals sign. -/
def readParameter (s : List Char) : String × String :=
  let (name, value) := Text.cut '=' s
  let read (part : List Char) : String :=
    String.ofList (Text.percentDecode (part.map fun c => if c = '+' then ' ' else c))
  (read name, read (value.getD []))

/-- The parameters of a query. -/
def readQuery (s : List Char) : List (String × String) :=
  ((s.splitOn '&').filter (· ≠ [])).map readParameter

/-- The address that a text denotes, if its host is valid. -/
def read? (text : String) : Option Address :=
  let (scheme, rest) := splitScheme (trimmed text.toList)
  let (host, rest) := splitHost rest
  let (path, query) := Text.cut '?' (Text.cut '#' rest).1
  if isHost host then
    some ⟨scheme, host, withoutParameterMark path, readQuery (query.getD [])⟩
  else none

/-- A character that is not percent-encoded. -/
def isPlain (c : Char) : Bool := c.isAlphanum || ":/%#?=@[]!$&'()*+,;_.-~".contains c

/-- A path as it follows a host. -/
def rooted : List Char → List Char
  | [] => []
  | '/' :: rest => '/' :: rest
  | path => '/' :: path

/-- The text of an address in front of its query. -/
def page (address : Address) : String :=
  let isPath := address.scheme = [] ∧ address.host = [] ∧ !"//".toList.isPrefixOf address.path
  let rest := if isPath then address.path else '/' :: '/' :: address.host ++ rooted address.path
  let scheme := if address.scheme = [] then [] else address.scheme ++ [':']
  String.ofList (Text.percentEncode isPlain (scheme ++ rest))

end Address
end Formwork
