/-
Module: QueryDesk.Connection.MysqlUrl
Purpose: Addresses of MySQL servers, written as URLs. The scheme and the network location are split
  off the front, the query and the fragment off the end; nothing is decoded.
Imports: QueryDesk.Connection.Failure, QueryDesk.Connection.HostAddress, QueryDesk.Text.Case
Main exports: MysqlAddress, MysqlAddress.ofUrl
-/
import QueryDesk.Connection.Failure
import QueryDesk.Connection.HostAddress
import QueryDesk.Text.Case

namespace QueryDesk

open QueryDesk.Number QueryDesk.Text

/-- Where a MySQL server listens, who connects, and to which database. -/
structure MysqlAddress where
  host : String
  port : Nat
  user : String
  password : String
  database : Option String
deriving Repr, Inhabited, DecidableEq

/-- The text before the first character of a kind, and the text after that character if there is
one. -/
def breakAtFirst (stop : Char → Bool) : List Char → List Char × Option (List Char)
  | [] => ([], none)
  | c :: rest =>
    if stop c then ([], some rest)
    else
      let (before, after) := breakAtFirst stop rest
      (c :: before, after)

/-- The text before the last occurrence of a character and the text after it; without an
occurrence, all of the text is behind it. -/
def breakAtLast (stop : Char) (text : List Char) : Option (List Char) × List Char :=
  match breakAtFirst (· == stop) text.reverse with
  | (after, some before) => (some before.reverse, after.reverse)
  | (_, none) => (none, text)

/-- The parts of a URL that an address is read from. -/
structure UrlParts where
  scheme : List Char
  location : List Char
  path : List Char
deriving Repr, Inhabited, DecidableEq

/-- A character that may stand in a scheme. -/
def isSchemeChar (c : Char) : Bool :=
  isAsciiLetter c || isAsciiDigit c || c == '+' || c == '-' || c == '.'

/-- The scheme of a URL in lower case, and the rest. -/
def splitScheme (url : List Char) : List Char × List Char :=
  match breakAtFirst (· == ':') url with
  | (first :: more, some rest) =>
    if isAsciiLetter first && more.all isSchemeChar then
      ((first :: more).map Char.toLower, rest)
    else ([], url)
  | _ => ([], url)

/-- The schemes whose paths end in parameters. A URL without a scheme is among them. -/
def parameterSchemes : List String :=
  ["", "ftp", "hdl", "prospero", "http", "imap", "https", "shttp", "rtsp", "rtsps", "rtspu", "sip",
    "sips", "mms", "sftp", "tel"]

/-- The path without the parameters of its last segment. -/
def dropParameters (path : List Char) : List Char :=
  match breakAtLast '/' path with
  | (some folders, last) => folders ++ '/' :: (breakAtFirst (· == ';') last).1
  | (none, last) => (breakAtFirst (· == ';') last).1

/-- The network location of a URL whose scheme is gone, and the rest. -/
def splitLocation (url : List Char) : List Char × List Char :=
  match url with
  | '/' :: '/' :: rest =>
    let ends := fun c => c == '/' || c == '?' || c == '#'
    (rest.takeWhile fun c => !ends c, rest.dropWhile fun c => !ends c)
  | _ => ([], url)

/-- Whether a text is an address of a later version: the letter v, the version in hexadecimal, a
point and the address. -/
def isFutureAddress (text : List Char) : Bool :=
  match text with
  | 'v' :: rest =>
    match breakAtFirst (· == '.') rest with
    | (version, some address) =>
      !version.isEmpty && version.all isHexDigit && !address.isEmpty
    | (_, none) => false
  | _ => false

/-- Refuses what stands between brackets and is no numeric host address with colons, nor one of a
later version. -/
def checkBracketed (host : List Char) : Except Failure Unit :=
  if host.head? == some 'v' then
    if isFutureAddress host then .ok ()
    else .error (.ofMessage .badValue "IPvFuture address is invalid")
  else if isDottedAddress host then
    .error (.ofMessage .badValue "An IPv4 address cannot be in brackets")
  else if isColonAddress host then .ok ()
  else
    .error (.ofMessage .badValue
      (String.ofList (literalForm host) ++ " does not appear to be an IPv4 or IPv6 address"))

/-- What stands between the first opening bracket and the closing one behind it. -/
def betweenBrackets (location : List Char) : List Char :=
  (breakAtFirst (· == ']') (((breakAtFirst (· == '[') location).2).getD [])).1

/-- Refuses a network location with one bracket of two, or with a host between brackets that is no
address. -/
def checkBrackets (location : List Char) : Except Failure Unit :=
  if location.contains '[' != location.contains ']' then
    .error (.ofMessage .badValue "Invalid IPv6 URL")
  else if location.contains '[' then checkBracketed (betweenBrackets location)
  else .ok ()

/-- The characters whose compatibility form holds one of the delimiters of a network location: a
slash, a question mark, a number sign, an at sign or a colon. -/
def hiddenDelimiters : List Nat :=
  [0x2047, 0x2048, 0x2049, 0x2100, 0x2101, 0x2105, 0x2106, 0x2a74, 0xfe13, 0xfe16, 0xfe55, 0xfe56,
    0xfe5f, 0xfe6b, 0xff03, 0xff0f, 0xff1a, 0xff1f, 0xff20]

/-- Refuses a network location in which a character stands for a delimiter. -/
def checkDelimiters (location : List Char) : Except Failure Unit :=
  if location.any fun c => hiddenDelimiters.contains c.toNat then
    .error (.ofMessage .badValue
      ("netloc '" ++ String.ofList location ++
        "' contains invalid characters under NFKC normalization"))
  else .ok ()

/-- The parts of a URL. Controls and blanks before it do not count, and tabs and line ends are
dropped from it. -/
def UrlParts.ofText (text : List Char) : Except Failure UrlParts := do
  let url := (text.dropWhile fun c => c.toNat ≤ 0x20).filter fun c =>
    !(c == '\t' || c == '\r' || c == '\n')
  let (scheme, afterScheme) := splitScheme url
  let (location, afterLocation) := splitLocation afterScheme
  checkBrackets location
  checkDelimiters location
  let path := (breakAtFirst (· == '?') (breakAtFirst (· == '#') afterLocation).1).1
  return {
    scheme := scheme
    location := location
    path :=
      if parameterSchemes.contains (String.ofList scheme) then dropParameters path else path }

/-- The host and the port text in a network location without user information. A host between
brackets may hold colons. -/
def splitHost (location : List Char) : List Char × List Char :=
  match breakAtFirst (· == '[') location with
  | (_, some bracketed) =>
    let (host, rest) := breakAtFirst (· == ']') bracketed
    (host, ((breakAtFirst (· == ':') (rest.getD [])).2).getD [])
  | (_, none) =>
    let (host, port) := breakAtFirst (· == ':') location
    (host, port.getD [])

/-- A host in lower case. The zone of a scoped address keeps its case. -/
def lowerHost (host : List Char) : List Char :=
  match breakAtFirst (· == '%') host with
  | (name, some zone) => lower name ++ '%' :: zone
  | (name, none) => lower name

/-- The port that a text writes, if it writes any. -/
def readPort (text : List Char) : Except Failure (Option Nat) :=
  if text.isEmpty then .ok none
  else if text.all isAsciiDigit then
    if numeralLimit < text.length then .error (.longNumeral text.length)
    else
      let port := text.foldl (fun sum c => 10 * sum + (c.toNat - '0'.toNat)) 0
      if 65535 < port then .error (.ofMessage .badValue "Port out of range 0-65535")
      else .ok (some port)
  else
    .error (.ofMessage .badValue
      ("Port could not be cast to integer value as " ++ String.ofList (literalForm text)))

/-- A text, or another one where it is empty. -/
def orElseText (text : List Char) (fallback : String) : String :=
  if text.isEmpty then fallback else String.ofList text

/-- The address that a URL writes. The port is 3306 unless one is given, the user is root, and the
database is what follows the slashes of the path. -/
def MysqlAddress.ofUrl (url : String) : Except Failure MysqlAddress := do
  let parts ← UrlParts.ofText url.toList
  let (information, location) := breakAtLast '@' parts.location
  let (user, password) := breakAtFirst (· == ':') (information.getD [])
  let (host, portText) := splitHost location
  let port ← readPort portText
  return {
    host := orElseText (lowerHost host) "localhost"
    port := (port.filter (· ≠ 0)).getD 3306
    user := orElseText user "root"
    password := orElseText (password.getD []) ""
    database :=
      if parts.path.isEmpty then none
      else some (String.ofList (parts.path.dropWhile (· == '/'))) }

/-- The address as arguments of a connection. -/
def MysqlAddress.arguments (address : MysqlAddress) : Mapping :=
  [(.name "host", .text address.host), (.name "port", .int address.port),
    (.name "user", .text address.user), (.name "password", .text address.password),
    (.name "db", .ofText? address.database)]

end QueryDesk
