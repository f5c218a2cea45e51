import TextScenario.Host
/-!
HTTP addresses. The fragment is cut off first, then the query; the path is settled segment by
segment, and what may not stand in an address is percent-encoded.
-/

namespace TextScenario

structure Url where
  secure : Bool
  host : String
  port : Nat
  /-- The path, encoded; it starts with a slash. -/
  path : String
  query : Option String
  deriving DecidableEq, Repr, Inhabited

namespace Url

def upperHex (value : Nat) : Char :=
  if value < 10 then Char.ofNat ('0'.toNat + value) else Char.ofNat ('A'.toNat + (value - 10))

/-- The UTF-8 bytes of a character, each after a percent sign. -/
def percentEncoded (char : Char) : List Char :=
  (String.utf8EncodeChar char).flatMap fun byte =>
    ['%', upperHex (byte.toNat / 16), upperHex (byte.toNat % 16)]

def encode (reserved : List Char) (text : List Char) : List Char :=
  text.flatMap fun char =>
    if isControlOrSpace char || char.toNat > 0x7E || reserved.contains char then percentEncoded char
    else [char]

def pathReserved : List Char := ['"', '#', '<', '>', '?', '\x60', '{', '}']
def queryReserved : List Char := ['"', '#', '<', '>', '\'']

def isSlash (char : Char) : Bool :=
  char == '/' || char == '\\'

def dotted (segment : List Char) : List Char :=
  match segment with
  | '%' :: '2' :: 'e' :: rest => '.' :: dotted rest
  | '%' :: '2' :: 'E' :: rest => '.' :: dotted rest
  | char :: rest => char :: dotted rest
  | [] => []

/-- Settles the segments of a path; `above` holds the segments so far in reverse order. -/
def settle (above : List (List Char)) : List (List Char) → List (List Char)
  | [] => above.reverse
  | segment :: rest =>
    let closed (above : List (List Char)) := if rest.isEmpty then [] :: above else above
    if dotted segment = ['.'] then settle (closed above) rest
    else if dotted segment = ['.', '.'] then settle (closed (above.drop 1)) rest
    else settle (encode pathReserved segment :: above) rest

def pathOf (text : List Char) : String :=
  let segments := (Text.splitWhere isSlash text).drop 1
  String.ofList ((settle [] (if text.isEmpty then [[]] else segments)).flatMap ('/' :: ·))

/-- Cuts a text at the first occurrence of a character. -/
def cutAt (mark : Char) (text : List Char) : List Char × Option (List Char) :=
  let before := text.takeWhile (· != mark)
  (before, (text.drop before.length).tail?)

/-- The host and port of an authority; user information does not matter. -/
def hostAndPort? (standard : Nat) (authority : List Char) : Option (String × Nat) :=
  let address := ((Text.splitWhere (· == '@') authority).getLast?).getD []
  let (host, port) := cutPort false address
  let digits := port.getD []
  let value := digits.foldl (fun value digit => value * 10 + (digit.toNat - '0'.toNat)) 0
  if !digits.all Char.isDigit || value > 65535 then none
  else (hostOf? host).map fun host => (String.ofList host, if digits.isEmpty then standard else value)

/-- The scheme of an address, in lower case, and what stands after its colon. -/
def schemeOf? (text : List Char) : Option (String × List Char) :=
  let scheme := text.takeWhile fun char =>
    char.isAlphanum || char == '+' || char == '-' || char == '.'
  match scheme, text.drop scheme.length with
  | first :: _, ':' :: rest =>
    if first.isAlpha then some (String.ofList (scheme.map Char.toLower), rest) else none
  | _, _ => none

def stripEnds (text : List Char) : List Char :=
  ((text.dropWhile isControlOrSpace).reverse.dropWhile isControlOrSpace).reverse

/-- Reads an absolute address. Tabs and line breaks in it are ignored. -/
def parse? (text : String) : Option Url := do
  let chars := (stripEnds text.toList).filter fun char =>
    !(['\t', '\n', '\r'].contains char)
  let (scheme, rest) ← schemeOf? chars
  if scheme ≠ "http" ∧ scheme ≠ "https" then failure
  let secure := scheme == "https"
  let (rest, _) := cutAt '#' (rest.dropWhile isSlash)
  let (rest, query) := cutAt '?' rest
  let authority := rest.takeWhile (!isSlash ·)
  let (host, port) ← hostAndPort? (if secure then 443 else 80) authority
  some
    { secure
      host
      port
      path := pathOf (rest.drop authority.length)
      query := query.map fun query => String.ofList (encode queryReserved query) }

/-- What is asked of the host. -/
def target (url : Url) : String :=
  match url.query with
  | some query => url.path ++ "?" ++ query
  | none => url.path

end Url

end TextScenario
