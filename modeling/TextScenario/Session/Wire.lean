import TextScenario.Json.Printer
import TextScenario.Session.Http
/-!
Requests and responses as they are sent. A connection serves one request, so that a body without an
announced length ends where the connection does.
-/

namespace TextScenario

def HttpRequest.bytes (request : HttpRequest) : ByteArray :=
  let body := request.body.compact.toUTF8
  let head :=
    [request.line, "Host: " ++ request.url.host ++ ":" ++ toString request.url.port,
     "Content-Type: application/json", "Content-Length: " ++ toString body.size,
     "Accept: */*", "Connection: close", "", ""]
  ("\r\n".intercalate head).toUTF8 ++ body

namespace HttpResponse

def line? : List UInt8 → Option (List Char × List UInt8)
  | [] => none
  | byte :: rest =>
    if byte = 10 then some ([], rest)
    else do
      let (line, after) ← line? rest
      some (if byte = 13 ∧ line.isEmpty then line else Char.ofNat byte.toNat :: line, after)

def head? : Nat → List UInt8 → Option (List (List Char) × List UInt8)
  | 0, _ => none
  | fuel + 1, bytes => do
    let (line, rest) ← line? bytes
    if line.isEmpty then some ([], rest)
    else
      let (lines, rest) ← head? fuel rest
      some (line :: lines, rest)

/-- The value of a header; names are compared without case. -/
def header? (name : String) (lines : List (List Char)) : Option String :=
  lines.findSome? fun line =>
    let before := line.takeWhile (· != ':')
    if String.ofList (before.map Char.toLower) = name then
      some (String.ofList (Text.trim (line.drop (before.length + 1))))
    else none

/-- The body that is sent in chunks, and whether its last chunk arrived. -/
def chunks : Nat → List UInt8 → List UInt8 × Bool
  | 0, _ => ([], false)
  | fuel + 1, bytes =>
    match line? bytes with
    | none => ([], false)
    | some (line, rest) =>
      let size := Text.hexValue (line.takeWhile fun char => (Text.hexDigit? char).isSome)
      if size = 0 then ([], true)
      else if rest.length < size then (rest, false)
      else
        let (more, complete) := chunks fuel ((rest.drop size).dropWhile fun byte => byte = 13 || byte = 10)
        (rest.take size ++ more, complete)

def ofBytes? (bytes : ByteArray) : Option HttpResponse := do
  let (lines, rest) ← head? (bytes.size + 1) bytes.toList
  let status ← ((Text.splitAt ' ' (lines.headD []))[1]?).bind fun code => (String.ofList code).toNat?
  let (body, complete) :=
    match header? "content-length" lines, header? "transfer-encoding" lines with
    | _, some "chunked" => chunks (rest.length + 1) rest
    | some length, _ =>
      let length := length.toNat?.getD 0
      (rest.take length, length ≤ rest.length)
    | none, _ => (rest, true)
  some { status, body := ⟨body.toArray⟩, complete }

end HttpResponse

end TextScenario
