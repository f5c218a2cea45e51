import TextScenario.Json.Reader
import TextScenario.Session
import TextScenario.Text.Blank
import TextScenario.Text.Utf8
import TextScenario.Url
/-!
Sessions behind an HTTP endpoint. Each call posts its instruction to the address that names its
workflow and kind; the server is a function of the request and of a state.
-/

namespace TextScenario

structure HttpRequest where
  url : Url
  instruction : String
  deriving DecidableEq, Repr

def HttpRequest.line (request : HttpRequest) : String :=
  "POST " ++ request.url.target ++ " HTTP/1.1"

def HttpRequest.body (request : HttpRequest) : Json :=
  .object [("instruction", .text request.instruction)]

structure HttpResponse where
  status : Nat := 200
  body : ByteArray := .empty
  /-- Whether all of the announced body arrived. -/
  complete : Bool := true
  deriving Inhabited

namespace HttpResponse

def isSuccess (response : HttpResponse) : Bool :=
  200 ≤ response.status && response.status < 300

/-- The text of the body, if it arrived; some responses have no body whatever they announce. -/
def text? (response : HttpResponse) : Option String :=
  if [204, 304].contains response.status then some ""
  else if response.complete then some (Text.decodeLossy response.body)
  else none

end HttpResponse

/-- A blank body stands for null, and one that is not JSON for its text. -/
def decodeBody (text : String) : Json :=
  if (Text.trim text.toList).isEmpty then .null else (Json.read? text).getD (.text text)

/-- Answers requests; no answer means that the server was not reached. -/
structure HttpServer (σ : Type) where
  answer : HttpRequest → σ → Option HttpResponse × σ

namespace HttpSession

def trimEndpoint (endpoint : String) : String :=
  String.ofList (endpoint.toList.reverse.dropWhile (· == '/')).reverse

def addressOf (endpoint : String) (workflow : WorkflowId) (kind : ActionKind) : String :=
  trimEndpoint endpoint ++ "/workflows/" ++ workflow.text ++ "/" ++ kind.text

def unavailableBody : String := "<response unavailable>"

def resultOf (address : String) (response : HttpResponse) : Except SessionError Json :=
  if response.isSuccess then
    match response.text? with
    | some text => .ok (decodeBody text)
    | none => .error (.transport (address ++ ": reading body"))
  else .error (.status response.status (response.text?.getD unavailableBody))

def provider {σ : Type} (server : HttpServer σ) (endpoint : String) : SessionProvider σ where
  connect _ state := .ok state
  call workflow call state :=
    let address := addressOf endpoint workflow call.kind
    match Url.parse? address with
    | none => ({ result := .error (.transport address) }, state)
    | some url =>
      match server.answer { url, instruction := call.instruction } state with
      | (none, state) => ({ result := .error (.transport address) }, state)
      | (some response, state) => ({ result := resultOf address response }, state)

end HttpSession

end TextScenario
