import MeteredHttp.ErrorCode
import MeteredHttp.Json.Parser
import MeteredHttp.Method

/-!
# Responses

What a caller gets for a request.
-/

namespace MeteredHttp

/-- The outcome of a round trip as the caller sees it.  If no response arrived the status is zero;
if only its body failed to arrive the rest of the response is there. -/
structure Response where
  status : Int := 0
  /-- The address of the peer with its port. -/
  remote : Bytes := []
  url : Bytes
  headers : List (Bytes × Bytes) := []
  /-- The body, unless it was not asked for or the status has none. -/
  body : Option Bytes := none
  type : ResponseType
  code : ErrorCode := .success
  error : Bytes := []

namespace Response

/-- Why a body cannot be read as a document. -/
inductive DocumentError where
  | noBody
  | notJson
  /-- A number is too large. -/
  | overflow
  deriving DecidableEq

/-- The text of the error.  About numbers that are too large nothing more is said. -/
def DocumentError.message : DocumentError → Bytes
  | .noBody => utf8 "response has no body"
  | .notJson => utf8 "response body is not JSON: "
  | .overflow => []

/-- A body as a document, if there is a body. -/
def readDocument : Option Bytes → Except DocumentError Json.Value
  | some body =>
    (Json.Value.parse body).mapError fun
      | .overflow => .overflow
      | _ => .notJson
  | none => .error .noBody

/-- The body of the response as a document. -/
def document (response : Response) : Except DocumentError Json.Value := readDocument response.body

/-- Whether responses of a status have no body. -/
def lacksContent (status : Int) : Bool :=
  decide (100 ≤ status ∧ status ≤ 199) || status == 204 || status == 304

end Response

end MeteredHttp
