import MeteredHttp.Json.Field
import MeteredHttp.Json.Parser
import MeteredHttp.Method
import MeteredHttp.TagContext

/-!
# Options of requests

The settings of one request definition, and how they are read from a document.

* `RequestOptions.ofJson` takes the options out of a document, `RequestOptions.parse` out of a text.
-/

namespace MeteredHttp

/-- The options of a request definition. -/
structure RequestOptions where
  /-- A failed round trip is raised as an error instead of being returned in a response. -/
  throwOnError : Bool := false
  disableKeepAlive : Bool := false
  /-- Sent in place of the host of the URL, unless empty. -/
  host : Bytes := []
  headers : List (Bytes × Bytes) := []
  responseType : ResponseType := .text
  body : Option Bytes := none
  tags : Tags := .empty

namespace RequestOptions

open Json (Fault Value)

/-- Why options are not accepted. -/
inductive ParseError where
  /-- The text is no JSON document, or a value has the wrong type. -/
  | document (fault : Fault)
  /-- There is no response type of this name. -/
  | responseType (name : Bytes)
  deriving DecidableEq

/-- The text of the error, which quotes a name up to its first NUL byte. -/
def ParseError.message : ParseError → Bytes
  | .document _ => utf8 "request options expects a valid document, got error "
  | .responseType name => utf8 "invalid response type: " ++ name.untilNul

/-- The header fields of a document: the entries of any value, as long as they are texts. -/
def headersOfJson (v : Value) : Except Fault (List (Bytes × Bytes)) :=
  v.items.mapM fun (name, item) => item.toBytes.map (name, ·)

/-- A body, which may be null. -/
def bodyOfJson : Value → Except Fault (Option Bytes)
  | .null => .ok none
  | v => v.toBytes.map some

/-- The response type of a name. -/
def readResponseType (name : Bytes) : Except ParseError ResponseType :=
  match ResponseType.ofName? name with
  | some type => .ok type
  | none => .error (.responseType name)

/-- A field of a document. -/
def readField {α : Type} (v : Value) (name : String) (convert : Value → Except Fault α)
    (default : α) : Except ParseError α :=
  (v.field (utf8 name) convert default).mapError .document

/-- The options in a document. -/
def ofJson (v : Value) : Except ParseError RequestOptions := do
  let throwOnError ← readField v "throw" Value.toBool false
  let disableKeepAlive ← readField v "disable_keep_alive" Value.toBool false
  let host ← readField v "host" Value.toBytes []
  let headers ← readField v "headers" headersOfJson []
  let responseType ← readResponseType (← readField v "response_type" Value.toBytes [])
  let body ← readField v "body" bodyOfJson none
  let tags ← readField v "tags" Value.toTextMembers []
  return { throwOnError, disableKeepAlive, host, headers, responseType, body
           tags := Dictionary.ofList tags }

/-- Reads the options of a request definition. -/
def parse (text : Bytes) : Except ParseError RequestOptions := do
  ofJson (← (Value.parse text).mapError .document)

end RequestOptions

end MeteredHttp
