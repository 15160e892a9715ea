import MeteredHttp.Bytes

/-!
# Request methods and response types

The methods a request can be sent with, and what becomes of the body of the response.
-/

namespace MeteredHttp

/-- The methods of a request. -/
inductive Method where
  | get
  | head
  | post
  | put
  | patch
  | delete
  | options
  deriving DecidableEq, Inhabited

namespace Method

/-- The name of the method in a request line. -/
def wireName : Method → Bytes
  | .get => utf8 "GET"
  | .head => utf8 "HEAD"
  | .post => utf8 "POST"
  | .put => utf8 "PUT"
  | .patch => utf8 "PATCH"
  | .delete => utf8 "DELETE"
  | .options => utf8 "OPTIONS"

/-- The name of the operation in the text of a failure. -/
def operation : Method → Bytes
  | .get => utf8 "Get"
  | .head => utf8 "Head"
  | .post => utf8 "Post"
  | .put => utf8 "Put"
  | .patch => utf8 "Patch"
  | .delete => utf8 "Delete"
  | .options => utf8 "Options"

/-- The methods whose requests never carry a body. -/
def isBodiless : Method → Bool
  | .get | .head => true
  | _ => false

end Method

/-- What a caller wants to have of the body of a response. -/
inductive ResponseType where
  | text
  | binary
  /-- The body is read from the connection and dropped. -/
  | none
  deriving DecidableEq, Inhabited

namespace ResponseType

/-- The name of a response type in documents. -/
def name : ResponseType → Bytes
  | .text => utf8 "text"
  | .binary => utf8 "binary"
  | .none => utf8 "none"

/-- The response type of a name; the empty name stands for text. -/
def ofName? (name : Bytes) : Option ResponseType :=
  if name = [] ∨ name = utf8 "text" then some .text
  else if name = utf8 "binary" then some .binary
  else if name = utf8 "none" then some .none
  else Option.none

end ResponseType

end MeteredHttp
