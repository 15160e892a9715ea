import MeteredHttp.Transfer.Wire

/-!
# The options of the engine

Transfers are carried out by an engine, which is told by options what to send.  An option keeps its
value until it is set again, from one transfer to the next as well, and to set one option can change
another.

* `EngineOptions` are the options for a request, with one function for each way of setting them.
* `EngineOptions.plain` takes back what was said about an earlier request.
* `EngineOptions.verb` and `EngineOptions.body` are what the engine makes of its options.
-/

namespace MeteredHttp

/-- What the engine takes a request for. -/
inductive RequestKind where
  | get
  | head
  | post
  deriving DecidableEq

/-- What the engine was told about a request. -/
structure EngineOptions where
  url : Bytes := []
  forbidReuse : Bool := false
  kind : RequestKind := .get
  /-- There is no body, whatever the kind. -/
  noBody : Bool := false
  /-- Sent in place of the verb of the kind. -/
  customVerb : Option Bytes := none
  /-- The bytes of the body; without them it is read from a source on the way. -/
  content : Option Bytes := none
  /-- The length of the body, -1 if it is unknown. -/
  length : Int := -1
  deriving DecidableEq

namespace EngineOptions

/-! ## Setting options -/

def withUrl (o : EngineOptions) (url : Bytes) : EngineOptions := { o with url }

def withForbidReuse (o : EngineOptions) (forbidReuse : Bool) : EngineOptions :=
  { o with forbidReuse }

def withLength (o : EngineOptions) (length : Int) : EngineOptions := { o with length }

/-- A request that is given bytes, or has them taken away, becomes a post. -/
def withContent (o : EngineOptions) (content : Option Bytes) : EngineOptions :=
  { o with content, kind := .post }

def withCustomVerb (o : EngineOptions) (customVerb : Option Bytes) : EngineOptions :=
  { o with customVerb }

/-- Without a body a request becomes a head.  If a head may have a body it becomes a get. -/
def withNoBody (o : EngineOptions) (noBody : Bool) : EngineOptions :=
  { o with noBody, kind := if noBody then .head else if o.kind = .head then .get else o.kind }

/-- Makes the request a get, of which a body is expected. -/
def asGet (o : EngineOptions) : EngineOptions := { o with kind := .get, noBody := false }

/-- Makes the request a post, of which a body is expected. -/
def asPost (o : EngineOptions) : EngineOptions := { o with kind := .post, noBody := false }

/-- A plain get, whatever the options were.  It comes last, as to take away bytes makes a post. -/
def plain (o : EngineOptions) : EngineOptions :=
  ((((o.withLength (-1)).withContent none).withCustomVerb none).withNoBody false).asGet

/-! ## What is sent -/

/-- The verb of the request. -/
def verb (o : EngineOptions) : Bytes :=
  o.customVerb.getD <|
    match o.noBody, o.kind with
    | false, .get => utf8 "GET"
    | false, .post => utf8 "POST"
    | _, _ => utf8 "HEAD"

/-- The body of the request.  Of the bytes as many are sent as the length says; if it says nothing
they end at their first NUL byte. -/
def body (o : EngineOptions) : Transfer.WireBody :=
  match o.noBody, o.kind, o.content with
  | false, .post, some content =>
    .bytes (if o.length < 0 then content.untilNul else content.take o.length.toNat)
  | false, .post, none => .stream o.length
  | _, _, _ => .none

end EngineOptions

end MeteredHttp
