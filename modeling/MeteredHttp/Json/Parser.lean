import MeteredHttp.Json.Token

/-!
# Reading JSON documents

A document is read by a machine that takes one token at a time and keeps the containers that are
still open on a stack, so nesting of any depth is read by one pass over the tokens.

* `Parser.step` is one token of progress.
* `Value.parse` reads a document.  The first thing that is wrong decides the fault: a number that
  is too large is an `overflow` if everything before it is well-formed.
-/

namespace MeteredHttp.Json

namespace Parser

/-- A container that is still open.  `items` come last one first. -/
inductive Frame where
  | array (items : List Value)
  | object (members : List (Bytes × Value))
  /-- An object, the value of whose member `name` is being read. -/
  | member (members : List (Bytes × Value)) (name : Bytes)

/-- What the next token has to be. -/
inductive Phase where
  | value
  /-- A value, or the end of the array just opened. -/
  | firstItem
  /-- A name, or the end of the object just opened. -/
  | firstName
  | name
  | colon (name : Bytes)
  /-- A value is complete: a comma or the end of the innermost container follows. -/
  | complete (v : Value)

/-- Where the reader stands. -/
structure State where
  phase : Phase
  stack : List Frame

/-- The start of a value. -/
def open? (stack : List Frame) : Token → Except Fault State
  | .arrayOpen => .ok ⟨.firstItem, .array [] :: stack⟩
  | .objectOpen => .ok ⟨.firstName, .object [] :: stack⟩
  | .null => .ok ⟨.complete .null, stack⟩
  | .bool b => .ok ⟨.complete (.bool b), stack⟩
  | .string s => .ok ⟨.complete (.string s), stack⟩
  | .integer i => .ok ⟨.complete (.integer i), stack⟩
  | .real x => if x.isFinite then .ok ⟨.complete (.real x), stack⟩ else .error .overflow
  | _ => .error .malformed

/-- What may follow the complete value `v` in the innermost open container. -/
def close? (v : Value) : List Frame → Token → Except Fault State
  | .array items :: stack, .comma => .ok ⟨.value, .array (v :: items) :: stack⟩
  | .array items :: stack, .arrayClose => .ok ⟨.complete (.array (v :: items).reverse), stack⟩
  | .member members name :: stack, .comma =>
    .ok ⟨.name, .object (Dictionary.insertEntry name v members) :: stack⟩
  | .member members name :: stack, .objectClose =>
    .ok ⟨.complete (.object (Dictionary.insertEntry name v members)), stack⟩
  | _, _ => .error .malformed

/-- One token of progress. -/
def step (state : State) (token : Token) : Except Fault State :=
  match state.phase, state.stack, token with
  | .firstItem, .array _ :: stack, .arrayClose => .ok ⟨.complete (.array []), stack⟩
  | .firstItem, stack, token => open? stack token
  | .value, stack, token => open? stack token
  | .firstName, .object _ :: stack, .objectClose => .ok ⟨.complete (.object []), stack⟩
  | .firstName, stack, .string name => .ok ⟨.colon name, stack⟩
  | .name, stack, .string name => .ok ⟨.colon name, stack⟩
  | .colon name, .object members :: stack, .colon => .ok ⟨.value, .member members name :: stack⟩
  | .complete v, stack, token => close? v stack token
  | _, _, _ => .error .malformed

/-- The value of a sequence of tokens. -/
def run (tokens : List Token) : Except Fault Value := do
  match ← tokens.foldlM step ⟨.value, []⟩ with
  | ⟨.complete v, []⟩ => .ok v
  | _ => .error .malformed

end Parser

/-- A text without the byte order mark that it may start with. -/
def withoutMark (text : Bytes) : Bytes :=
  (text.dropStart? [0xEF, 0xBB, 0xBF]).getD text

/-- The value of a JSON document. -/
def Value.parse (text : Bytes) : Except Fault Value :=
  Parser.run (Token.sequence (withoutMark text))

end MeteredHttp.Json
