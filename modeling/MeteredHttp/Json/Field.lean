import MeteredHttp.Json.Value

/-!
# Fields of JSON objects

How documents are turned into settings.  A field that is missing takes its default; a field that
is there must have the right type, and `null` is a value like any other.  Numbers are lenient:
where a 32-bit integer is expected, a wider integer is reduced modulo `2 ^ 32`, a fraction is cut
off, and a boolean counts as zero or one.
-/

namespace MeteredHttp.Json.Value

/-- The member of a given name; nothing has members but an object. -/
def member? (v : Value) (name : Bytes) : Option Value :=
  match v with
  | .object members => (members.find? (·.1 = name)).map (·.2)
  | _ => none

/-- A truth value. -/
def toBool : Value → Except Fault Bool
  | .bool b => .ok b
  | _ => .error .mistyped

/-- A text. -/
def toBytes : Value → Except Fault Bytes
  | .string s => .ok s
  | _ => .error .mistyped

/-- A fraction cut off to a 32-bit integer; what does not fit becomes the least such integer. -/
def cutToInt32 (x : Binary64) : Int32 :=
  match x.truncate? with
  | some i => if -2147483648 ≤ i ∧ i ≤ 2147483647 then Int32.ofInt i else Int32.minValue
  | none => Int32.minValue

/-- A number as a 32-bit integer. -/
def toInt32 : Value → Except Fault Int32
  | .integer i => .ok (Int32.ofInt i)
  | .real x => .ok (cutToInt32 x)
  | .bool b => .ok (if b then 1 else 0)
  | _ => .error .mistyped

/-- A list of texts. -/
def toTexts : Value → Except Fault (List Bytes)
  | .array items => items.mapM toBytes
  | _ => .error .mistyped

/-- An object whose members are texts. -/
def toTextMembers : Value → Except Fault (List (Bytes × Bytes))
  | .object members => members.mapM fun (name, v) => v.toBytes.map (name, ·)
  | _ => .error .mistyped

/-- The entries of any value: the members of an object, the items of an array under the names `0`,
`1`, ..., nothing for `null`, and any other value alone under the empty name. -/
def items : Value → List (Bytes × Value)
  | .object members => members
  | .array items => items.zipIdx.map fun (v, i) => (Numeral.decimal i, v)
  | .null => []
  | v => [([], v)]

/-- The field of a given name converted, or its default if the object has no such member. -/
def field {α : Type} (v : Value) (name : Bytes) (convert : Value → Except Fault α) (default : α) :
    Except Fault α :=
  match v with
  | .object _ =>
    match v.member? name with
    | some w => convert w
    | none => .ok default
  | _ => .error .mistyped

end MeteredHttp.Json.Value
