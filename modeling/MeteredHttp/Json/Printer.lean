import MeteredHttp.Binary64.Shortest
import MeteredHttp.Json.Value
import MeteredHttp.Utf8

/-!
# Writing JSON values

Values are written without blanks.  Text is written as it is, with only the quote, the backslash
and the control characters escaped; a text that is not valid UTF-8 cannot be written.  Fractional
numbers get their shortest decimals.

* `Value.render` is the written form.
* `Value.encodable` says that every text of a value is valid UTF-8, and `Value.write?` renders such
  values only.
-/

namespace MeteredHttp.Json

/-! ## Texts -/

/-- How a byte of a text is written between the quotes. -/
def escapeByte (b : UInt8) : Bytes :=
  if b = 34 then [92, 34]
  else if b = 92 then [92, 92]
  else if b = 8 then [92, 98]
  else if b = 12 then [92, 102]
  else if b = 10 then [92, 110]
  else if b = 13 then [92, 114]
  else if b = 9 then [92, 116]
  else if b < 32 then [92, 117, 48, 48] ++ Numeral.hexBytes [b]
  else [b]

/-- A text between quotes. -/
def quote (s : Bytes) : Bytes := 34 :: s.flatMap escapeByte ++ [34]

/-! ## Numbers -/

/-- An exponent: its sign and at least two digits. -/
def renderExponent (e : Int) : Bytes :=
  (if e < 0 then 45 else 43) :: Numeral.padded 2 e.natAbs

/-- The digits of a number whose decimal point stands behind digit number `point`.  Numbers from
`1e-4` to below `1e15` are written with a point, all others with an exponent. -/
def renderDecimal (digits : Bytes) (point : Int) : Bytes :=
  let count : Int := digits.length
  if count ≤ point ∧ point ≤ 15 then
    digits ++ List.replicate (point - count).toNat 48 ++ utf8 ".0"
  else if 0 < point ∧ point ≤ 15 then
    digits.take point.toNat ++ 46 :: digits.drop point.toNat
  else if -4 < point ∧ point ≤ 0 then
    utf8 "0." ++ List.replicate (-point).toNat 48 ++ digits
  else
    match digits with
    | [d] => d :: 101 :: renderExponent (point - 1)
    | d :: rest => d :: 46 :: rest ++ 101 :: renderExponent (point - 1)
    | [] => []

/-- A binary64 number; infinities and NaN have no written form and become `null`. -/
def renderReal (x : Binary64) : Bytes :=
  if x.isFinite then
    let sign : Bytes := if x.negative then [45] else []
    if x.significand = 0 then sign ++ utf8 "0.0"
    else
      let d := x.shortest
      let digits := Numeral.render 10 d.digits
      sign ++ renderDecimal digits (digits.length + d.exponent)
  else utf8 "null"

/-! ## Values -/

mutual

/-- The written form of a value. -/
def Value.render : Value → Bytes
  | .null => utf8 "null"
  | .bool true => utf8 "true"
  | .bool false => utf8 "false"
  | .integer i => Numeral.decimal i
  | .real x => renderReal x
  | .string s => quote s
  | .array [] => utf8 "[]"
  | .array (v :: items) => 91 :: (v.render ++ renderItems items)
  | .object [] => [123, 125]
  | .object ((name, v) :: members) =>
    123 :: (quote name ++ 58 :: (v.render ++ renderMembers members))

/-- The items of an array after the first one, and its end. -/
def renderItems : List Value → Bytes
  | [] => [93]
  | v :: items => 44 :: (v.render ++ renderItems items)

/-- The members of an object after the first one, and its end. -/
def renderMembers : List (Bytes × Value) → Bytes
  | [] => [125]
  | (name, v) :: members => 44 :: (quote name ++ 58 :: (v.render ++ renderMembers members))

end

mutual

/-- Whether every text of a value is valid UTF-8. -/
def Value.encodable : Value → Bool
  | .string s => Utf8.valid s
  | .array items => allEncodable items
  | .object members => membersEncodable members
  | _ => true

/-- Whether every text of every item is valid UTF-8. -/
def allEncodable : List Value → Bool
  | [] => true
  | v :: items => v.encodable && allEncodable items

/-- Whether every name and every text of the members is valid UTF-8. -/
def membersEncodable : List (Bytes × Value) → Bool
  | [] => true
  | (name, v) :: members => Utf8.valid name && v.encodable && membersEncodable members

end

/-- The written form of a value all of whose texts are valid UTF-8. -/
def Value.write? (v : Value) : Except Fault Bytes :=
  if v.encodable then .ok v.render else .error .unencodable

end MeteredHttp.Json
