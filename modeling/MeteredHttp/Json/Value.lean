import MeteredHttp.Binary64
import MeteredHttp.Dictionary

/-!
# JSON values

The values that documents hold and sample lines are made of.  Integers are kept apart from
fractional numbers: the former are exact, the latter binary64.  The members of an object are listed
by the bytes of their names, each name once.
-/

namespace MeteredHttp.Json

/-- A JSON value. -/
inductive Value where
  | null
  | bool (b : Bool)
  /-- A number written without fraction and exponent that fits in 64 bits, signed or not. -/
  | integer (i : Int)
  /-- Any other number. -/
  | real (x : Binary64)
  | string (s : Bytes)
  | array (items : List Value)
  | object (members : List (Bytes × Value))

instance : Inhabited Value := ⟨.null⟩

/-- What can go wrong between a text, a JSON value and a value of another type. -/
inductive Fault where
  /-- The text is no JSON document. -/
  | malformed
  /-- A number of the document exceeds the largest binary64 number. -/
  | overflow
  /-- A value does not have the type that is asked for. -/
  | mistyped
  /-- A text to be written is not valid UTF-8. -/
  | unencodable
  deriving DecidableEq

end MeteredHttp.Json
