import Sluice.Binary64
import Sluice.Keyed
/-!
# JSON values

Numbers are whole numbers of 64 bits, signed or not, or binary floating point with a sign of its
own (so that there is a negative zero). Objects keep their entries in ascending order of key.
-/
namespace Sluice.Json

/-- A number: whole, or floating point. A whole number lies between -2^63 and 2^64 - 1. -/
inductive Number where
  | whole (n : Int)
  | float (negative : Bool) (magnitude : Binary64)
  deriving DecidableEq, Repr

/-- A JSON value. -/
inductive Value where
  | null
  | bool (b : Bool)
  | number (n : Number)
  | string (s : String)
  | array (items : List Value)
  | object (entries : List (String × Value))
  deriving Repr, Inhabited

/-- The entries of an object. -/
abbrev Object := Keyed Value

namespace Value

/-- The name of a value's kind. -/
def kind : Value → String
  | null => "null"
  | bool _ => "boolean"
  | number _ => "number"
  | string _ => "string"
  | array _ => "array"
  | object _ => "object"

end Value
end Sluice.Json
