import NetworkIsolation.Decimal.Shortest
import NetworkIsolation.Entries

/-!
# JSON values

A value keeps its entries in insertion order and tells whole numbers from
doubles.  Whole numbers range from `-2 ^ 63` to `2 ^ 64 - 1`; everything else
that a text can hold is a double.
-/

namespace NetworkIsolation.Json

open NetworkIsolation.Decimal

/-- A number as it is kept. -/
inductive Number where
  | integer (value : Int)
  | double (value : Double)
  deriving DecidableEq, Repr

/-- A JSON value. -/
inductive Value where
  | null
  | bool (value : Bool)
  | number (value : Number)
  | string (value : String)
  | array (items : List Value)
  | object (entries : List (String × Value))
  deriving Repr, Inhabited

/-- One bucket of answers: a free-form object. -/
abbrev Bucket := Entries Value

namespace Value

/-- The truth value, if the value is one. -/
def bool? : Value → Option Bool
  | .bool value => some value
  | _ => none

/-- A list of strings as an array. -/
def strings (texts : List String) : Value :=
  .array (texts.map .string)

/-- A natural number. -/
def nat (number : Nat) : Value :=
  .number (.integer number)

end Value

end NetworkIsolation.Json
