import NetworkIsolation.Decimal.Shortest
import NetworkIsolation.Entries

/-!
# TOML values

A table remembers how it came about, because that decides what may still be
added to it: a table with a header of its own may not get dotted keys, one that
was only implied by the header of a table inside it may still get a header, and
an inline table is complete as it stands.
-/

namespace NetworkIsolation.Toml

open NetworkIsolation.Decimal

/-- A floating-point number, which may be infinite or undefined here. -/
inductive Real where
  | finite (value : Double)
  | infinite (negative : Bool)
  | undefined
  deriving DecidableEq, Repr

/-- A float in a message is always positional and always has a point. -/
def realLayout : Layout where
  positionalFrom := -1000
  positionalTo := 1000
  wholeSuffix := ['.', '0']
  exponentMark := ['e']
  plusSign := false

/-- The text of a float in a message. -/
def Real.shown : Real → String
  | .finite value => String.ofList (realLayout.write value)
  | .infinite false => "inf"
  | .infinite true => "-inf"
  | .undefined => "NaN"

/-- How a table came about. -/
inductive TableOrigin where
  /-- It has a header of its own, or is an element of an array of tables. -/
  | header
  /-- The header of a table inside it implied it. -/
  | implied
  /-- A dotted key implied it. -/
  | dotted
  /-- It is written between braces. -/
  | inlined
  deriving DecidableEq, Repr

/-- A TOML value. -/
inductive Value where
  | string (text : String)
  | integer (value : Int)
  | float (value : Real)
  | bool (value : Bool)
  | datetime (written : String)
  | array (items : List Value)
  | tables (items : List Value)
  | table (origin : TableOrigin) (entries : List (String × Value))
  deriving Repr, Inhabited

/-- The entries of a table. -/
abbrev Table := Entries Value

end NetworkIsolation.Toml
