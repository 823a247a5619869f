import NetworkIsolation.Text.Quoted

/-!
# Documents of the wrong shape

A document can be well formed and still not be what a reader asks for: a value
of another type, a field too many or too few, a word that is no variant.  The
causes are the same for every document format; only the formats add places.
-/

namespace NetworkIsolation.Document

open NetworkIsolation.Text

/-- What was found where something else was asked for. -/
inductive Found where
  | null
  | bool (value : Bool)
  | integer (value : Int)
  | float (written : String)
  | string (text : String)
  | sequence
  | mapping
  deriving DecidableEq, Repr

/-- The words for what was found. -/
def Found.describe : Found → String
  | .null => "null"
  | .bool value => "boolean `" ++ (if value then "true" else "false") ++ "`"
  | .integer value => "integer `" ++ toString value ++ "`"
  | .float written => "floating point `" ++ written ++ "`"
  | .string text => "string " ++ quoted text
  | .sequence => "sequence"
  | .mapping => "map"

/-- Why a document does not have the shape that a reader asks for. -/
inductive Mismatch where
  | invalidType (found : Found) (expected : String)
  | invalidValue (found : Found) (expected : String)
  | missingField (name : String)
  | duplicateField (name : String)
  | unknownField (name : String) (known : List String)
  | unknownVariant (name : String) (known : List String)
  | invalidLength (length : Nat) (expected : String)
  | notWordOrTable
  | notOneEntry (count : Nat)
  | notEmptyArray
  | notEmptyTable
  | notTable (kind : String)
  deriving DecidableEq, Repr

/-- The names of which one was asked for. -/
def listAlternatives : List String → String
  | [] => ""
  | [only] => "`" ++ only ++ "`"
  | [first, second] => "`" ++ first ++ "` or `" ++ second ++ "`"
  | names => "one of " ++ ", ".intercalate (names.map fun name => "`" ++ name ++ "`")

/-- The text of a mismatch, without a place. -/
def Mismatch.message : Mismatch → String
  | .invalidType found expected => "invalid type: " ++ found.describe ++ ", expected " ++ expected
  | .invalidValue found expected =>
    "invalid value: " ++ found.describe ++ ", expected " ++ expected
  | .missingField name => "missing field `" ++ name ++ "`"
  | .duplicateField name => "duplicate field `" ++ name ++ "`"
  | .unknownField name known =>
    "unknown field `" ++ name ++ "`, " ++
      (if known.isEmpty then "there are no fields" else "expected " ++ listAlternatives known)
  | .unknownVariant name known =>
    "unknown variant `" ++ name ++ "`, expected " ++ listAlternatives known
  | .invalidLength length expected =>
    "invalid length " ++ toString length ++ ", expected " ++ expected
  | .notWordOrTable => "wanted string or table"
  | .notOneEntry count =>
    if count = 0 then "wanted exactly 1 element, found 0 elements"
    else "wanted exactly 1 element, more than 1 element"
  | .notEmptyArray => "expected empty array"
  | .notEmptyTable => "expected empty table"
  | .notTable kind => "expected table, found " ++ kind

end NetworkIsolation.Document
