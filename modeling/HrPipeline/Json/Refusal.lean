import HrPipeline.Calendar.Reader
import HrPipeline.Number.Binary64
import HrPipeline.Text.Quoted
import HrPipeline.Uuid.Reader

/-!
# Refusals of the JSON reader

A text is refused because it ends too early, because it is not JSON, or because a value has the
wrong shape. Only a mismatch of shape has a wording; it may also tell where the value stands.
-/

namespace HrPipeline.Json

/-- A number as it is told apart in messages. -/
inductive Number where
  /-- A whole number of at most 64 bits. -/
  | integer (value : Int)
  /-- Any other number. -/
  | float (negative : Bool) (magnitude : Number.Binary64)
deriving DecidableEq

/-- The value that was found where another was needed. -/
inductive Found where
  | boolean (value : Bool)
  | number (value : Number)
  | null
  | text (value : String)
  | sequence
  | map
deriving DecidableEq

/-- The value that is needed. -/
inductive Expected where
  | text
  | uuid
  | instant
  | date
  | record (name : String)
  | unit
  | variant
deriving DecidableEq

/-- How a value fails to have the shape that is needed. -/
inductive Mismatch where
  | wrongType (found : Found) (expected : Expected)
  | missingField (name : String)
  | duplicateField (name : String)
  | tooShort (length : Nat) (record : String) (fields : Nat)
  | unknownVariant (name : String) (known : List String)
  | badUuid (reason : Uuid.ReadError)
  | badTime (reason : Calendar.ReadError)
deriving DecidableEq

/-- Where in a record a value stands. -/
inductive Place where
  | field (name : String)
  | item (index : Nat)
deriving DecidableEq

/-- Why a text is refused. -/
inductive Refusal where
  /-- The text ends too early. -/
  | unfinished
  /-- The text is not JSON. -/
  | malformed
  /-- A value has the wrong shape; a mismatch of the whole record has no place. -/
  | mismatch (place : Option Place) (reason : Mismatch)
deriving DecidableEq

/-- A number as messages show it. -/
def Number.shown : Number → String
  | .integer value => "integer `" ++ toString value ++ "`"
  | .float negative magnitude =>
    "floating point `" ++ (if negative then "-" else "") ++ magnitude.text ++ "`"

/-- A found value as messages show it. -/
def Found.shown : Found → String
  | .boolean true => "boolean `true`"
  | .boolean false => "boolean `false`"
  | .number value => value.shown
  | .null => "null"
  | .text value => "string " ++ Text.quoted value
  | .sequence => "sequence"
  | .map => "map"

/-- A needed value as messages show it. -/
def Expected.shown : Expected → String
  | .text => "a string"
  | .uuid => "a formatted UUID string"
  | .instant => "an RFC 3339 formatted date and time string"
  | .date => "a formatted date string"
  | .record name => "struct " ++ name
  | .unit => "unit"
  | .variant => "variant identifier"

/-- The wording of a mismatch. -/
def Mismatch.message : Mismatch → String
  | .wrongType found expected =>
    "invalid type: " ++ found.shown ++ ", expected " ++ expected.shown
  | .missingField name => "missing field `" ++ name ++ "`"
  | .duplicateField name => "duplicate field `" ++ name ++ "`"
  | .tooShort length record fields =>
    "invalid length " ++ toString length ++ ", expected struct " ++ record ++ " with "
      ++ toString fields ++ " elements"
  | .unknownVariant name known =>
    "unknown variant `" ++ name ++ "`, expected one of "
      ++ ", ".intercalate (known.map fun k => "`" ++ k ++ "`")
  | .badUuid reason => reason.message
  | .badTime reason => reason.message

/-- A place as messages show it. -/
def Place.shown : Place → String
  | .field name => name
  | .item index => "[" ++ toString index ++ "]"

/-- Puts a place on a mismatch that has none. -/
def Refusal.at (place : Place) : Refusal → Refusal
  | .mismatch none reason => .mismatch (some place) reason
  | other => other

end HrPipeline.Json
