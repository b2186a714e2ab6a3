import HrPipeline.Api.Request

/-!
# Content types

A body is read as JSON only if the content type says so: `application/json`, or any type of
`application` with the suffix `json`. The parameters after the type do not matter, but they must
be well-formed; `Parameters` is the machine that reads them.
-/

namespace HrPipeline.Api

open HrPipeline.Text

/-- Whether a character may stand in the names of types and parameters. -/
def isToken (c : Char) : Bool := c.isAlphanum || "!#$%&'+-.^_\x60|~".toList.contains c

/-- How far the parameters of a content type are read. -/
inductive Parameters where
  | beforeName
  | inName
  | beforeValue
  | inValue
  /-- Right after an opening quote. -/
  | opened
  | inQuotes
  | afterQuotes
deriving DecidableEq

namespace Parameters

/-- Whether a character may stand between quotes. -/
def isQuotable (c : Char) : Bool := 0x20 ≤ c.toNat && c.toNat ≠ 0x7F

/-- Reads one character. -/
def next : Parameters → Char → Option Parameters
  | beforeName, c => if c = ' ' then some beforeName else if isToken c then some inName else none
  | inName, c => if c = '=' then some beforeValue else if isToken c then some inName else none
  | beforeValue, c => if c = '"' then some opened else if isToken c then some inValue else none
  | inValue, c => if c = ';' then some beforeName else if isToken c then some inValue else none
  | opened, c => if isQuotable c then some inQuotes else none
  | inQuotes, c =>
    if c = '"' then some afterQuotes else if isQuotable c then some inQuotes else none
  | afterQuotes, c =>
    if c = ';' then some beforeName else if c = ' ' then some afterQuotes else none

/-- Whether the parameters may end here. -/
def mayEnd : Parameters → Bool
  | beforeName | beforeValue | inValue | afterQuotes => true
  | inName | opened | inQuotes => false

/-- Whether the text after the first semicolon of a content type is well-formed. -/
def valid (cs : List Char) : Bool := (cs.foldlM next beforeName).any mayEnd

end Parameters

/-- A subtype and its suffix, which follows the last plus sign that is not the first character. -/
def splitSuffix (subtype : List Char) : List Char × Option (List Char) :=
  let suffix := (subtype.tail.reverse.takeWhile (· ≠ '+')).reverse
  if subtype.tail.contains '+' then
    (subtype.take (subtype.length - suffix.length - 1), some suffix)
  else (subtype, none)

/-- Whether a content type stands for JSON. -/
def isJsonType (contentType : String) : Bool :=
  let cs := contentType.toList.map Char.toLower
  let type := cs.takeWhile (· ≠ '/')
  let subtype := (cs.drop (type.length + 1)).takeWhile (· ≠ ';')
  let rest := cs.drop (type.length + 1 + subtype.length)
  let (name, suffix?) := splitSuffix subtype
  type = "application".toList && subtype.all isToken
    && (name = "json".toList || suffix? = some "json".toList)
    && Parameters.valid (rest.drop 1)

/-- Whether the headers of a request announce a body of JSON. -/
def announcesJson (headers : Headers) : Bool := (headers.text? "content-type").any isJsonType

end HrPipeline.Api
