import HrPipeline.Text.Blank
import HrPipeline.Text.Digits
import HrPipeline.Text.Utf8

/-!
# Requests

A request of the interface with its headers and body. The names of headers are compared without
regard to case, and of several headers with one name only the first one counts. `requestId` reads
the correlation name that a caller may send along.
-/

namespace HrPipeline.Api

open HrPipeline.Text

/-- Headers in the order in which they were sent. -/
abbrev Headers := List (String × Bytes)

/-- A request to the interface. -/
structure Request where
  method : String
  /-- The path, with what may follow it after a question mark. -/
  target : String
  headers : Headers
  body : Bytes
deriving DecidableEq

namespace Headers

/-- The value of the first header with a name, which is given in small letters. -/
def value? (headers : Headers) (name : String) : Option Bytes :=
  (headers.find? fun header => header.1.toLower = name).map (·.2)

/-- Whether a byte is a visible character, a space or a tab. -/
def isVisible (b : UInt8) : Bool := b = 0x09 || (0x20 ≤ b && b ≤ 0x7E)

/-- The text of bytes that are all visible. -/
def visibleText? (bytes : Bytes) : Option String :=
  if bytes.all isVisible then some (String.ofList (bytes.map fun b => Char.ofNat b.toNat))
  else none

/-- The text of the first header with a name. -/
def text? (headers : Headers) (name : String) : Option String :=
  (headers.value? name).bind visibleText?

end Headers

/-- The most characters of a correlation name. -/
def maxRequestId : Nat := 128

/-- The correlation name of a request: trimmed, not empty, and cut to what the outbox holds. -/
def requestId (headers : Headers) : Option String :=
  match headers.text? "x-request-id" with
  | none => none
  | some value =>
    let name := (trim value).toList
    if name.isEmpty then none else some (String.ofList (name.take maxRequestId))

/-- The path of a request. -/
def Request.path (request : Request) : List Char :=
  request.target.toList.takeWhile fun c => c ≠ '?' ∧ c ≠ '#'

/-- Bytes with their percent escapes resolved; what is no escape stays as it is. -/
def percentDecoded : Bytes → Bytes
  | [] => []
  | [b] => [b]
  | [b, c] => [b, c]
  | b :: c :: d :: rest =>
    match decide (b = 0x25), hexValue? c.toNat, hexValue? d.toNat with
    | true, some high, some low => (16 * high + low).toUInt8 :: percentDecoded rest
    | _, _, _ => b :: percentDecoded (c :: d :: rest)

end HrPipeline.Api
