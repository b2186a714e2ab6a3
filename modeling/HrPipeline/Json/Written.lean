import HrPipeline.Text.Digits

/-!
# Written records

Records whose values are texts or absent are written as JSON maps without blanks, members in the
order of the fields. In a string only the quote, the backslash and the characters below U+0020
are escaped.
-/

namespace HrPipeline.Json

open HrPipeline.Text

/-- One character inside a written string. -/
def writtenChar (c : Char) : List Char :=
  if c = '"' then ['\\', '"']
  else if c = '\\' then ['\\', '\\']
  else if c = '\x08' then ['\\', 'b']
  else if c = '\x0c' then ['\\', 'f']
  else if c = '\n' then ['\\', 'n']
  else if c = '\r' then ['\\', 'r']
  else if c = '\t' then ['\\', 't']
  else if c.toNat < 0x20 then '\\' :: 'u' :: fixedHex 4 c.toNat
  else [c]

/-- A written string with its quotes. -/
def writtenText (s : String) : List Char := '"' :: (s.toList.flatMap writtenChar ++ ['"'])

/-- A written value: a string, or `null` for an absent one. -/
def writtenValue : Option String → List Char
  | some s => writtenText s
  | none => "null".toList

/-- A written member of a map. -/
def writtenMember (member : String × Option String) : List Char :=
  writtenText member.1 ++ ':' :: writtenValue member.2

/-- A written map with the members in the given order. -/
def writtenMap (members : List (String × Option String)) : List Char :=
  '\x7b' :: ([','].intercalate (members.map writtenMember) ++ ['\x7d'])

/-- A written map as a text. -/
def mapText (members : List (String × Option String)) : String :=
  String.ofList (writtenMap members)

end HrPipeline.Json
