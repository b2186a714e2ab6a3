import HrPipeline.Json.Record

/-!
# Names of variants read from JSON

A variant without content is written as its name, or as a map with its name as the only key and
`null` as the value. An unknown name is refused as soon as it is read.
-/

namespace HrPipeline.Json

/-- The value that a variant's name stands for in a list of names. -/
def variantNamed {α : Type} (known : List (String × α)) (name : String) : Except Refusal α :=
  match known.lookup name with
  | some value => .ok value
  | none => .error (.mismatch none (.unknownVariant name (known.map Prod.fst)))

/-- The rest after the `null` that stands for the content of a variant. -/
def readUnit (bytes : Bytes) : Except Refusal Bytes :=
  match skipSpace bytes with
  | [] => .error .unfinished
  | b :: rest => if b = 0x6E then literal ull rest else .error (wrongType .unit (b :: rest))

/-- A variant at the front of a sequence of bytes, with the bytes after it. -/
def readVariant {α : Type} (known : List (String × α)) (bytes : Bytes) :
    Except Refusal (α × Bytes) :=
  match skipSpace bytes with
  | [] => .error .unfinished
  | b :: rest =>
    if b = quoteMark then do
      let (name, rest) ← text rest
      let value ← variantNamed known name
      .ok (value, rest)
    else if b = openBrace then do
      let (name, rest) ← readText .variant rest
      let value ← variantNamed known name
      let rest ← colon rest
      let rest ← readUnit rest
      match skipSpace rest with
      | [] => .error .unfinished
      | c :: rest => if c = closeBrace then .ok (value, rest) else .error .malformed
    else .error .malformed

/-- The variant that a whole sequence of bytes denotes; only blanks may follow it. -/
def decodeVariant {α : Type} (known : List (String × α)) (bytes : Bytes) : Except Refusal α := do
  let (value, rest) ← readVariant known bytes
  if (skipSpace rest).isEmpty then .ok value else .error .malformed

end HrPipeline.Json
