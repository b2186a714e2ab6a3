import HrPipeline.Uuid.Basic
import HrPipeline.Text.Utf8

/-!
# Reading identifiers

An identifier may be written as 32 hexadecimal digits, or as five groups of 8, 4, 4, 4 and 12
digits with hyphens between them; the latter also inside braces or after `urn:uuid:`. Letters
may be of either case. Everything else is refused with the first thing that is wrong with it,
counted in bytes.
-/

namespace HrPipeline.Uuid

open HrPipeline.Text

/-- Why a text is no identifier. -/
inductive ReadError where
  /-- The text has an impossible number of bytes. -/
  | length (found : Nat)
  /-- A character that is neither a digit nor a hyphen stands at this byte. -/
  | character (found : Char) (index : Nat)
  /-- There are not five groups. -/
  | groupCount (found : Nat)
  /-- A group has a wrong number of digits. -/
  | groupLength (group expected found : Nat)
deriving DecidableEq

/-- The wording of a reading error. -/
def ReadError.message : ReadError → String
  | .length found => "UUID parsing failed: invalid length: found " ++ toString found
  | .character found index =>
    "UUID parsing failed: invalid character: found `" ++ String.singleton found ++ "` at "
      ++ toString index
  | .groupCount found =>
    "UUID parsing failed: invalid group count: expected 5, found " ++ toString found
  | .groupLength group expected found =>
    "UUID parsing failed: invalid group length in group " ++ toString group ++ ": expected "
      ++ toString expected ++ ", found " ++ toString found

/-- The identifier with these hexadecimal digits. -/
def ofHex? (cs : List Char) : Option Uuid :=
  (cs.mapM fun c => hexValue? c.toNat).map fun digits =>
    ⟨BitVec.ofNat 128 (digits.foldl (fun n d => 16 * n + d) 0)⟩

/-- The digits of a text of 36 bytes with hyphens at the four regular places. -/
def ungrouped? (cs : List Char) : Option (List Char) :=
  if byteLength cs = 36 ∧ cs[8]? = some '-' ∧ cs[13]? = some '-' ∧ cs[18]? = some '-'
      ∧ cs[23]? = some '-' then
    some (cs.take 8 ++ (cs.drop 9).take 4 ++ (cs.drop 14).take 4 ++ (cs.drop 19).take 4
      ++ cs.drop 24)
  else none

/-- What a text is wrapped in. -/
inductive Wrapping where
  | plain
  | braces
  | urn
deriving DecidableEq

/-- The number of bytes in front of the wrapped text. -/
def Wrapping.offset : Wrapping → Nat
  | .plain => 0
  | .braces => 1
  | .urn => 9

/-- The wrapping of a text, and what is inside. -/
def unwrap (cs : List Char) : Wrapping × List Char :=
  if cs.head? = some '\x7b' ∧ 2 ≤ cs.length ∧ cs.getLast? = some '\x7d' then
    (.braces, cs.tail.dropLast)
  else if (cs.take 9).map Char.toLower = ['u', 'r', 'n', ':', 'u', 'u', 'i', 'd', ':'] then
    (.urn, cs.drop 9)
  else (.plain, cs)

/-- The text to read: in a wrapping of the right size, what is inside it. -/
def subject (cs : List Char) : List Char :=
  match unwrap cs with
  | (.braces, inner) => if byteLength cs = 38 then inner else cs
  | (.urn, inner) => if byteLength cs = 45 then inner else cs
  | (.plain, _) => cs

/-- The identifier that a well-formed subject denotes. -/
def parse? (cs : List Char) : Option Uuid :=
  if byteLength cs = 32 then ofHex? cs else (ungrouped? cs).bind ofHex?

/-- The first character that is neither a digit nor a hyphen, with its place in bytes. -/
def badCharacter? : Nat → List Char → Option (Char × Nat)
  | _, [] => none
  | index, c :: rest =>
    if c = '-' ∨ (hexValue? c.toNat).isSome then badCharacter? (index + c.utf8Size) rest
    else some (c, index)

/-- The places of the hyphens. -/
def hyphens : Nat → List Char → List Nat
  | _, [] => []
  | index, c :: rest =>
    if c = '-' then index :: hyphens (index + 1) rest else hyphens (index + 1) rest

/-- The first of the four leading groups, given with its start and its end, that does not end
where it should. -/
def badGroup? : List (Nat × Nat × Nat) → List Nat → Option ReadError
  | (group, start, stop) :: regular, hyphen :: rest =>
    if hyphen = stop then badGroup? regular rest
    else some (.groupLength group (stop - start) (hyphen - start))
  | _, _ => none

/-- The groups before the last one, with their regular starts and ends. -/
def leadingGroups : List (Nat × Nat × Nat) := [(0, 0, 8), (1, 9, 13), (2, 14, 18), (3, 19, 23)]

/-- What is wrong with a subject that denotes no identifier. -/
def diagnose (cs : List Char) : ReadError :=
  let (wrapping, inner) := unwrap cs
  match badCharacter? wrapping.offset inner with
  | some (c, index) => .character c index
  | none =>
    let places := hyphens 0 inner
    if places.isEmpty ∧ wrapping = .plain ∧ byteLength cs ≠ 36 then .length (byteLength cs)
    else if places.length ≠ 4 then .groupCount (places.length + 1)
    else (badGroup? leadingGroups places).getD (.groupLength 4 12 (byteLength cs - 24))

/-- The identifier that a list of characters denotes. -/
def read (cs : List Char) : Except ReadError Uuid :=
  let size := byteLength cs
  if size = 0 ∨ 45 < size then .error (.length size)
  else
    let inner := subject cs
    match parse? inner with
    | some id => .ok id
    | none => .error (diagnose inner)

end HrPipeline.Uuid
