import HrPipeline.Json.Token

/-!
# Passing over values

A value that nobody uses has to be well-formed JSON, of any depth and with numbers of any size. The
open brackets are kept on a stack, and `skip` walks over the bytes in one pass. The lemma
`length_skip` bounds what it leaves.
-/

namespace HrPipeline.Json

/-- A bracket that is open. -/
inductive Bracket where
  | sequence
  | map
deriving DecidableEq

/-- What may come next while a value is passed over. -/
inductive Stage where
  /-- A value. -/
  | value
  /-- After an opening bracket: a first item or key, or the closing bracket. -/
  | opened
  /-- A key. -/
  | key
  /-- After a value: a comma or the closing bracket. -/
  | after
deriving DecidableEq

/-- The rest after a scalar value. -/
def skipScalar (b : UInt8) (rest : Bytes) : Except Refusal Bytes :=
  if b = 0x6E then literal ull rest
  else if b = 0x74 then literal rue rest
  else if b = 0x66 then literal alse rest
  else if b = 0x2D then skipNumber rest
  else if isDigit b then skipNumber (b :: rest)
  else if b = quoteMark then skipText 0 rest
  else .error .malformed

/-- The rest after a key and its colon, from after the opening quote of the key. -/
def skipKey (bytes : Bytes) : Except Refusal Bytes := do
  let rest ← skipText 0 bytes
  match skipSpace rest with
  | [] => .error .unfinished
  | b :: rest => if b = colonMark then .ok rest else .error .malformed

/-- A scalar leaves no more bytes than followed its first. -/
theorem length_skipScalar {b : UInt8} {rest after : Bytes} (h : skipScalar b rest = .ok after) :
    after.length ≤ rest.length := by
  unfold skipScalar at h
  split at h
  · exact length_literal h
  · split at h
    · exact length_literal h
    · split at h
      · exact length_literal h
      · split at h
        · exact Nat.le_of_lt (length_skipNumber h)
        · split at h
          · have := length_skipNumber h
            simp only [List.length_cons] at this
            omega
          · split at h
            · exact Nat.le_of_lt (length_skipText h)
            · simp at h

/-- A key and its colon leave fewer bytes than before. -/
theorem length_skipKey {bytes after : Bytes} (h : skipKey bytes = .ok after) :
    after.length < bytes.length := by
  unfold skipKey at h
  cases hs : skipText 0 bytes with
  | error refusal => simp [hs, bind, Except.bind] at h
  | ok rest =>
    have h1 := length_skipText hs
    have h2 := length_skipSpace rest
    simp only [hs, bind, Except.bind] at h
    split at h
    · simp at h
    · rename_i hsp
      split at h
      · simp only [Except.ok.injEq] at h
        subst h
        rw [hsp, List.length_cons] at h2
        omega
      · simp at h

/-- Whether a byte closes a bracket. -/
def Bracket.closedBy : Bracket → UInt8 → Bool
  | .sequence, b => b = closeBracket
  | .map, b => b = closeBrace

/-- The stage in which the items or members of a bracket begin. -/
def Bracket.next : Bracket → Stage
  | .sequence => .value
  | .map => .key

/-- The rest after the value at the front, where `stack` lists the brackets around it, the innermost
first. -/
def skip (stage : Stage) (stack : List Bracket) (bytes : Bytes) : Except Refusal Bytes :=
  match stage, stack with
  | .after, [] => .ok bytes
  | stage, stack =>
    match hb : skipSpace bytes with
    | [] => .error .unfinished
    | b :: rest =>
      have : rest.length < bytes.length := by
        have := length_skipSpace bytes
        rw [hb, List.length_cons] at this
        omega
      match stage, stack with
      | .value, stack =>
        if b = openBracket then skip .opened (.sequence :: stack) rest
        else if b = openBrace then skip .opened (.map :: stack) rest
        else
          match hs : skipScalar b rest with
          | .error refusal => .error refusal
          | .ok after =>
            have := length_skipScalar hs
            skip .after stack after
      | .opened, bracket :: stack =>
        if bracket.closedBy b then skip .after stack rest
        else skip bracket.next (bracket :: stack) bytes
      | .key, stack =>
        if b = quoteMark then
          match hk : skipKey rest with
          | .error refusal => .error refusal
          | .ok after =>
            have := length_skipKey hk
            skip .value stack after
        else .error .malformed
      | .after, bracket :: stack =>
        if bracket.closedBy b then skip .after stack rest
        else if b = comma then skip bracket.next (bracket :: stack) rest
        else .error .malformed
      | _, [] => .error .malformed
termination_by (bytes.length, if stage = .opened then 1 else 0)
decreasing_by
  all_goals first
    | (apply Prod.Lex.left; omega)
    | (apply Prod.Lex.right; cases bracket <;> simp [Bracket.next])

/-- Passing over a value at the front of a sequence of bytes. -/
def skipValue (bytes : Bytes) : Except Refusal Bytes := skip .value [] bytes

/-- Passing over a value leaves no more bytes than before. -/
theorem length_skip {stage : Stage} {stack : List Bracket} {bytes rest : Bytes}
    (h : skip stage stack bytes = .ok rest) : rest.length ≤ bytes.length := by
  fun_induction skip stage stack bytes <;> simp_all <;> omega

end HrPipeline.Json
