import HrPipeline.Json.Skip
import HrPipeline.Proofs.Json.Grammar
import HrPipeline.Proofs.Json.WrittenText

/-!
# Well-formed values are passed over

Every value that the grammar spells is passed over as a whole, whatever it holds and however deep
it is: the stack of open brackets is the same before and after it. What follows must only not go on
with a number.
-/

namespace HrPipeline.Json

open HrPipeline.Text

/-! ## Blanks and what follows a value -/

theorem skipSpace_append {blanks : Bytes} (h : Blank blanks) (bytes : Bytes) :
    skipSpace (blanks ++ bytes) = skipSpace bytes :=
  List.dropWhile_append_of_pos h

theorem skipSpace_cons {b : UInt8} (h : isSpace b = false) (bytes : Bytes) :
    skipSpace (b :: bytes) = b :: bytes := by
  rw [skipSpace, List.dropWhile_cons, h]
  rfl

/-- What follows cannot be taken for a part of a number before it. -/
def Ends (bytes : Bytes) : Prop :=
  ∀ b ∈ bytes.head?, isDigit b = false ∧ b ≠ 0x2E ∧ b ≠ 0x65 ∧ b ≠ 0x45

theorem ends_cons {b : UInt8} (h : isDigit b = false ∧ b ≠ 0x2E ∧ b ≠ 0x65 ∧ b ≠ 0x45)
    (bytes : Bytes) : Ends (b :: bytes) := by
  intro c hc
  obtain rfl := Option.some.inj hc
  exact h

theorem ends_append {blanks bytes : Bytes} (hblanks : Blank blanks) (h : Ends bytes) :
    Ends (blanks ++ bytes) := by
  cases blanks with
  | nil => exact h
  | cons b blanks =>
    have hb := hblanks b List.mem_cons_self
    simp only [isSpace, Bool.or_eq_true, decide_eq_true_eq] at hb
    refine ends_cons ?_ (blanks ++ bytes)
    rcases hb with ((rfl | rfl) | rfl) | rfl <;> decide

/-! ## Numbers -/

theorem skipDigits_append {digits rest : Bytes} (h : Digits digits)
    (hrest : ∀ b ∈ rest.head?, isDigit b = false) : skipDigits (digits ++ rest) = .ok rest := by
  obtain ⟨hne, hdigits⟩ := h
  have hstop : rest.dropWhile isDigit = rest := by
    cases rest with
    | nil => rfl
    | cons b rest => rw [List.dropWhile_cons, hrest b rfl]; rfl
  cases digits with
  | nil => exact absurd rfl hne
  | cons d digits =>
    have hd : isDigit d = true := hdigits d List.mem_cons_self
    have hlater : ∀ b ∈ digits, isDigit b = true :=
      fun b hb => hdigits b (List.mem_cons_of_mem d hb)
    simp only [List.cons_append, skipDigits, hd, if_true]
    rw [List.dropWhile_append_of_pos hlater, hstop]

theorem skipExponent_append {exponent rest : Bytes} (h : Exponent exponent) (hrest : Ends rest) :
    skipExponent (exponent ++ rest) = .ok rest := by
  have hstop : ∀ b ∈ rest.head?, isDigit b = false := fun b hb => (hrest b hb).1
  cases h with
  | none =>
    cases rest with
    | nil => rfl
    | cons b rest =>
      obtain ⟨-, -, hsmall, hcapital⟩ := hrest b rfl
      exact if_neg (not_or.mpr ⟨hsmall, hcapital⟩)
  | @some letter sign digits hletter hsign hdigits =>
    have hread := skipDigits_append hdigits hstop
    simp only [List.cons_append, skipExponent, if_pos hletter]
    simp only [List.mem_cons, List.not_mem_nil, or_false] at hsign
    rcases hsign with rfl | rfl | rfl
    · -- Without a sign the first digit is looked at, and it is none.
      obtain ⟨hne, hall⟩ := hdigits
      cases digits with
      | nil => exact absurd rfl hne
      | cons d digits =>
        have hd : ¬ (d = 0x2B ∨ d = 0x2D) := by
          have := hall d List.mem_cons_self
          rintro (rfl | rfl) <;> exact absurd this (by decide)
        simp only [List.nil_append, List.cons_append, if_neg hd]
        exact hread
    · exact hread
    · exact hread

theorem skipNumber_append {whole fraction exponent rest : Bytes} (hwhole : Whole whole)
    (hfraction : Fraction fraction) (hexponent : Exponent exponent) (hrest : Ends rest) :
    skipNumber (whole ++ (fraction ++ exponent) ++ rest) = .ok rest := by
  have hlast := skipExponent_append hexponent hrest
  have hend : ∀ b ∈ (exponent ++ rest).head?, isDigit b = false := by
    cases hexponent with
    | none => exact fun b hb => (hrest b hb).1
    | some hletter _ _ =>
      intro b hb
      obtain rfl := Option.some.inj hb
      rcases hletter with rfl | rfl <;> rfl
  have hpoint : ∀ b ∈ (fraction ++ (exponent ++ rest)).head?, isDigit b = false := by
    cases hfraction with
    | none => exact hend
    | some _ =>
      intro b hb
      obtain rfl := Option.some.inj hb
      rfl
  have hzero : ¬ ((whole ++ (fraction ++ (exponent ++ rest))).head? = some 0x30 ∧
      (fraction ++ (exponent ++ rest)).length + 1 <
        (whole ++ (fraction ++ (exponent ++ rest))).length) := by
    rintro ⟨hhead, hlength⟩
    have hhead' : whole.head? = some 0x30 := by
      cases whole with
      | nil => exact absurd rfl hwhole.1.1
      | cons d whole => exact hhead
    rw [hwhole.2 hhead'] at hlength
    simp only [List.length_append, List.length_cons, List.length_nil] at hlength
    omega
  rw [List.append_assoc, List.append_assoc, skipNumber]
  simp only [skipDigits_append hwhole.1 hpoint, bind, Except.bind, if_neg hzero]
  cases hfraction with
  | none =>
    rw [List.nil_append]
    cases htail : exponent ++ rest with
    | nil =>
      rw [htail] at hlast
      exact hlast
    | cons b more =>
      rw [htail] at hlast
      have hb : b ≠ 0x2E := by
        cases hexponent with
        | none =>
          rw [List.nil_append] at htail
          exact (hrest b (by rw [htail]; rfl)).2.1
        | some hletter _ _ =>
          obtain rfl := (List.cons.inj htail).1
          rcases hletter with rfl | rfl <;> decide
      simp only [if_neg hb]
      exact hlast
  | some hdigits =>
    simp only [List.cons_append, if_true, skipDigits_append hdigits hend]
    exact hlast

/-! ## Strings -/

theorem skipText_plain {bytes : Bytes} (h : ∀ b ∈ bytes, IsPlain b) (rest : Bytes) :
    skipText 0 (bytes ++ rest) = skipText 0 rest := by
  induction bytes with
  | nil => rfl
  | cons b bytes ih =>
    obtain ⟨hquote, hslash, hcontrol⟩ := h b List.mem_cons_self
    rw [List.cons_append, skipText, if_neg hquote, if_neg hslash, if_neg hcontrol]
    exact ih fun c hc => h c (List.mem_cons_of_mem b hc)

/-- Four hexadecimal digits give their number. -/
theorem hexUnit_digits {a b c d : UInt8} {w x y z : Nat} (ha : hexValue? a.toNat = some w)
    (hb : hexValue? b.toNat = some x) (hc : hexValue? c.toNat = some y)
    (hd : hexValue? d.toNat = some z) (rest : Bytes) :
    hexUnit (a :: b :: c :: d :: rest) = .ok (((w * 16 + x) * 16 + y) * 16 + z) := by
  simp only [hexUnit, ha, hb, hc, hd]

/-- Every short escape is known to the reader, and stands for one byte. -/
theorem simpleEscape?_of_mem {letter c : Char} (h : (letter, c) ∈ escapeLetters) :
    ∃ b, simpleEscape? (UInt8.ofNat letter.toNat) = some b ∧ String.utf8EncodeChar c = [b] := by
  simp only [escapeLetters, List.mem_cons, Prod.mk.injEq, List.not_mem_nil, or_false] at h
  rcases h with ⟨rfl, rfl⟩ | ⟨rfl, rfl⟩ | ⟨rfl, rfl⟩ | ⟨rfl, rfl⟩ | ⟨rfl, rfl⟩ | ⟨rfl, rfl⟩ |
    ⟨rfl, rfl⟩ | ⟨rfl, rfl⟩ <;> exact ⟨_, rfl, rfl⟩

theorem skipText_content {units : List UInt16} {bytes : Bytes} (h : Content units bytes)
    (rest : Bytes) : skipText 0 (bytes ++ quoteMark :: rest) = .ok rest := by
  induction h with
  | nil => rfl
  | @cons _ _ piece bytes hpiece _ ih =>
    rw [List.append_assoc]
    cases hpiece with
    | plain hquote hslash hcontrol =>
      rw [skipText_plain fun b =>
        isPlain_of_mem_utf8EncodeChar hquote hslash (Nat.not_lt.mpr hcontrol)]
      exact ih
    | @short letter c hletter =>
      obtain ⟨b, hknown, -⟩ := simpleEscape?_of_mem hletter
      have hescape : ∀ more, skippedEscape (UInt8.ofNat letter.toNat :: more) = .ok 1 := by
        intro more
        rw [skippedEscape, hknown]
        rfl
      simp only [List.cons_append, List.nil_append]
      rw [skipText, if_neg (by decide), if_pos rfl, hescape]
      exact ih
    | @unit a b c d w x y z ha hb hc hd =>
      have hescape : ∀ more, skippedEscape (0x75 :: a :: b :: c :: d :: more) = .ok 5 := by
        intro more
        rw [skippedEscape, hexUnit_digits ha hb hc hd]
        rfl
      simp only [List.cons_append, List.nil_append]
      rw [skipText, if_neg (by decide), if_pos rfl, hescape]
      exact ih

/-! ## Steps -/

section
variable {stage : Stage} {stack : List Bracket} {b : UInt8} {bytes rest after : Bytes}

/-- What `skip` does next, once the first byte that is no blank is at hand. -/
def skipStep (stage : Stage) (stack : List Bracket) (bytes : Bytes) (b : UInt8) (rest : Bytes) :
    Except Refusal Bytes :=
  match stage, stack with
  | .value, stack =>
    if b = openBracket then skip .opened (.sequence :: stack) rest
    else if b = openBrace then skip .opened (.map :: stack) rest
    else skipScalar b rest >>= skip .after stack
  | .opened, bracket :: stack =>
    if bracket.closedBy b then skip .after stack rest
    else skip bracket.next (bracket :: stack) bytes
  | .key, stack =>
    if b = quoteMark then skipKey rest >>= skip .value stack else .error .malformed
  | .after, bracket :: stack =>
    if bracket.closedBy b then skip .after stack rest
    else if b = comma then skip bracket.next (bracket :: stack) rest
    else .error .malformed
  | _, [] => .error .malformed

theorem skip_eq_skipStep (h : skipSpace bytes = b :: rest)
    (hopen : stage = .after → stack ≠ []) :
    skip stage stack bytes = skipStep stage stack bytes b rest := by
  rw [skip]
  · split
    · next hnil => exact absurd (h.symm.trans hnil) (by simp)
    · next hcons =>
      obtain ⟨rfl, rfl⟩ := List.cons.inj (hcons.symm.trans h)
      cases stage with
      | value =>
        simp only [skipStep]
        refine ite_congr rfl (fun _ => rfl) fun _ => ite_congr rfl (fun _ => rfl) fun _ => ?_
        split <;> simp_all [bind, Except.bind]
      | key =>
        simp only [skipStep]
        refine ite_congr rfl (fun _ => ?_) fun _ => rfl
        split <;> simp_all [bind, Except.bind]
      | opened => cases stack <;> rfl
      | after => cases stack <;> rfl
  · exact hopen

/-- The byte that opens a bracket. -/
def Bracket.opening : Bracket → UInt8
  | .sequence => openBracket
  | .map => openBrace

/-- The byte that closes a bracket. -/
def Bracket.closing : Bracket → UInt8
  | .sequence => closeBracket
  | .map => closeBrace

theorem Bracket.closedBy_closing (bracket : Bracket) :
    bracket.closedBy bracket.closing = true := by
  cases bracket <;> rfl

theorem skip_done (bytes : Bytes) : skip .after [] bytes = .ok bytes := by
  rw [skip]

theorem skip_open (bracket : Bracket) (h : skipSpace bytes = bracket.opening :: rest) :
    skip .value stack bytes = skip .opened (bracket :: stack) rest := by
  rw [skip_eq_skipStep h (by simp)]
  cases bracket <;> rfl

theorem skip_close (bracket : Bracket) (h : skipSpace bytes = bracket.closing :: rest) :
    skip .after (bracket :: stack) bytes = skip .after stack rest :=
  (skip_eq_skipStep h (by simp)).trans (if_pos bracket.closedBy_closing)

theorem skip_comma (bracket : Bracket) (h : skipSpace bytes = comma :: rest) :
    skip .after (bracket :: stack) bytes = skip bracket.next (bracket :: stack) rest := by
  have hb : bracket.closedBy comma = false := by cases bracket <;> rfl
  rw [skip_eq_skipStep h (by simp)]
  simp only [skipStep, hb, Bool.false_eq_true, if_false, if_true]

theorem skip_scalar (h : skipSpace bytes = b :: rest) (hs : skipScalar b rest = .ok after) :
    skip .value stack bytes = skip .after stack after := by
  have hbracket : b ≠ openBracket := by
    rintro rfl
    cases hs
  have hbrace : b ≠ openBrace := by
    rintro rfl
    cases hs
  rw [skip_eq_skipStep h (by simp)]
  simp only [skipStep, if_neg hbracket, if_neg hbrace, hs, bind, Except.bind]

theorem skip_key (h : skipSpace bytes = quoteMark :: rest) (hk : skipKey rest = .ok after) :
    skip .key stack bytes = skip .value stack after := by
  rw [skip_eq_skipStep h (by simp)]
  simp only [skipStep, if_true, hk, bind, Except.bind]

end

/-! ## Phrases -/

theorem literal_append (letters rest : Bytes) : literal letters (letters ++ rest) = .ok rest := by
  induction letters with
  | nil => rfl
  | cons letter letters ih =>
    rw [List.cons_append, literal, if_pos rfl]
    exact ih

theorem skipKey_content {name : List UInt16} {spelled after : Bytes} (h : Content name spelled)
    (hafter : Blank after) (rest : Bytes) :
    skipKey (spelled ++ quoteMark :: (after ++ colonMark :: rest)) = .ok rest := by
  have hcolon : skipSpace (after ++ colonMark :: rest) = colonMark :: rest := by
    rw [skipSpace_append hafter]
    exact skipSpace_cons rfl rest
  simp only [skipKey, skipText_content h, bind, Except.bind, hcolon, if_true]

/-- The number that a digit or a minus begins is passed over as a scalar. -/
theorem skipScalar_numeral {digits rest : Bytes} (h : Numeral digits) (hrest : Ends rest) :
    ∃ b more, digits = b :: more ∧ skipScalar b (more ++ rest) = .ok rest := by
  cases h with
  | @positive whole fraction exponent hwhole hfraction hexponent =>
    have hread := skipNumber_append hwhole hfraction hexponent hrest
    obtain ⟨⟨hne, hdigits⟩, -⟩ := hwhole
    cases whole with
    | nil => exact absurd rfl hne
    | cons d whole =>
      have hd : isDigit d = true := hdigits d List.mem_cons_self
      have hother : ∀ c, isDigit c = false → d ≠ c := by
        rintro c hc rfl
        exact Bool.false_ne_true (hc.symm.trans hd)
      refine ⟨d, whole ++ (fraction ++ exponent), rfl, ?_⟩
      rw [skipScalar, if_neg (hother _ rfl), if_neg (hother _ rfl), if_neg (hother _ rfl),
        if_neg (hother _ rfl), if_pos hd]
      exact hread
  | negative hwhole hfraction hexponent =>
    exact ⟨_, _, rfl, skipNumber_append hwhole hfraction hexponent hrest⟩

/-- The bytes are passed over from a stage on, up to blanks that they may end with. -/
def LeavesBlanks (stage : Stage) (bytes : Bytes) : Prop :=
  ∃ blanks, Blank blanks ∧ ∀ stack rest, Ends rest →
    skip stage stack (bytes ++ rest) = skip .after stack (blanks ++ rest)

/-- The bytes are passed over together with the closing of the bracket that they stand in. -/
def Fills (bracket : Bracket) (bytes : Bytes) : Prop :=
  ∀ stack rest, skip bracket.next (bracket :: stack) (bytes ++ bracket.closing :: rest) =
    skip .after stack rest

/-- What it means that a phrase is passed over, whatever brackets are open around it. -/
def PassedOver : Phrase → Bytes → Prop
  | .value _, bytes =>
    ∀ stack rest, Ends rest → skip .value stack (bytes ++ rest) = skip .after stack rest
  | .element _, bytes => LeavesBlanks .value bytes
  | .elements _, bytes => Fills .sequence bytes
  | .member _ _, bytes => LeavesBlanks .key bytes
  | .members _, bytes => Fills .map bytes

/-- The last item or member stands before the closing bracket. -/
theorem LeavesBlanks.fills (bracket : Bracket) {bytes : Bytes}
    (h : LeavesBlanks bracket.next bytes) : Fills bracket bytes := by
  obtain ⟨blanks, hblanks, hread⟩ := h
  intro stack rest
  have hends : Ends (bracket.closing :: rest) := ends_cons (by cases bracket <;> decide) rest
  have hclosing : skipSpace (blanks ++ bracket.closing :: rest) = bracket.closing :: rest := by
    rw [skipSpace_append hblanks]
    exact skipSpace_cons (by cases bracket <;> rfl) rest
  rw [hread _ _ hends, skip_close bracket hclosing]

/-- Any other item or member stands before a comma. -/
theorem LeavesBlanks.fills_comma (bracket : Bracket) {bytes later : Bytes}
    (h : LeavesBlanks bracket.next bytes) (hlater : Fills bracket later) :
    Fills bracket (bytes ++ comma :: later) := by
  obtain ⟨blanks, hblanks, hread⟩ := h
  intro stack rest
  have hends : Ends (comma :: (later ++ bracket.closing :: rest)) := ends_cons (by decide) _
  have hcomma : skipSpace (blanks ++ comma :: (later ++ bracket.closing :: rest)) =
      comma :: (later ++ bracket.closing :: rest) := by
    rw [skipSpace_append hblanks]
    exact skipSpace_cons (by decide) _
  rw [List.append_assoc, List.cons_append, hread _ _ hends, skip_comma bracket hcomma]
  exact hlater stack rest

/-- Brackets with nothing between them are passed over. -/
theorem skip_empty (bracket : Bracket) {blanks : Bytes} (hblanks : Blank blanks)
    (stack : List Bracket) (rest : Bytes) :
    skip .value stack (bracket.opening :: (blanks ++ [bracket.closing]) ++ rest) =
      skip .after stack rest := by
  have hopening : ∀ bytes, skipSpace (bracket.opening :: bytes) = bracket.opening :: bytes :=
    fun bytes => skipSpace_cons (by cases bracket <;> rfl) bytes
  have hclosing : skipSpace (blanks ++ [bracket.closing] ++ rest) = bracket.closing :: rest := by
    rw [List.append_assoc, skipSpace_append hblanks]
    exact skipSpace_cons (by cases bracket <;> rfl) rest
  rw [List.cons_append, skip_open bracket (hopening _), skip_eq_skipStep hclosing (by simp)]
  exact if_pos bracket.closedBy_closing

/-- Brackets are passed over if what stands between them is. -/
theorem Fills.skip {bracket : Bracket} {bytes : Bytes} (h : Fills bracket bytes)
    (hopens : Opens bytes) (stack : List Bracket) (rest : Bytes) :
    Json.skip .value stack (bracket.opening :: (bytes ++ [bracket.closing]) ++ rest) =
      Json.skip .after stack rest := by
  have hopening : ∀ bytes, skipSpace (bracket.opening :: bytes) = bracket.opening :: bytes :=
    fun bytes => skipSpace_cons (by cases bracket <;> rfl) bytes
  obtain ⟨blanks, b, more, hblanks, hbytes, hspace, -, hbracket, hbrace⟩ :=
    hopens.append (bracket.closing :: rest)
  have hfirst : skipSpace (bytes ++ bracket.closing :: rest) = b :: more := by
    rw [hbytes, skipSpace_append hblanks]
    exact skipSpace_cons hspace more
  have hb : ¬ bracket.closedBy b = true := by
    cases bracket with
    | sequence => simpa [Bracket.closedBy] using hbracket
    | map => simpa [Bracket.closedBy] using hbrace
  rw [List.cons_append, skip_open bracket (hopening _), List.append_assoc, List.singleton_append,
    skip_eq_skipStep hfirst (by simp)]
  exact (if_neg hb).trans (h stack rest)

/-- Blanks before a value are passed over with it. -/
theorem skip_value_append {blanks bytes : Bytes} (hblanks : Blank blanks) (hopens : Opens bytes)
    (stack : List Bracket) : skip .value stack (blanks ++ bytes) = skip .value stack bytes := by
  obtain ⟨before, b, more, hbefore, rfl, hspace, -⟩ := hopens
  have hfirst : skipSpace (before ++ b :: more) = b :: more := by
    rw [skipSpace_append hbefore]
    exact skipSpace_cons hspace more
  rw [skip_eq_skipStep hfirst (by simp),
    skip_eq_skipStep ((skipSpace_append hblanks _).trans hfirst) (by simp)]
  rfl

/-- Every phrase is passed over. -/
theorem Spells.passedOver {phrase : Phrase} {bytes : Bytes} (h : Spells phrase bytes) :
    PassedOver phrase bytes := by
  induction h with
  | null =>
    intro stack rest _
    rw [utf8_null]
    exact skip_scalar (skipSpace_cons rfl _) (literal_append ull rest)
  | boolean value =>
    intro stack rest _
    cases value with
    | true =>
      rw [if_pos rfl, utf8_true]
      exact skip_scalar (skipSpace_cons rfl _) (literal_append rue rest)
    | false =>
      rw [if_neg Bool.false_ne_true, utf8_false]
      exact skip_scalar (skipSpace_cons rfl _) (literal_append alse rest)
  | number hnumeral =>
    intro stack rest hrest
    obtain ⟨b, more, rfl, hread⟩ := skipScalar_numeral hnumeral hrest
    obtain ⟨_, _, hbytes, hb⟩ := (Spells.number hnumeral).begins
    obtain ⟨rfl, rfl⟩ := List.cons.inj hbytes
    exact skip_scalar (skipSpace_cons hb.not_isSpace _) hread
  | string hcontent =>
    intro stack rest _
    rw [List.cons_append, List.append_assoc]
    exact skip_scalar (skipSpace_cons rfl _) (skipText_content hcontent rest)
  | noItems hblanks =>
    intro stack rest _
    exact skip_empty .sequence hblanks stack rest
  | sequence hitems ih =>
    intro stack rest _
    exact Fills.skip ih hitems.opens_elements stack rest
  | noMembers hblanks =>
    intro stack rest _
    exact skip_empty .map hblanks stack rest
  | map hmembers ih =>
    intro stack rest _
    exact Fills.skip ih hmembers.opens_members stack rest
  | @element v before bytes after hbefore hv hafter ih =>
    refine ⟨after, hafter, fun stack rest hrest => ?_⟩
    have hopens : Opens (bytes ++ (after ++ rest)) := hv.opens_value.append _
    rw [List.append_assoc, List.append_assoc, skip_value_append hbefore hopens]
    exact ih stack _ (ends_append hafter hrest)
  | lastItem _ ih => exact LeavesBlanks.fills .sequence ih
  | item _ _ ih ihlater => exact LeavesBlanks.fills_comma .sequence ih ihlater
  | @member name v before spelled after bytes hbefore hname hafter _ ih =>
    obtain ⟨blanks, hblanks, hread⟩ := ih
    refine ⟨blanks, hblanks, fun stack rest hrest => ?_⟩
    have hquote : skipSpace (before ++
        quoteMark :: (spelled ++ quoteMark :: (after ++ colonMark :: (bytes ++ rest)))) =
        quoteMark :: (spelled ++ quoteMark :: (after ++ colonMark :: (bytes ++ rest))) := by
      rw [skipSpace_append hbefore]
      exact skipSpace_cons rfl _
    rw [← hread stack rest hrest, ← skip_key hquote (skipKey_content hname hafter _)]
    simp only [List.append_assoc, List.cons_append]
  | lastMember _ ih => exact LeavesBlanks.fills .map ih
  | moreMembers _ _ ih ihlater => exact LeavesBlanks.fills_comma .map ih ihlater

/-- A value that nobody uses is passed over, whatever it is. -/
theorem skipValue_spelled {v : Value} {blanks bytes rest : Bytes} (hblanks : Blank blanks)
    (h : Spells (.value v) bytes) (hrest : Ends rest) :
    skipValue (blanks ++ (bytes ++ rest)) = .ok rest := by
  have hread : skip .value [] (bytes ++ rest) = skip .after [] rest := h.passedOver [] rest hrest
  rw [skipValue, skip_value_append hblanks (h.opens_value.append rest), hread, skip_done]

end HrPipeline.Json
