import HrPipeline.Proofs.Json.SpelledText

/-!
# Spelled records are read

A map is read member by member, each into the slot of its name; since the fields have different
names, what a field gets depends on the members with its name alone. A sequence is read item by
item, one for each field. Both ways the bytes denote a row exactly if the values do.
-/

namespace HrPipeline.Json

open HrPipeline.Text

/-! ## Entries of maps and sequences -/

/-- What stands before an entry: nothing before the first one, a comma before the others. -/
def lead (first : Bool) : Bytes := if first then [] else [comma]

section
variable {blanks bytes rest : Bytes}

theorem skipSpace_skipSpace (bytes : Bytes) : skipSpace (skipSpace bytes) = skipSpace bytes := by
  induction bytes with
  | nil => rfl
  | cons b bytes ih =>
    cases hb : isSpace b with
    | false => rw [skipSpace_cons hb, skipSpace_cons hb]
    | true =>
      have hskip : skipSpace (b :: bytes) = skipSpace bytes := List.dropWhile_cons_of_pos hb
      rw [hskip, ih]

/-- Only what comes after blanks matters to a value. -/
theorem Kind.read_congr (kind : Kind) {first second : Bytes}
    (h : skipSpace first = skipSpace second) : kind.read first = kind.read second := by
  have htext : ∀ expected, readText expected first = readText expected second := by
    intro expected
    rw [readText, readText, h]
  cases kind with
  | text => exact htext .text
  | optionalText =>
    show readOptional first = readOptional second
    rw [readOptional, readOptional, h]
  | uuid => simp only [Kind.read, readVia, htext]
  | instant => simp only [Kind.read, readVia, htext]
  | date => simp only [Kind.read, readVia, htext]

theorem nextEntry_append (closing : UInt8) (first : Bool) (hblanks : Blank blanks)
    (bytes : Bytes) :
    nextEntry closing first (blanks ++ bytes) = nextEntry closing first bytes := by
  rw [nextEntry, nextEntry, skipSpace_append hblanks]

theorem nextEntry_closing (bracket : Bracket) (first : Bool) (rest : Bytes) :
    nextEntry bracket.closing first (bracket.closing :: rest) = .ok (.close rest) := by
  have hspace : skipSpace (bracket.closing :: rest) = bracket.closing :: rest :=
    skipSpace_cons (by cases bracket <;> rfl) rest
  rw [nextEntry, hspace]
  exact if_pos rfl

theorem nextEntry_lead (bracket : Bracket) (first : Bool) (h : Opens bytes) :
    nextEntry bracket.closing first (lead first ++ bytes) = .ok (.more (skipSpace bytes)) := by
  obtain ⟨before, b, more, hbefore, rfl, hspace, -, hbracket, hbrace⟩ := h
  have hfirst : skipSpace (before ++ b :: more) = b :: more := by
    rw [skipSpace_append hbefore]
    exact skipSpace_cons hspace more
  have hb : b ≠ bracket.closing := by
    cases bracket with
    | sequence => exact hbracket
    | map => exact hbrace
  have hcomma : comma ≠ bracket.closing := by cases bracket <;> decide
  cases first with
  | true =>
    simp only [lead, if_true, List.nil_append, nextEntry, hfirst, if_neg hb]
  | false =>
    have hspace' : ∀ bytes, skipSpace (comma :: bytes) = comma :: bytes :=
      fun bytes => skipSpace_cons rfl bytes
    simp only [lead, Bool.false_eq_true, if_false, List.singleton_append, nextEntry, hspace',
      hfirst, if_neg hb, if_neg hcomma, if_true]

theorem colon_append {after : Bytes} (hafter : Blank after) (bytes : Bytes) :
    colon (after ++ colonMark :: bytes) = .ok bytes := by
  rw [colon, skipSpace_append hafter, skipSpace_cons (by decide)]
  exact if_pos rfl

theorem readKey_spelled {name : List UInt16} {spelled : Bytes} (h : Content name spelled)
    (rest : Bytes) :
    (readKey (quoteMark :: (spelled ++ quoteMark :: rest))).toOption =
      (ofUtf16? name).map fun cs => (String.ofList cs, rest) := by
  rw [readKey, if_pos rfl]
  exact text_spelled h rest

end

/-! ## Members -/

/-- A slot after a further value: a filled slot takes none. -/
def Kind.put? (kind : Kind) : Option kind.Value → Json.Value → Option (Option kind.Value)
  | some _, _ => none
  | none, v => (kind.of? v).map some

/-- The slots after a further member, which only the slot of its name takes note of. -/
def Slots.put? : (fields : List Field) → Slots fields → String × Value → Option (Slots fields)
  | [], slots, _ => some slots
  | field :: fields, (slot, slots), member =>
    if field.name = member.1 then
      (field.kind.put? slot member.2).map fun slot => (slot, slots)
    else (Slots.put? fields slots member).map fun slots => (slot, slots)

/-- The slots after a further member whose name must be a text. -/
def Slots.putNamed? (fields : List Field) (slots : Slots fields)
    (member : List UInt16 × Value) : Option (Slots fields) :=
  (ofUtf16? member.1).bind fun cs => Slots.put? fields slots (String.ofList cs, member.2)

/-- A member is read into its slot. -/
theorem Slots.read_spelled {v : Value} {after blanks bytes rest : Bytes} (hafter : Blank after)
    (hblanks : Blank blanks) (h : Spells (.value v) bytes) (hrest : Ends rest)
    (fields : List Field) (slots : Slots fields) (name : String) :
    (Slots.read fields slots name
        (after ++ colonMark :: (blanks ++ (bytes ++ rest)))).toOption =
      (Slots.put? fields slots (name, v)).map fun slots => (slots, rest) := by
  induction fields with
  | nil =>
    simp only [Slots.read, colon_append hafter, bind, Except.bind,
      skipValue_spelled hblanks h hrest]
    rfl
  | cons field fields ih =>
    obtain ⟨slot, slots⟩ := slots
    simp only [Slots.read, Slots.put?]
    by_cases hname : field.name = name
    · rw [if_pos hname, if_pos hname]
      cases slot with
      | some value => rfl
      | none =>
        have hread : (field.kind.read (blanks ++ (bytes ++ rest))).toOption =
            (field.kind.of? v).map fun value => (value, rest) := by
          rw [field.kind.read_congr (skipSpace_append hblanks _)]
          exact field.kind.read_spelled h rest
        rw [colon_append hafter, toOption_bind, Except.toOption, Option.bind_some, toOption_bind,
          toOption_mapError, hread, Kind.put?]
        cases field.kind.of? v <;> rfl
    · rw [if_neg hname, if_neg hname, toOption_bind, ih]
      cases Slots.put? fields slots (name, v) <;> rfl

/-- The members are read one after the other up to the closing brace. -/
theorem readMembers_eq {fields : List Field} (first : Bool) (slots : Slots fields)
    (bytes : Bytes) :
    readMembers fields first slots bytes =
      (nextEntry closeBrace first bytes >>= fun
        | .close rest => .ok (slots, rest)
        | .more entry => readKey entry >>= fun key => Slots.read fields slots key.1 key.2 >>=
            fun read => readMembers fields false read.1 read.2) := by
  rw [readMembers]
  split <;> simp_all [bind, Except.bind]
  split <;> simp_all
  split <;> simp_all

section
variable {fields : List Field} {bytes blanks : Bytes}

theorem readMembers_closing (first : Bool) (slots : Slots fields) (hblanks : Blank blanks)
    (rest : Bytes) :
    readMembers fields first slots (blanks ++ closeBrace :: rest) = .ok (slots, rest) := by
  rw [readMembers_eq, nextEntry_append _ _ hblanks]
  have hclose : nextEntry closeBrace first (closeBrace :: rest) = .ok (.close rest) :=
    nextEntry_closing .map first rest
  rw [hclose]
  rfl

/-- One member is read, and the members after it are left. -/
theorem readMembers_member (fields : List Field) {name : List UInt16} {v : Value}
    (h : Spells (.member name v) bytes) :
    ∃ after, Blank after ∧ ∀ (first : Bool) (slots : Slots fields) (blanks rest : Bytes),
      Blank blanks → Ends rest →
      (readMembers fields first slots (blanks ++ (lead first ++ (bytes ++ rest)))).toOption =
        (Slots.putNamed? fields slots (name, v)).bind fun slots =>
          (readMembers fields false slots (after ++ rest)).toOption := by
  have hopens := h.opens_member
  cases h with
  | @member _ _ before spelled after _ hbefore hname hafter hv =>
    cases hv with
    | @element _ ahead inner behind hahead hinner hbehind =>
      refine ⟨behind, hbehind, fun first slots blanks rest hblanks hrest => ?_⟩
      have hkey : skipSpace (before ++ quoteMark :: (spelled ++ quoteMark :: (after ++
          colonMark :: (ahead ++ (inner ++ behind)))) ++ rest) =
          quoteMark :: (spelled ++ quoteMark :: (after ++
            colonMark :: (ahead ++ (inner ++ (behind ++ rest))))) := by
        rw [List.append_assoc, skipSpace_append hbefore]
        simp only [List.cons_append, List.append_assoc]
        exact skipSpace_cons rfl _
      have hentry := nextEntry_lead .map first (hopens.append rest)
      rw [hkey, Bracket.closing] at hentry
      rw [readMembers_eq, nextEntry_append _ _ hblanks, hentry]
      show (readKey _ >>= _).toOption = _
      rw [toOption_bind, readKey_spelled hname, Slots.putNamed?]
      cases ofUtf16? name with
      | none => rfl
      | some cs =>
        simp only [Option.map_some, Option.bind_some]
        rw [toOption_bind, Slots.read_spelled hafter hahead hinner (ends_append hbehind hrest)]
        cases Slots.put? fields slots (String.ofList cs, v) <;> rfl

/-- All members are read into their slots. -/
theorem readMembers_spelled {members : List (List UInt16 × Value)}
    (h : Spells (.members members) bytes) (first : Bool) (slots : Slots fields)
    (hblanks : Blank blanks) (rest : Bytes) :
    (readMembers fields first slots
        (blanks ++ (lead first ++ (bytes ++ closeBrace :: rest)))).toOption =
      (members.foldlM (Slots.putNamed? fields) slots).map fun slots => (slots, rest) := by
  induction members generalizing bytes first slots blanks with
  | nil => cases h
  | cons member members ih =>
    cases h with
    | lastMember hmember =>
      obtain ⟨after, hafter, hread⟩ := readMembers_member fields hmember
      rw [hread first slots blanks _ hblanks (ends_cons (by decide) rest), List.foldlM_cons]
      simp only [readMembers_closing _ _ hafter]
      cases Slots.putNamed? fields slots _ <;> rfl
    | @moreMembers _ _ _ bytes later hmember hlater =>
      obtain ⟨after, hafter, hread⟩ := readMembers_member fields hmember
      have hnext := fun slots => ih hlater false slots hafter
      rw [List.append_assoc, List.cons_append,
        hread first slots blanks _ hblanks (ends_cons (by decide) _), List.foldlM_cons]
      simp only [lead, Bool.false_eq_true, if_false, List.singleton_append] at hnext
      simp only [hnext]
      cases Slots.putNamed? fields slots _ <;> rfl

end

/-! ## Items -/

/-- The row that the items of a sequence give, one for each field. -/
def Row.ofItems? : (fields : List Field) → List Value → Option (Row fields)
  | [], [] => some ()
  | [], _ :: _ => none
  | field :: fields, [] =>
    field.kind.absent?.bind fun value => (Row.ofItems? fields []).map fun row => (value, row)
  | field :: fields, v :: items =>
    (field.kind.of? v).bind fun value => (Row.ofItems? fields items).map fun row => (value, row)

/-- A sequence from one of its items on, up to its closing bracket. -/
def readToEnd (shape : Shape) (fields : List Field) (index : Nat) (bytes : Bytes) :
    Except Refusal (Row fields × Bytes) :=
  readItems shape fields index bytes >>= fun read =>
    (endItems read.2).map fun rest => (read.1, rest)

theorem readToEnd_nil (shape : Shape) (index : Nat) (bytes : Bytes) :
    readToEnd shape [] index bytes = (endItems bytes).map fun rest => ((), rest) := rfl

/-- A field for which no item is left takes the value of an absent one. -/
theorem readToEnd_absent {shape : Shape} {field : Field} {fields : List Field} {index : Nat}
    {bytes rest : Bytes} (h : nextEntry closeBracket (index = 0) bytes = .ok (.close rest)) :
    (readToEnd shape (field :: fields) index bytes).toOption =
      field.kind.absent?.bind fun value =>
        (readToEnd shape fields (index + 1) (closeBracket :: rest)).toOption.map fun read =>
          ((value, read.1), read.2) := by
  rw [readToEnd, readItems, h, toOption_bind, toOption_bind, Except.toOption, Option.bind_some]
  cases field.kind.absent? with
  | none => rfl
  | some value =>
    simp only [readToEnd, toOption_bind, toOption_map, Option.bind_assoc, Option.map_bind,
      Function.comp_def, Option.map_map]
    rfl

/-- A field for which an item is left takes its value. -/
theorem readToEnd_item {shape : Shape} {field : Field} {fields : List Field} {index : Nat}
    {bytes entry : Bytes} (h : nextEntry closeBracket (index = 0) bytes = .ok (.more entry)) :
    (readToEnd shape (field :: fields) index bytes).toOption =
      (field.kind.read entry).toOption.bind fun item =>
        (readToEnd shape fields (index + 1) item.2).toOption.map fun read =>
          ((item.1, read.1), read.2) := by
  rw [readToEnd, readItems, h, toOption_bind, toOption_bind, Except.toOption, Option.bind_some,
    toOption_bind, toOption_mapError]
  simp only [readToEnd, toOption_bind, toOption_map, Option.bind_assoc, Option.map_bind,
    Function.comp_def, Option.map_map]
  rfl

theorem endItems_close {blanks : Bytes} (hblanks : Blank blanks) (rest : Bytes) :
    endItems (blanks ++ closeBracket :: rest) = .ok rest := by
  rw [endItems, skipSpace_append hblanks, skipSpace_cons (by decide)]
  exact if_pos rfl

/-- The end of a sequence comes before the fields that are left. -/
theorem readToEnd_close {shape : Shape} {fields : List Field} {blanks : Bytes} (index : Nat)
    (hblanks : Blank blanks) (rest : Bytes) :
    (readToEnd shape fields index (blanks ++ closeBracket :: rest)).toOption =
      (Row.ofItems? fields []).map fun row => (row, rest) := by
  induction fields generalizing index blanks with
  | nil =>
    rw [readToEnd_nil, endItems_close hblanks]
    rfl
  | cons field fields ih =>
    have hnext := ih (index + 1) blank_nil
    have hclose : nextEntry closeBracket (index = 0) (blanks ++ closeBracket :: rest) =
        .ok (.close rest) :=
      (nextEntry_append _ _ hblanks _).trans (nextEntry_closing .sequence _ rest)
    rw [List.nil_append] at hnext
    rw [readToEnd_absent hclose, hnext, Row.ofItems?]
    cases field.kind.absent? with
    | none => rfl
    | some value => cases Row.ofItems? fields [] <;> rfl

/-- An item that has no field left is refused. -/
theorem endItems_lead {blanks bytes : Bytes} (first : Bool) (hblanks : Blank blanks)
    (h : Opens bytes) : endItems (blanks ++ (lead first ++ bytes)) = .error .malformed := by
  rw [endItems, skipSpace_append hblanks]
  cases first with
  | false =>
    have hcomma : skipSpace (comma :: bytes) = comma :: bytes := skipSpace_cons (by decide) bytes
    simp only [lead, Bool.false_eq_true, if_false, List.singleton_append, hcomma]
    exact if_neg (by decide)
  | true =>
    obtain ⟨before, b, more, hbefore, rfl, hspace, -, hbracket, -⟩ := h
    have hfirst : skipSpace (before ++ b :: more) = b :: more := by
      rw [skipSpace_append hbefore]
      exact skipSpace_cons hspace more
    simp only [lead, if_true, List.nil_append, hfirst, if_neg hbracket]

/-- A value is read together with the blanks before it. -/
theorem Kind.read_element {v : Json.Value} {bytes : Bytes} (h : Spells (.element v) bytes) :
    ∃ after, Blank after ∧ ∀ (kind : Kind) rest, (kind.read (bytes ++ rest)).toOption =
      (kind.of? v).map fun value => (value, after ++ rest) := by
  cases h with
  | @element _ before inner after hbefore hinner hafter =>
    refine ⟨after, hafter, fun kind rest => ?_⟩
    rw [List.append_assoc, List.append_assoc, kind.read_congr (skipSpace_append hbefore _)]
    exact kind.read_spelled hinner (after ++ rest)

/-- The items are read one for each field, up to the closing bracket. -/
theorem readToEnd_spelled {shape : Shape} {fields : List Field} {items : List Value}
    {bytes blanks : Bytes} (h : Spells (.elements items) bytes) (index : Nat)
    (hblanks : Blank blanks) (rest : Bytes) :
    (readToEnd shape fields index
        (blanks ++ (lead (index = 0) ++ (bytes ++ closeBracket :: rest)))).toOption =
      (Row.ofItems? fields items).map fun row => (row, rest) := by
  induction items generalizing fields bytes index blanks with
  | nil => cases h
  | cons v items ih =>
    have hopens := h.opens_elements.append (closeBracket :: rest)
    cases fields with
    | nil =>
      rw [readToEnd_nil, endItems_lead _ hblanks hopens]
      rfl
    | cons field fields =>
      have hentry : nextEntry closeBracket (index = 0)
          (blanks ++ (lead (index = 0) ++ (bytes ++ closeBracket :: rest))) =
          .ok (.more (skipSpace (bytes ++ closeBracket :: rest))) :=
        (nextEntry_append _ _ hblanks _).trans (nextEntry_lead .sequence _ hopens)
      rw [readToEnd_item hentry, field.kind.read_congr (skipSpace_skipSpace _), Row.ofItems?]
      cases h with
      | lastItem hv =>
        obtain ⟨after, hafter, hread⟩ := Kind.read_element hv
        rw [hread]
        cases field.kind.of? v with
        | none => rfl
        | some value =>
          simp only [Option.map_some, Option.bind_some, readToEnd_close _ hafter]
          cases Row.ofItems? fields [] <;> rfl
      | @item _ _ bytes later hv hlater =>
        obtain ⟨after, hafter, hread⟩ := Kind.read_element hv
        have hnext := @ih fields _ _ hlater (index + 1) hafter
        simp only [lead, Nat.add_one_ne_zero, decide_false, Bool.false_eq_true, if_false,
          List.singleton_append] at hnext
        rw [List.append_assoc, List.cons_append, hread]
        cases field.kind.of? v with
        | none => rfl
        | some value =>
          simp only [Option.map_some, Option.bind_some, hnext]
          cases Row.ofItems? fields items <;> rfl

/-! ## Rows of members -/

/-- The values of the members with a name, in their order. -/
def valuesAt (name : String) (members : List (String × Value)) : List Value :=
  (members.filter fun member => member.1 = name).map Prod.snd

/-- The value of a field, whose members have these values. -/
def Kind.given? (kind : Kind) : List Json.Value → Option kind.Value
  | [] => kind.absent?
  | [v] => kind.of? v
  | _ :: _ :: _ => none

/-- The row that members give, in whatever order and among whatever others they stand. -/
def Row.ofMembers? (members : List (String × Value)) : (fields : List Field) → Option (Row fields)
  | [] => some ()
  | field :: fields =>
    (field.kind.given? (valuesAt field.name members)).bind fun value =>
      (Row.ofMembers? members fields).map fun row => (value, row)

/-- A member without a field changes nothing. -/
theorem Slots.put?_of_not_mem {fields : List Field} {member : String × Value}
    (h : member.1 ∉ fields.map Field.name) (slots : Slots fields) :
    Slots.put? fields slots member = some slots := by
  induction fields with
  | nil => rfl
  | cons field fields ih =>
    rw [List.map_cons, List.mem_cons, not_or] at h
    obtain ⟨slot, slots⟩ := slots
    simp only [Slots.put?, if_neg (Ne.symm h.1), ih h.2]
    rfl

/-- The first field takes note of the members with its name, and the others of the other members:
no two of them have one name. -/
theorem Slots.foldlM_put {field : Field} {fields : List Field}
    (h : field.name ∉ fields.map Field.name) (members : List (String × Value))
    (slot : Option field.kind.Value) (slots : Slots fields) :
    members.foldlM (Slots.put? (field :: fields)) (slot, slots) =
      ((valuesAt field.name members).foldlM field.kind.put? slot).bind fun slot =>
        (members.foldlM (Slots.put? fields) slots).map fun slots => (slot, slots) := by
  induction members generalizing slot slots with
  | nil => rfl
  | cons member members ih =>
    have hstep : (member :: members).foldlM (Slots.put? (field :: fields)) (slot, slots) =
        (Slots.put? (field :: fields) (slot, slots) member).bind
          (members.foldlM (Slots.put? (field :: fields))) := rfl
    refine hstep.trans ?_
    rw [List.foldlM_cons]
    by_cases hname : field.name = member.1
    · have hput : Slots.put? (field :: fields) (slot, slots) member =
          (field.kind.put? slot member.2).map fun slot => (slot, slots) := if_pos hname
      have hvalues : valuesAt field.name (member :: members) =
          member.2 :: valuesAt field.name members := by
        simp [valuesAt, hname]
      rw [hput, hvalues, List.foldlM_cons, Slots.put?_of_not_mem (hname ▸ h)]
      cases field.kind.put? slot member.2 with
      | none => rfl
      | some slot => exact ih slot slots
    · have hput : Slots.put? (field :: fields) (slot, slots) member =
          (Slots.put? fields slots member).map fun slots => (slot, slots) := if_neg hname
      have hvalues : valuesAt field.name (member :: members) = valuesAt field.name members := by
        simp [valuesAt, Ne.symm hname]
      rw [hput, hvalues]
      cases Slots.put? fields slots member with
      | none => cases (valuesAt field.name members).foldlM field.kind.put? slot <;> rfl
      | some slots => exact ih slot slots

/-- A field takes a single value, or the absent one if there is none. -/
theorem Kind.foldlM_put (kind : Kind) (values : List Json.Value) :
    ((values.foldlM kind.put? none).bind fun slot => slot.or kind.absent?) =
      kind.given? values := by
  match values with
  | [] => rfl
  | [v] =>
    simp only [List.foldlM_cons, Kind.put?, Kind.given?]
    cases kind.of? v <;> rfl
  | v :: w :: values =>
    simp only [List.foldlM_cons, Kind.put?, Kind.given?]
    cases kind.of? v <;> rfl

theorem Slots.toOption_finish {field : Field} {fields : List Field}
    (slot : Option field.kind.Value) (slots : Slots fields) :
    (Slots.finish (field :: fields) (slot, slots)).toOption =
      (slot.or field.kind.absent?).bind fun value =>
        (Slots.finish fields slots).toOption.map fun row => (value, row) := by
  rw [Slots.finish]
  cases slot.or field.kind.absent? with
  | none => rfl
  | some value => cases hrow : Slots.finish fields slots <;> rfl

/-- The slots that all members fill are those of the row that they give. -/
theorem Slots.finish_put {fields : List Field} (h : (fields.map Field.name).Nodup)
    (members : List (String × Value)) :
    ((members.foldlM (Slots.put? fields) (Slots.empty fields)).bind fun slots =>
      (Slots.finish fields slots).toOption) = Row.ofMembers? members fields := by
  induction fields with
  | nil =>
    have hnone : members.foldlM (Slots.put? []) () = some () := by
      induction members with
      | nil => rfl
      | cons member members ih => exact ih
    rw [Slots.empty, hnone]
    rfl
  | cons field fields ih =>
    rw [List.map_cons, List.nodup_cons] at h
    rw [Slots.empty, Slots.foldlM_put h.1, Row.ofMembers?, ← Kind.foldlM_put, ← ih h.2]
    cases (valuesAt field.name members).foldlM field.kind.put? none with
    | none => rfl
    | some slot =>
      cases hslots : members.foldlM (Slots.put? fields) (Slots.empty fields) with
      | none =>
        simp only [Option.bind_some]
        cases slot.or field.kind.absent? <;> rfl
      | some slots => exact Slots.toOption_finish slot slots

/-! ## Whole texts -/

section
variable {shape : Shape} {bytes rest : Bytes}

theorem skipSpace_blank {blanks : Bytes} (h : Blank blanks) : skipSpace blanks = [] := by
  have happend := skipSpace_append h []
  rwa [List.append_nil] at happend

/-- A whole text that denotes a row from its opening brace on. -/
theorem Shape.decode_brace (h : skipSpace bytes = openBrace :: rest) :
    shape.decode bytes =
      (readMembers shape.fields true (Slots.empty shape.fields) rest >>= fun read =>
        Slots.finish shape.fields read.1 >>= fun row =>
          if (skipSpace read.2).isEmpty then .ok row else .error .malformed) := by
  rw [Shape.decode, Shape.read, h]
  cases hread : readMembers shape.fields true (Slots.empty shape.fields) rest with
  | error refusal =>
    simp only [hread, if_true]
    rfl
  | ok read =>
    simp only [hread, if_true, bind, Except.bind]
    cases Slots.finish shape.fields read.1 <;> rfl

/-- A whole text that denotes a row from its opening bracket on. -/
theorem Shape.decode_bracket (h : skipSpace bytes = openBracket :: rest) :
    shape.decode bytes =
      (readToEnd shape shape.fields 0 rest >>= fun read =>
        if (skipSpace read.2).isEmpty then .ok read.1 else .error .malformed) := by
  have hbrace : ¬ openBracket = openBrace := by decide
  rw [Shape.decode, Shape.read, h, readToEnd]
  cases hread : readItems shape shape.fields 0 rest with
  | error refusal =>
    simp only [hread, if_neg hbrace, if_true]
    rfl
  | ok read =>
    simp only [hread, if_neg hbrace, if_true, bind, Except.bind]
    cases endItems read.2 <;> rfl

end

/-- A whole text that spells a map denotes the row of the slots that its members fill. -/
theorem Shape.decode_map {shape : Shape} {members : List (List UInt16 × Value)} {bytes : Bytes}
    (h : Document (.map members) bytes) :
    (shape.decode bytes).toOption =
      (members.foldlM (Slots.putNamed? shape.fields) (Slots.empty shape.fields)).bind fun slots =>
        (Slots.finish shape.fields slots).toOption := by
  cases h with
  | @element _ before inner after hbefore hinner hafter =>
    obtain ⟨rest, hbytes, hread⟩ : ∃ rest, inner ++ after = openBrace :: rest ∧
        (readMembers shape.fields true (Slots.empty shape.fields) rest).toOption =
          (members.foldlM (Slots.putNamed? shape.fields) (Slots.empty shape.fields)).map
            fun slots => (slots, after) := by
      cases hinner with
      | @noMembers blanks hblanks =>
        refine ⟨blanks ++ closeBrace :: after, by simp, ?_⟩
        rw [readMembers_closing _ _ hblanks]
        rfl
      | @map _ inner hmembers =>
        exact ⟨inner ++ closeBrace :: after, by simp,
          readMembers_spelled hmembers true _ blank_nil after⟩
    have hfirst : skipSpace (before ++ (inner ++ after)) = openBrace :: rest := by
      rw [skipSpace_append hbefore, hbytes]
      exact skipSpace_cons rfl rest
    rw [Shape.decode_brace hfirst, toOption_bind, hread]
    cases members.foldlM (Slots.putNamed? shape.fields) (Slots.empty shape.fields) with
    | none => rfl
    | some slots =>
      simp only [Option.map_some, Option.bind_some, skipSpace_blank hafter]
      cases Slots.finish shape.fields slots <;> rfl

/-- A name that is a text finds its slot. -/
theorem Slots.foldlM_putNamed (fields : List Field) (members : List (String × Value))
    (slots : Slots fields) :
    (members.map fun member => (utf16 member.1.toList, member.2)).foldlM
        (Slots.putNamed? fields) slots =
      members.foldlM (Slots.put? fields) slots := by
  induction members generalizing slots with
  | nil => rfl
  | cons member members ih =>
    rw [List.map_cons, List.foldlM_cons, List.foldlM_cons, Slots.putNamed?, ofUtf16?_utf16,
      Option.bind_some, String.ofList_toList]
    cases Slots.put? fields slots member with
    | none => rfl
    | some slots => exact ih slots

/-- A whole text that spells a map denotes the row that its members give. -/
theorem Shape.decode_ofMembers {shape : Shape} (hnames : (shape.fields.map Field.name).Nodup)
    {members : List (String × Value)} {bytes : Bytes}
    (h : Document (.ofMembers members) bytes) :
    (shape.decode bytes).toOption = Row.ofMembers? members shape.fields := by
  rw [Shape.decode_map h, Slots.foldlM_putNamed, Slots.finish_put hnames]

/-- A whole text that spells a sequence denotes the row that its items give. -/
theorem Shape.decode_sequence {shape : Shape} {items : List Value} {bytes : Bytes}
    (h : Document (.sequence items) bytes) :
    (shape.decode bytes).toOption = Row.ofItems? shape.fields items := by
  cases h with
  | @element _ before inner after hbefore hinner hafter =>
    obtain ⟨rest, hbytes, hread⟩ : ∃ rest, inner ++ after = openBracket :: rest ∧
        (readToEnd shape shape.fields 0 rest).toOption =
          (Row.ofItems? shape.fields items).map fun row => (row, after) := by
      cases hinner with
      | @noItems blanks hblanks =>
        exact ⟨blanks ++ closeBracket :: after, by simp, readToEnd_close 0 hblanks after⟩
      | @sequence _ inner hitems =>
        exact ⟨inner ++ closeBracket :: after, by simp,
          readToEnd_spelled hitems 0 blank_nil after⟩
    have hfirst : skipSpace (before ++ (inner ++ after)) = openBracket :: rest := by
      rw [skipSpace_append hbefore, hbytes]
      exact skipSpace_cons rfl rest
    rw [Shape.decode_bracket hfirst, toOption_bind, hread]
    cases Row.ofItems? shape.fields items with
    | none => rfl
    | some row =>
      simp only [Option.map_some, Option.bind_some, skipSpace_blank hafter]
      rfl

/-- Names of members that fill slots are texts. -/
theorem Slots.ofMembers_of_foldlM {fields : List Field} {members : List (List UInt16 × Value)}
    {slots later : Slots fields} (h : members.foldlM (Slots.putNamed? fields) slots = some later) :
    ∃ named : List (String × Value), Value.map members = .ofMembers named := by
  induction members generalizing slots with
  | nil => exact ⟨[], rfl⟩
  | cons member members ih =>
    obtain ⟨name, v⟩ := member
    rw [List.foldlM_cons, Slots.putNamed?] at h
    cases hname : ofUtf16? name with
    | none =>
      rw [hname] at h
      cases h
    | some cs =>
      rw [hname] at h
      obtain ⟨next, -, hnext⟩ := Option.bind_eq_some_iff.mp h
      obtain ⟨named, hnamed⟩ := ih hnext
      refine ⟨(String.ofList cs, v) :: named, ?_⟩
      rw [Value.ofMembers, Value.map.injEq] at hnamed ⊢
      rw [List.map_cons, String.toList_ofList, ← hnamed, utf16_of_ofUtf16? hname]

/-- A well-formed text that denotes a row spells a sequence, or a map whose names are texts. -/
theorem Shape.decode_document {shape : Shape} {v : Value} {bytes : Bytes}
    {row : Row shape.fields} (h : Document v bytes) (hrow : shape.decode bytes = .ok row) :
    (∃ members, v = .ofMembers members) ∨ ∃ items, v = .sequence items := by
  have hdocument := h
  cases h with
  | @element _ before inner after hbefore hinner hafter =>
    obtain ⟨b, more, rfl, hb⟩ := hinner.begins
    have hfirst : skipSpace (before ++ (b :: more ++ after)) = b :: (more ++ after) := by
      rw [skipSpace_append hbefore]
      exact skipSpace_cons hb.not_isSpace _
    by_cases hbrace : b = openBrace
    · obtain ⟨members, rfl⟩ := Value.Begins.map (hbrace ▸ hb)
      have hread : (shape.decode _).toOption = _ := Shape.decode_map hdocument
      rw [hrow] at hread
      obtain ⟨slots, hslots, -⟩ := Option.bind_eq_some_iff.mp hread.symm
      exact .inl (Slots.ofMembers_of_foldlM hslots)
    by_cases hbracket : b = openBracket
    · exact .inr (Value.Begins.sequence (hbracket ▸ hb))
    · rw [Shape.decode, Shape.read, hfirst] at hrow
      simp only [if_neg hbrace, if_neg hbracket] at hrow
      cases hrow

end HrPipeline.Json
