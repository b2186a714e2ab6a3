import HrPipeline.Proofs.Api.Drafts

/-!
# Correlation names on their way

A service reads the correlation name of a request and hands it on, for the next one to read. The
value of the header is trimmed before it is cut, so that the cut can lay a blank bare at the end of
the name. The next service trims that off, and from there on the name stays as it is.
-/

namespace HrPipeline.Api

open HrPipeline.Text

/-- The headers of a request that hands a correlation name on, and nothing else. -/
def handingOn (name : String) : Headers := [("x-request-id", utf8 name)]

/-- A service that hands correlation names on: of the headers of its request to the next one, the
first `x-request-id` is the name. -/
structure Hop where
  headers : String → Headers
  hands : ∀ name, (headers name).value? "x-request-id" = some (utf8 name)

/-- The correlation name that is read after some hops on a route, each of which hands on what it has
read. -/
def relayed (route : Nat → Hop) (headers : Headers) : Nat → Option String
  | 0 => requestId headers
  | hops + 1 => (relayed route headers hops).bind fun name => requestId ((route hops).headers name)

/-- A correlation name is of 1 to 128 characters and does not begin with a blank. -/
structure IsName (name : String) : Prop where
  nonempty : 1 ≤ name.toList.length
  bounded : name.toList.length ≤ 128
  start : ∀ c, name.toList.head? = some c → isBlank c = false

/-- A correlation name as it was read from a value, and as it is read from the next hop on. -/
structure Correlates (value name next : String) : Prop where
  isName : IsName name
  /-- The name is a part from the front of the trimmed value. -/
  leading : List.IsPrefix name.toList (trim value).toList
  /-- The next hop drops the blanks at its end. -/
  dropped : next.toList = dropTrailingBlanks name.toList
  /-- There are none exactly if it stays, -/
  same : next = name ↔ ∀ c, name.toList.getLast? = some c → isBlank c = false
  /-- and some exactly if the value was cut behind one. -/
  cut : next = name ↔ ∀ c, (trim value).toList[127]? = some c → isBlank c = false

/-- The correlation name in a value of its header. -/
def nameIn (value : String) : Option String :=
  if (trim value).toList = [] then none
  else some (String.ofList ((trim value).toList.take maxRequestId))

theorem requestId_eq (headers : Headers) :
    requestId headers = (headers.text? "x-request-id").bind nameIn := by
  unfold requestId
  cases headers.text? "x-request-id" with
  | none => rfl
  | some value => simp only [List.isEmpty_iff, Option.bind_some, nameIn]

/-- Visible characters are read as they were sent. -/
theorem visibleText?_utf8 {s : String} (h : ∀ c ∈ s.toList, Headers.Shows c) :
    Headers.visibleText? (utf8 s) = some s := by
  have hbytes : utf8 s = s.toList.map fun c => UInt8.ofNat c.toNat := by
    rw [utf8_eq]
    exact encoded_of_ascii fun c hc => (h c hc).1
  have hvisible : (utf8 s).all Headers.isVisible = true := by
    rw [hbytes, List.all_map]
    exact List.all_eq_true.mpr fun c hc => (h c hc).2
  have hchars : (utf8 s).map (fun b => Char.ofNat b.toNat) = s.toList := by
    rw [hbytes, List.map_map]
    have hchar : ∀ c ∈ s.toList, Char.ofNat (UInt8.ofNat c.toNat).toNat = c := by
      intro c hc
      have hascii : c.toNat % 2 ^ 8 = c.toNat := Nat.mod_eq_of_lt (by have := (h c hc).1; omega)
      rw [UInt8.toNat_ofNat', hascii, Char.ofNat_toNat]
    exact (List.map_congr_left hchar).trans s.toList.map_id
  rw [Headers.visibleText?, if_pos hvisible, hchars, String.ofList_toList]

/-- A name of visible characters is read from the value that hands it on, whatever other headers
there are. -/
theorem requestId_headers (hop : Hop) {name : String} (h : ∀ c ∈ name.toList, Headers.Shows c) :
    requestId (hop.headers name) = nameIn name := by
  rw [requestId_eq, Headers.text?, hop.hands, Option.bind_some, visibleText?_utf8 h,
    Option.bind_some]

/-- What is read from a name is the name without the blanks at its end, and that is again a name. -/
theorem nameIn_of_isName {name : String} (h : IsName name) :
    IsName (String.ofList (dropTrailingBlanks name.toList)) ∧
      nameIn name = some (String.ofList (dropTrailingBlanks name.toList)) := by
  have hnonempty := h.nonempty
  have hlead := isPrefix_dropTrailingBlanks name.toList
  have htrim : (trim name).toList = dropTrailingBlanks name.toList := by
    rw [trim, String.toList_ofList, skipBlanks_eq_self h.start]
  have hne : dropTrailingBlanks name.toList ≠ [] := by
    intro h0
    rw [dropTrailingBlanks_eq_nil_iff] at h0
    cases hname : name.toList with
    | nil => simp [hname] at hnonempty
    | cons c cs =>
      have hblank := List.all_eq_true.mp h0 c (by rw [hname]; exact List.mem_cons_self)
      rw [h.start c (by rw [hname]; rfl)] at hblank
      cases hblank
  have hlen : (dropTrailingBlanks name.toList).length ≤ maxRequestId :=
    Nat.le_trans hlead.length_le h.bounded
  constructor
  · refine ⟨?_, ?_, ?_⟩ <;> rw [String.toList_ofList]
    · exact List.length_pos_iff.mpr hne
    · exact hlen
    · intro c hc
      obtain ⟨rest, heq⟩ := hlead
      apply h.start
      rw [← heq, List.head?_append, hc, Option.some_or]
  · rw [nameIn, htrim, if_neg hne, List.take_of_length_le hlen]

/-- The name in a value is the front of the trimmed value, which is not empty. -/
theorem toList_of_nameIn {value name : String} (h : nameIn value = some name) :
    (trim value).toList ≠ [] ∧ name.toList = (trim value).toList.take maxRequestId := by
  unfold nameIn at h
  split at h
  · cases h
  · next hne =>
    rw [← Option.some.inj h, String.toList_ofList]
    exact ⟨hne, rfl⟩

/-- The last character of a name is the one that the cut falls behind, unless nothing is cut. -/
theorem isBlank_getLast?_iff {value name : String} (h : nameIn value = some name) :
    (∀ c, name.toList.getLast? = some c → isBlank c = false) ↔
      ∀ c, (trim value).toList[127]? = some c → isBlank c = false := by
  obtain ⟨-, htake⟩ := toList_of_nameIn h
  have hlast : name.toList.getLast? =
      (trim value).toList[127]?.or (trim value).toList.getLast? := by
    rw [htake, List.getLast?_take]
    rfl
  rw [hlast]
  cases (trim value).toList[127]? with
  | none =>
    constructor
    · intro _ c hc
      cases hc
    · intro _ c hc
      rw [Option.none_or] at hc
      exact isBlank_of_getLast?_trim hc
  | some c => rw [Option.some_or]

/-- A name is read from its value as it is to be, and so is what the next hop reads. -/
theorem correlates_of_nameIn {value name : String} (h : nameIn value = some name) :
    Correlates value name (String.ofList (dropTrailingBlanks name.toList)) := by
  obtain ⟨hne, htake⟩ := toList_of_nameIn h
  have hlead : List.IsPrefix name.toList (trim value).toList := by
    rw [htake]
    exact List.take_prefix _ _
  have hsame : String.ofList (dropTrailingBlanks name.toList) = name ↔
      ∀ c, name.toList.getLast? = some c → isBlank c = false := by
    rw [← dropTrailingBlanks_eq_self_iff, ← String.toList_inj, String.toList_ofList]
  refine ⟨⟨?_, ?_, ?_⟩, hlead, String.toList_ofList, hsame, ?_⟩
  · have hpos := List.length_pos_iff.mpr hne
    rw [htake, List.length_take, maxRequestId]
    omega
  · rw [htake]
    exact List.length_take_le _ _
  · intro c hc
    obtain ⟨rest, heq⟩ := hlead
    apply isBlank_of_head?_trim (s := value)
    rw [← heq, List.head?_append, hc, Option.some_or]
  · rw [hsame, isBlank_getLast?_iff h]

/-- Each character of a name stands in the value it was read from. -/
theorem mem_of_nameIn {value name : String} (h : nameIn value = some name) {c : Char}
    (hc : c ∈ name.toList) : c ∈ value.toList := by
  rw [(toList_of_nameIn h).2] at hc
  exact mem_of_mem_trim (List.mem_of_mem_take hc)

/-- From the next hop on, the same is read at each: the name without the blanks at its end. -/
theorem relayed_succ (route : Nat → Hop) {headers : Headers} {name : String} (h : IsName name)
    (hshows : ∀ c ∈ name.toList, Headers.Shows c) (hread : requestId headers = some name)
    (hops : Nat) :
    relayed route headers (hops + 1) =
      some (String.ofList (dropTrailingBlanks name.toList)) := by
  obtain ⟨hnext, hdrop⟩ := nameIn_of_isName h
  induction hops with
  | zero => rw [relayed, relayed, hread, Option.bind_some, requestId_headers _ hshows, hdrop]
  | succ hops ih =>
    have hkeep : ∀ c ∈ (String.ofList (dropTrailingBlanks name.toList)).toList,
        Headers.Shows c := by
      intro c hc
      rw [String.toList_ofList] at hc
      exact hshows c ((isPrefix_dropTrailingBlanks _).subset hc)
    -- The blanks at the end are gone already, so that the name is read as it is.
    have hfixed : dropTrailingBlanks (dropTrailingBlanks name.toList) =
        dropTrailingBlanks name.toList :=
      (dropTrailingBlanks_eq_self_iff _).mpr fun _ => isBlank_of_getLast?_dropTrailingBlanks
    rw [relayed, ih, Option.bind_some, requestId_headers _ hkeep, (nameIn_of_isName hnext).2,
      String.toList_ofList, hfixed]

/-- From any headers, either no correlation name is read, as they show none that is not blank, or a
name is, and what the next service reads from it is read by all after it, on every route. Each of
them is a name. They are the same unless the value is cut behind a blank. -/
theorem requestId_settles (headers : Headers) :
    (requestId headers = none ∧
        ∀ value, headers.text? "x-request-id" = some value → isBlankText value = true) ∨
      ∃ value name next, headers.text? "x-request-id" = some value ∧
        requestId headers = some name ∧ Correlates value name next ∧ IsName next ∧
        ∀ route hops, relayed route headers (hops + 1) = some next := by
  rw [requestId_eq]
  cases hvalue : headers.text? "x-request-id" with
  | none => exact .inl ⟨rfl, by simp⟩
  | some value =>
    rw [Option.bind_some]
    cases hname : nameIn value with
    | none =>
      refine .inl ⟨rfl, fun value' heq => ?_⟩
      obtain rfl := Option.some.inj heq
      rw [← toList_trim_eq_nil_iff]
      unfold nameIn at hname
      split at hname
      · next hempty => exact hempty
      · cases hname
    | some name =>
      have hcorrelates := correlates_of_nameIn hname
      have hread : requestId headers = some name := by
        rw [requestId_eq, hvalue, Option.bind_some, hname]
      have hshows : ∀ c ∈ name.toList, Headers.Shows c := by
        obtain ⟨bytes, -, hvisible⟩ := Option.bind_eq_some_iff.mp hvalue
        exact fun c hc => shows_of_mem_visibleText hvisible (mem_of_nameIn hname hc)
      exact .inr ⟨value, name, _, rfl, rfl, hcorrelates, (nameIn_of_isName hcorrelates.isName).1,
        fun route => relayed_succ route hcorrelates.isName hshows hread⟩

section Long

/-- A service whose requests have no other headers. -/
def bareHop : Hop where
  headers := handingOn
  hands name := by
    have hheader : "x-request-id".toLower = "x-request-id" := by decide +kernel
    simp only [handingOn, Headers.value?, hheader, decide_true, List.find?_cons_of_pos,
      Option.map_some]

/-- The characters of a long value, 127 letters before a space and two after it. -/
def longValue : List Char := List.replicate 127 'r' ++ [' ', 'r', 'r']

/-- What is read from it: the letters before the space, and the space. -/
def longName : List Char := List.replicate 127 'r' ++ [' ']

theorem nameIn_longValue : nameIn (String.ofList longValue) = some (String.ofList longName) := by
  have hstart : skipBlanks longValue = longValue := by
    apply skipBlanks_eq_self
    intro c hc
    obtain rfl : 'r' = c := Option.some.inj hc
    decide
  have hend : dropTrailingBlanks longValue = longValue := by
    rw [dropTrailingBlanks_eq_self_iff]
    intro c hc
    obtain rfl : 'r' = c := Option.some.inj (by rwa [longValue, List.getLast?_append] at hc)
    decide
  have htrim : (trim (String.ofList longValue)).toList = longValue := by
    rw [trim, String.toList_ofList, String.toList_ofList, hstart, hend]
  have htake : longValue.take maxRequestId = longName := by decide +kernel
  rw [nameIn, htrim, htake, if_neg (by decide)]

theorem nameIn_longName :
    nameIn (String.ofList longName) = some (String.ofList (List.replicate 127 'r')) := by
  have hname := (correlates_of_nameIn nameIn_longValue).isName
  have hspace : skipBlanks longName.reverse = List.replicate 127 'r' := by
    rw [longName, List.reverse_append, List.reverse_replicate]
    rfl
  have hdrop : dropTrailingBlanks longName = List.replicate 127 'r' := by
    rw [dropTrailingBlanks, hspace, List.reverse_replicate]
  rw [(nameIn_of_isName hname).2, String.toList_ofList, hdrop]

/-- So not every name stays as it is: the long value is cut behind its space, which the next hop
drops. -/
theorem not_always_settled :
    requestId (handingOn (String.ofList longValue)) = some (String.ofList longName) ∧
      relayed (fun _ => bareHop) (handingOn (String.ofList longValue)) 1 =
        some (String.ofList (List.replicate 127 'r')) ∧
      ¬ ∀ headers name, requestId headers = some name → requestId (handingOn name) = some name := by
  have hshows : ∀ c ∈ longValue, Headers.Shows c := by
    intro c hc
    rcases List.mem_append.mp hc with hc | hc
    · obtain rfl := List.eq_of_mem_replicate hc
      exact ⟨by decide, by decide⟩
    · simp only [List.mem_cons, List.not_mem_nil, or_false] at hc
      rcases hc with rfl | rfl | rfl <;> exact ⟨by decide, by decide⟩
  have hread (cs : List Char) (h : ∀ c ∈ cs, Headers.Shows c) :
      requestId (handingOn (String.ofList cs)) = nameIn (String.ofList cs) := by
    apply requestId_headers bareHop
    rwa [String.toList_ofList]
  have hsubset : ∀ c ∈ longName, c ∈ longValue := by
    intro c hc
    have hmem := mem_of_nameIn nameIn_longValue (c := c)
    rw [String.toList_ofList, String.toList_ofList] at hmem
    exact hmem hc
  have hfirst := (hread longValue hshows).trans nameIn_longValue
  have hnext := (hread longName fun c hc => hshows c (hsubset c hc)).trans nameIn_longName
  refine ⟨hfirst, ?_, fun h => ?_⟩
  · rw [relayed, relayed, hfirst, Option.bind_some]
    exact hnext
  · have hstays := hnext.symm.trans (h _ _ hfirst)
    rw [Option.some.injEq, String.ofList_inj] at hstays
    have hlength := congrArg List.length hstays
    rw [longName, List.length_append, List.length_replicate, List.length_singleton] at hlength
    omega

end Long
end HrPipeline.Api
