import QueryByExample.Proofs.Answer.Coercion
/-!
# Leading integers

A datatype of integers reads the integer that a text starts with after blanks: an optional sign and
the longest run of digits behind it. What follows is dropped. Without a digit the text is kept as it
stands; otherwise the value is exact within 64 bits and the nearest double beyond.

The same reading can be said on the bytes of the text: cut it behind the sign, find the next
character that is no digit, cut there, and hand what is in front to a reader of integers and then to
a reader of doubles. Both cuts are at the start of a character, whatever the text is.

## Main definitions

- `Decimal.Leads`: a text as sign, digits and rest.
- `Decimal.signedValue`: the integer that a sign and digits denote.
- `Literal.ofSlices?`: the reading on bytes, without a result if a cut falls outside the text or
  inside a character.

## Main statements

- `Literal.ofInteger_of_leads`: the value that a text with an integer datatype has.
- `Literal.ofSlices?_eq`: the reading on bytes gives this value.
- `ofBinding_of_integer`: both for bindings.
-/

namespace QueryByExample

namespace Decimal

variable {cs sign digits rest : List Char}

/-- A text consists of a sign, if it starts with one, of all digits that follow, and of a rest. -/
structure Leads (cs sign digits rest : List Char) : Prop where
  eq_append : cs = sign ++ digits ++ rest
  sign : sign = ['-'] ∨ sign = ['+'] ∨ (sign = [] ∧ ∀ c ∈ cs.head?, c ≠ '-' ∧ c ≠ '+')
  digits : ∀ c ∈ digits, isDigit c = true
  longest : ∀ c ∈ rest.head?, isDigit c = false

/-- The integer that digits denote after a sign. -/
def signedValue (sign digits : List Char) : Int :=
  if sign = ['-'] then -(digitsValue digits : Int) else digitsValue digits

theorem leads_digits (cs : List Char) :
    (∀ c ∈ cs.takeWhile isDigit, isDigit c = true) ∧
      ∀ c ∈ (cs.dropWhile isDigit).head?, isDigit c = false := by
  refine ⟨fun c hc => List.mem_takeWhile_imp hc, fun c hc => ?_⟩
  have hnot := List.head?_dropWhile_not isDigit cs
  rw [Option.mem_def.1 hc] at hnot
  simpa using hnot

/-- Every text consists of such parts. -/
theorem exists_leads (cs : List Char) : ∃ sign digits rest, Leads cs sign digits rest := by
  obtain ⟨sign, body, happend, hsign⟩ : ∃ sign body : List Char, cs = sign ++ body ∧
      (sign = ['-'] ∨ sign = ['+'] ∨ (sign = [] ∧ ∀ c ∈ cs.head?, c ≠ '-' ∧ c ≠ '+')) := by
    cases cs with
    | nil => exact ⟨[], [], rfl, by simp⟩
    | cons c body =>
      by_cases hminus : c = '-'
      · exact ⟨['-'], body, by simp [hminus], Or.inl rfl⟩
      · by_cases hplus : c = '+'
        · exact ⟨['+'], body, by simp [hplus], Or.inr (Or.inl rfl)⟩
        · exact ⟨[], c :: body, rfl, Or.inr (Or.inr ⟨rfl, by simp [hminus, hplus]⟩)⟩
  obtain ⟨hdigits, hlongest⟩ := leads_digits body
  refine ⟨sign, body.takeWhile isDigit, body.dropWhile isDigit, ?_, hsign, hdigits, hlongest⟩
  rw [List.append_assoc, List.takeWhile_append_dropWhile, happend]

theorem Leads.takeSign (h : Leads cs sign digits rest) :
    Decimal.takeSign cs = (decide (sign = ['-']), digits ++ rest) := by
  obtain ⟨happend, hsign, -, -⟩ := h
  rcases hsign with rfl | rfl | ⟨rfl, hhead⟩
  · rw [happend]
    rfl
  · rw [happend]
    rfl
  · subst happend
    rw [List.nil_append] at hhead ⊢
    unfold Decimal.takeSign
    split
    · next hcs => simp [hcs] at hhead
    · next hcs => simp [hcs] at hhead
    · rfl

/-- A run of digits that no digit follows is what is taken. -/
theorem takeWhile_isDigit_append (hdigits : ∀ c ∈ digits, isDigit c = true)
    (hlongest : ∀ c ∈ rest.head?, isDigit c = false) :
    (digits ++ rest).takeWhile isDigit = digits := by
  have hrest : rest.takeWhile isDigit = [] := by
    cases rest with
    | nil => rfl
    | cons c rest => exact List.takeWhile_cons_of_neg (by simp [hlongest c rfl])
  rw [List.takeWhile_append_of_pos hdigits, hrest, List.append_nil]

/-- The reader of leading integers finds these parts. -/
theorem Leads.leadingInteger (h : Leads cs sign digits rest) :
    Literal.leadingInteger cs = (decide (sign = ['-']), digits) := by
  rw [Literal.leadingInteger, h.takeSign]
  show (decide (sign = ['-']), (digits ++ rest).takeWhile isDigit) = _
  rw [takeWhile_isDigit_append h.digits h.longest]

/-- The sign and the digits are all there is in the numeral in front. -/
theorem Leads.numeral (h : Leads cs sign digits rest) : Leads (sign ++ digits) sign digits [] := by
  refine ⟨(List.append_nil _).symm, ?_, h.digits, nofun⟩
  rcases h.sign with rfl | rfl | ⟨rfl, hhead⟩
  · exact Or.inl rfl
  · exact Or.inr (Or.inl rfl)
  · refine Or.inr (Or.inr ⟨rfl, ?_⟩)
    rw [h.eq_append] at hhead
    cases digits with
    | nil => nofun
    | cons c digits => exact hhead

/-- A signed number of 64 bits, written in decimal digits after an optional sign. -/
def readSigned? (cs : List Char) : Option Int :=
  let (negative, digits) := Decimal.takeSign cs
  let i : Int := if negative then -(digitsValue digits : Int) else digitsValue digits
  if digits.isEmpty || !digits.all isDigit then none
  else if Word.fitsSigned i then some i
  else none

theorem readSigned?_of_leads (h : Leads cs sign digits rest) :
    readSigned? (sign ++ digits) =
      if digits ≠ [] ∧ Word.fitsSigned (signedValue sign digits) = true then
        some (signedValue sign digits)
      else none := by
  have hall : digits.all isDigit = true := List.all_eq_true.2 h.digits
  rw [readSigned?, h.numeral.takeSign, List.append_nil, signedValue]
  simp only [hall, Bool.not_true, Bool.or_false, List.isEmpty_iff, decide_eq_true_eq]
  by_cases hdigits : digits = []
  · simp only [hdigits, if_true, ne_eq, not_true, false_and, if_false]
  · simp only [hdigits, if_false, ne_eq, not_false_eq_true, true_and]

theorem toLower_of_isDigit {c : Char} (h : isDigit c = true) : c.toLower = c := by
  simp only [isDigit, Bool.and_eq_true, decide_eq_true_eq, Char.le_def,
    UInt32.le_iff_toNat_le] at h
  have hdigit : c.val.toNat ≤ 57 := h.2
  refine dif_neg fun hletter => ?_
  have hupper : 65 ≤ c.val.toNat := UInt32.le_iff_toNat_le.1 hletter.1
  omega

/-- A sign and digits are no word for a double but a numeral without point and exponent. -/
theorem readDouble?_of_leads (h : Leads cs sign digits rest) (ne : digits ≠ []) :
    readDouble? (sign ++ digits) =
      some (Numeral.nearest ⟨decide (sign = ['-']), digits, [], 0⟩) := by
  have hlower : digits.map Char.toLower = digits :=
    (List.map_congr_left fun c hc => toLower_of_isDigit (h.digits c hc)).trans (List.map_id' _)
  have hword : ∀ word : List Char, (∃ c ∈ word, isDigit c = false) → digits ≠ word := by
    rintro word ⟨c, hc, hletter⟩ rfl
    exact Bool.false_ne_true (hletter.symm.trans (h.digits c hc))
  have htake : digits.takeWhile isDigit = digits := List.takeWhile_eq_self_iff.2 h.digits
  have hdrop : digits.dropWhile isDigit = [] := List.dropWhile_eq_nil_iff.2 h.digits
  have hempty : digits.isEmpty = false := List.isEmpty_eq_false_iff.2 ne
  have hnumeral : readNumeral? (decide (sign = ['-'])) digits =
      some ⟨decide (sign = ['-']), digits, [], 0⟩ := by
    rw [readNumeral?, htake, hdrop]
    simp [hempty, readExponent?]
  rw [readDouble?, h.numeral.takeSign, List.append_nil]
  dsimp only
  rw [hlower, if_neg, if_neg, hnumeral, Option.map_some]
  · exact hword _ ⟨'n', by decide, by decide⟩
  · rintro (hinf | hinf)
    · exact hword _ ⟨'i', by decide, by decide⟩ hinf
    · exact hword _ ⟨'i', by decide, by decide⟩ hinf

end Decimal

namespace Text

/-- The number of bytes of the sign that a text starts with. -/
def signSize (t : String) : Nat := if t.startsWith (fun c => c == '+' || c == '-') then 1 else 0

/-- The byte at which the digits end that follow a sign; none if there is no character at the byte
behind the sign. -/
def digitsEnd? (t : String) : Option Nat :=
  (t.pos? ⟨signSize t⟩).map fun start =>
    match (t.sliceFrom start).find? (fun c => !isDigit c) with
    | some stop => signSize t + stop.offset.byteIdx
    | none => t.utf8ByteSize

/-- The part of a text in front of a byte; none if the byte is inside a character or beyond the
end. -/
def upTo? (t : String) (byte : Nat) : Option String :=
  (t.pos? ⟨byte⟩).map fun stop => (t.sliceTo stop).copy

/-- The byte behind a part that a text starts with is a valid cut. -/
theorem exists_pos?_append (a b : String) :
    ∃ p, (a ++ b).pos? ⟨a.utf8ByteSize⟩ = some p ∧ p.Splits a b := by
  have hvalid : (⟨a.utf8ByteSize⟩ : String.Pos.Raw).IsValid (a ++ b) :=
    String.Pos.Raw.isValid_iff_exists_append.2 ⟨a, b, rfl, rfl⟩
  refine ⟨(a ++ b).pos _ hvalid, ?_, rfl, rfl⟩
  rw [String.pos?, String.Slice.pos?, dif_pos]
  · rfl
  · exact String.Pos.Raw.isValidForSlice_eq_true_iff.2 hvalid.toSlice

theorem upTo?_append (a b : String) : upTo? (a ++ b) a.utf8ByteSize = some a := by
  obtain ⟨p, hp, hsplits⟩ := exists_pos?_append a b
  rw [upTo?, hp, Option.map_some, hsplits.copy_sliceTo_eq]

variable {t : String} {sign digits rest : List Char}

theorem signSize_of_leads (h : Decimal.Leads t.toList sign digits rest) :
    signSize t = (String.ofList sign).utf8ByteSize := by
  have hstarts : t.startsWith (fun c => c == '+' || c == '-') = !sign.isEmpty := by
    rw [String.startsWith_bool_eq_head?]
    rcases h.sign with rfl | rfl | ⟨rfl, hhead⟩
    · simp [h.eq_append]
    · simp [h.eq_append]
    · cases hfirst : t.toList.head? with
      | none => rfl
      | some c => simp [hhead c hfirst]
  rw [signSize, hstarts]
  rcases h.sign with rfl | rfl | ⟨rfl, -⟩ <;> rfl

/-- Behind the sign, the search for a character that is no digit ends where the digits end. -/
theorem digitsEnd?_of_leads (h : Decimal.Leads t.toList sign digits rest) :
    digitsEnd? t = some (String.ofList (sign ++ digits)).utf8ByteSize := by
  have ht : t = String.ofList sign ++ String.ofList (digits ++ rest) := by
    rw [← String.toList_inj, h.eq_append]
    simp
  obtain ⟨start, hstart, hsplits⟩ :
      ∃ p, t.pos? ⟨signSize t⟩ = some p ∧
        p.Splits (String.ofList sign) (String.ofList (digits ++ rest)) := by
    rw [signSize_of_leads h]
    subst ht
    exact exists_pos?_append _ _
  have hbehind : (t.sliceFrom start).copy = String.ofList (digits ++ rest) :=
    hsplits.copy_sliceFrom_eq
  rw [digitsEnd?, hstart, Option.map_some, Option.some_inj, String.ofList_append,
    String.utf8ByteSize_append, ← signSize_of_leads h]
  cases hfind : (t.sliceFrom start).find? (fun c => !isDigit c) with
  | some stop =>
    obtain ⟨front, c, tail, hfront, hc, hdigits⟩ :=
      String.Slice.find?_bool_eq_some_iff_splits.1 hfind
    have hsame : front.toList ++ c :: tail.toList = digits ++ rest := by
      have heq := hfront.eq_append.symm.trans hbehind
      simpa [← String.toList_inj] using heq
    have hfrontDigits : ∀ d ∈ front.toList, isDigit d = true := fun d hd => by
      simpa using hdigits d hd
    have hrun : front.toList = digits := by
      rw [← Decimal.takeWhile_isDigit_append h.digits h.longest, ← hsame,
        Decimal.takeWhile_isDigit_append hfrontDigits (by simpa using hc)]
    show signSize t + stop.offset.byteIdx = _
    rw [hfront.offset_eq_rawEndPos, ← hrun, String.ofList_toList]
    rfl
  | none =>
    have hall : ∀ c ∈ digits ++ rest, isDigit c = true := by
      have hnone := (String.Slice.find?_eq_none_iff _).1 hfind
      simpa [hbehind, or_imp, forall_and] using hnone
    have hrest : rest = [] := by
      cases rest with
      | nil => rfl
      | cons c rest =>
        exact absurd (hall c (by simp)) (by simp [h.longest c rfl])
    have hsize : t.utf8ByteSize =
        (String.ofList sign).utf8ByteSize + (String.ofList digits).utf8ByteSize := by
      rw [ht, hrest, List.append_nil, String.utf8ByteSize_append]
    rw [signSize_of_leads h]
    exact hsize

end Text

namespace Literal

variable {raw : String} {sign digits rest : List Char}

/-- The value of a text with an integer datatype: the text itself without a leading digit, else its
leading integer. -/
theorem ofInteger_of_leads (h : Decimal.Leads (Text.trim raw).toList sign digits rest) :
    ofInteger raw =
      if digits = [] then text raw else ofInt (Decimal.signedValue sign digits) := by
  have hleading : leadingInteger (Text.trimChars raw.toList) = (decide (sign = ['-']), digits) := by
    rw [← Text.toList_trim]
    exact h.leadingInteger
  by_cases hdigits : digits = []
  · rw [if_pos hdigits, ofInteger, hleading, hdigits]
    rfl
  · rw [if_neg hdigits, ofInteger_of_leadingInteger hleading hdigits, Decimal.signedValue]
    simp only [decide_eq_true_eq]

/-- The reading of a text on its bytes. The slice in front of the end of the digits is read as an
integer of 64 bits, and if that fails, as a double. -/
def ofSlices? (raw : String) : Option Literal :=
  let t := Text.trim raw
  (Text.digitsEnd? t).bind fun stop =>
    (Text.upTo? t stop).map fun numeral =>
      match Decimal.readSigned? numeral.toList, Decimal.readDouble? numeral.toList with
      | some i, _ => integer i
      | none, some x => if Text.signSize t < stop then double x else text raw
      | none, none => text raw

/-- Both cuts succeed for every text, and what is read is its leading integer. -/
theorem ofSlices?_eq (raw : String) : ofSlices? raw = some (ofInteger raw) := by
  obtain ⟨sign, digits, rest, h⟩ := Decimal.exists_leads (Text.trim raw).toList
  have happend : Text.trim raw = String.ofList (sign ++ digits) ++ String.ofList rest := by
    rw [← String.toList_inj, h.eq_append]
    simp
  have hcut : Text.upTo? (Text.trim raw) (String.ofList (sign ++ digits)).utf8ByteSize =
      some (String.ofList (sign ++ digits)) := by
    rw [happend]
    exact Text.upTo?_append _ _
  rw [ofSlices?, Text.digitsEnd?_of_leads h, Option.bind_some, hcut, Option.map_some,
    String.toList_ofList, Decimal.readSigned?_of_leads h, Text.signSize_of_leads h,
    ofInteger_of_leads h, Option.some_inj]
  by_cases hdigits : digits = []
  · -- no byte is between the sign and the end of the digits
    have hstop : ¬ (String.ofList sign).utf8ByteSize <
        (String.ofList (sign ++ [])).utf8ByteSize := by
      rw [List.append_nil]
      exact Nat.lt_irrefl _
    subst hdigits
    simp only [ne_eq, not_true, false_and, if_false, if_true, hstop]
    cases Decimal.readDouble? (sign ++ []) <;> rfl
  · have hstop : (String.ofList sign).utf8ByteSize <
        (String.ofList (sign ++ digits)).utf8ByteSize := by
      have hsome : (String.ofList digits).utf8ByteSize ≠ 0 := by
        rw [ne_eq, String.utf8ByteSize_eq_zero_iff, ← String.toList_inj, String.toList_ofList]
        exact hdigits
      rw [String.ofList_append, String.utf8ByteSize_append]
      omega
    rw [Decimal.readDouble?_of_leads h hdigits, if_neg hdigits, ofInt]
    by_cases hfits : Word.fitsSigned (Decimal.signedValue sign digits) = true
    · rw [if_pos ⟨hdigits, hfits⟩, if_pos hfits]
    · have hnearest : Numeral.nearest ⟨decide (sign = ['-']), digits, [], 0⟩ =
          .ofInt (Decimal.signedValue sign digits) := by
        have hbeyond := @nearest_of_not_fitsSigned (decide (sign = ['-'])) digits
        simp only [decide_eq_true_eq] at hbeyond
        exact hbeyond (Bool.eq_false_iff.2 hfits)
      rw [if_neg fun h => hfits h.2, if_neg hfits, hnearest]
      exact if_pos hstop

end Literal

/-- A binding with a datatype of integers has the integer that its text starts with, exactly within
64 bits and rounded to a double beyond, whatever follows the digits. Without a digit, it keeps its
text. Reading the text on its bytes gives the same value, and cuts it at characters only. -/
theorem ofBinding_of_integer {binding : Binding}
    (hdatatype : ∃ name ∈ Literal.integerNames,
      binding.datatype? = some (Literal.datatypeBase ++ name) ∨
        binding.datatype? = some (Literal.datatypeShortBase ++ name)) :
    (∃ sign digits rest, Decimal.Leads (Text.trim binding.value).toList sign digits rest ∧
      let i := Decimal.signedValue sign digits
      (digits = [] → Literal.ofBinding binding = .text binding.value) ∧
      (digits ≠ [] → -9223372036854775808 ≤ i ∧ i ≤ 9223372036854775807 →
        Literal.ofBinding binding = .integer i) ∧
      (digits ≠ [] → ¬ (-9223372036854775808 ≤ i ∧ i ≤ 9223372036854775807) →
        Literal.ofBinding binding = .double (Binary64.ofInt i))) ∧
    Literal.ofSlices? binding.value = some (Literal.ofBinding binding) := by
  rw [Literal.ofBinding_of_integerNames hdatatype]
  obtain ⟨sign, digits, rest, hleads⟩ := Decimal.exists_leads (Text.trim binding.value).toList
  refine ⟨⟨sign, digits, rest, hleads, ?_⟩, Literal.ofSlices?_eq binding.value⟩
  intro i
  have hfits : Word.fitsSigned i = true ↔ -9223372036854775808 ≤ i ∧ i ≤ 9223372036854775807 := by
    rw [Word.fitsSigned_iff]
    omega
  rw [Literal.ofInteger_of_leads hleads, ← hfits, Literal.ofInt]
  refine ⟨fun hdigits => if_pos hdigits, fun hdigits hi => ?_, fun hdigits hi => ?_⟩
  · rw [if_neg hdigits, if_pos hi]
  · rw [if_neg hdigits, if_neg hi]

-- a second sign is no digit, and neither are the digits of other scripts
example : Literal.ofInteger "--5" = .text "--5" ∧ Literal.ofInteger "٤2" = .text "٤2" := by decide

theorem ofBinding_of_integer_smallest :
    let binding : Binding :=
      ⟨"literal", "\u00a0-9223372036854775808.5e3é", some "http://www.w3.org/2001/XMLSchema#long",
        none⟩
    (∃ name ∈ Literal.integerNames,
      binding.datatype? = some (Literal.datatypeBase ++ name) ∨
        binding.datatype? = some (Literal.datatypeShortBase ++ name)) ∧
    (∃ sign digits rest, Decimal.Leads (Text.trim binding.value).toList sign digits rest ∧
      let i := Decimal.signedValue sign digits
      (digits = [] → Literal.ofBinding binding = .text binding.value) ∧
      (digits ≠ [] → -9223372036854775808 ≤ i ∧ i ≤ 9223372036854775807 →
        Literal.ofBinding binding = .integer i) ∧
      (digits ≠ [] → ¬ (-9223372036854775808 ≤ i ∧ i ≤ 9223372036854775807) →
        Literal.ofBinding binding = .double (Binary64.ofInt i))) ∧
    Literal.ofSlices? binding.value = some (Literal.ofBinding binding) := by
  intro binding
  have hdatatype : ∃ name ∈ Literal.integerNames,
      binding.datatype? = some (Literal.datatypeBase ++ name) ∨
        binding.datatype? = some (Literal.datatypeShortBase ++ name) :=
    ⟨"long", by decide, Or.inl rfl⟩
  exact ⟨hdatatype, ofBinding_of_integer hdatatype⟩

end QueryByExample
