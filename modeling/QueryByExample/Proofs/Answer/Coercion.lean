import Mathlib.Data.List.TakeWhile
import QueryByExample.Proofs.Answer.Grouping
import QueryByExample.Proofs.Number.Numeral
/-!
# Integers as identities

A binding that spells an integer has that integer as its value as long as it fits 64 bits, and the
nearest double beyond. Two different integers that are spelled have equal values only if one of them
does not fit and both have the same double. They may still come together in one entity if another
double opened it, since a double equals every integer that rounds to it.

## Main definitions

- `Binding.Spells`: a binding with an integer datatype and an integer numeral.
- `Literal.ofInt`: the value of an integer of any size.

## Main statements

- `Literal.ofBinding_of_spells`: the value of such a binding.
- `Literal.same_ofInt_iff`: which integers have equal values.
- `Group.double_of_mem_members`: which integers come together in one entity.
- `same_ofBinding_iff`: both for bindings and the rows that they identify.
-/

namespace QueryByExample

namespace Text

theorem isBlank_eq_false_of_isDigit {c : Char} (h : isDigit c = true) : isBlank c = false := by
  simp only [isDigit, Bool.and_eq_true, decide_eq_true_eq, Char.le_def,
    UInt32.le_iff_toNat_le] at h
  have hlow : 48 ≤ c.toNat := h.1
  have hhigh : c.toNat ≤ 57 := h.2
  simp only [isBlank, Bool.or_eq_false_iff, Bool.and_eq_false_iff, decide_eq_false_iff_not,
    beq_eq_false_iff_ne]
  omega

/-- Nothing is trimmed from a text without blanks. -/
theorem trimChars_eq_self {cs : List Char} (h : ∀ c ∈ cs, isBlank c = false) :
    trimChars cs = cs := by
  have hstart : ∀ ds : List Char, (∀ c ∈ ds, isBlank c = false) → ds.dropWhile isBlank = ds := by
    intro ds hds
    cases ds with
    | nil => rfl
    | cons c rest => exact List.dropWhile_cons_of_neg (by simp [hds c List.mem_cons_self])
  have hend : cs.reverse.dropWhile isBlank = cs.reverse :=
    hstart _ fun c hc => h c (List.mem_reverse.1 hc)
  rw [trimChars, hstart cs h, trimEnd, hend, List.reverse_reverse]

theorem trimChars_of_denotes {cs : List Char} {i : Int} (h : Decimal.Denotes cs i) :
    trimChars cs = cs := by
  have hdigits : ∀ ds : List Char, (∀ c ∈ ds, isDigit c = true) → ∀ c ∈ ds, isBlank c = false := by
    intro ds all c hc
    exact isBlank_eq_false_of_isDigit (all c hc)
  apply trimChars_eq_self
  cases h with
  | unsigned _ all => exact hdigits _ all
  | plus _ all => exact List.forall_mem_cons.2 ⟨by decide, hdigits _ all⟩
  | minus _ all => exact List.forall_mem_cons.2 ⟨by decide, hdigits _ all⟩

end Text

/-- The datatype of the binding is one of those of integers, under its IRI or its short form, and
its value is an integer numeral. -/
structure Binding.Spells (binding : Binding) (i : Int) : Prop where
  datatype : ∃ name ∈ Literal.integerNames,
    binding.datatype? = some (Literal.datatypeBase ++ name) ∨
      binding.datatype? = some (Literal.datatypeShortBase ++ name)
  numeral : Decimal.Denotes binding.value.toList i

namespace Literal

/-! ### The value of a numeral -/

variable {a b : Binding} {i j : Int}

theorem localName?_base (name : String) : localName? (datatypeBase ++ name) = some name := by
  have hbase : Text.dropStart? datatypeBase.toList (datatypeBase ++ name).toList =
      some name.toList := Text.dropStart?_eq_some_iff.2 String.toList_append
  rw [localName?, hbase, Option.some_or, Option.map_some, String.ofList_toList]

theorem localName?_shortBase (name : String) :
    localName? (datatypeShortBase ++ name) = some name := by
  have hbase : Text.dropStart? datatypeBase.toList (datatypeShortBase ++ name).toList = none := by
    rw [String.toList_append]
    rfl
  have hshort : Text.dropStart? datatypeShortBase.toList (datatypeShortBase ++ name).toList =
      some name.toList := Text.dropStart?_eq_some_iff.2 String.toList_append
  rw [localName?, hbase, hshort, Option.none_or, Option.map_some, String.ofList_toList]

theorem family?_of_localName? {datatype name : String} (hname : name ∈ integerNames)
    (h : localName? datatype = some name) : family? datatype = some .integer := by
  have hboolean : name ≠ "boolean" := by
    rintro rfl
    exact absurd hname (by decide)
  simp [family?, h, hboolean, hname]

/-- The value of an integer: beyond 64 bits it is the nearest double. -/
def ofInt (i : Int) : Literal :=
  if Word.fitsSigned i then integer i else double (Binary64.ofInt i)

/-- Beyond 64 bits, the double nearest to a numeral is that of its integer. -/
theorem nearest_of_not_fitsSigned {negative : Bool} {digits : List Char}
    (h : Word.fitsSigned (if negative then -(digitsValue digits : Int) else digitsValue digits) =
      false) :
    Numeral.nearest ⟨negative, digits, [], 0⟩ =
      .ofInt (if negative then -(digitsValue digits : Int) else digitsValue digits) := by
  apply Numeral.nearest_whole
  -- zero is not beyond 64 bits
  intro hzero
  have hfits : Word.fitsSigned 0 = true := Word.fitsSigned_iff.2 (by omega)
  rw [hzero] at h
  cases negative <;> exact Bool.false_ne_true (h.symm.trans hfits)

/-- The value of a text whose leading integer has a digit. -/
theorem ofInteger_of_leadingInteger {raw : String} {negative : Bool} {digits : List Char}
    (h : leadingInteger (Text.trimChars raw.toList) = (negative, digits)) (ne : digits ≠ []) :
    ofInteger raw =
      ofInt (if negative then -(digitsValue digits : Int) else digitsValue digits) := by
  have hempty : digits.isEmpty = false := List.isEmpty_eq_false_iff.2 ne
  have hbeyond := @nearest_of_not_fitsSigned negative digits
  simp only [ofInteger, h, hempty, Bool.false_eq_true, if_false, ofInt]
  generalize (if negative then -(digitsValue digits : Int) else digitsValue digits) = value
    at hbeyond ⊢
  by_cases hfits : Word.fitsSigned value = true
  · rw [if_pos hfits, if_pos hfits]
  · rw [if_neg hfits, if_neg hfits, hbeyond (Bool.eq_false_iff.2 hfits)]

theorem ofInteger_of_denotes {raw : String} (h : Decimal.Denotes raw.toList i) :
    ofInteger raw = ofInt i := by
  obtain ⟨negative, digits, hsign, ne, all, rfl⟩ := h.exists_digits
  -- the reader stops at the first character that is no digit, and there is none
  have hleading : leadingInteger (Text.trimChars raw.toList) = (negative, digits) := by
    have htake : digits.takeWhile isDigit = digits := List.takeWhile_eq_self_iff.2 all
    rw [Text.trimChars_of_denotes h, leadingInteger, hsign]
    show (negative, digits.takeWhile isDigit) = _
    rw [htake]
  exact ofInteger_of_leadingInteger hleading ne

/-- A binding with a datatype of integers is read as one. -/
theorem ofBinding_of_integerNames (h : ∃ name ∈ integerNames,
      a.datatype? = some (datatypeBase ++ name) ∨
        a.datatype? = some (datatypeShortBase ++ name)) :
    ofBinding a = ofInteger a.value := by
  obtain ⟨name, hname, hdatatype⟩ := h
  have hfamily : a.datatype?.bind family? = some .integer := by
    rcases hdatatype with hdatatype | hdatatype
    · rw [hdatatype]
      exact family?_of_localName? hname (localName?_base name)
    · rw [hdatatype]
      exact family?_of_localName? hname (localName?_shortBase name)
  rw [ofBinding, hfamily]

theorem ofBinding_of_spells (h : a.Spells i) : ofBinding a = ofInt i :=
  (ofBinding_of_integerNames h.datatype).trans (ofInteger_of_denotes h.numeral)

/-! ### Equal values -/

/-- Different integers have equal values iff one of them does not fit 64 bits and both have the same
double. -/
theorem same_ofInt_iff : (ofInt i).same (ofInt j) = true ↔
    i = j ∨ (Word.fitsSigned i = false ∨ Word.fitsSigned j = false) ∧
      Binary64.ofInt i = Binary64.ofInt j := by
  have hnumber : ∀ i, (Binary64.ofInt i).isNaN = false := fun i => Binary64.isNaN_ofRatio _ _ _
  have hcongr : i = j → Binary64.ofInt i = Binary64.ofInt j := congrArg _
  unfold ofInt
  cases hi : Word.fitsSigned i with
  | true =>
    cases hj : Word.fitsSigned j with
    | true => simp [same]
    | false => simpa [same, Binary64.sameNumber_ofInt_iff] using hcongr
  | false =>
    cases hj : Word.fitsSigned j with
    | true =>
      simpa [same, Binary64.sameNumber_comm _ (Binary64.ofInt i),
        Binary64.sameNumber_ofInt_iff] using hcongr
    | false => simpa [same, hnumber, Binary64.sameNumber_ofInt_iff] using hcongr

/-- What equals the value of an integer is a number with its double, and an integer within 64 bits
is equal to no other one. -/
theorem cases_of_same_ofInt {value : Literal} (h : value.same (ofInt i) = true) :
    (∃ k, value = .integer k ∧ Binary64.ofInt k = Binary64.ofInt i ∧
      (Word.fitsSigned i = true → k = i)) ∨
    ∃ x, value = .double x ∧ x.sameNumber (Binary64.ofInt i) = true := by
  have hnumber : (Binary64.ofInt i).isNaN = false := Binary64.isNaN_ofRatio _ _ _
  unfold ofInt at h
  cases hi : Word.fitsSigned i with
  | true =>
    rw [hi, if_pos rfl] at h
    cases value with
    | integer k =>
      obtain rfl : k = i := by simpa [same] using h
      exact Or.inl ⟨k, rfl, rfl, fun _ => rfl⟩
    | double x => exact Or.inr ⟨x, rfl, (Binary64.sameNumber_comm _ _).trans h⟩
    | _ => cases h
  | false =>
    rw [hi, if_neg Bool.false_ne_true] at h
    cases value with
    | integer k => exact Or.inl ⟨k, rfl, Binary64.sameNumber_ofInt_iff.1 h,
        fun hfits => absurd hfits Bool.false_ne_true⟩
    | double x => exact Or.inr ⟨x, rfl, by simpa [same, hnumber] using h⟩
    | _ => cases h

end Literal

/-! ### Entities -/

variable {i j : Int}

/-- Every member of a group with an identity has that of the opener. -/
theorem Group.exists_same_of_mem_members {entities : List Entity} {g : Group}
    (hg : g ∈ scan entities) {e : Entity} (he : e ∈ g.members) {value : Literal}
    (hvalue : e.anchorValue? = some (.literal value)) :
    ∃ opening, g.opener.anchorValue? = some (.literal opening) ∧ opening.same value = true := by
  rcases List.mem_cons.1 he with rfl | he
  · exact ⟨value, hvalue, Literal.same_self value⟩
  · obtain ⟨x, y, hopener, hidentity, hsame⟩ :=
      Instance.sameEntity_iff.1 (sameEntity_of_mem_scan hg e he)
    obtain rfl : y = .literal value := Option.some.inj (hidentity.symm.trans hvalue)
    cases x with
    | literal opening => exact ⟨opening, hopener, by simpa [Instance.same] using hsame⟩
    | _ => simp [Instance.same] at hsame

/-- Different integers come together in one entity only if they have the same double, and if both
fit 64 bits, only if a double opened it. -/
theorem Group.double_of_mem_members {entities : List Entity} {g : Group} (hg : g ∈ scan entities)
    {e f : Entity} (he : e ∈ g.members) (hf : f ∈ g.members)
    (hi : e.anchorValue? = some (.literal (.ofInt i)))
    (hj : f.anchorValue? = some (.literal (.ofInt j))) (hne : i ≠ j) :
    Binary64.ofInt i = Binary64.ofInt j ∧
      (Word.fitsSigned i = true → Word.fitsSigned j = true →
        ∃ x, g.opener.anchorValue? = some (.literal (.double x))) := by
  obtain ⟨opening, hopener, hsamei⟩ := exists_same_of_mem_members hg he hi
  obtain ⟨opening', hopener', hsamej⟩ := exists_same_of_mem_members hg hf hj
  obtain rfl : opening = opening' := by
    rw [hopener] at hopener'
    simpa using hopener'
  -- an integer that opened the entity is `i` or `j` if that one fits; a double leaves both open
  rcases Literal.cases_of_same_ofInt hsamei with ⟨k, rfl, hki, hfiti⟩ | ⟨x, rfl, hxi⟩
  · rcases Literal.cases_of_same_ofInt hsamej with ⟨k', heq, hkj, hfitj⟩ | ⟨x, heq, -⟩
    · obtain rfl : k = k' := by simpa using heq
      refine ⟨hki.symm.trans hkj, fun hi hj => ?_⟩
      exact absurd ((hfiti hi).symm.trans (hfitj hj)) hne
    · cases heq
  · rcases Literal.cases_of_same_ofInt hsamej with ⟨k, heq, -⟩ | ⟨x', heq, hxj⟩
    · cases heq
    · obtain rfl : x = x' := by simpa using heq
      refine ⟨?_, fun _ _ => ⟨x, hopener⟩⟩
      exact Binary64.ofInt_eq_of_sameNumber
        (Binary64.sameNumber_trans ((Binary64.sameNumber_comm _ _).trans hxi) hxj)

namespace Places

/-- The binding of an integer. -/
def wholeNumber (value : String) : Binding := ⟨"literal", value, some "xsd:integer", none⟩

theorem spells_wholeNumber {value : String} {n : Nat} (ne : value.toList ≠ [])
    (all : value.toList.all isDigit = true) (h : digitsValue value.toList = n) :
    (wholeNumber value).Spells n := by
  refine ⟨⟨"integer", by decide, Or.inr rfl⟩, ?_⟩
  rw [← h]
  exact .unsigned ne (List.all_eq_true.1 all)

/-- A place that is identified by an integer. -/
def place (value : String) : Entity :=
  decodeRow ⟨.shown, .plain⟩ compiled.template (row (some "xsd:integer") [("place", value)])

end Places

/-- Bindings that spell different integers have equal values iff one of the integers does not fit 64
bits and both have the same double. Rows that they identify come together in one entity only if the
integers have the same double, and if both fit 64 bits, only if a double opened the entity. -/
theorem same_ofBinding_iff {a b : Binding} (ha : a.Spells i) (hb : b.Spells j) (hne : i ≠ j) :
    ((Literal.ofBinding a).same (Literal.ofBinding b) = true ↔
      (Word.fitsSigned i = false ∨ Word.fitsSigned j = false) ∧
        Binary64.ofInt i = Binary64.ofInt j) ∧
    ∀ (document : Json) (compiled : CompiledQuery), document.WellFormed →
      (compile document).outcome = .ok compiled →
      ∀ (options : DecodeOptions) (rows : List Row),
        let decoded := rows.map (decodeRow options compiled.template)
        mergeEntities decoded = (Group.scan decoded).map Group.merged ∧
          ∀ g ∈ Group.scan decoded, ∀ e ∈ g.members, ∀ f ∈ g.members,
            e.anchorValue? = some (.literal (.ofBinding a)) →
            f.anchorValue? = some (.literal (.ofBinding b)) →
              Binary64.ofInt i = Binary64.ofInt j ∧
                (Word.fitsSigned i = true → Word.fitsSigned j = true →
                  ∃ x, g.opener.anchorValue? = some (.literal (.double x))) := by
  rw [Literal.ofBinding_of_spells ha, Literal.ofBinding_of_spells hb]
  refine ⟨by simp [Literal.same_ofInt_iff, hne], ?_⟩
  intro document compiled hdocument hcompile options rows decoded
  refine ⟨?_, fun g hg e he f hf hi hj => Group.double_of_mem_members hg he hf hi hj hne⟩
  apply Group.mergeEntities_eq_map_merged
  intro e he
  exact Template.admits_of_mem_decoded (Template.sound_of_compile hdocument hcompile) _
    (List.mem_map_of_mem he)

theorem same_ofBinding_iff_places :
    let a := Places.wholeNumber "9223372036854775806"
    let b := Places.wholeNumber "9223372036854775807"
    let low := Places.place "9223372036854775806"
    let high := Places.place "9223372036854775807"
    let opener := Places.place "9223372036854775808"
    (a.Spells 9223372036854775806 ∧ b.Spells 9223372036854775807 ∧
      (9223372036854775806 : Int) ≠ 9223372036854775807 ∧
      Places.document.WellFormed ∧ (compile Places.document).outcome = .ok Places.compiled ∧
      Group.scan [opener, low, high] = [⟨opener, [low, high]⟩] ∧
      low.anchorValue? = some (.literal (.ofBinding a)) ∧
      high.anchorValue? = some (.literal (.ofBinding b))) ∧
    ((Literal.ofBinding a).same (Literal.ofBinding b) = true ↔
      (Word.fitsSigned 9223372036854775806 = false ∨
        Word.fitsSigned 9223372036854775807 = false) ∧
        Binary64.ofInt 9223372036854775806 = Binary64.ofInt 9223372036854775807) ∧
      mergeEntities [opener, low, high] = [Group.merged ⟨opener, [low, high]⟩] ∧
      Binary64.ofInt 9223372036854775806 = Binary64.ofInt 9223372036854775807 ∧
        ∃ x, opener.anchorValue? = some (.literal (.double x)) := by
  intro a b low high opener
  have ha : a.Spells 9223372036854775806 :=
    Places.spells_wholeNumber (by decide) (by decide) (by decide)
  have hb : b.Spells 9223372036854775807 :=
    Places.spells_wholeNumber (by decide) (by decide) (by decide)
  have hscan : Group.scan [opener, low, high] = [⟨opener, [low, high]⟩] := rfl
  have hlow : low.anchorValue? = some (.literal (.ofBinding a)) := rfl
  have hhigh : high.anchorValue? = some (.literal (.ofBinding b)) := rfl
  have hne : (9223372036854775806 : Int) ≠ 9223372036854775807 := by decide
  obtain ⟨hsame, hrows⟩ := same_ofBinding_iff ha hb hne
  obtain ⟨hmerged, hgroups⟩ := hrows _ _ Places.wellFormed_document Places.outcome_document
    ⟨.shown, .plain⟩ (["9223372036854775808", "9223372036854775806", "9223372036854775807"].map
      fun value => Places.row (some "xsd:integer") [("place", value)])
  obtain ⟨hdouble, hopener⟩ := hgroups ⟨opener, [low, high]⟩ (List.mem_singleton.2 rfl)
    low (by simp [Group.members]) high (by simp [Group.members]) hlow hhigh
  exact ⟨⟨ha, hb, hne, Places.wellFormed_document, Places.outcome_document, hscan, hlow, hhigh⟩,
    hsame, hmerged, hdouble, hopener (by decide) (by decide)⟩

/-- The largest integer within 64 bits and its successor have the same double. -/
theorem same_ofBinding_largest :
    let a := Places.wholeNumber "9223372036854775807"
    let b := Places.wholeNumber "9223372036854775808"
    let largest := Places.place "9223372036854775807"
    let successor := Places.place "9223372036854775808"
    (a.Spells 9223372036854775807 ∧ b.Spells 9223372036854775808 ∧
      largest.anchorValue? = some (.literal (.ofBinding a)) ∧
      successor.anchorValue? = some (.literal (.ofBinding b))) ∧
      (Literal.ofBinding a).same (Literal.ofBinding b) = true ∧
      (mergeEntities [largest, successor]).length = 1 := by
  intro a b largest successor
  have ha : a.Spells 9223372036854775807 :=
    Places.spells_wholeNumber (by decide) (by decide) (by decide)
  have hb : b.Spells 9223372036854775808 :=
    Places.spells_wholeNumber (by decide) (by decide) (by decide)
  exact ⟨⟨ha, hb, rfl, rfl⟩, by decide, by decide⟩

end QueryByExample
