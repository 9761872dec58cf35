import QueryByExample.Json.Draft
import QueryByExample.Proofs.Json.Equality
/-!
# Values that are read

What a reader makes of a text is well-formed: repeated keys are settled, and a numeral is never
rounded to a NaN.

## Main statements

- `Json.Draft.wellFormed_of_read`: what the readers of values, items and entries give.
- `Json.wellFormed_of_ofText?`: values of texts are well-formed.
-/

namespace QueryByExample

namespace Numeral

theorem isNaN_of_scale? {magnitude x : Binary64} {exponent : Int} (hm : magnitude.isNaN = false)
    (h : scale? magnitude exponent = some x) : x.isNaN = false := by
  unfold scale? at h
  simp only at h
  split at h
  · exact Option.some.inj h ▸ hm
  · split at h
    · cases h
    · split at h
      · split at h
        · exact Option.some.inj h ▸ Binary64.isNaN_ofRatio _ _ _
        · cases h
      · split at h
        · exact Option.some.inj h ▸ Binary64.isNaN_ofRatio _ _ _
        · split at h
          · exact Option.some.inj h ▸ Binary64.isNaN_ofRatio _ _ _
          · obtain rfl := Option.some.inj h
            simp [Binary64.zero, Binary64.isNaN, Binary64.topExponent]

/-- A numeral is read as a number. -/
theorem isNaN_of_scaled? {n : Numeral} {x : Binary64} (h : n.scaled? = some x) :
    x.isNaN = false := by
  obtain ⟨magnitude, hmagnitude, rfl⟩ := Option.map_eq_some_iff.1 h
  have hm : magnitude.isNaN = false := isNaN_of_scale? (Binary64.isNaN_ofRatio _ _ _) hmagnitude
  exact hm

end Numeral

namespace Json.Draft

/-- No number of the draft is a NaN. -/
inductive WellFormed : Draft → Prop where
  | null : WellFormed .null
  | bool {b : Bool} : WellFormed (.bool b)
  | number {n? : Option Number} (h : ∀ x, n? = some (.double x) → x.isNaN = false) :
      WellFormed (.number n?)
  | string {s? : Option String} : WellFormed (.string s?)
  | array {items : List Draft} (h : ∀ item ∈ items, WellFormed item) : WellFormed (.array items)
  | object {entries : List (Option String × Draft)} (h : ∀ entry ∈ entries, WellFormed entry.2) :
      WellFormed (.object entries)

/-! ### Values of drafts -/

mutual

theorem wellFormed_of_value? {depth : Nat} {draft : Draft} {value : Json}
    (hdraft : draft.WellFormed) (h : value? depth draft = some value) : value.WellFormed := by
  cases draft with
  | null => obtain rfl := Option.some.inj h; exact .null
  | bool => obtain rfl := Option.some.inj h; exact .bool
  | number n? =>
    obtain ⟨n, rfl, rfl⟩ := Option.map_eq_some_iff.1 h
    cases hdraft with
    | number hn => exact .number fun x hx => hn x (congrArg some hx)
  | string s? =>
    obtain ⟨s, -, rfl⟩ := Option.map_eq_some_iff.1 h
    exact .string
  | array items =>
    cases hdraft with
    | array hitems =>
      cases depth with
      | zero => cases h
      | succ depth =>
        obtain ⟨values, hvalues, rfl⟩ := Option.map_eq_some_iff.1 h
        exact .array (wellFormed_of_itemValues? hitems hvalues)
  | object entries =>
    cases hdraft with
    | object hentries =>
      cases depth with
      | zero => cases h
      | succ depth =>
        obtain ⟨values, hvalues, rfl⟩ := Option.map_eq_some_iff.1 h
        have hwf := wellFormed_of_entryValues? hentries hvalues
        exact wellFormed_object_iff.2
          ⟨Fields.distinct_ofList values, Fields.forall_mem_ofList hwf⟩

theorem wellFormed_of_itemValues? {depth : Nat} {items : List Draft} {values : List Json}
    (hitems : ∀ item ∈ items, item.WellFormed) (h : itemValues? depth items = some values) :
    ∀ value ∈ values, value.WellFormed := by
  cases items with
  | nil => obtain rfl := Option.some.inj h; simp
  | cons item rest =>
    rw [itemValues?] at h
    obtain ⟨first, hfirst, h⟩ := Option.bind_eq_some_iff.1 h
    obtain ⟨others, hothers, h⟩ := Option.bind_eq_some_iff.1 h
    obtain rfl := Option.some.inj h
    have hfirst' := wellFormed_of_value? (hitems item List.mem_cons_self) hfirst
    have hothers' := wellFormed_of_itemValues?
      (fun item hitem => hitems item (List.mem_cons_of_mem _ hitem)) hothers
    exact List.forall_mem_cons.2 ⟨hfirst', hothers'⟩

theorem wellFormed_of_entryValues? {depth : Nat} {entries : List (Option String × Draft)}
    {values : List (String × Json)} (hentries : ∀ entry ∈ entries, entry.2.WellFormed)
    (h : entryValues? depth entries = some values) : ∀ entry ∈ values, entry.2.WellFormed := by
  cases entries with
  | nil => obtain rfl := Option.some.inj h; simp
  | cons entry rest =>
    obtain ⟨key?, draft⟩ := entry
    rw [entryValues?] at h
    obtain ⟨key, -, h⟩ := Option.bind_eq_some_iff.1 h
    obtain ⟨first, hfirst, h⟩ := Option.bind_eq_some_iff.1 h
    obtain ⟨others, hothers, h⟩ := Option.bind_eq_some_iff.1 h
    obtain rfl := Option.some.inj h
    have hfirst' : (key, first).2.WellFormed :=
      wellFormed_of_value? (hentries _ List.mem_cons_self) hfirst
    have hothers' := wellFormed_of_entryValues?
      (fun entry hentry => hentries entry (List.mem_cons_of_mem _ hentry)) hothers
    exact List.forall_mem_cons.2 ⟨hfirst', hothers'⟩

end

/-! ### Drafts of texts -/

theorem eq_of_word? {word : String} {draft found : Draft} {cs rest : List Char}
    (h : word? word draft cs = some (found, rest)) : found = draft := by
  unfold word? at h
  split at h
  · exact (Prod.mk.inj (Option.some.inj h)).1.symm
  · cases h

theorem isNaN_of_wholeNumber? {negative : Bool} {digits : List Char} {x : Binary64}
    (h : wholeNumber? negative digits = some (.double x)) : x.isNaN = false := by
  simp only [wholeNumber?] at h
  split at h
  · cases h
  · split at h
    · cases h
    · obtain ⟨y, hy, heq⟩ := Option.map_eq_some_iff.1 h
      obtain rfl := Number.double.inj heq
      exact Numeral.isNaN_of_scaled? hy

/-- What follows the whole part of a number token gives no NaN. -/
theorem isNaN_of_numberTail {negative : Bool} {whole cs rest : List Char} {x : Binary64}
    (h : (do
      let (fraction, rest) ← fraction? cs
      let (exponent, rest) ← exponent? rest
      let value := match fraction, exponent with
        | none, none => wholeNumber? negative whole
        | _, _ =>
          (Numeral.scaled? ⟨negative, whole, fraction.getD [], exponent.getD 0⟩).map .double
      return (value, rest)) = some (some (Number.double x), rest)) : x.isNaN = false := by
  obtain ⟨⟨fraction, after⟩, -, h⟩ := Option.bind_eq_some_iff.1 h
  obtain ⟨⟨exponent, after'⟩, -, h⟩ := Option.bind_eq_some_iff.1 h
  have hvalue := (Prod.mk.inj (Option.some.inj h)).1
  split at hvalue
  · exact isNaN_of_wholeNumber? hvalue
  · obtain ⟨y, hy, heq⟩ := Option.map_eq_some_iff.1 hvalue
    obtain rfl := Number.double.inj heq
    exact Numeral.isNaN_of_scaled? hy

/-- A number token is no NaN. -/
theorem isNaN_of_number? {cs rest : List Char} {n? : Option Number}
    (h : number? cs = some (n?, rest)) : ∀ x, n? = some (.double x) → x.isNaN = false := by
  rintro x rfl
  simp only [number?] at h
  split at h
  · obtain ⟨whole, -, h⟩ := Option.bind_eq_some_iff.1 h
    exact isNaN_of_numberTail h
  · -- with and without a sign
    split at h
    all_goals
      split at h
      · cases h
      · obtain ⟨whole, -, h⟩ := Option.bind_eq_some_iff.1 h
        exact isNaN_of_numberTail h

/-- What is read within some fuel is well-formed: a value, items and entries. -/
theorem wellFormed_of_read (fuel : Nat) :
    (∀ cs draft rest, readValue? fuel cs = some (draft, rest) → draft.WellFormed) ∧
    (∀ cs items rest, readItems? fuel cs = some (items, rest) →
      ∀ item ∈ items, item.WellFormed) ∧
    (∀ cs entries rest, readEntries? fuel cs = some (entries, rest) →
      ∀ entry ∈ entries, entry.2.WellFormed) := by
  induction fuel with
  | zero =>
    refine ⟨fun cs draft rest h => ?_, fun cs items rest h => ?_, fun cs entries rest h => ?_⟩
    all_goals cases h
  | succ fuel ih =>
    -- the three readers call each other with less fuel, so one induction serves them all
    obtain ⟨hvalue, hitems, hentries⟩ := ih
    refine ⟨fun cs draft rest h => ?_, fun cs items rest h => ?_, fun cs entries rest h => ?_⟩
    · rw [readValue?] at h
      split at h
      · cases h
      · obtain ⟨⟨s, _⟩, -, heq⟩ := Option.map_eq_some_iff.1 h
        obtain ⟨rfl, -⟩ := Prod.mk.inj heq
        exact .string
      · split at h
        · obtain ⟨rfl, -⟩ := Prod.mk.inj (Option.some.inj h)
          exact .array (by simp)
        · obtain ⟨⟨items, rest'⟩, hread, heq⟩ := Option.map_eq_some_iff.1 h
          obtain ⟨rfl, -⟩ := Prod.mk.inj heq
          exact .array (hitems _ items rest' hread)
      · split at h
        · obtain ⟨rfl, -⟩ := Prod.mk.inj (Option.some.inj h)
          exact .object (by simp)
        · obtain ⟨⟨entries, rest'⟩, hread, heq⟩ := Option.map_eq_some_iff.1 h
          obtain ⟨rfl, -⟩ := Prod.mk.inj heq
          exact .object (hentries _ entries rest' hread)
      · exact eq_of_word? h ▸ .null
      · exact eq_of_word? h ▸ .bool
      · exact eq_of_word? h ▸ .bool
      · obtain ⟨⟨n?, rest'⟩, hread, heq⟩ := Option.map_eq_some_iff.1 h
        obtain ⟨rfl, -⟩ := Prod.mk.inj heq
        exact .number (isNaN_of_number? hread)
    · rw [readItems?] at h
      obtain ⟨⟨item, rest'⟩, hitem, h⟩ := Option.bind_eq_some_iff.1 h
      have hfirst := hvalue _ item rest' hitem
      simp only at h
      split at h
      · obtain ⟨rfl, -⟩ := Prod.mk.inj (Option.some.inj h)
        exact List.forall_mem_cons.2 ⟨hfirst, by simp⟩
      · obtain ⟨⟨others, rest''⟩, hothers, h⟩ := Option.bind_eq_some_iff.1 h
        obtain ⟨rfl, -⟩ := Prod.mk.inj (Option.some.inj h)
        exact List.forall_mem_cons.2 ⟨hfirst, hitems _ others rest'' hothers⟩
      · cases h
    · rw [readEntries?] at h
      split at h
      · obtain ⟨⟨key, rest'⟩, -, h⟩ := Option.bind_eq_some_iff.1 h
        simp only at h
        split at h
        · obtain ⟨⟨value, rest''⟩, hread, h⟩ := Option.bind_eq_some_iff.1 h
          have hfirst : (key, value).2.WellFormed := hvalue _ value rest'' hread
          simp only at h
          split at h
          · obtain ⟨rfl, -⟩ := Prod.mk.inj (Option.some.inj h)
            exact List.forall_mem_cons.2 ⟨hfirst, by simp⟩
          · obtain ⟨⟨others, after⟩, hothers, h⟩ := Option.bind_eq_some_iff.1 h
            obtain ⟨rfl, -⟩ := Prod.mk.inj (Option.some.inj h)
            exact List.forall_mem_cons.2 ⟨hfirst, hentries _ others after hothers⟩
          · cases h
        · cases h
      · cases h

end Json.Draft

/-- The value of a JSON text is well-formed. -/
theorem Json.wellFormed_of_ofText? {text : String} {value : Json} (h : ofText? text = some value) :
    value.WellFormed := by
  obtain ⟨draft, hdraft, hvalue⟩ := Option.bind_eq_some_iff.1 h
  refine Draft.wellFormed_of_value? ?_ hvalue
  simp only [Draft.ofText?] at hdraft
  split at hdraft
  · next hread =>
    split at hdraft
    · obtain rfl := Option.some.inj hdraft
      exact (Draft.wellFormed_of_read _).1 _ _ _ hread
    · cases hdraft
  · cases hdraft

end QueryByExample
