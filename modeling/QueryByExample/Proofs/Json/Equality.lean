import QueryByExample.Json.Basic
import QueryByExample.Proofs.Fields
import QueryByExample.Proofs.Number.Rounding
/-!
# Equality of JSON values

`Json.same` is an equivalence on well-formed values: those in which no object repeats a key and no
number is a NaN. Readers of JSON give no others.

## Main definitions

- `Json.WellFormed`: the well-formed values.

## Main statements

- `Json.same_self`, `Json.same_symm`, `Json.same_trans`: the equivalence.
-/

namespace QueryByExample.Json

/-- No object in the value repeats a key, and no number in it is a NaN. -/
inductive WellFormed : Json → Prop where
  | null : WellFormed .null
  | bool {b : Bool} : WellFormed (.bool b)
  | number {n : Number} (h : ∀ x, n = .double x → x.isNaN = false) : WellFormed (.number n)
  | string {s : String} : WellFormed (.string s)
  | array {items : List Json} (h : ∀ item ∈ items, WellFormed item) : WellFormed (.array items)
  | object {entries : List (String × Json)} (distinct : Fields.Distinct entries)
      (h : ∀ key value, (key, value) ∈ entries → WellFormed value) : WellFormed (.object entries)

theorem Number.same_comm (m n : Number) : m.same n = n.same m := by
  cases m with
  | integer i =>
    cases n with
    | integer j => exact BEq.comm
    | double y => rfl
  | double x =>
    cases n with
    | integer j => rfl
    | double y => exact Binary64.sameNumber_comm x y

theorem Number.same_trans {l m n : Number} (hlm : l.same m = true) (hmn : m.same n = true) :
    l.same n = true := by
  cases l with
  | integer i =>
    cases m with
    | integer j =>
      rw [eq_of_beq (a := i) (b := j) hlm]
      exact hmn
    | double y => cases hlm
  | double x =>
    cases m with
    | integer j => cases hlm
    | double y =>
      cases n with
      | integer k => cases hmn
      | double z => exact Binary64.sameNumber_trans (x := x) (y := y) hlm hmn

theorem sameItems_iff {as bs : List Json} :
    sameItems as bs = true ↔ List.Forall₂ (fun a b => a.same b = true) as bs := by
  induction as generalizing bs with
  | nil => cases bs <;> simp [sameItems]
  | cons a as ih => cases bs <;> simp [sameItems, ih]

theorem sameEntries_iff {as bs : List (String × Json)} :
    sameEntries as bs = true ↔
      ∀ entry ∈ as, ∃ b, Fields.find? entry.1 bs = some b ∧ entry.2.same b = true := by
  induction as with
  | nil => simp [sameEntries]
  | cons entry rest ih =>
    obtain ⟨key, a⟩ := entry
    cases hf : Fields.find? key bs <;> simp [sameEntries, hf, ih]

theorem wellFormed_object_iff {entries : List (String × Json)} :
    (object entries).WellFormed ↔
      Fields.Distinct entries ∧ ∀ entry ∈ entries, entry.2.WellFormed := by
  constructor
  · intro h
    cases h with
    | object distinct h => exact ⟨distinct, fun entry hmem => h entry.1 entry.2 hmem⟩
  · rintro ⟨distinct, h⟩
    exact .object distinct fun key value hmem => h (key, value) hmem

/-- Arrays are equal iff they agree at every position. -/
theorem same_array_iff {as bs : List Json} :
    (array as).same (.array bs) = true ↔
      ∀ i : Nat, Option.Rel (fun a b => a.same b = true) as[i]? bs[i]? := by
  rw [same, sameItems_iff, Fields.forall₂_iff_rel]

/-- Objects without repeated keys are equal iff they agree under every key. -/
theorem same_object_iff {as bs : List (String × Json)} (ha : Fields.Distinct as)
    (hb : Fields.Distinct bs) :
    (object as).same (.object bs) = true ↔ ∀ key, Option.Rel (fun a b => a.same b = true)
      (Fields.find? key as) (Fields.find? key bs) := by
  rw [← Fields.agree_iff ha hb, same, Bool.and_eq_true, beq_iff_eq, sameEntries_iff]

/-- A well-formed value equals itself. -/
theorem same_self {a : Json} (h : a.WellFormed) : a.same a = true := by
  induction h with
  | null => rfl
  | bool => simp [same]
  | @number n hn =>
    cases n with
    | integer i => simp [same, Number.same]
    | double x => exact Binary64.sameNumber_self (hn x rfl)
  | string => simp [same]
  | array _ ih =>
    exact same_array_iff.2 fun i => Fields.rel_self fun a ha => ih a (List.mem_of_getElem? ha)
  | object distinct _ ih =>
    exact (same_object_iff distinct distinct).2 fun key =>
      Fields.rel_self fun a ha => ih key a (Fields.mem_of_find? ha)

/-- Equality of well-formed values goes both ways. -/
theorem same_symm {a b : Json} (ha : a.WellFormed) (hb : b.WellFormed) (h : a.same b = true) :
    b.same a = true := by
  induction ha generalizing b with
  | null =>
    cases hb with
    | null => rfl
    | _ => simp [same] at h
  | bool =>
    cases hb with
    | bool =>
      simp only [same, beq_iff_eq] at h ⊢
      exact h.symm
    | _ => simp [same] at h
  | number =>
    cases hb with
    | number => simpa only [same, Number.same_comm] using h
    | _ => simp [same] at h
  | string =>
    cases hb with
    | string =>
      simp only [same, beq_iff_eq] at h ⊢
      exact h.symm
    | _ => simp [same] at h
  | array _ ih =>
    cases hb with
    | array hitems =>
      rw [same_array_iff] at h ⊢
      exact fun i => Fields.rel_swap (h i) fun a b ha hb =>
        ih a (List.mem_of_getElem? ha) (hitems b (List.mem_of_getElem? hb))
    | _ => simp [same] at h
  | object distinct _ ih =>
    cases hb with
    | object distinct' hentries =>
      rw [same_object_iff distinct distinct'] at h
      refine (same_object_iff distinct' distinct).2 fun key =>
        Fields.rel_swap (h key) fun a b ha hb => ?_
      exact ih key a (Fields.mem_of_find? ha) (hentries key b (Fields.mem_of_find? hb))
    | _ => simp [same] at h

/-- Well-formed values that equal a third one are equal. -/
theorem same_trans {a b c : Json} (ha : a.WellFormed) (hb : b.WellFormed) (hc : c.WellFormed)
    (hab : a.same b = true) (hbc : b.same c = true) : a.same c = true := by
  induction ha generalizing b c with
  | null =>
    cases hb with
    | null => exact hbc
    | _ => simp [same] at hab
  | bool =>
    cases hb with
    | bool =>
      simp only [same, beq_iff_eq] at hab
      exact hab ▸ hbc
    | _ => simp [same] at hab
  | number =>
    cases hb with
    | number =>
      cases hc with
      | number =>
        simp only [same] at hab hbc ⊢
        exact Number.same_trans hab hbc
      | _ => simp [same] at hbc
    | _ => simp [same] at hab
  | string =>
    cases hb with
    | string =>
      simp only [same, beq_iff_eq] at hab
      exact hab ▸ hbc
    | _ => simp [same] at hab
  | array _ ih =>
    cases hb with
    | array hbs =>
      cases hc with
      | array hcs =>
        rw [same_array_iff] at hab hbc ⊢
        exact fun i => Fields.rel_trans (hab i) (hbc i) fun a b c ha hb hc =>
          ih a (List.mem_of_getElem? ha) (hbs b (List.mem_of_getElem? hb))
            (hcs c (List.mem_of_getElem? hc))
      | _ => simp [same] at hbc
    | _ => simp [same] at hab
  | object distinct _ ih =>
    cases hb with
    | object distinctb hbs =>
      cases hc with
      | object distinctc hcs =>
        rw [same_object_iff distinct distinctb] at hab
        rw [same_object_iff distinctb distinctc] at hbc
        refine (same_object_iff distinct distinctc).2 fun key =>
          Fields.rel_trans (hab key) (hbc key) fun a b c ha hb hc => ?_
        exact ih key a (Fields.mem_of_find? ha) (hbs key b (Fields.mem_of_find? hb))
          (hcs key c (Fields.mem_of_find? hc))
      | _ => simp [same] at hbc
    | _ => simp [same] at hab

end QueryByExample.Json
