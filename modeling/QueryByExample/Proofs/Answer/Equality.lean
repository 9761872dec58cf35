import Mathlib.Data.Set.Function
import QueryByExample.Answer.Instance
import QueryByExample.Proofs.Json.Equality
/-!
# Equality of decoded values

`Instance.same`, by which values are merged, is reflexive and symmetric on well-formed values. It is
transitive only among values whose integers keep apart when they are rounded to doubles: two
integers with the same double both equal that double without being equal.

## Main definitions

- `Instance.WellFormed`: no object repeats a key, and constants are well-formed.
- `Instance.integers`: the integers that occur in a value.
- `Instance.Blurred`: values that hold different integers with the same double at the same place.

## Main statements

- `Instance.same_self`, `Instance.same_symm`: reflexive and symmetric.
- `Instance.same_of_not_blurred`, `Instance.same_trans`: where equality is transitive.
-/

namespace QueryByExample

namespace Literal

theorem same_self (a : Literal) : a.same a = true := by
  cases a with
  | boolean b => simp [same]
  | integer i => simp [same]
  | double x =>
    cases hx : x.isNaN
    · simp [same, Binary64.sameNumber_self hx]
    · simp [same, hx]
  | text s => simp [same]

theorem same_comm (a b : Literal) : a.same b = b.same a := by
  cases a with
  | boolean =>
    cases b with
    | boolean => exact BEq.comm
    | _ => rfl
  | integer =>
    cases b with
    | integer => exact BEq.comm
    | _ => rfl
  | double x =>
    cases b with
    | double y => simp only [same, Binary64.sameNumber_comm x y, Bool.and_comm x.isNaN]
    | _ => rfl
  | text =>
    cases b with
    | text => exact BEq.comm
    | _ => rfl

/-- Equal doubles are equal as numbers unless they are both NaN. -/
private theorem sameNumber_of_same {x y : Binary64} (h : (double x).same (.double y) = true)
    (hx : x.isNaN = false) : x.sameNumber y = true := by
  simpa [same, hx] using h

/-- Equality is transitive unless it leads from an integer to another one with the same double. -/
theorem same_trans {a b c : Literal}
    (hexact : ∀ i j, a = .integer i → c = .integer j → Binary64.ofInt i = Binary64.ofInt j → i = j)
    (hab : a.same b = true) (hbc : b.same c = true) : a.same c = true := by
  cases b with
  | boolean =>
    cases a with
    | boolean => rwa [eq_of_beq hab]
    | _ => cases hab
  | text =>
    cases a with
    | text => rwa [eq_of_beq hab]
    | _ => cases hab
  | integer =>
    cases a with
    | integer => rwa [eq_of_beq hab]
    | double x =>
      cases c with
      | integer => rwa [eq_of_beq hbc] at hab
      | double y =>
        have hx : x.sameNumber _ = true := (Binary64.sameNumber_comm _ _).trans hab
        simp [same, Binary64.sameNumber_trans hx hbc]
      | _ => cases hbc
    | _ => cases hab
  | double y =>
    cases a with
    | integer i =>
      have hy : y.isNaN = false := (Binary64.sameNumber_iff.1 hab).2.1
      cases c with
      | integer j =>
        -- both integers equal `y`, so they round to the same double
        have hyj : y.sameNumber (.ofInt j) = true := (Binary64.sameNumber_comm _ _).trans hbc
        have hij := Binary64.ofInt_eq_of_sameNumber (Binary64.sameNumber_trans hab hyj)
        simp [same, hexact i j rfl rfl hij]
      | double z => exact Binary64.sameNumber_trans hab (sameNumber_of_same hbc hy)
      | _ => cases hbc
    | double x =>
      cases c with
      | integer j =>
        have hy : y.isNaN = false := (Binary64.sameNumber_iff.1 hbc).2.1
        have hyx := sameNumber_of_same ((same_comm _ _).trans hab) hy
        exact Binary64.sameNumber_trans hbc hyx
      | double z =>
        cases hy : y.isNaN with
        | false =>
          have hyx := sameNumber_of_same ((same_comm _ _).trans hab) hy
          have hxy := (Binary64.sameNumber_comm _ _).trans hyx
          simp [same, Binary64.sameNumber_trans hxy (sameNumber_of_same hbc hy)]
        | true =>
          simp only [same, Binary64.sameNumber, hy, Bool.not_true, Bool.and_false, Bool.false_and,
            Bool.false_or, Bool.and_true, Bool.true_and] at hab hbc
          simp [same, hab, hbc]
      | _ => cases hbc
    | _ => cases hab

end Literal

namespace Instance

/-- No object in the value repeats a key, and its constants are well-formed. -/
inductive WellFormed : Instance → Prop where
  | literal {value : Literal} : WellFormed (.literal value)
  | constant {value : Json} (h : value.WellFormed) : WellFormed (.constant value)
  | object {anchor? : Option String} {fields : List (String × Instance)}
      (distinct : Fields.Distinct fields)
      (h : ∀ key value, (key, value) ∈ fields → WellFormed value) :
      WellFormed (.object anchor? fields)
  | list {items : List Instance} (h : ∀ item ∈ items, WellFormed item) : WellFormed (.list items)

/-- One value occurs in another. -/
inductive Part (part : Instance) : Instance → Prop where
  | self : Part part part
  | field {anchor? : Option String} {fields : List (String × Instance)} {key : String}
      {value : Instance} (hmem : (key, value) ∈ fields) (h : Part part value) :
      Part part (.object anchor? fields)
  | item {items : List Instance} {value : Instance} (hmem : value ∈ items) (h : Part part value) :
      Part part (.list items)

/-- The integers that occur in a value. -/
def integers (value : Instance) : Set Int := {i | Part (.literal (.integer i)) value}

theorem mem_integers_literal_iff {value : Literal} {i : Int} :
    i ∈ (literal value).integers ↔ value = .integer i := by
  constructor
  · intro h
    cases h
    rfl
  · rintro rfl
    exact .self

theorem integers_constant (value : Json) : (constant value).integers = ∅ := by
  refine Set.eq_empty_of_forall_notMem fun i h => ?_
  cases h

theorem mem_integers_object_iff {anchor? : Option String} {fields : List (String × Instance)}
    {i : Int} : i ∈ (object anchor? fields).integers ↔ ∃ field ∈ fields, i ∈ field.2.integers := by
  constructor
  · intro h
    cases h with
    | field hmem h => exact ⟨_, hmem, h⟩
  · rintro ⟨field, hmem, h⟩
    exact .field hmem h

theorem mem_integers_list_iff {items : List Instance} {i : Int} :
    i ∈ (list items).integers ↔ ∃ item ∈ items, i ∈ item.integers := by
  constructor
  · intro h
    cases h with
    | item hmem h => exact ⟨_, hmem, h⟩
  · rintro ⟨item, hmem, h⟩
    exact .item hmem h

theorem sameItems_iff {as bs : List Instance} :
    sameItems as bs = true ↔ List.Forall₂ (fun a b => a.same b = true) as bs := by
  induction as generalizing bs with
  | nil => cases bs <;> simp [sameItems]
  | cons a as ih => cases bs <;> simp [sameItems, ih]

theorem sameFields_iff {as bs : List (String × Instance)} :
    sameFields as bs = true ↔
      ∀ field ∈ as, ∃ b, Fields.find? field.1 bs = some b ∧ field.2.same b = true := by
  induction as with
  | nil => simp [sameFields]
  | cons field rest ih =>
    obtain ⟨key, a⟩ := field
    cases hf : Fields.find? key bs <;> simp [sameFields, hf, ih]

/-- Lists are equal iff they agree at every position. -/
theorem same_list_iff {as bs : List Instance} :
    (list as).same (.list bs) = true ↔
      ∀ i : Nat, Option.Rel (fun a b => a.same b = true) as[i]? bs[i]? := by
  rw [same, sameItems_iff, Fields.forall₂_iff_rel]

/-- Objects without repeated keys are equal iff they agree under every key. -/
theorem same_object_iff {a? b? : Option String} {as bs : List (String × Instance)}
    (ha : Fields.Distinct as) (hb : Fields.Distinct bs) :
    (object a? as).same (.object b? bs) = true ↔
      ∀ key, Option.Rel (fun a b => a.same b = true) (Fields.find? key as)
        (Fields.find? key bs) := by
  rw [← Fields.agree_iff ha hb, same, Bool.and_eq_true, beq_iff_eq, sameFields_iff]

/-- A well-formed value equals itself. -/
theorem same_self {a : Instance} (h : a.WellFormed) : a.same a = true := by
  induction h with
  | literal => exact Literal.same_self _
  | constant h => exact Json.same_self h
  | object distinct _ ih =>
    exact (same_object_iff distinct distinct).2 fun key =>
      Fields.rel_self fun a ha => ih key a (Fields.mem_of_find? ha)
  | list _ ih =>
    exact same_list_iff.2 fun i => Fields.rel_self fun a ha => ih a (List.mem_of_getElem? ha)

/-- Equality of well-formed values goes both ways. -/
theorem same_symm {a b : Instance} (ha : a.WellFormed) (hb : b.WellFormed)
    (h : a.same b = true) : b.same a = true := by
  induction ha generalizing b with
  | literal =>
    cases hb with
    | literal => exact (Literal.same_comm _ _).trans h
    | _ => simp [same] at h
  | constant ha =>
    cases hb with
    | constant hb => exact Json.same_symm ha hb h
    | _ => simp [same] at h
  | object distinct _ ih =>
    cases hb with
    | object distinct' hfields =>
      rw [same_object_iff distinct distinct'] at h
      refine (same_object_iff distinct' distinct).2 fun key =>
        Fields.rel_swap (h key) fun a b ha hb => ?_
      exact ih key a (Fields.mem_of_find? ha) (hfields key b (Fields.mem_of_find? hb))
    | _ => simp [same] at h
  | list _ ih =>
    cases hb with
    | list hitems =>
      rw [same_list_iff] at h ⊢
      exact fun i => Fields.rel_swap (h i) fun a b ha hb =>
        ih a (List.mem_of_getElem? ha) (hitems b (List.mem_of_getElem? hb))
    | _ => simp [same] at h

theorem same_comm {a b : Instance} (ha : a.WellFormed) (hb : b.WellFormed) :
    a.same b = b.same a :=
  Bool.eq_iff_iff.2 ⟨same_symm ha hb, same_symm hb ha⟩

/-! ### Transitivity -/

/-- Different integers that round to the same double stand at the same place of two values. -/
inductive Blurred : Instance → Instance → Prop where
  | integers {i j : Int} (ne : i ≠ j) (rounded : Binary64.ofInt i = Binary64.ofInt j) :
      Blurred (.literal (.integer i)) (.literal (.integer j))
  | field {a? b? : Option String} {as bs : List (String × Instance)} {key : String}
      {a b : Instance} (ha : Fields.find? key as = some a) (hb : Fields.find? key bs = some b)
      (h : Blurred a b) : Blurred (.object a? as) (.object b? bs)
  | item {as bs : List Instance} {i : Nat} {a b : Instance} (ha : as[i]? = some a)
      (hb : bs[i]? = some b) (h : Blurred a b) : Blurred (.list as) (.list bs)

theorem Blurred.exists_integers {a b : Instance} (h : Blurred a b) :
    ∃ i ∈ a.integers, ∃ j ∈ b.integers, i ≠ j ∧ Binary64.ofInt i = Binary64.ofInt j := by
  induction h with
  | integers ne rounded =>
    exact ⟨_, mem_integers_literal_iff.2 rfl, _, mem_integers_literal_iff.2 rfl, ne, rounded⟩
  | field ha hb _ ih =>
    obtain ⟨i, hi, j, hj, hij⟩ := ih
    exact ⟨i, mem_integers_object_iff.2 ⟨_, Fields.mem_of_find? ha, hi⟩,
      j, mem_integers_object_iff.2 ⟨_, Fields.mem_of_find? hb, hj⟩, hij⟩
  | item ha hb _ ih =>
    obtain ⟨i, hi, j, hj, hij⟩ := ih
    exact ⟨i, mem_integers_list_iff.2 ⟨_, List.mem_of_getElem? ha, hi⟩,
      j, mem_integers_list_iff.2 ⟨_, List.mem_of_getElem? hb, hj⟩, hij⟩

/-- Well-formed values that equal a third one are equal, unless two of their integers at the same
place are told apart only by their last digits. -/
theorem same_of_not_blurred {a b c : Instance} (ha : a.WellFormed) (hb : b.WellFormed)
    (hc : c.WellFormed) (hclear : ¬ Blurred a c) (hab : a.same b = true)
    (hbc : b.same c = true) : a.same c = true := by
  induction ha generalizing b c with
  | literal =>
    cases hb with
    | literal =>
      cases hc with
      | literal =>
        refine Literal.same_trans (fun i j hi hj hij => ?_) hab hbc
        subst hi hj
        by_contra hne
        exact hclear (.integers hne hij)
      | _ => simp [same] at hbc
    | _ => simp [same] at hab
  | constant ha =>
    cases hb with
    | constant hb =>
      cases hc with
      | constant hc => exact Json.same_trans ha hb hc hab hbc
      | _ => simp [same] at hbc
    | _ => simp [same] at hab
  | object distinct _ ih =>
    cases hb with
    | object distinctb hbs =>
      cases hc with
      | object distinctc hcs =>
        rw [same_object_iff distinct distinctb] at hab
        rw [same_object_iff distinctb distinctc] at hbc
        refine (same_object_iff distinct distinctc).2 fun key =>
          Fields.rel_trans (hab key) (hbc key) fun a b c ha hb hc => ?_
        exact ih key a (Fields.mem_of_find? ha) (hbs key b (Fields.mem_of_find? hb))
          (hcs key c (Fields.mem_of_find? hc)) fun h => hclear (.field ha hc h)
      | _ => simp [same] at hbc
    | _ => simp [same] at hab
  | list _ ih =>
    cases hb with
    | list hbs =>
      cases hc with
      | list hcs =>
        rw [same_list_iff] at hab hbc ⊢
        refine fun i => Fields.rel_trans (hab i) (hbc i) fun a b c ha hb hc => ?_
        exact ih a (List.mem_of_getElem? ha) (hbs b (List.mem_of_getElem? hb))
          (hcs c (List.mem_of_getElem? hc)) fun h => hclear (.item ha hc h)
      | _ => simp [same] at hbc
    | _ => simp [same] at hab

/-- Well-formed values that equal a third one are equal, if no two integers among theirs have the
same double. -/
theorem same_trans {I : Set Int} (hexact : Set.InjOn Binary64.ofInt I) {a b c : Instance}
    (ha : a.WellFormed) (hb : b.WellFormed) (hc : c.WellFormed) (hai : a.integers ⊆ I)
    (hci : c.integers ⊆ I) (hab : a.same b = true) (hbc : b.same c = true) :
    a.same c = true := by
  refine same_of_not_blurred ha hb hc (fun h => ?_) hab hbc
  obtain ⟨i, hi, j, hj, hne, hij⟩ := h.exists_integers
  exact hne (hexact (hai hi) (hci hj) hij)

end Instance

end QueryByExample
