import QueryByExample.Proofs.Answer.Equality
/-!
# How far equality is an equivalence

Merging compares values only up to what an answer shows of them: the order of fields and the marks
of anchors do not count, and an integer counts as the double nearest to it. Equality is reflexive and
symmetric. It is not transitive, because a double equals every integer that rounds to it; the
integers at the same place of two values are all that can go wrong.

## Main definitions

- `Json.Rearranged`, `Instance.Rearranged`: values that differ only in the order of fields and in the
  anchors of objects.

## Main statements

- `Instance.same_self_comm_rearranged`: what equality does not see.
- `Instance.same_eq_false_of_double_between`, `Instance.same_iff_not_blurred`: where transitivity
  fails.
-/

namespace QueryByExample

/-! ### Order of fields -/

namespace Json

/-- The same value with the entries of its objects in another order, at any depth. -/
inductive Rearranged : Json → Json → Prop where
  | null : Rearranged .null .null
  | bool {b : Bool} : Rearranged (.bool b) (.bool b)
  | number {n : Number} : Rearranged (.number n) (.number n)
  | string {s : String} : Rearranged (.string s) (.string s)
  | array {as bs : List Json} (length : as.length = bs.length)
      (items : ∀ (i : Nat) a b, as[i]? = some a → bs[i]? = some b → Rearranged a b) :
      Rearranged (.array as) (.array bs)
  | object {as bs : List (String × Json)} (names : (Fields.names as).Perm (Fields.names bs))
      (values : ∀ key a b, Fields.find? key as = some a → Fields.find? key bs = some b →
        Rearranged a b) : Rearranged (.object as) (.object bs)

variable {a a' b : Json}

theorem rearranged_self (ha : a.WellFormed) : Rearranged a a := by
  induction ha with
  | null => exact .null
  | bool => exact .bool
  | number => exact .number
  | string => exact .string
  | array _ ih =>
    refine .array rfl fun i a b ha hb => ?_
    obtain rfl : a = b := Option.some.inj (ha.symm.trans hb)
    exact ih a (List.mem_of_getElem? ha)
  | object _ _ ih =>
    refine .object (.refl _) fun key a b ha hb => ?_
    obtain rfl : a = b := Option.some.inj (ha.symm.trans hb)
    exact ih key a (Fields.mem_of_find? ha)

theorem Rearranged.wellFormed_and_same (h : Rearranged a a') (ha : a.WellFormed) :
    a'.WellFormed ∧ a.same a' = true := by
  induction h with
  | @array as bs length items ih =>
    cases ha with
    | array has =>
      -- both halves are read off one relation, since neither follows from the other
      have hrel : ∀ i : Nat, Option.Rel (fun a b => b.WellFormed ∧ a.same b = true)
          as[i]? bs[i]? := fun i =>
        Fields.rel_getElem?_of_length_eq length fun a b ha hb =>
          ih i a b ha hb (has a (List.mem_of_getElem? ha))
      constructor
      · apply WellFormed.array
        intro b hb
        obtain ⟨i, hi⟩ := List.getElem?_of_mem hb
        obtain ⟨a, -, hwell, -⟩ := Fields.exists_of_rel_some (hi ▸ hrel i)
        exact hwell
      · rw [same_array_iff]
        intro i
        exact Fields.rel_imp (hrel i) fun a b _ _ hab => hab.2
  | @object as bs names values ih =>
    cases ha with
    | object distinct has =>
      have distinct' : Fields.Distinct bs := names.nodup_iff.1 distinct
      have hrel : ∀ key, Option.Rel (fun a b => b.WellFormed ∧ a.same b = true)
          (Fields.find? key as) (Fields.find? key bs) := fun key =>
        Fields.rel_find?_of_names_perm names fun a b ha hb =>
          ih key a b ha hb (has key a (Fields.mem_of_find? ha))
      constructor
      · apply WellFormed.object distinct'
        intro key b hb
        obtain ⟨a, -, hwell, -⟩ :=
          Fields.exists_of_rel_some (distinct'.find?_of_mem hb ▸ hrel key)
        exact hwell
      · rw [same_object_iff distinct distinct']
        intro key
        exact Fields.rel_imp (hrel key) fun a b _ _ hab => hab.2
  | _ => exact ⟨ha, same_self ha⟩

/-- Equality does not see the order of entries. -/
theorem Rearranged.same_eq (h : Rearranged a a') (ha : a.WellFormed) (hb : b.WellFormed) :
    a'.same b = a.same b := by
  obtain ⟨ha', haa'⟩ := h.wellFormed_and_same ha
  rw [Bool.eq_iff_iff]
  constructor
  · exact same_trans ha ha' hb haa'
  · exact same_trans ha' ha hb (same_symm ha ha' haa')

end Json

namespace Instance

/-- The same value with the fields of its objects in another order and with other anchors, at any
depth. -/
inductive Rearranged : Instance → Instance → Prop where
  | literal {value : Literal} : Rearranged (.literal value) (.literal value)
  | constant {value value' : Json} (h : Json.Rearranged value value') :
      Rearranged (.constant value) (.constant value')
  | object {a? b? : Option String} {as bs : List (String × Instance)}
      (names : (Fields.names as).Perm (Fields.names bs))
      (values : ∀ key a b, Fields.find? key as = some a → Fields.find? key bs = some b →
        Rearranged a b) : Rearranged (.object a? as) (.object b? bs)
  | list {as bs : List Instance} (length : as.length = bs.length)
      (items : ∀ (i : Nat) a b, as[i]? = some a → bs[i]? = some b → Rearranged a b) :
      Rearranged (.list as) (.list bs)

variable {a a' b b' c : Instance}

theorem Rearranged.wellFormed (h : Rearranged a a') (ha : a.WellFormed) : a'.WellFormed := by
  induction h with
  | literal => exact .literal
  | constant h =>
    cases ha with
    | constant ha => exact .constant (h.wellFormed_and_same ha).1
  | @object _ _ as bs names values ih =>
    cases ha with
    | object distinct has =>
      have distinct' : Fields.Distinct bs := names.nodup_iff.1 distinct
      apply WellFormed.object distinct'
      intro key b hb
      have hrel := Fields.rel_find?_of_names_perm names (values key)
      rw [distinct'.find?_of_mem hb] at hrel
      obtain ⟨a, ha, -⟩ := Fields.exists_of_rel_some hrel
      exact ih key a b ha (distinct'.find?_of_mem hb) (has key a (Fields.mem_of_find? ha))
  | list length items ih =>
    cases ha with
    | list has =>
      apply WellFormed.list
      intro b hb
      obtain ⟨i, hi⟩ := List.getElem?_of_mem hb
      have hrel := Fields.rel_getElem?_of_length_eq length (items i)
      rw [hi] at hrel
      obtain ⟨a, ha, -⟩ := Fields.exists_of_rel_some hrel
      exact ih i a b ha hi (has a (List.mem_of_getElem? ha))

/-- Equality does not see the order of fields and the anchors. As it is not transitive, this takes
an induction of its own. -/
theorem Rearranged.same_eq (h : Rearranged a a') (ha : a.WellFormed) (hb : b.WellFormed) :
    a'.same b = a.same b := by
  have ha' := h.wellFormed ha
  induction h generalizing b with
  | literal => rfl
  | constant h =>
    cases ha with
    | constant ha =>
      cases hb with
      | constant hb => exact h.same_eq ha hb
      | _ => rfl
  | object names values ih =>
    cases ha with
    | object distinct has =>
      cases ha' with
      | object distinct' has' =>
        cases hb with
        | object distinctb hbs =>
          -- under every key both objects compare the third one with values that are rearranged
          rw [Bool.eq_iff_iff, same_object_iff distinct distinctb,
            same_object_iff distinct' distinctb]
          refine forall_congr' fun key => (Fields.rel_congr
            (Fields.rel_find?_of_names_perm names (values key))
            (Fields.rel_self (S := Eq) fun _ _ => rfl) ?_).symm
          rintro a a' b _ ha ha' hb - - rfl
          rw [ih key a a' ha ha' (has key a (Fields.mem_of_find? ha))
            (hbs key b (Fields.mem_of_find? hb)) (has' key a' (Fields.mem_of_find? ha'))]
        | _ => rfl
  | list length items ih =>
    cases ha with
    | list has =>
      cases ha' with
      | list has' =>
        cases hb with
        | list hbs =>
          rw [Bool.eq_iff_iff, same_list_iff, same_list_iff]
          refine forall_congr' fun i => (Fields.rel_congr
            (Fields.rel_getElem?_of_length_eq length (items i))
            (Fields.rel_self (S := Eq) fun _ _ => rfl) ?_).symm
          rintro a a' b _ ha ha' hb - - rfl
          rw [ih i a a' ha ha' (has a (List.mem_of_getElem? ha))
            (hbs b (List.mem_of_getElem? hb)) (has' a' (List.mem_of_getElem? ha'))]
        | _ => rfl

theorem rearranged_self (ha : a.WellFormed) : Rearranged a a := by
  induction ha with
  | literal => exact .literal
  | constant h => exact .constant (Json.rearranged_self h)
  | object _ _ ih =>
    refine .object (.refl _) fun key a b ha hb => ?_
    obtain rfl : a = b := Option.some.inj (ha.symm.trans hb)
    exact ih key a (Fields.mem_of_find? ha)
  | list _ ih =>
    refine .list rfl fun i a b ha hb => ?_
    obtain rfl : a = b := Option.some.inj (ha.symm.trans hb)
    exact ih a (List.mem_of_getElem? ha)

/-- Well-formed objects with the same fields in another order. -/
theorem rearranged_of_perm {a? b? : Option String} {as bs : List (String × Instance)}
    (ha : (object a? as).WellFormed) (perm : as.Perm bs) :
    Rearranged (.object a? as) (.object b? bs) := by
  cases ha with
  | object distinct has =>
    have distinct' : Fields.Distinct bs := (perm.map Prod.fst).nodup_iff.1 distinct
    refine .object (perm.map Prod.fst) fun key a b ha hb => ?_
    rw [Fields.find?_perm distinct' perm] at ha
    obtain rfl : a = b := Option.some.inj (ha.symm.trans hb)
    exact rearranged_self (has key a (perm.mem_iff.2 (Fields.mem_of_find? ha)))

/-- A reading of a probe: a count and one that failed. -/
def reading (count : Literal) : Instance :=
  .object (some "id")
    [("id", .ofText "probe"), ("counts", .list [.literal count, .literal (.double .nan)])]

/-- The same reading with its fields the other way round. -/
def turnedReading (count : Literal) : Instance :=
  .object none
    [("counts", .list [.literal count, .literal (.double .nan)]), ("id", .ofText "probe")]

theorem wellFormed_reading (count : Literal) : (reading count).WellFormed := by
  apply WellFormed.object (by simp [Fields.Distinct, Fields.names])
  intro key value hmem
  simp only [List.mem_cons, Prod.mk.injEq, List.not_mem_nil, or_false] at hmem
  rcases hmem with ⟨-, rfl⟩ | ⟨-, rfl⟩
  · exact .literal
  · apply WellFormed.list
    intro item hitem
    simp only [List.mem_cons, List.not_mem_nil, or_false] at hitem
    rcases hitem with rfl | rfl <;> exact .literal

theorem rearranged_reading (count : Literal) :
    Rearranged (reading count) (turnedReading count) :=
  rearranged_of_perm (wellFormed_reading count) (.swap _ _ _)

/-- Equality is reflexive and symmetric, and it sees neither the order of fields nor the anchors of
objects, at any depth. -/
theorem same_self_comm_rearranged (ha : a.WellFormed) (hb : b.WellFormed) :
    a.same a = true ∧ a.same b = b.same a ∧
      ∀ a' b', Rearranged a a' → Rearranged b b' → a'.same b' = a.same b := by
  refine ⟨same_self ha, same_comm ha hb, ?_⟩
  intro a' b' haa' hbb'
  have ha' := haa'.wellFormed ha
  have hb' := hbb'.wellFormed hb
  calc a'.same b'
      = a.same b' := haa'.same_eq ha hb'
    _ = b'.same a := same_comm ha hb'
    _ = b.same a := hbb'.same_eq hb ha
    _ = a.same b := same_comm hb ha

theorem same_self_comm_rearranged_readings :
    let whole := reading (.integer 3)
    let double := turnedReading (.double (.ofInt 3))
    (whole.WellFormed ∧ double.WellFormed) ∧
      (whole.same whole = true ∧ whole.same double = double.same whole ∧
        (turnedReading (.integer 3)).same double = whole.same double) := by
  intro whole double
  have hwhole : whole.WellFormed := wellFormed_reading _
  have hdouble : double.WellFormed := (rearranged_reading _).wellFormed (wellFormed_reading _)
  obtain ⟨hself, hcomm, hrearranged⟩ := same_self_comm_rearranged hwhole hdouble
  exact ⟨⟨hwhole, hdouble⟩, hself, hcomm,
    hrearranged _ _ (rearranged_reading _) (rearranged_self hdouble)⟩

/-! ### Transitivity -/

theorem Blurred.same_eq_false (h : Blurred a b) (ha : a.WellFormed) (hb : b.WellFormed) :
    a.same b = false := by
  rw [Bool.eq_false_iff]
  intro hsame
  induction h with
  | integers ne _ => exact ne (by simpa [same, Literal.same] using hsame)
  | @field _ _ _ _ key _ _ hka hkb _ ih =>
    cases ha with
    | object distinct has =>
      cases hb with
      | object distinct' hbs =>
        rw [same_object_iff distinct distinct'] at hsame
        have hrel := hsame key
        rw [hka, hkb, Option.rel_some_some] at hrel
        exact ih (has key _ (Fields.mem_of_find? hka)) (hbs key _ (Fields.mem_of_find? hkb)) hrel
  | @item _ _ i _ _ hia hib _ ih =>
    cases ha with
    | list has =>
      cases hb with
      | list hbs =>
        rw [same_list_iff] at hsame
        have hrel := hsame i
        rw [hia, hib, Option.rel_some_some] at hrel
        exact ih (has _ (List.mem_of_getElem? hia)) (hbs _ (List.mem_of_getElem? hib)) hrel

/-- Two values that equal a third one are equal, unless they hold different integers with the same
double at the same place. -/
theorem same_iff_not_blurred (ha : a.WellFormed) (hb : b.WellFormed) (hc : c.WellFormed)
    (hab : a.same b = true) (hbc : b.same c = true) : a.same c = true ↔ ¬ Blurred a c := by
  constructor
  · intro hac h
    rw [h.same_eq_false ha hc] at hac
    cases hac
  · intro hclear
    exact same_of_not_blurred ha hb hc hclear hab hbc

theorem same_iff_not_blurred_readings :
    let low := reading (.integer 9007199254740992)
    let double := turnedReading (.double (.ofInt 9007199254740992))
    let high := reading (.integer 9007199254740993)
    (low.WellFormed ∧ double.WellFormed ∧ high.WellFormed ∧ low.same double = true ∧
      double.same low = true ∧ double.same high = true) ∧
      (low.same low = true ↔ ¬ Blurred low low) ∧ (low.same high = true ↔ ¬ Blurred low high) := by
  intro low double high
  have hlow : low.WellFormed := wellFormed_reading _
  have hhigh : high.WellFormed := wellFormed_reading _
  have hdouble : double.WellFormed := (rearranged_reading _).wellFormed (wellFormed_reading _)
  have hld : low.same double = true := by decide
  have hdl : double.same low = true := by decide
  have hdh : double.same high = true := by decide
  exact ⟨⟨hlow, hdouble, hhigh, hld, hdl, hdh⟩, same_iff_not_blurred hlow hdouble hlow hld hdl,
    same_iff_not_blurred hlow hdouble hhigh hld hdh⟩

/-- The double `2 ^ 53` equals the integers `2 ^ 53` and `2 ^ 53 + 1`, which differ. -/
theorem same_eq_false_of_double_between :
    let a : Instance := .literal (.integer 9007199254740992)
    let b : Instance := .literal (.double (Binary64.ofInt 9007199254740992))
    let c : Instance := .literal (.integer 9007199254740993)
    (a.WellFormed ∧ b.WellFormed ∧ c.WellFormed) ∧
      a.same b = true ∧ b.same c = true ∧ a.same c = false :=
  ⟨⟨.literal, .literal, .literal⟩, by decide, by decide, by decide⟩

end Instance

end QueryByExample
