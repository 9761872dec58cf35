import Mathlib.Data.List.Forall2
import Mathlib.Data.List.Perm.Basic
/-!
# Positions in lists

Merging looks for the first item of a kind and changes it where it stands. A change that does not
touch the kind of the item keeps the positions that are found.
-/

namespace QueryByExample.Position

variable {α : Type} {p : α → Bool} {f : α → α} {l : List α} {i : Nat}

theorem exists_of_findIdx? (h : l.findIdx? p = some i) : ∃ x, l[i]? = some x ∧ p x = true := by
  obtain ⟨hlt, hp, -⟩ := List.findIdx?_eq_some_iff_getElem.1 h
  exact ⟨l[i], List.getElem?_eq_getElem hlt, hp⟩

theorem prop_of_findIdx? {x : α} (h : l.findIdx? p = some i) (hx : l[i]? = some x) :
    p x = true := by
  obtain ⟨y, hy, hp⟩ := exists_of_findIdx? h
  obtain rfl := Option.some.inj (hx.symm.trans hy)
  exact hp

/-- A change at one position keeps the first position of a kind if the changed item stays of its
kind. -/
theorem findIdx?_modify (h : ∀ x, l[i]? = some x → p (f x) = p x) :
    (l.modify i f).findIdx? p = l.findIdx? p := by
  induction l generalizing i with
  | nil => simp
  | cons a l ih =>
    cases i with
    | zero => simp [List.findIdx?_cons, h a rfl]
    | succ i => simp [List.findIdx?_cons, ih fun x hx => h x (by simpa using hx)]

theorem modify_eq_self_iff : l.modify i f = l ↔ ∀ x, l[i]? = some x → f x = x := by
  induction l generalizing i with
  | nil => simp
  | cons a l ih =>
    cases i with
    | zero => simp
    | succ i => simpa using ih

/-- An item of a changed list is an old item or the changed one. -/
theorem mem_or_of_mem_modify {x : α} (h : x ∈ l.modify i f) :
    x ∈ l ∨ ∃ y, l[i]? = some y ∧ x = f y := by
  obtain ⟨j, hj⟩ := List.mem_iff_getElem?.1 h
  rw [List.getElem?_modify] at hj
  obtain ⟨y, hy, rfl⟩ := Option.map_eq_some_iff.1 hj
  by_cases hij : i = j
  · subst hij
    exact Or.inr ⟨y, hy, by simp⟩
  · simp only [hij, if_false]
    exact Or.inl (List.mem_of_getElem? hy)

/-- An item of a list is still there after a change, or it is the one that was changed. -/
theorem mem_modify_or {x : α} (h : x ∈ l) : x ∈ l.modify i f ∨ l[i]? = some x := by
  obtain ⟨j, hj⟩ := List.mem_iff_getElem?.1 h
  by_cases hij : i = j
  · subst hij
    exact Or.inr hj
  · refine Or.inl (List.mem_iff_getElem?.2 ⟨j, ?_⟩)
    simp [hij, hj]

theorem mem_modify_of_getElem? {x : α} (h : l[i]? = some x) : f x ∈ l.modify i f :=
  List.mem_iff_getElem?.2 ⟨i, by simp [h]⟩

/-- A filter does not see a change of an item that it drops before and after. -/
theorem filter_modify (h : ∀ x, l[i]? = some x → p x = false ∧ p (f x) = false) :
    (l.modify i f).filter p = l.filter p := by
  induction l generalizing i with
  | nil => simp
  | cons a l ih =>
    cases i with
    | zero =>
      obtain ⟨ha, hfa⟩ := h a rfl
      simp [ha, hfa]
    | succ i => simp [List.filter_cons, ih fun x hx => h x (by simpa using hx)]

/-- A relation between all items survives a change that keeps it on both sides. -/
theorem pairwise_modify {R : α → α → Prop} (h : l.Pairwise R)
    (hleft : ∀ x y, x ∈ l → l[i]? = some y → R x y → R x (f y))
    (hright : ∀ x y, x ∈ l → l[i]? = some y → R y x → R (f y) x) : (l.modify i f).Pairwise R := by
  induction l generalizing i with
  | nil => simp
  | cons a l ih =>
    obtain ⟨ha, hl⟩ := List.pairwise_cons.1 h
    cases i with
    | zero =>
      refine List.pairwise_cons.2 ⟨fun x hx => ?_, hl⟩
      exact hright x a (List.mem_cons_of_mem _ hx) rfl (ha x hx)
    | succ i =>
      refine List.pairwise_cons.2 ⟨fun x hx => ?_, ?_⟩
      · rcases mem_or_of_mem_modify hx with hx | ⟨y, hy, rfl⟩
        · exact ha x hx
        · exact hleft a y List.mem_cons_self hy (ha y (List.mem_of_getElem? hy))
      · exact ih hl (fun x y hx hy => hleft x y (List.mem_cons_of_mem _ hx) hy)
          fun x y hx hy => hright x y (List.mem_cons_of_mem _ hx) hy

/-! ### Lists in step -/

section InStep

variable {β : Type} {q : β → Bool} {g : β → β} {l' : List β}

theorem findIdx?_eq_of_forall₂ (h : List.Forall₂ (fun x y => p x = q y) l l') :
    l.findIdx? p = l'.findIdx? q := by
  induction h with
  | nil => rfl
  | cons hxy _ ih => simp [List.findIdx?_cons, hxy, ih]

theorem any_eq_of_forall₂ (h : List.Forall₂ (fun x y => p x = q y) l l') : l.any p = l'.any q := by
  induction h with
  | nil => rfl
  | cons hxy _ ih => simp [hxy, ih]

/-- Lists that are related item by item still are after a change at the same position of both. -/
theorem forall₂_modify {R : α → β → Prop} (h : List.Forall₂ R l l')
    (hfg : ∀ x y, l[i]? = some x → l'[i]? = some y → R x y → R (f x) (g y)) :
    List.Forall₂ R (l.modify i f) (l'.modify i g) := by
  induction h generalizing i with
  | nil => simp
  | cons hxy hrest ih =>
    cases i with
    | zero => exact .cons (hfg _ _ rfl rfl hxy) hrest
    | succ i =>
      exact .cons hxy (ih fun x y hx hy => hfg x y (by simpa using hx) (by simpa using hy))

end InStep

/-! ### Matching -/

/-- Items of a list that are not apart are the same item. -/
theorem eq_of_pairwise {R : α → α → Prop} (h : l.Pairwise R) {x y : α} (hx : x ∈ l) (hy : y ∈ l)
    (hxy : ¬ R x y) (hyx : ¬ R y x) : x = y := by
  induction h with
  | nil => cases hx
  | cons ha _ ih =>
    rcases List.mem_cons.1 hx with rfl | hxl <;> rcases List.mem_cons.1 hy with rfl | hyl
    · rfl
    · exact absurd (ha y hyl) hxy
    · exact absurd (ha x hxl) hyx
    · exact ih hxl hyl

/-- Two lists match up to order if every item has a partner in the other list and no two items share
a partner. -/
theorem exists_perm_of_partners {β : Type} {R : α → β → Prop} {l' : List β}
    (hto : ∀ x ∈ l, ∃ y ∈ l', R x y) (hfrom : ∀ y ∈ l', ∃ x ∈ l, R x y)
    (hl : l.Pairwise fun x x' => ∀ y ∈ l', R x y → ¬ R x' y)
    (hl' : l'.Pairwise fun y y' => ∀ x ∈ l, R x y → ¬ R x y') :
    ∃ matched, List.Forall₂ R l matched ∧ matched.Perm l' := by
  induction l generalizing l' with
  | nil =>
    cases l' with
    | nil => exact ⟨[], .nil, .nil⟩
    | cons b l' =>
      obtain ⟨x, hx, -⟩ := hfrom b List.mem_cons_self
      cases hx
  | cons a l ih =>
    -- the rest matches what is left when the partner of the first item is taken out
    obtain ⟨b, hb, hab⟩ := hto a List.mem_cons_self
    obtain ⟨before, after, rfl⟩ := List.append_of_mem hb
    obtain ⟨ha, hl⟩ := List.pairwise_cons.1 hl
    have hmiddle : (b :: (before ++ after)).Pairwise fun y y' => ∀ x ∈ a :: l, R x y → ¬ R x y' :=
      (List.perm_middle.pairwise_iff fun h x hx hxy' hxy => h x hx hxy hxy').1 hl'
    obtain ⟨hb', hl'⟩ := List.pairwise_cons.1 hmiddle
    have hrest : ∀ y, y ∈ before ++ after → y ∈ before ++ b :: after := fun y hy =>
      List.perm_middle.symm.subset (List.mem_cons_of_mem _ hy)
    obtain ⟨matched, hmatched, hperm⟩ : ∃ matched, List.Forall₂ R l matched ∧
        matched.Perm (before ++ after) := by
      refine ih (fun x hx => ?_) (fun y hy => ?_)
        (hl.imp fun h y hy => h y (hrest y hy))
        (hl'.imp fun h x hx => h x (List.mem_cons_of_mem _ hx))
      · obtain ⟨y, hy, hxy⟩ := hto x (List.mem_cons_of_mem _ hx)
        rcases List.mem_cons.1 (List.perm_middle.subset hy) with rfl | hy
        · exact absurd hxy (ha x hx y hb hab)
        · exact ⟨y, hy, hxy⟩
      · obtain ⟨x, hx, hxy⟩ := hfrom y (hrest y hy)
        rcases List.mem_cons.1 hx with rfl | hx
        · exact absurd hxy (hb' y hy x List.mem_cons_self hab)
        · exact ⟨x, hx, hxy⟩
    exact ⟨b :: matched, .cons hab hmatched, (hperm.cons b).trans List.perm_middle.symm⟩

end QueryByExample.Position
