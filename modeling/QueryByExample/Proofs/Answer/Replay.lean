import QueryByExample.Proofs.Answer.Invariant
/-!
# Replayed rows

A row that was merged once changes nothing when it is merged again, whatever was merged in between.
Merging a row makes the merged objects absorb it, and they keep absorbing it while other rows are
merged: the item that takes up the fields of the row keeps its place and its identity, and what was
found equal to a value stays where it is.

## Main definitions

- `Instance.Absorbed`: the item with the identity of an object takes nothing up from it.

## Main statements

- `Template.takeUp_takeUp_self`, `Template.enlist_enlist_self`: merging establishes absorption.
- `Template.takeUp_takeUp_of_eq_self`, `Template.enlist_enlist_of_eq_self`: merging preserves it.
- `mergeEntities_replayed`: replaying rows changes nothing.
-/

namespace QueryByExample

namespace Instance

variable {x y z : Instance} {items next : List Instance}

/-- The first item with the identity of an object is there and takes nothing up from it. -/
def Absorbed (y : Instance) (items : List Instance) : Prop :=
  ∃ index x, items.findIdx? (·.sameEntity y) = some index ∧ items[index]? = some x ∧ x.takeUp y = x

theorem join_eq_self_of_absorbed (h : Absorbed y items) : join y items = items := by
  obtain ⟨index, x, first, found, htake⟩ := h
  rw [join, first]
  refine Position.modify_eq_self_iff.2 fun z hz => ?_
  obtain rfl := Option.some.inj (found.symm.trans hz)
  exact htake

theorem Absorbed.append (h : Absorbed y items) : Absorbed y (items ++ [z]) := by
  obtain ⟨index, x, first, found, htake⟩ := h
  refine ⟨index, x, ?_, ?_, htake⟩
  · rw [List.findIdx?_append, first]
    rfl
  · exact List.getElem?_append_left (List.getElem?_eq_some_iff.1 found).1 ▸ found

/-- Enlisting changes nothing iff the item is absorbed, or has an equal one and no identity that is
there. -/
theorem enlist_eq_self_iff :
    enlist y items = items ↔
      Absorbed y items ∨
        items.findIdx? (·.sameEntity y) = none ∧ ∃ x ∈ items, x.same y = true := by
  constructor
  · intro heq
    have h := enlisted y items
    generalize enlist y items = next at h heq
    cases h with
    | kept new found same => exact Or.inr ⟨new, _, found, same⟩
    | joined h =>
      cases h with
      | merged first found =>
        exact Or.inl ⟨_, _, first, found, Position.modify_eq_self_iff.1 heq _ found⟩
      | added => simp at heq
  · rintro (h | ⟨new, x, found, same⟩)
    · rw [enlist_eq_join, join_eq_self_of_absorbed h]
      intro new
      obtain ⟨index, x, first, -⟩ := h
      rw [new] at first
      cases first
    · exact enlist_eq_self new found same

end Instance

namespace Template

open Instance

variable {slot : Slot} {u v w x y z : Instance} {items next : List Instance}

/-! ### Items -/

/-- Joining an object with an identity makes the items absorb it, if an item that took it up takes
nothing more. -/
theorem absorbed_of_joined (h : Joined y items next) (hid : y.anchorValue? ≠ none)
    (hitems : ∀ x ∈ items, Admits Gathered slot x) (hy : Admits Single slot y)
    (htwice : ∀ x ∈ items, x.sameEntity y = true → (x.takeUp y).takeUp y = x.takeUp y) :
    Absorbed y next := by
  cases h with
  | @merged index x first found same =>
    have hx := List.mem_of_getElem? found
    have hkeep := (hitems x hx).anchorValue?_takeUp hy same
    refine ⟨index, x.takeUp y, ?_, by simp [found], htwice x hx same⟩
    rw [Position.findIdx?_modify fun z hz => ?_, first]
    obtain rfl := Option.some.inj (found.symm.trans hz)
    exact sameEntity_congr_left hkeep
  | added new =>
    have hself := hy.wellFormed.sameEntity_self hid
    refine ⟨items.length, y, ?_, by simp, ?_⟩
    · rw [List.findIdx?_append, new]
      simp [hself]
    · exact takeUp_eq_self_of_same hy (hy.mono fun _ _ => Single.gathered)
        (same_self hy.wellFormed) hself

/-- Items that absorb an object still do after another one joined. -/
theorem absorbed_of_joined_of_absorbed (h : Joined z items next) (habsorbed : Absorbed y items)
    (hitems : ∀ x ∈ items, Admits Gathered slot x) (hz : Admits Single slot z)
    (hkept : ∀ x ∈ items, x.sameEntity y = true → x.sameEntity z = true → x.takeUp y = x →
      (x.takeUp z).takeUp y = x.takeUp z) : Absorbed y next := by
  cases h with
  | added => exact habsorbed.append
  | @merged index' x' first' found' same' =>
    obtain ⟨index, x, first, found, htake⟩ := habsorbed
    have hkeep := (hitems x' (List.mem_of_getElem? found')).anchorValue?_takeUp hz same'
    have hfirst : (items.modify index' (·.takeUp z)).findIdx? (·.sameEntity y) = some index := by
      rw [Position.findIdx?_modify fun a ha => ?_, first]
      obtain rfl := Option.some.inj (found'.symm.trans ha)
      exact sameEntity_congr_left hkeep
    -- the item that absorbs may itself take up the other object
    by_cases hindex : index' = index
    · subst hindex
      obtain rfl := Option.some.inj (found'.symm.trans found)
      have same := Position.prop_of_findIdx? first found
      exact ⟨index', x'.takeUp z, hfirst, by simp [found],
        hkept x' (List.mem_of_getElem? found) same same' htake⟩
    · exact ⟨index, x, hfirst, by simp [hindex, found], htake⟩

/-- Enlisting an item twice is enlisting it once, if that holds for taking it up. -/
theorem enlist_enlist_self (hitems : ∀ x ∈ items, Admits Gathered slot x)
    (hy : Admits Single slot y)
    (htwice : ∀ x ∈ items, x.sameEntity y = true → (x.takeUp y).takeUp y = x.takeUp y) :
    enlist y (enlist y items) = enlist y items := by
  have h := enlisted y items
  generalize enlist y items = next at h ⊢
  refine enlist_eq_self_iff.2 ?_
  cases h with
  | kept new found same => exact Or.inr ⟨new, _, found, same⟩
  | joined h =>
    by_cases hid : y.anchorValue? = none
    · -- an item without identity goes to the end, where it is found equal to itself
      have hnone : ∀ x : Instance, x.sameEntity y = false := fun x =>
        sameEntity_of_anchorValue?_eq_none hid
      cases h with
      | merged _ _ same => rw [hnone] at same; cases same
      | added => exact Or.inr ⟨by simp [hnone], y, by simp, same_self hy.wellFormed⟩
    · exact Or.inl (absorbed_of_joined h hid hitems hy htwice)

/-- If enlisting an item changes nothing, it still does after another one was enlisted, if that
holds for taking it up. -/
theorem enlist_enlist_of_eq_self (hitems : ∀ x ∈ items, Admits Gathered slot x)
    (hy : Admits Single slot y) (hz : Admits Single slot z)
    (hkept : ∀ x ∈ items, x.sameEntity y = true → x.sameEntity z = true → x.takeUp y = x →
      (x.takeUp z).takeUp y = x.takeUp z)
    (heq : enlist y items = items) : enlist y (enlist z items) = enlist z items := by
  have h := enlisted z items
  generalize enlist z items = next at h ⊢
  refine enlist_eq_self_iff.2 ?_
  cases h with
  | kept => exact enlist_eq_self_iff.1 heq
  | joined h =>
    rcases enlist_eq_self_iff.1 heq with habsorbed | ⟨new, x, found, same⟩
    · exact Or.inl (absorbed_of_joined_of_absorbed h habsorbed hitems hz hkept)
    · right
      -- the item has no identity, since it equals one that has another identity or none
      have hid := (hitems x found).anchorValue?_eq_none_of_same hy same
        (List.findIdx?_eq_none_iff.1 new x found)
      have hnone : ∀ x : Instance, x.sameEntity y = false := fun x =>
        sameEntity_of_anchorValue?_eq_none hid.2
      refine ⟨by simp [hnone], x, ?_, same⟩
      cases h with
      | added => exact List.mem_append_left _ found
      | merged _ found' same' =>
        rcases Position.mem_modify_or found with hmem | hx
        · exact hmem
        · -- an item that takes fields up has an identity
          obtain rfl := Option.some.inj (found'.symm.trans hx)
          exact absurd hid.1 (anchorValue?_ne_none_of_sameEntity same').1

/-! ### Fields -/

theorem Fits.mergeValue_eq_self_iff (hv : Fits Gathered slot v) (hy : Admits Single slot y) :
    v.mergeValue (listed (Slot.list slot) y) = v ↔ enlist y v.items = v.items := by
  have hw : Fits Single slot (listed (Slot.list slot) y) :=
    ⟨⟨y, rfl, hy.isList⟩, fun x hx => by
      rw [items_listed hy.isList] at hx
      exact List.mem_singleton.1 hx ▸ hy⟩
  rw [← hv.items_mergeValue hy]
  exact ⟨fun h => by rw [h], (hv.mergeValue hw).1.eq_of_items hv.1⟩

/-- A value merged into itself changes nothing. -/
theorem Fits.mergeValue_self (hw : Fits Single slot w) : Instance.mergeValue w w = w := by
  have hfits := hw.gathered
  obtain ⟨y, rfl, hitems, hy⟩ := hw.exists_item
  have hone : enlist y (enlist y []) = enlist y [] :=
    enlist_enlist_self (List.forall_mem_nil _) hy (List.forall_mem_nil _)
  rw [hfits.mergeValue_eq_self_iff hy, hitems]
  exact hone

/-- Merging a value twice into a field is merging it once, if that holds for items. -/
theorem Fits.mergeValue_mergeValue_self (hv : Fits Gathered slot v) (hw : Fits Single slot w)
    (htwice : ∀ y ∈ w.items, ∀ x ∈ v.items, x.sameEntity y = true →
      (x.takeUp y).takeUp y = x.takeUp y) :
    Instance.mergeValue (v.mergeValue w) w = v.mergeValue w := by
  have hmerged := hv.mergeValue hw
  obtain ⟨y, rfl, hitems, hy⟩ := hw.exists_item
  rw [hmerged.mergeValue_eq_self_iff hy, hv.items_mergeValue hy]
  exact enlist_enlist_self hv.2 hy (htwice y (by simp [hitems]))

/-- If merging a value into a field changes nothing, it still does after another value was merged,
if that holds for items. -/
theorem Fits.mergeValue_mergeValue_of_eq_self (hv : Fits Gathered slot v) (hw : Fits Single slot w)
    (hu : Fits Single slot u)
    (hkept : ∀ y ∈ w.items, ∀ z ∈ u.items, ∀ x ∈ v.items, x.sameEntity y = true →
      x.sameEntity z = true → x.takeUp y = x → (x.takeUp z).takeUp y = x.takeUp z)
    (heq : v.mergeValue w = v) : Instance.mergeValue (v.mergeValue u) w = v.mergeValue u := by
  have hmerged := hv.mergeValue hu
  obtain ⟨y, rfl, hitems, hy⟩ := hw.exists_item
  obtain ⟨z, rfl, hitems', hz⟩ := hu.exists_item
  rw [hv.mergeValue_eq_self_iff hy] at heq
  rw [hmerged.mergeValue_eq_self_iff hy, hv.items_mergeValue hz]
  exact enlist_enlist_of_eq_self hv.2 hy hz
    (hkept y (by simp [hitems]) z (by simp [hitems'])) heq

/-! ### Objects -/

/-- Taking an object up twice is taking it up once. -/
theorem takeUp_takeUp_self (hy : Admits Single slot y) (hx : Admits Gathered slot x)
    (hid : x.sameEntity y = true) : (x.takeUp y).takeUp y = x.takeUp y := by
  induction hy using Admits.induction_holds generalizing x with
  | plain slot y hy _ hnone => exact absurd hnone (anchorValue?_ne_none_of_sameEntity hid).2
  | node label slots y hy ih =>
    obtain ⟨fields, rfl, distinct⟩ := hx.exists_fields
    obtain ⟨additions, rfl, distinct'⟩ := hy.exists_fields
    rw [takeUp_object, takeUp_object, (mergeFields_eq_self_iff distinct').2 fun key w hw => ?_]
    obtain ⟨slot, hslot, hfits⟩ := hy.exists_fits hw
    refine ⟨_, find?_mergeFields_of_some distinct' hw, ?_⟩
    -- the first time either brought the key or merged the value
    cases hv : Fields.find? key fields with
    | none => exact hfits.mergeValue_self
    | some v =>
      have hfits' := hx.fits hslot hv
      refine hfits'.mergeValue_mergeValue_self hfits fun y hy x hx hid => ?_
      exact ih key y slot ⟨w, hw, hy⟩ hslot (hfits'.2 x hx) hid

/-- If an object takes nothing up from another, it still takes nothing up from it after it took a
third one up. -/
theorem takeUp_takeUp_of_eq_self (hy : Admits Single slot y) (hz : Admits Single slot z)
    (hx : Admits Gathered slot x) (hid : x.sameEntity y = true) (hid' : x.sameEntity z = true)
    (h : x.takeUp y = x) : (x.takeUp z).takeUp y = x.takeUp z := by
  induction hy using Admits.induction_holds generalizing x z with
  | plain slot y hy _ hnone => exact absurd hnone (anchorValue?_ne_none_of_sameEntity hid).2
  | node label slots y hy ih =>
    obtain ⟨fields, rfl, distinct⟩ := hx.exists_fields
    obtain ⟨additions, rfl, distinct'⟩ := hy.exists_fields
    obtain ⟨others, rfl, distinct''⟩ := hz.exists_fields
    rw [takeUp_object] at h
    have hself := (mergeFields_eq_self_iff distinct').1 (Instance.object.inj h).2
    rw [takeUp_object, takeUp_object, (mergeFields_eq_self_iff distinct').2 fun key w hw => ?_]
    obtain ⟨slot, hslot, hfits'⟩ := hy.exists_fits hw
    obtain ⟨v, hv, hvw⟩ := hself key w hw
    -- `z` leaves the field alone or merges a value of its own into it
    cases hu : Fields.find? key others with
    | none => exact ⟨v, (find?_mergeFields_of_none hu).trans hv, hvw⟩
    | some u =>
      have hfits := hx.fits hslot hv
      have hfits'' := hz.fits hslot hu
      refine ⟨v.mergeValue u, ?_, ?_⟩
      · rw [find?_mergeFields_of_some distinct'' hu, hv, Option.elim_some]
      · refine hfits.mergeValue_mergeValue_of_eq_self hfits' hfits''
          (fun y hy z hz x hx hid hid' => ?_) hvw
        exact ih key y slot ⟨w, hw, hy⟩ hslot (hfits''.2 z hz) (hfits.2 x hx) hid hid'

/-- Of itself an object of a row takes nothing up. -/
theorem takeUp_self {label : Label} {slots : List (String × Slot)}
    (hx : Admits Single (.node label slots) x) : x.takeUp x = x := by
  obtain ⟨fields, rfl, distinct⟩ := hx.exists_fields
  rw [takeUp_object, (mergeFields_eq_self_iff distinct).2 fun key w hw => ?_]
  obtain ⟨slot, -, hfits⟩ := hx.exists_fits hw
  exact ⟨w, hw, hfits.mergeValue_self⟩

/-- If an object takes nothing up from another one, its fields take nothing up from the items that
the other one holds. -/
theorem exists_enlist_eq_self {label : Label} {slots : List (String × Slot)} {key : String}
    (hx : Admits Gathered (.node label slots) x) (hy : Admits Single (.node label slots) y)
    (h : x.takeUp y = x) (hz : y.Holds key z) :
    ∃ v, Fields.find? key x.fields = some v ∧ enlist z v.items = v.items := by
  obtain ⟨w, hw, hz⟩ := hz
  obtain ⟨fields, rfl, -⟩ := hx.exists_fields
  obtain ⟨additions, rfl, distinct'⟩ := hy.exists_fields
  rw [takeUp_object] at h
  obtain ⟨v, hv, hvw⟩ := (mergeFields_eq_self_iff distinct').1 (Instance.object.inj h).2 key w hw
  obtain ⟨slot, hslot, hfits⟩ := hx.exists_fits hv
  obtain ⟨item, rfl, hitems, hitem⟩ := (hy.fits hslot hw).exists_item
  rw [hitems] at hz
  obtain rfl := List.mem_singleton.1 hz
  exact ⟨v, hv, (hfits.mergeValue_eq_self_iff hitem).1 hvw⟩

/-! ### Rows -/

/-- Objects joined in turn absorb each of them that has an identity. -/
theorem absorbed_joinAll (hitems : ∀ y ∈ items, Admits Single slot y) (hy : y ∈ items)
    (hid : y.anchorValue? ≠ none) : Absorbed y (joinAll items) := by
  induction items using List.reverseRecOn with
  | nil => cases hy
  | append_singleton items z ih =>
    have hitems' : ∀ y ∈ items, Admits Single slot y := fun y hy =>
      hitems y (List.mem_append_left _ hy)
    have hadmits := (admits_joinAll hitems').1
    have hadmitsy := hitems y hy
    have hadmitsz : Admits Single slot z := hitems z (by simp)
    have hstep := joined z (joinAll items)
    rw [joinAll_concat]
    rcases List.mem_append.1 hy with hy | hy
    · exact absorbed_of_joined_of_absorbed hstep (ih hitems' hy) hadmits hadmitsz
        fun x hx same same' => takeUp_takeUp_of_eq_self hadmitsy hadmitsz (hadmits x hx) same same'
    · obtain rfl := List.mem_singleton.1 hy
      exact absorbed_of_joined hstep hid hadmits hadmitsz
        fun x hx same => takeUp_takeUp_self hadmitsz (hadmits x hx) same

end Template

/-- Rows that are merged again change nothing: neither an entry nor the order of entries, fields or
items. -/
theorem mergeEntities_replayed {document : Json} (hdocument : document.WellFormed)
    {compiled : CompiledQuery} (h : (compile document).outcome = .ok compiled)
    (options : DecodeOptions) (rows replayed : List Row)
    (hreplayed : ∀ row ∈ replayed, row ∈ rows ∧
      (decodeRow options compiled.template row).anchorValue? ≠ none) :
    mergeEntities ((rows ++ replayed).map (decodeRow options compiled.template)) =
      mergeEntities (rows.map (decodeRow options compiled.template)) := by
  have hsound := Template.sound_of_compile hdocument h
  -- one replayed row
  have hone : ∀ row ∈ replayed, (decodeRow options compiled.template row).addTo
      (mergeEntities (rows.map (decodeRow options compiled.template))) =
        mergeEntities (rows.map (decodeRow options compiled.template)) := by
    intro row hrow
    obtain ⟨hmem, hid⟩ := hreplayed row hrow
    refine List.map_injective_iff.2 Entity.toInstance_injective ?_
    rw [Entity.addTo_toInstance, mergeEntities_toInstance]
    exact Instance.join_eq_self_of_absorbed (Template.absorbed_joinAll
      (Template.admits_of_mem_decoded hsound) (List.mem_map_of_mem (List.mem_map_of_mem hmem)) hid)
  have hall : mergeEntities ((rows ++ replayed).map (decodeRow options compiled.template)) =
      (replayed.map (decodeRow options compiled.template)).foldl
        (fun merged addition => addition.addTo merged)
        (mergeEntities (rows.map (decodeRow options compiled.template))) := by
    rw [List.map_append, mergeEntities, List.foldl_append, mergeEntities]
  rw [hall]
  clear hreplayed hall
  induction replayed with
  | nil => rfl
  | cons row rest ih =>
    rw [List.map_cons, List.foldl_cons, hone row List.mem_cons_self]
    exact ih fun row hrow => hone row (List.mem_cons_of_mem _ hrow)

theorem mergeEntities_replayed_places :
    (Places.document.WellFormed ∧ (compile Places.document).outcome = .ok Places.compiled ∧
      ∀ row ∈ (Places.rows.take 2).reverse, row ∈ Places.rows ∧
        (decodeRow ⟨.shown, .plain⟩ Places.compiled.template row).anchorValue? ≠ none) ∧
      mergeEntities ((Places.rows ++ (Places.rows.take 2).reverse).map
          (decodeRow ⟨.shown, .plain⟩ Places.compiled.template)) =
        mergeEntities (Places.rows.map (decodeRow ⟨.shown, .plain⟩ Places.compiled.template)) := by
  have hreplayed : ∀ row ∈ (Places.rows.take 2).reverse, row ∈ Places.rows ∧
      (decodeRow ⟨.shown, .plain⟩ Places.compiled.template row).anchorValue? ≠ none := by
    intro row hrow
    refine ⟨List.mem_of_mem_take (List.mem_reverse.1 hrow), ?_⟩
    rcases List.mem_cons.1 hrow with rfl | hrow
    · exact Option.some_ne_none (Instance.ofText "harbour")
    · obtain rfl := List.mem_singleton.1 hrow
      exact Option.some_ne_none (Instance.ofText "harbour")
  exact ⟨⟨Places.wellFormed_document, Places.outcome_document, hreplayed⟩,
    mergeEntities_replayed Places.wellFormed_document Places.outcome_document _ _ _ hreplayed⟩

end QueryByExample
