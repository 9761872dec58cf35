import QueryByExample.Proofs.Answer.Provenance
/-!
# The order of rows

Rows in another order give the same merged objects up to order, if no two integers among their
values have the same double. A merged object is made of the objects of its rows: it absorbs each of
them, and each way into it comes from one of them. Two objects that are made of the same ones agree,
which is proved level by level: what is held under a key is made of what is held there by the rows.

Without the condition on integers equality is not transitive, and then the first arrival decides
which values are equal.

## Main definitions

- `Instance.Agrees`: equality up to the order of fields and items.
- `Instance.Alike`: items that take the same place in a list.
- `Instance.MadeOf`: an object absorbs some objects and comes from them.

## Main statements

- `Template.agrees_of_madeOf`: objects made of the same ones agree.
- `mergeEntities_perm`: the order of rows does not matter.
-/

namespace QueryByExample

namespace Instance

variable {x y z : Instance} {key : String} {D : Set Instance} {I : Set Int}

mutual

/-- Two objects have the same keys, and their fields agree. -/
inductive Agrees : Instance → Instance → Prop where
  | fields {x y : Instance}
      (keys : ∀ key, key ∈ Fields.names x.fields ↔ key ∈ Fields.names y.fields)
      (fields : ∀ key v w, Fields.find? key x.fields = some v → Fields.find? key y.fields = some w →
        AgreesField v w) : Agrees x y

/-- Both fields are single values or both are lists, and their items match in some order. -/
inductive AgreesField : Instance → Instance → Prop where
  | items {v w : Instance} {matched : List Instance} (form : v.isList = w.isList)
      (items : List.Forall₂ AgreesItem v.items matched) (perm : matched.Perm w.items) :
      AgreesField v w

/-- Objects with an identity have the same one and agree; other items are equal. -/
inductive AgreesItem : Instance → Instance → Prop where
  | same {x y : Instance} (hx : x.anchorValue? = none) (hy : y.anchorValue? = none)
      (h : x.same y = true) : AgreesItem x y
  | entity {x y : Instance} (hid : x.sameEntity y = true) (h : Agrees x y) : AgreesItem x y

end

/-! ### What items are told apart by -/

/-- The identity of an item or, without one, the item itself. -/
def mark (x : Instance) : Instance := x.anchorValue?.getD x

/-- Two items have the same identity, or have none and are equal. -/
def Alike (x y : Instance) : Prop :=
  (x.anchorValue? = none ↔ y.anchorValue? = none) ∧ x.mark.same y.mark = true

theorem alike_iff : Alike x y ↔
    x.sameEntity y = true ∨ x.anchorValue? = none ∧ y.anchorValue? = none ∧ x.same y = true := by
  unfold Alike mark sameEntity
  cases x.anchorValue? with
  | none =>
    cases y.anchorValue? with
    | none => simp
    | some b => simp
  | some a =>
    cases y.anchorValue? with
    | none => simp
    | some b => simp

theorem WellFormed.mark (h : x.WellFormed) : x.mark.WellFormed := by
  cases hid : x.anchorValue? with
  | none => simpa [Instance.mark, hid] using h
  | some a =>
    have ha : a.WellFormed := by
      cases h with
      | @object anchor? _ _ hfields =>
        cases anchor? with
        | none => cases hid
        | some key => exact hfields key a (Fields.mem_of_find? hid)
      | _ => cases hid
    simpa [Instance.mark, hid] using ha

theorem integers_mark_subset : x.mark.integers ⊆ x.integers := by
  cases hid : x.anchorValue? with
  | none => simp [Instance.mark, hid]
  | some a =>
    intro i hi
    simp only [Instance.mark, hid, Option.getD_some] at hi
    cases x with
    | object anchor? fields =>
      cases anchor? with
      | none => cases hid
      | some key => exact mem_integers_object_iff.2 ⟨_, Fields.mem_of_find? hid, hi⟩
    | _ => cases hid

theorem Holds.integers_subset (h : x.Holds key z) : z.integers ⊆ x.integers := by
  obtain ⟨v, hv, hz⟩ := h
  intro i hi
  cases x with
  | object anchor? fields =>
    refine mem_integers_object_iff.2 ⟨_, Fields.mem_of_find? hv, ?_⟩
    cases v with
    | list items => exact mem_integers_list_iff.2 ⟨z, hz, hi⟩
    | _ => exact List.mem_singleton.1 hz ▸ hi
  | _ => cases hv

theorem Alike.symm (hx : x.WellFormed) (hy : y.WellFormed) (h : Alike x y) : Alike y x :=
  ⟨h.1.symm, same_symm hx.mark hy.mark h.2⟩

/-- Being alike is transitive between items whose marks hold exact integers. -/
theorem Alike.trans (hexact : Set.InjOn Binary64.ofInt I) (hx : x.WellFormed) (hy : y.WellFormed)
    (hz : z.WellFormed) (hxI : x.mark.integers ⊆ I) (hzI : z.mark.integers ⊆ I) (hxy : Alike x y)
    (hyz : Alike y z) : Alike x z :=
  ⟨hxy.1.trans hyz.1, same_trans hexact hx.mark hy.mark hz.mark hxI hzI hxy.2 hyz.2⟩

theorem Alike.sameEntity (h : Alike x y) (hid : x.anchorValue? ≠ none) : x.sameEntity y = true :=
  (alike_iff.1 h).resolve_right fun hnone => hid hnone.1

/-- Items of a field are not alike. -/
theorem Gathered.pairwise_alike {flag : Bool} {v : Instance} (hv : Gathered flag v) :
    v.items.Pairwise fun x y => ¬ Alike x y := by
  refine (hv.unequal.and hv.apart).imp fun hne halike => ?_
  rcases alike_iff.1 halike with hid | ⟨-, -, hsame⟩
  · rw [hne.2] at hid; cases hid
  · rw [hne.1] at hsame; cases hsame

theorem Gathered.eq_of_alike {flag : Bool} {v : Instance} (hv : Gathered flag v) (hx : x ∈ v.items)
    (hy : y ∈ v.items) (hxwf : x.WellFormed) (hywf : y.WellFormed) (h : Alike x y) : x = y :=
  Position.eq_of_pairwise hv.pairwise_alike hx hy (not_not_intro h)
    (not_not_intro (h.symm hxwf hywf))

theorem sameEntity_symm (hx : x.WellFormed) (hy : y.WellFormed) (h : x.sameEntity y = true) :
    y.sameEntity x = true :=
  ((alike_iff.2 (Or.inl h)).symm hx hy).sameEntity (anchorValue?_ne_none_of_sameEntity h).2

/-- Having the same identity is transitive between objects whose identities hold exact integers. -/
theorem sameEntity_trans (hexact : Set.InjOn Binary64.ofInt I) (hx : x.WellFormed)
    (hy : y.WellFormed) (hz : z.WellFormed) (hxI : x.mark.integers ⊆ I) (hzI : z.mark.integers ⊆ I)
    (hxy : x.sameEntity y = true) (hyz : y.sameEntity z = true) : x.sameEntity z = true :=
  ((alike_iff.2 (Or.inl hxy)).trans hexact hx hy hz hxI hzI (alike_iff.2 (Or.inl hyz))).sameEntity
    (anchorValue?_ne_none_of_sameEntity hxy).1

/-- Whether a field is a list depends on its slot and the number of its items. -/
theorem Gathered.isList_eq {flag : Bool} {v : Instance} (hv : Gathered flag v) :
    v.isList = (flag || decide (2 ≤ v.items.length)) := by
  cases flag with
  | true => exact hv.isList rfl
  | false =>
    cases hlist : v.isList with
    | true => simp [hv.two_le rfl hlist]
    | false => simp [items_of_isList_eq_false hlist]

theorem AgreesItem.alike (h : AgreesItem x y) : Alike x y := by
  cases h with
  | same hx hy h => exact alike_iff.2 (Or.inr ⟨hx, hy, h⟩)
  | entity hid => exact alike_iff.2 (Or.inl hid)

theorem Corresponds.alike {source : Instance} (h : Corresponds (key, z) (key, source))
    (hz : z.WellFormed) : Alike z source := by
  refine alike_iff.2 ?_
  by_cases hid : z.anchorValue? = none
  · obtain rfl : z = source := h.plain hid
    exact Or.inr ⟨hid, hid, same_self hz⟩
  · exact Or.inl (h.entity hid)

/-- An object absorbs some objects, and every way into it matches a way into one of them. -/
structure MadeOf (D : Set Instance) (x : Instance) : Prop where
  sourced : Sourced D x
  absorbs : ∀ d ∈ D, x.takeUp d = x

/-- What is held comes from something alike. -/
theorem Sourced.exists_alike (h : Sourced D x) (hz : x.Holds key z) (hwf : z.WellFormed) :
    ∃ d ∈ D, ∃ o, d.Holds key o ∧ Alike z o := by
  obtain ⟨d, hd, source, hsource, hmatch⟩ := h [(key, z)] ⟨hz, trivial⟩
  cases hmatch with
  | @cons _ step _ _ hstep hrest =>
    obtain ⟨key', o⟩ := step
    obtain rfl : key = key' := hstep.key
    exact ⟨d, hd, o, hsource.1, hstep.alike hwf⟩

end Instance

namespace Template

open Instance

variable {form : Bool → Instance → Prop} {slot : Slot} {label : Label}
  {slots : List (String × Slot)} {x y z : Instance} {items : List Instance} {key : String}
  {D : Set Instance} {I : Set Int}

/-- Objects of rows whose integers are among the given ones. -/
def FromRows (I : Set Int) (slot : Slot) (D : Set Instance) : Prop :=
  ∀ d ∈ D, Admits Single slot d ∧ d.integers ⊆ I

theorem FromRows.admits (hD : FromRows I slot D) : ∀ d ∈ D, Admits Single slot d :=
  fun d hd => (hD d hd).1

theorem FromRows.integers (hD : FromRows I slot D) : ∀ d ∈ D, d.integers ⊆ I :=
  fun d hd => (hD d hd).2

/-- What such objects hold under a key are such objects. -/
theorem FromRows.heldWith (hD : FromRows I (.node label slots) D)
    (hslot : Fields.find? key slots = some slot) : FromRows I slot (heldWith D key z) := by
  rintro o ⟨d, hd, hdo, -⟩
  obtain ⟨hadmits, hintegers⟩ := hD d hd
  exact ⟨hadmits.of_holds hslot hdo, hdo.integers_subset.trans hintegers⟩

/-- The identity of an object occurs in the objects it comes from. -/
theorem integers_mark_of_sourced (hD : ∀ d ∈ D, d.integers ⊆ I) (hx : Admits form slot x)
    (h : Sourced D x) (hid : x.anchorValue? ≠ none) : x.mark.integers ⊆ I := by
  obtain ⟨a, ha⟩ := Option.ne_none_iff_exists'.1 hid
  have hatom := hx.isAtom_anchorValue ha
  cases x with
  | object anchor? fields =>
    cases anchor? with
    | none => cases ha
    | some key =>
      have hholds : (Instance.object (some key) fields).Holds key a :=
        ⟨a, ha, by simp [items_of_isList_eq_false hatom.isList]⟩
      obtain ⟨d, hd, hda⟩ := h.exists_holds hholds hatom.anchorValue?
      have hmark : (Instance.object (some key) fields).mark = a := by simp [mark, ha]
      rw [hmark]
      exact hda.integers_subset.trans (hD d hd)
  | _ => cases ha

/-- What tells an item apart occurs in the objects from which its object comes. -/
theorem integers_mark_of_holds (hD : ∀ d ∈ D, d.integers ⊆ I) (hz : Admits form slot z)
    (h : Sourced D x) (hxz : x.Holds key z) : z.mark.integers ⊆ I := by
  by_cases hid : z.anchorValue? = none
  · obtain ⟨d, hd, hdz⟩ := h.exists_holds hxz hid
    have hmark : z.mark = z := by simp [mark, hid]
    rw [hmark]
    exact hdz.integers_subset.trans (hD d hd)
  · refine integers_mark_of_sourced (fun o ho => ?_) hz (h.nested hxz hid) hid
    obtain ⟨d, hd, hdo, -⟩ := ho
    exact hdo.integers_subset.trans (hD d hd)

/-- An item that is not added is alike to one that is there. -/
theorem exists_alike_of_enlist_eq_self (hitems : ∀ x ∈ items, Admits Gathered slot x)
    (hy : Admits Single slot y) (h : enlist y items = items) : ∃ x ∈ items, Alike x y := by
  rcases enlist_eq_self_iff.1 h with ⟨index, x, first, found, -⟩ | ⟨new, x, hx, hsame⟩
  · have same := Position.prop_of_findIdx? first found
    exact ⟨x, List.mem_of_getElem? found, alike_iff.2 (Or.inl same)⟩
  · have hnone := (hitems x hx).anchorValue?_eq_none_of_same hy hsame
      (List.findIdx?_eq_none_iff.1 new x hx)
    exact ⟨x, hx, alike_iff.2 (Or.inr ⟨hnone.1, hnone.2, hsame⟩)⟩

section Level

/-! ### One level

Two objects are made of the same objects of rows. -/

variable (hexact : Set.InjOn Binary64.ofInt I) (hx : Admits Gathered (.node label slots) x)
  (hy : Admits Gathered (.node label slots) y) (hD : FromRows I (.node label slots) D)
  (hxD : MadeOf D x) (hyD : MadeOf D y)

include hexact hx hD hxD in
/-- An item with an identity is made of what the objects hold in its place. -/
theorem madeOf_heldWith (hz : x.Holds key z) (hid : z.anchorValue? ≠ none) :
    MadeOf (heldWith D key z) z := by
  refine ⟨hxD.sourced.nested hz hid, ?_⟩
  rintro o ⟨d, hd, hdo, hzo⟩
  have hdslot := hD.admits d hd
  obtain ⟨v, hv, henlist⟩ := exists_enlist_eq_self hx hdslot (hxD.absorbs d hd) hdo
  obtain ⟨v', hv', hz⟩ := hz
  obtain rfl := Option.some.inj (hv.symm.trans hv')
  obtain ⟨slot, hslot, hfits⟩ := hx.exists_fits hv
  rcases enlist_eq_self_iff.1 henlist with ⟨index, z', first, found, htake⟩ | ⟨new, -⟩
  · have same := Position.prop_of_findIdx? first found
    have hz' := List.mem_of_getElem? found
    have hwf := (hfits.2 z hz).wellFormed
    have hwf' := (hfits.2 z' hz').wellFormed
    have howf := (hdslot.of_holds hslot hdo).wellFormed
    -- the item that absorbs what is held there is the given one
    have halike : Alike z z' :=
      (alike_iff.2 (Or.inl hzo)).trans hexact hwf howf hwf'
        (integers_mark_of_holds hD.integers (hfits.2 z hz) hxD.sourced ⟨v, hv, hz⟩)
        (integers_mark_of_holds hD.integers (hfits.2 z' hz') hxD.sourced ⟨v, hv, hz'⟩)
        ((alike_iff.2 (Or.inl same)).symm hwf' howf)
    obtain rfl := hfits.1.eq_of_alike hz hz' hwf hwf' halike
    exact htake
  · have hne := List.findIdx?_eq_none_iff.1 new z hz
    rw [hzo] at hne
    cases hne

include hexact hx hy hD hyD in
/-- Items with the same identity are made of the same objects. -/
theorem heldWith_subset {z' : Instance} (hz : x.Holds key z) (hz' : y.Holds key z')
    (hid : z'.anchorValue? ≠ none) (h : Alike z z') : heldWith D key z ⊆ heldWith D key z' := by
  rintro o ⟨d, hd, hdo, hzo⟩
  obtain ⟨slot, hslot, hzslot⟩ := hx.exists_slot_of_holds hz
  have hzslot' := hy.of_holds hslot hz'
  have hoslot := (hD.admits d hd).of_holds hslot hdo
  have halike : Alike z' o :=
    (h.symm hzslot.wellFormed hzslot'.wellFormed).trans hexact hzslot'.wellFormed
      hzslot.wellFormed hoslot.wellFormed
      (integers_mark_of_holds hD.integers hzslot' hyD.sourced hz')
      (integers_mark_subset.trans (hdo.integers_subset.trans (hD.integers d hd)))
      (alike_iff.2 (Or.inl hzo))
  exact ⟨d, hd, hdo, halike.sameEntity hid⟩

include hexact hx hy hD hxD in
/-- Items of one object that are alike to the same item of the other one are the same. -/
theorem alike_of_alike {z' z'' : Instance} (hz : x.Holds key z) (hz' : x.Holds key z')
    (hz'' : y.Holds key z'') (h : Alike z z'') (h' : Alike z' z'') : Alike z z' := by
  obtain ⟨slot, hslot, hzslot⟩ := hx.exists_slot_of_holds hz
  have hzslot' := hx.of_holds hslot hz'
  have hwf := (hy.of_holds hslot hz'').wellFormed
  exact h.trans hexact hzslot.wellFormed hwf hzslot'.wellFormed
    (integers_mark_of_holds hD.integers hzslot hxD.sourced hz)
    (integers_mark_of_holds hD.integers hzslot' hxD.sourced hz') (h'.symm hzslot'.wellFormed hwf)

include hexact hx hy hD hxD hyD in
/-- What one of them holds is alike to something that the other one holds. -/
theorem exists_alike_of_holds (hz : x.Holds key z) : ∃ z', y.Holds key z' ∧ Alike z z' := by
  obtain ⟨slot, hslot, hzslot⟩ := hx.exists_slot_of_holds hz
  obtain ⟨d, hd, o, hdo, hzo⟩ := hxD.sourced.exists_alike hz hzslot.wellFormed
  have hdslot := hD.admits d hd
  have hoslot := hdslot.of_holds hslot hdo
  obtain ⟨w, hw, henlist⟩ := exists_enlist_eq_self hy hdslot (hyD.absorbs d hd) hdo
  have hitems : ∀ z' ∈ w.items, Admits Gathered slot z' := fun z' hz' =>
    hy.of_holds hslot ⟨w, hw, hz'⟩
  obtain ⟨z', hz', hzo'⟩ := exists_alike_of_enlist_eq_self hitems hoslot henlist
  have hyz' : y.Holds key z' := ⟨w, hw, hz'⟩
  have hintegers := integers_mark_of_holds hD.integers hzslot hxD.sourced hz
  have hintegers' := integers_mark_of_holds hD.integers (hitems z' hz') hyD.sourced hyz'
  exact ⟨z', hyz', hzo.trans hexact hzslot.wellFormed hoslot.wellFormed (hitems z' hz').wellFormed
    hintegers hintegers' (hzo'.symm (hitems z' hz').wellFormed hoslot.wellFormed)⟩

include hexact hx hy hD hxD hyD in
theorem mem_names_of_mem_names (h : key ∈ Fields.names x.fields) : key ∈ Fields.names y.fields := by
  obtain ⟨v, hv⟩ := Fields.mem_names_iff.1 h
  obtain ⟨slot, -, hfits⟩ := hx.exists_fits hv
  obtain ⟨z, hz⟩ := List.exists_mem_of_ne_nil _ hfits.1.nonempty
  obtain ⟨z', ⟨w, hw, -⟩, -⟩ := exists_alike_of_holds hexact hx hy hD hxD hyD ⟨v, hv, hz⟩
  exact Fields.mem_names_of_find? hw

include hexact hx hy hD hxD hyD in
/-- Fields agree if alike items do. -/
theorem agreesField_of_alike {v w : Instance} (hv : Fields.find? key x.fields = some v)
    (hw : Fields.find? key y.fields = some w)
    (hagrees : ∀ z z', x.Holds key z → y.Holds key z' → Alike z z' → AgreesItem z z') :
    AgreesField v w := by
  obtain ⟨slot, hslot, hfits⟩ := hx.exists_fits hv
  have hfits' := hy.fits hslot hw
  have hxv : ∀ z ∈ v.items, x.Holds key z := fun z hz => ⟨v, hv, hz⟩
  have hyw : ∀ z ∈ w.items, y.Holds key z := fun z hz => ⟨w, hw, hz⟩
  have hwf : ∀ z ∈ v.items, z.WellFormed := fun z hz => (hfits.2 z hz).wellFormed
  have hwf' : ∀ z ∈ w.items, z.WellFormed := fun z hz => (hfits'.2 z hz).wellFormed
  obtain ⟨matched, hmatched, hperm⟩ : ∃ matched, List.Forall₂ AgreesItem v.items matched ∧
      matched.Perm w.items := by
    refine Position.exists_perm_of_partners (fun z hz => ?_) (fun z' hz' => ?_) ?_ ?_
    · obtain ⟨z', ⟨w', hw', hz'⟩, halike⟩ :=
        exists_alike_of_holds hexact hx hy hD hxD hyD (hxv z hz)
      obtain rfl := Option.some.inj (hw.symm.trans hw')
      exact ⟨z', hz', hagrees z z' (hxv z hz) (hyw z' hz') halike⟩
    · obtain ⟨z, ⟨v', hv', hz⟩, halike⟩ :=
        exists_alike_of_holds hexact hy hx hD hyD hxD (hyw z' hz')
      obtain rfl := Option.some.inj (hv.symm.trans hv')
      exact ⟨z, hz, hagrees z z' (hxv z hz) (hyw z' hz') (halike.symm (hwf' z' hz') (hwf z hz))⟩
    · -- items of one field are not alike, so no two have the same partner
      refine hfits.1.pairwise_alike.imp_of_mem fun hz₁ hz₂ hne z' hz' h₁ h₂ => hne ?_
      exact alike_of_alike hexact hx hy hD hxD (hxv _ hz₁) (hxv _ hz₂) (hyw z' hz') h₁.alike
        h₂.alike
    · refine hfits'.1.pairwise_alike.imp_of_mem fun hz₁ hz₂ hne z hz h₁ h₂ => hne ?_
      exact alike_of_alike hexact hy hx hD hyD (hyw _ hz₁) (hyw _ hz₂) (hxv z hz)
        (h₁.alike.symm (hwf z hz) (hwf' _ hz₁)) (h₂.alike.symm (hwf z hz) (hwf' _ hz₂))
  have hlength : v.items.length = w.items.length := hmatched.length_eq.trans hperm.length_eq
  exact .items (by rw [hfits.1.isList_eq, hfits'.1.isList_eq, hlength]) hmatched hperm

end Level

/-- Objects that are made of the same objects of rows agree. -/
theorem agrees_of_madeOf (hexact : Set.InjOn Binary64.ofInt I)
    (hx : Admits Gathered (.node label slots) x) (hy : Admits Gathered (.node label slots) y)
    (hD : FromRows I (.node label slots) D) (hxD : MadeOf D x) (hyD : MadeOf D y) : Agrees x y := by
  generalize hnode : Shape.node label slots = slot at hx
  induction hx using Admits.induction_holds generalizing label slots y D with
  | plain slot x hx hne => exact absurd hnode.symm (hne label slots)
  | node label' slots' x hx ih =>
    obtain ⟨rfl, rfl⟩ := Shape.node.inj hnode
    -- alike items with an identity are made of the same objects, so the hypothesis applies to them
    have hagrees : ∀ key z z', x.Holds key z → y.Holds key z' → Alike z z' → AgreesItem z z' := by
      intro key z z' hz hz' halike
      by_cases hid : z.anchorValue? = none
      · rcases alike_iff.1 halike with hsame | ⟨-, hid', hsame⟩
        · exact absurd hid (anchorValue?_ne_none_of_sameEntity hsame).1
        · exact .same hid hid' hsame
      · have hid' : z'.anchorValue? ≠ none := fun hnone => hid (halike.1.2 hnone)
        obtain ⟨slot, hslot, hzslot⟩ := hx.exists_slot_of_holds hz
        obtain ⟨label', slots', rfl⟩ := hzslot.exists_node hid
        have hzslot' := hy.of_holds hslot hz'
        have hsets : heldWith D key z = heldWith D key z' :=
          Set.Subset.antisymm (heldWith_subset hexact hx hy hD hyD hz hz' hid' halike)
            (heldWith_subset hexact hy hx hD hxD hz' hz hid
              (halike.symm hzslot.wellFormed hzslot'.wellFormed))
        have hmade := madeOf_heldWith hexact hx hD hxD hz hid
        have hmade' := madeOf_heldWith hexact hy hD hyD hz' hid'
        rw [← hsets] at hmade'
        exact .entity (halike.sameEntity hid)
          (ih key z _ hz hslot hzslot' (hD.heldWith hslot) hmade hmade' rfl)
    refine .fields (fun key => ⟨?_, ?_⟩) fun key v w hv hw =>
      agreesField_of_alike hexact hx hy hD hxD hyD hv hw (hagrees key)
    · exact mem_names_of_mem_names hexact hx hy hD hxD hyD
    · exact mem_names_of_mem_names hexact hy hx hD hyD hxD

/-! ### Joined objects -/

section Joined

variable {items' : List Instance} {x' : Instance} (hexact : Set.InjOn Binary64.ofInt I)
  (hitems : FromRows I (.node label slots) {y | y ∈ items})

include hitems in
theorem integers_mark_joinAll (hx : x ∈ joinAll items) (hid : x.anchorValue? ≠ none) :
    x.mark.integers ⊆ I := by
  have hadmits := (admits_joinAll hitems.admits).1 x hx
  obtain ⟨index, hindex⟩ := List.mem_iff_getElem?.1 hx
  exact integers_mark_of_sourced (fun y hy => hitems.integers y hy.1) hadmits
    (sourced_joinAll hitems.admits hindex hid) hid

include hexact hitems in
theorem sameEntity_of_sameEntity (hx : x ∈ joinAll items) (hx' : x' ∈ joinAll items)
    (hy : y.WellFormed) (h : x.sameEntity y = true) (h' : x'.sameEntity y = true) :
    x.sameEntity x' = true := by
  have hadmits := (admits_joinAll hitems.admits).1
  have hwf' := (hadmits x' hx').wellFormed
  exact sameEntity_trans hexact (hadmits x hx).wellFormed hy hwf'
    (integers_mark_joinAll hitems hx (anchorValue?_ne_none_of_sameEntity h).1)
    (integers_mark_joinAll hitems hx' (anchorValue?_ne_none_of_sameEntity h').1) h
    (sameEntity_symm hwf' hy h')

include hexact hitems in
/-- Joined objects with the identity of the same object are the same. -/
theorem eq_of_sameEntity (hx : x ∈ joinAll items) (hx' : x' ∈ joinAll items) (hy : y.WellFormed)
    (h : x.sameEntity y = true) (h' : x'.sameEntity y = true) : x = x' := by
  have hapart := (admits_joinAll hitems.admits).2
  have hsame := sameEntity_of_sameEntity hexact hitems hx hx' hy h h'
  have hsame' := sameEntity_of_sameEntity hexact hitems hx' hx hy h' h
  exact Position.eq_of_pairwise hapart hx hx' (by simp [hsame]) (by simp [hsame'])

include hexact hitems in
/-- A joined object with an identity is made of the objects that have its identity. -/
theorem madeOf_joinAll (hx : x ∈ joinAll items) (hid : x.anchorValue? ≠ none) :
    MadeOf {y | y ∈ items ∧ x.sameEntity y = true} x := by
  constructor
  · obtain ⟨index, hindex⟩ := List.mem_iff_getElem?.1 hx
    refine (sourced_joinAll hitems.admits hindex hid).mono ?_
    rintro y ⟨hy, hbelongs⟩
    have same := Position.prop_of_findIdx? hbelongs hindex
    exact ⟨hy, same⟩
  · rintro y ⟨hy, same⟩
    have hidy := (anchorValue?_ne_none_of_sameEntity same).2
    obtain ⟨index, x', first, found, htake⟩ := absorbed_joinAll hitems.admits hy hidy
    have same' := Position.prop_of_findIdx? first found
    obtain rfl := eq_of_sameEntity hexact hitems hx (List.mem_of_getElem? found)
      (hitems.admits y hy).wellFormed same same'
    exact htake

/-! ### Two orders -/

variable (hitems' : FromRows I (.node label slots) {y | y ∈ items'}) (hperm : items.Perm items')

include hexact hitems hitems' hperm in
theorem exists_sameEntity_joinAll (hx : x ∈ joinAll items) (hid : x.anchorValue? ≠ none) :
    ∃ x' ∈ joinAll items', x.sameEntity x' = true := by
  -- some object has the identity, and the other run has absorbed it
  obtain ⟨y, ⟨hy, same⟩, -⟩ := (madeOf_joinAll hexact hitems hx hid).sourced [] trivial
  have hidy := (anchorValue?_ne_none_of_sameEntity same).2
  obtain ⟨index, x', first, found, -⟩ := absorbed_joinAll hitems'.admits (hperm.subset hy) hidy
  have same' := Position.prop_of_findIdx? first found
  have hx' := List.mem_of_getElem? found
  have hwf := ((admits_joinAll hitems.admits).1 x hx).wellFormed
  have hwf' := ((admits_joinAll hitems'.admits).1 x' hx').wellFormed
  have hwfy := (hitems.admits y hy).wellFormed
  have hsame : x.sameEntity x' = true :=
    sameEntity_trans hexact hwf hwfy hwf' (integers_mark_joinAll hitems hx hid)
      (integers_mark_joinAll hitems' hx' (anchorValue?_ne_none_of_sameEntity same').1) same
      (sameEntity_symm hwf' hwfy same')
  exact ⟨x', hx', hsame⟩

include hexact hitems hitems' hperm in
theorem sameEntity_subset (hx : x ∈ joinAll items) (hx' : x' ∈ joinAll items')
    (h : x.sameEntity x' = true) :
    {y | y ∈ items ∧ x.sameEntity y = true} ⊆ {y | y ∈ items' ∧ x'.sameEntity y = true} := by
  rintro y ⟨hy, same⟩
  have hwf := ((admits_joinAll hitems.admits).1 x hx).wellFormed
  have hwf' := ((admits_joinAll hitems'.admits).1 x' hx').wellFormed
  have hyI : y.mark.integers ⊆ I := integers_mark_subset.trans (hitems.integers y hy)
  refine ⟨hperm.subset hy, sameEntity_trans hexact hwf' hwf (hitems.admits y hy).wellFormed ?_ hyI
    (sameEntity_symm hwf hwf' h) same⟩
  exact integers_mark_joinAll hitems' hx' (anchorValue?_ne_none_of_sameEntity h).2

include hexact hitems hitems' hperm in
/-- Objects with the same identity that are joined in different orders agree. -/
theorem agrees_of_sameEntity (hx : x ∈ joinAll items) (hx' : x' ∈ joinAll items')
    (h : x.sameEntity x' = true) : Agrees x x' := by
  obtain ⟨hid, hid'⟩ := anchorValue?_ne_none_of_sameEntity h
  have hadmits := (admits_joinAll hitems.admits).1 x hx
  have hadmits' := (admits_joinAll hitems'.admits).1 x' hx'
  have hmade := madeOf_joinAll hexact hitems hx hid
  have hmade' := madeOf_joinAll hexact hitems' hx' hid'
  have hsame : {y | y ∈ items' ∧ x'.sameEntity y = true} =
      {y | y ∈ items ∧ x.sameEntity y = true} :=
    Set.Subset.antisymm
      (sameEntity_subset hexact hitems' hitems hperm.symm hx' hx
        (sameEntity_symm hadmits.wellFormed hadmits'.wellFormed h))
      (sameEntity_subset hexact hitems hitems' hperm hx hx' h)
  rw [hsame] at hmade'
  exact agrees_of_madeOf hexact hadmits hadmits' (fun y hy => hitems y hy.1) hmade hmade'

/-- An object of a row agrees with itself. -/
theorem agrees_self (hexact : Set.InjOn Binary64.ofInt I)
    (hx : Admits Single (.node label slots) x) (hxI : x.integers ⊆ I) : Agrees x x := by
  have hgathered : Admits Gathered (.node label slots) x := hx.mono fun _ _ => Single.gathered
  have hmade : MadeOf {x} x :=
    ⟨sourced_self hx.wellFormed rfl, fun y hy => by rw [Set.mem_singleton_iff.1 hy, takeUp_self hx]⟩
  refine agrees_of_madeOf hexact hgathered hgathered (fun y hy => ?_) hmade hmade
  obtain rfl := Set.mem_singleton_iff.1 hy
  exact ⟨hx, hxI⟩

include hexact hitems hitems' hperm in
/-- Joined objects with an identity match by it. -/
theorem filter_joinAll_perm :
    ∃ matched, List.Forall₂ Agrees ((joinAll items).filter (·.anchorValue?.isSome)) matched ∧
      matched.Perm ((joinAll items').filter (·.anchorValue?.isSome)) := by
  obtain ⟨hadmits, hapart⟩ := admits_joinAll hitems.admits
  obtain ⟨hadmits', hapart'⟩ := admits_joinAll hitems'.admits
  have hmatch : ∃ matched, List.Forall₂ (fun x x' => x.sameEntity x' = true ∧ Agrees x x')
      ((joinAll items).filter (·.anchorValue?.isSome)) matched ∧
      matched.Perm ((joinAll items').filter (·.anchorValue?.isSome)) := by
    refine Position.exists_perm_of_partners (fun x hx => ?_) (fun x' hx' => ?_) ?_ ?_
    · obtain ⟨hx, hid⟩ := List.mem_filter.1 hx
      obtain ⟨x', hx', h⟩ := exists_sameEntity_joinAll hexact hitems hitems' hperm hx
        (Option.isSome_iff_ne_none.1 hid)
      refine ⟨x', List.mem_filter.2 ⟨hx', ?_⟩, h,
        agrees_of_sameEntity hexact hitems hitems' hperm hx hx' h⟩
      exact Option.isSome_iff_ne_none.2 (anchorValue?_ne_none_of_sameEntity h).2
    · obtain ⟨hx', hid⟩ := List.mem_filter.1 hx'
      obtain ⟨x, hx, h⟩ := exists_sameEntity_joinAll hexact hitems' hitems hperm.symm hx'
        (Option.isSome_iff_ne_none.1 hid)
      have h' := sameEntity_symm (hadmits' x' hx').wellFormed (hadmits x hx).wellFormed h
      refine ⟨x, List.mem_filter.2 ⟨hx, ?_⟩, h',
        agrees_of_sameEntity hexact hitems hitems' hperm hx hx' h'⟩
      exact Option.isSome_iff_ne_none.2 (anchorValue?_ne_none_of_sameEntity h').1
    · -- no two of them have the same partner, in either direction
      refine (hapart.filter _).imp_of_mem fun hx₁ hx₂ hne y hy h₁ h₂ => ?_
      have hwf := (hadmits' y (List.mem_filter.1 hy).1).wellFormed
      rw [sameEntity_of_sameEntity hexact hitems (List.mem_filter.1 hx₁).1
        (List.mem_filter.1 hx₂).1 hwf h₁.1 h₂.1] at hne
      cases hne
    · refine (hapart'.filter _).imp_of_mem fun hy₁ hy₂ hne x hx h₁ h₂ => ?_
      have hy₁ := (List.mem_filter.1 hy₁).1
      have hy₂ := (List.mem_filter.1 hy₂).1
      have hwf := (hadmits x (List.mem_filter.1 hx).1).wellFormed
      rw [sameEntity_of_sameEntity hexact hitems' hy₁ hy₂ hwf
        (sameEntity_symm hwf (hadmits' _ hy₁).wellFormed h₁.1)
        (sameEntity_symm hwf (hadmits' _ hy₂).wellFormed h₂.1)] at hne
      cases hne
  obtain ⟨matched, hmatched, hmatchedPerm⟩ := hmatch
  exact ⟨matched, hmatched.imp fun x x' h => h.2, hmatchedPerm⟩

include hitems in
/-- Objects without identity are those of the rows. -/
theorem filter_not_joinAll : (joinAll items).filter (fun x => !x.anchorValue?.isSome) =
    items.filter fun x => !x.anchorValue?.isSome := by
  simpa using filter_joinAll hitems.admits

include hexact hitems hperm in
/-- Joining objects in another order gives objects that match in some order and agree. -/
theorem joinAll_perm :
    ∃ matched, List.Forall₂ Agrees (joinAll items) matched ∧ matched.Perm (joinAll items') := by
  have hitems' : FromRows I (.node label slots) {y | y ∈ items'} := fun y hy =>
    hitems y (hperm.symm.subset hy)
  -- objects with an identity match by it, objects without one match themselves
  obtain ⟨matched, hmatched, hmatchedPerm⟩ := filter_joinAll_perm hexact hitems hitems' hperm
  have hloose := filter_not_joinAll hitems
  have hself : List.Forall₂ Agrees (items.filter fun x => !x.anchorValue?.isSome)
      (items.filter fun x => !x.anchorValue?.isSome) := by
    refine List.forall₂_same.2 fun x hx => ?_
    obtain ⟨hx, -⟩ := List.mem_filter.1 hx
    exact agrees_self hexact (hitems.admits x hx) (hitems.integers x hx)
  obtain ⟨result, hresult, hresultPerm⟩ := List.perm_comp_forall₂
    (List.filter_append_perm (·.anchorValue?.isSome) (joinAll items)).symm
    (List.rel_append hmatched (hloose ▸ hself))
  refine ⟨result, hresult, hresultPerm.trans ?_⟩
  refine (hmatchedPerm.append ?_).trans
    (List.filter_append_perm (fun x : Instance => x.anchorValue?.isSome) _)
  rw [hloose, filter_not_joinAll hitems']
  exact hperm.filter _

end Joined

end Template

/-- The order of rows does not matter: the merged objects match in some order, and matching ones
agree, if no two integers among the decoded values have the same double. -/
theorem mergeEntities_perm {document : Json} (hdocument : document.WellFormed)
    {compiled : CompiledQuery} (h : (compile document).outcome = .ok compiled)
    (options : DecodeOptions) {rows rows' : List Row} (hrows : rows.Perm rows')
    (hexact : Set.InjOn Binary64.ofInt {i | ∃ row ∈ rows,
      i ∈ (decodeRow options compiled.template row).toInstance.integers}) :
    ∃ matched, List.Forall₂ (fun e f => e.toInstance.Agrees f.toInstance)
        (mergeEntities (rows.map (decodeRow options compiled.template))) matched ∧
      matched.Perm (mergeEntities (rows'.map (decodeRow options compiled.template))) := by
  have hsound := Template.sound_of_compile hdocument h
  have hitems : Template.FromRows {i | ∃ row ∈ rows,
      i ∈ (decodeRow options compiled.template row).toInstance.integers}
      (.node compiled.template.label compiled.template.fields)
      {y | y ∈ (rows.map (decodeRow options compiled.template)).map Entity.toInstance} := by
    intro y hy
    refine ⟨Template.admits_of_mem_decoded hsound y hy, fun i hi => ?_⟩
    obtain ⟨d, hd, rfl⟩ := List.mem_map.1 hy
    obtain ⟨row, hrow, rfl⟩ := List.mem_map.1 hd
    exact ⟨row, hrow, hi⟩
  obtain ⟨matched, hmatched, hperm⟩ := Template.joinAll_perm hexact hitems ((hrows.map _).map _)
  rw [← mergeEntities_toInstance] at hmatched hperm
  obtain ⟨entities, rfl, hentities⟩ :=
    (congrFun (congrFun (List.eq_map_comp_perm Entity.toInstance) matched) _).mpr hperm
  exact ⟨entities, List.forall₂_map_right_iff.1 (List.forall₂_map_left_iff.1 hmatched), hentities⟩

theorem mergeEntities_perm_places :
    (Places.document.WellFormed ∧ (compile Places.document).outcome = .ok Places.compiled ∧
      Places.numbered.Perm Places.numbered.reverse ∧
      Set.InjOn Binary64.ofInt {i | ∃ row ∈ Places.numbered,
        i ∈ (decodeRow ⟨.shown, .plain⟩ Places.compiled.template row).toInstance.integers}) ∧
      ∃ matched, List.Forall₂ (fun e f => e.toInstance.Agrees f.toInstance)
          (mergeEntities (Places.numbered.map
            (decodeRow ⟨.shown, .plain⟩ Places.compiled.template))) matched ∧
        matched.Perm (mergeEntities (Places.numbered.reverse.map
          (decodeRow ⟨.shown, .plain⟩ Places.compiled.template))) := by
  have hsubset : {i | ∃ row ∈ Places.numbered,
      i ∈ (decodeRow ⟨.shown, .plain⟩ Places.compiled.template row).toInstance.integers} ⊆
        {1, 7, 8} := by
    have hobjects : Places.numbered.map (fun row =>
        (decodeRow ⟨.shown, .plain⟩ Places.compiled.template row).toInstance) =
        [.object (some "id") [("id", .literal (.integer 1)), ("kind", .constant (.string "place")),
            ("parts", .list [.object (some "id") [("id", .literal (.integer 7))]])],
          .object (some "id") [("id", .literal (.integer 1)), ("kind", .constant (.string "place")),
            ("parts", .list [.object (some "id") [("id", .literal (.integer 8))]])]] := rfl
    rintro i ⟨row, hrow, hi⟩
    have hmem := List.mem_map_of_mem (f := fun row =>
      (decodeRow ⟨.shown, .plain⟩ Places.compiled.template row).toInstance) hrow
    rw [hobjects, List.mem_pair] at hmem
    generalize (decodeRow ⟨.shown, .plain⟩ Places.compiled.template row).toInstance = x at hi hmem
    rcases hmem with rfl | rfl
    · have hor : 1 = i ∨ 7 = i := by
        simpa [Instance.mem_integers_object_iff, Instance.mem_integers_list_iff,
          Instance.mem_integers_literal_iff, Instance.integers_constant] using hi
      rcases hor with rfl | rfl <;> simp
    · have hor : 1 = i ∨ 8 = i := by
        simpa [Instance.mem_integers_object_iff, Instance.mem_integers_list_iff,
          Instance.mem_integers_literal_iff, Instance.integers_constant] using hi
      rcases hor with rfl | rfl <;> simp
  have hexact : Set.InjOn Binary64.ofInt ({1, 7, 8} : Set Int) := by
    have hfinite : ∀ i ∈ [1, 7, 8], ∀ j ∈ [1, 7, 8],
        Binary64.ofInt i = Binary64.ofInt j → i = j := by decide
    intro i hi j hj
    exact hfinite i (by simpa using hi) j (by simpa using hj)
  have hperm := (List.reverse_perm Places.numbered).symm
  exact ⟨⟨Places.wellFormed_document, Places.outcome_document, hperm, hexact.mono hsubset⟩,
    mergeEntities_perm Places.wellFormed_document Places.outcome_document _ hperm
      (hexact.mono hsubset)⟩

end QueryByExample
