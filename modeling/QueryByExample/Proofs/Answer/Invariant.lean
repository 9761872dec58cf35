import QueryByExample.Compile
import QueryByExample.Proofs.Answer.Merging
/-!
# The invariant of merged objects

Merged objects conform to the template of their rows, with the fields of gathered values: no list in
a list, no equal items in a list, no two objects with the same identity in a list, and a list where
the slot asks for one and only there or where two items met.

Items of a list change in place after they were compared. They stay unequal because such a change
keeps the identity, and because equality of conforming objects implies that they have the same one.

## Main statements

- `Template.Admits.anchorValue?_takeUp`: taking fields up keeps the identity.
- `Template.takeUp_eq_self_of_same`: an equal object brings nothing.
- `Template.Fits.gathered`: one value merged into a field.
- `Template.admits_mergeEntities`: every merged object conforms.
-/

namespace QueryByExample

namespace Instance

variable {v w x y z : Instance}

theorem sameEntity_iff :
    x.sameEntity y = true ↔
      ∃ a b, x.anchorValue? = some a ∧ y.anchorValue? = some b ∧ a.same b = true := by
  unfold sameEntity
  cases x.anchorValue? with
  | none => simp
  | some a =>
    cases y.anchorValue? with
    | none => simp
    | some b => simp

theorem anchorValue?_ne_none_of_sameEntity (h : x.sameEntity y = true) :
    x.anchorValue? ≠ none ∧ y.anchorValue? ≠ none := by
  obtain ⟨a, b, ha, hb, -⟩ := sameEntity_iff.1 h
  simp [ha, hb]

theorem sameEntity_congr_left (h : x.anchorValue? = y.anchorValue?) :
    x.sameEntity z = y.sameEntity z := by
  rw [sameEntity, sameEntity, h]

theorem sameEntity_congr_right (h : x.anchorValue? = y.anchorValue?) :
    z.sameEntity x = z.sameEntity y := by
  rw [sameEntity, sameEntity, h]

theorem sameEntity_of_anchorValue?_eq_none (h : y.anchorValue? = none) :
    x.sameEntity y = false := by
  unfold sameEntity
  rw [h]
  cases x.anchorValue? <;> rfl

/-- An object with an identity has the same identity as itself. -/
theorem WellFormed.sameEntity_self (h : x.WellFormed) (hid : x.anchorValue? ≠ none) :
    x.sameEntity x = true := by
  obtain ⟨a, ha⟩ := Option.ne_none_iff_exists'.1 hid
  refine sameEntity_iff.2 ⟨a, a, ha, ha, same_self ?_⟩
  cases h with
  | @object anchor? _ _ hfields =>
    cases anchor? with
    | none => cases ha
    | some key => exact hfields key a (Fields.mem_of_find? ha)
  | _ => cases ha

/-- A field is determined by its slot and its items. -/
theorem Gathered.eq_of_items {flag : Bool} (hv : Gathered flag v) (hw : Gathered flag w)
    (h : v.items = w.items) : v = w := by
  cases flag with
  | true =>
    have hvlist := hv.isList rfl
    have hwlist := hw.isList rfl
    cases v with
    | list =>
      cases w with
      | list => exact congrArg Instance.list h
      | _ => cases hwlist
    | _ => cases hvlist
  | false =>
    cases hvlist : v.isList with
    | true =>
      cases hwlist : w.isList with
      | true =>
        cases v with
        | list =>
          cases w with
          | list => exact congrArg Instance.list h
          | _ => cases hwlist
        | _ => cases hvlist
      | false =>
        have hlength := hv.two_le rfl hvlist
        rw [h, items_of_isList_eq_false hwlist] at hlength
        simp at hlength
    | false =>
      cases hwlist : w.isList with
      | true =>
        have hlength := hw.two_le rfl hwlist
        rw [← h, items_of_isList_eq_false hvlist] at hlength
        simp at hlength
      | false =>
        rw [items_of_isList_eq_false hvlist, items_of_isList_eq_false hwlist] at h
        exact List.singleton_inj.1 h

end Instance

namespace Template

open Instance

variable {form form' : Bool → Instance → Prop} {slot : Slot} {v w x y z : Instance}
  {items : List Instance}

/-! ### Identities -/

/-- Equal conforming items have equal identities, or none. -/
theorem Admits.rel_anchorValue? (hx : Admits form slot x) (hy : Admits form' slot y)
    (h : x.same y = true) :
    Option.Rel (fun a b => a.same b = true) x.anchorValue? y.anchorValue? := by
  cases hx with
  | constant =>
    cases hy
    exact .none
  | leaf hatom =>
    cases hy with
    | leaf hatom' =>
      rw [hatom.anchorValue?, hatom'.anchorValue?]
      exact .none
  | @node label _ _ distinct =>
    cases hy with
    | node distinct' =>
      cases hanchor : label.anchor? with
      | none => exact .none
      | some key => exact (same_object_iff distinct distinct').1 h key

/-- Equal conforming items have the same identity if one of them has one. -/
theorem Admits.sameEntity_of_same (hx : Admits form slot x) (hy : Admits form' slot y)
    (h : x.same y = true) (hid : x.anchorValue? ≠ none ∨ y.anchorValue? ≠ none) :
    x.sameEntity y = true := by
  have hrel := hx.rel_anchorValue? hy h
  cases ha : x.anchorValue? with
  | none =>
    rw [ha] at hrel hid
    cases hb : y.anchorValue? with
    | none => simp [hb] at hid
    | some b => rw [hb] at hrel; cases hrel
  | some a =>
    rw [ha] at hrel
    cases hb : y.anchorValue? with
    | none => rw [hb] at hrel; cases hrel
    | some b =>
      rw [hb] at hrel
      cases hrel with
      | some hab => exact sameEntity_iff.2 ⟨a, b, ha, hb, hab⟩

theorem Admits.same_eq_false (hx : Admits form slot x) (hy : Admits form' slot y)
    (hid : x.anchorValue? ≠ none ∨ y.anchorValue? ≠ none) (h : x.sameEntity y = false) :
    x.same y = false := by
  refine Bool.eq_false_iff.2 fun hsame => ?_
  rw [hx.sameEntity_of_same hy hsame hid] at h
  cases h

/-- Equal items that do not share an identity have none. -/
theorem Admits.anchorValue?_eq_none_of_same (hx : Admits form slot x) (hy : Admits form' slot y)
    (h : x.same y = true) (hid : x.sameEntity y = false) :
    x.anchorValue? = none ∧ y.anchorValue? = none := by
  constructor
  · refine Decidable.byContradiction fun hne => ?_
    rw [hx.sameEntity_of_same hy h (Or.inl hne)] at hid
    cases hid
  · refine Decidable.byContradiction fun hne => ?_
    rw [hx.sameEntity_of_same hy h (Or.inr hne)] at hid
    cases hid

/-- Taking up the fields of an object with the same identity keeps the identity. -/
theorem Admits.anchorValue?_takeUp (hx : Admits form slot x) (hy : Admits form' slot y)
    (h : x.sameEntity y = true) : (x.takeUp y).anchorValue? = x.anchorValue? := by
  obtain ⟨a, b, ha, hb, hab⟩ := sameEntity_iff.1 h
  have hatom := hx.isAtom_anchorValue ha
  have hatom' := hy.isAtom_anchorValue hb
  cases hx with
  | constant => cases ha
  | leaf hleaf => rw [hleaf.anchorValue?] at ha; cases ha
  | @node label =>
    cases hy with
    | node distinct' =>
      rw [takeUp_object]
      cases hanchor : label.anchor? with
      | none => rw [hanchor] at ha; cases ha
      | some key =>
        rw [hanchor] at ha hb
        simp only [anchorValue?] at ha hb ⊢
        rw [find?_mergeFields_of_some distinct' hb, ha, Option.elim_some,
          mergeValue_eq_self_of_same hatom.isList hatom'.isList hab]

/-! ### Equal objects -/

/-- Merging an equal value into a field changes nothing, if that holds for items with the same
identity. -/
theorem mergeValue_eq_self_of_same_of_items (hv : Fits Gathered slot v) (hw : Fits Single slot w)
    (hvw : v.same w = true)
    (h : ∀ y ∈ w.items, ∀ x ∈ v.items, x.same y = true → x.sameEntity y = true → x.takeUp y = x) :
    mergeValue v w = v := by
  obtain ⟨⟨y, hwy, hy⟩, -⟩ := hw
  cases hflag : Slot.list slot with
  | false =>
    -- only a single value equals a single value
    obtain rfl : w = y := by rw [hwy, hflag]; rfl
    have hvlist : v.isList = false := by
      cases v with
      | list =>
        cases w with
        | list => cases hy
        | _ => simp [same] at hvw
      | _ => rfl
    exact mergeValue_eq_self_of_same hvlist hy hvw
  | true =>
    obtain rfl : w = .list [y] := by rw [hwy, hflag]; rfl
    have hvlist := hv.1.isList hflag
    cases v with
    | list members =>
      obtain ⟨x, rfl, hxy⟩ : ∃ x, members = [x] ∧ x.same y = true := by
        rcases members with _ | ⟨x, _ | ⟨x', rest⟩⟩
        · simp [same, sameItems] at hvw
        · exact ⟨x, rfl, by simpa [same, sameItems] using hvw⟩
        · simp [same, sameItems] at hvw
      have hmerge : mergeValue (.list [x]) (listed true y) = .list (enlist y [x]) :=
        mergeValue_list hy
      have henlist : enlist y [x] = [x] := by
        cases hid : x.sameEntity y with
        | true =>
          have hx := h y List.mem_cons_self x List.mem_cons_self hxy hid
          rw [enlist_eq_join (by simp [hid]), join]
          simp [hid, hx]
        | false => exact enlist_eq_self (by simp [hid]) List.mem_cons_self hxy
      exact hmerge.trans (congrArg Instance.list henlist)
    | _ => cases hvlist

/-- Of an equal object with its identity an object takes nothing up. -/
theorem takeUp_eq_self_of_same (hy : Admits Single slot y) (hx : Admits Gathered slot x)
    (hsame : x.same y = true) (hid : x.sameEntity y = true) : x.takeUp y = x := by
  induction hy using Admits.induction_holds generalizing x with
  | plain slot y hy _ hnone => exact absurd hnone (anchorValue?_ne_none_of_sameEntity hid).2
  | node label slots y hy ih =>
    obtain ⟨fields, rfl, distinct⟩ := hx.exists_fields
    obtain ⟨additions, rfl, distinct'⟩ := hy.exists_fields
    rw [takeUp_object, (mergeFields_eq_self_iff distinct').2 fun key w hw => ?_]
    obtain ⟨slot, hslot, hfits'⟩ := hy.exists_fits hw
    have hrel := (same_object_iff distinct distinct').1 hsame key
    rw [hw] at hrel
    cases hv : Fields.find? key fields with
    | none => rw [hv] at hrel; cases hrel
    | some v =>
      have hfits := hx.fits hslot hv
      rw [hv] at hrel
      cases hrel with
      | some hvw =>
        refine ⟨v, rfl, mergeValue_eq_self_of_same_of_items hfits hfits' hvw fun y hy x hx => ?_⟩
        exact ih key y slot ⟨w, hw, hy⟩ hslot (hfits.2 x hx)

/-! ### The step -/

theorem Fits.gathered (hw : Fits Single slot w) : Fits Gathered slot w :=
  ⟨hw.1.gathered, fun x hx => (hw.2 x hx).mono fun _ _ => Single.gathered⟩

/-- A field of a row holds one item. -/
theorem Fits.exists_item (hw : Fits Single slot w) :
    ∃ y, w = listed (Slot.list slot) y ∧ w.items = [y] ∧ Admits Single slot y := by
  obtain ⟨⟨y, rfl, hy⟩, hadmits⟩ := hw
  have hitems : (listed (Slot.list slot) y).items = [y] := items_listed hy
  exact ⟨y, rfl, hitems, hadmits y (by simp [hitems])⟩

/-- A field that takes a value enlists the item of the value. -/
theorem Fits.items_mergeValue (hv : Fits Gathered slot v) (hy : Admits Single slot y) :
    (mergeValue v (listed (Slot.list slot) y)).items = enlist y v.items :=
  Instance.items_mergeValue hy.isList fun x hx hsame hid =>
    takeUp_eq_self_of_same hy (hv.2 x hx) hsame hid

section Step

variable {next : List Instance}

/-- What joining preserves: items keep apart by identity. -/
theorem pairwise_sameEntity_of_joined (h : Joined y items next)
    (hitems : ∀ x ∈ items, Admits Gathered slot x) (hy : Admits Single slot y)
    (hapart : items.Pairwise fun x y => x.sameEntity y = false) :
    next.Pairwise fun x y => x.sameEntity y = false := by
  cases h with
  | @merged index x first found same =>
    have hkeep := (hitems x (List.mem_of_getElem? found)).anchorValue?_takeUp hy same
    refine Position.pairwise_modify hapart (fun z z' hz hz' h => ?_) fun z z' hz hz' h => ?_
    · obtain rfl := Option.some.inj (found.symm.trans hz')
      rwa [sameEntity_congr_right hkeep]
    · obtain rfl := Option.some.inj (found.symm.trans hz')
      rwa [sameEntity_congr_left hkeep]
  | added new =>
    refine List.pairwise_append.2 ⟨hapart, List.pairwise_singleton _ _, fun x hx z hz => ?_⟩
    rw [List.mem_singleton.1 hz]
    exact List.findIdx?_eq_none_iff.1 new x hx

theorem pairwise_sameEntity_of_enlisted (h : Enlisted y items next)
    (hitems : ∀ x ∈ items, Admits Gathered slot x) (hy : Admits Single slot y)
    (hapart : items.Pairwise fun x y => x.sameEntity y = false) :
    next.Pairwise fun x y => x.sameEntity y = false := by
  cases h with
  | joined h => exact pairwise_sameEntity_of_joined h hitems hy hapart
  | kept => exact hapart

/-- What enlisting preserves: items are not equal. An item that takes fields up keeps its identity,
so it equals none that has another one. -/
theorem pairwise_same_of_enlisted (h : Enlisted y items next)
    (hitems : ∀ x ∈ items, Admits Gathered slot x) (hy : Admits Single slot y)
    (hnext : ∀ x ∈ next, Admits Gathered slot x)
    (hapart : items.Pairwise fun x y => x.sameEntity y = false)
    (hunequal : items.Pairwise fun x y => x.same y = false) :
    next.Pairwise fun x y => x.same y = false := by
  cases h with
  | kept => exact hunequal
  | joined h new =>
    cases h with
    | added hnone =>
      refine List.pairwise_append.2 ⟨hunequal, List.pairwise_singleton _ _, fun x hx z hz => ?_⟩
      rw [List.mem_singleton.1 hz]
      exact new hnone x hx
    | @merged index x first found same =>
      have hx := hitems x (List.mem_of_getElem? found)
      have hkeep := hx.anchorValue?_takeUp hy same
      have hid : (x.takeUp y).anchorValue? ≠ none := by
        rw [hkeep]
        exact (anchorValue?_ne_none_of_sameEntity same).1
      have hxy := hnext _ (Position.mem_modify_of_getElem? found)
      -- the two relations go together: an item that stays apart by identity stays unequal
      refine (Position.pairwise_modify (hunequal.and hapart) (fun z z' hz hz' h => ?_)
        fun z z' hz hz' h => ?_).imp fun h => h.1
      · obtain rfl := Option.some.inj (found.symm.trans hz')
        have hzapart := (sameEntity_congr_right hkeep).trans h.2
        exact ⟨(hitems z hz).same_eq_false hxy (Or.inr hid) hzapart, hzapart⟩
      · obtain rfl := Option.some.inj (found.symm.trans hz')
        have hzapart := (sameEntity_congr_left hkeep).trans h.2
        exact ⟨hxy.same_eq_false (hitems z hz) (Or.inl hid) hzapart, hzapart⟩

/-- What enlisting preserves: items conform. -/
theorem admits_of_enlisted (h : Enlisted y items next)
    (hitems : ∀ x ∈ items, Admits Gathered slot x) (hy : Admits Single slot y)
    (htake : ∀ x, Admits Gathered slot x → x.sameEntity y = true →
      Admits Gathered slot (x.takeUp y)) : ∀ x ∈ next, Admits Gathered slot x := by
  intro x hx
  rcases h.mem_cases hx with hx | rfl | ⟨z, hz, same, rfl⟩
  · exact hitems x hx
  · exact hy.mono fun _ _ => Single.gathered
  · exact htake z (hitems z hz) same

end Step

/-- A field that fits its slot still does after it took a value, if that holds for items with the
same identity. -/
theorem Fits.mergeValue_of_items (hv : Fits Gathered slot v) (hw : Fits Single slot w)
    (htake : ∀ y ∈ w.items, ∀ x, Admits Gathered slot x → x.sameEntity y = true →
      Admits Gathered slot (x.takeUp y)) : Fits Gathered slot (mergeValue v w) := by
  obtain ⟨y, rfl, hitems, hy⟩ := hw.exists_item
  have hmerge := hv.items_mergeValue hy
  have hstep := enlisted y v.items
  have hadmits : ∀ x ∈ enlist y v.items, Admits Gathered slot x :=
    admits_of_enlisted hstep hv.2 hy (htake y (by simp [hitems]))
  have hlist : v.isList = true → (mergeValue v (listed (Slot.list slot) y)).isList = true := by
    intro hvlist
    cases v with
    | list => rw [mergeValue_list hy.isList]; rfl
    | _ => cases hvlist
  have hnonempty : v.items.length ≠ 0 := fun h => hv.1.nonempty (List.length_eq_zero_iff.1 h)
  refine ⟨⟨fun hflag => hlist (hv.1.isList hflag), fun hflag hmerged => ?_, ?_, ?_, ?_, ?_⟩, ?_⟩
  · -- a list has two items, unless its slot asks for one
    cases hvlist : v.isList with
    | true =>
      rw [hmerge]
      exact (hv.1.two_le hflag hvlist).trans hstep.length_le
    | false => exact two_le_of_isList_mergeValue hvlist hy.isList hmerged
  · -- no item is lost
    rw [hmerge]
    refine fun hnil => hnonempty ?_
    have hlength := hstep.length_le
    rw [hnil] at hlength
    exact Nat.le_zero.1 hlength
  · rw [hmerge]
    exact fun x hx => (hadmits x hx).isList
  · rw [hmerge]
    exact pairwise_same_of_enlisted hstep hv.2 hy hadmits hv.1.apart hv.1.unequal
  · rw [hmerge]
    exact pairwise_sameEntity_of_enlisted hstep hv.2 hy hv.1.apart
  · rwa [hmerge]

/-- A conforming object still conforms after it took up the fields of a row with its identity. -/
theorem admits_takeUp (hy : Admits Single slot y) (hx : Admits Gathered slot x)
    (hid : x.sameEntity y = true) : Admits Gathered slot (x.takeUp y) := by
  induction hy using Admits.induction_holds generalizing x with
  | plain slot y hy _ hnone => exact absurd hnone (anchorValue?_ne_none_of_sameEntity hid).2
  | node label slots y hy ih =>
    have hkeep := hx.anchorValue?_takeUp hy hid
    obtain ⟨fields, rfl, distinct⟩ := hx.exists_fields
    obtain ⟨additions, rfl, distinct'⟩ := hy.exists_fields
    rw [takeUp_object] at hkeep ⊢
    refine admits_node (distinct_mergeFields distinct)
      (fun id h => hx.isAtom_anchorValue (hkeep.symm.trans h)) fun key value hk => ?_
    -- only where both objects have the key does something change one level down
    rcases find?_mergeFields_cases distinct' hk with ⟨hv, -⟩ | ⟨-, hw⟩ | ⟨v, w, hv, hw, rfl⟩
    · exact hx.exists_fits hv
    · obtain ⟨slot, hslot, hfits⟩ := hy.exists_fits hw
      exact ⟨slot, hslot, hfits.gathered⟩
    · obtain ⟨slot, hslot, hfits⟩ := hy.exists_fits hw
      exact ⟨slot, hslot, (hx.fits hslot hv).mergeValue_of_items hfits
        fun y hy x hx hid => ih key y slot ⟨w, hw, hy⟩ hslot hx hid⟩

/-- A field that fits its slot still does after it took a value of a row. -/
theorem Fits.mergeValue (hv : Fits Gathered slot v) (hw : Fits Single slot w) :
    Fits Gathered slot (v.mergeValue w) :=
  hv.mergeValue_of_items hw fun _ hy _ hx hid => admits_takeUp (hw.2 _ hy) hx hid

/-! ### The run -/

/-- Objects joined in turn conform and keep apart by identity. -/
theorem admits_joinAll (h : ∀ y ∈ items, Admits Single slot y) :
    (∀ x ∈ joinAll items, Admits Gathered slot x) ∧
      (joinAll items).Pairwise fun x y => x.sameEntity y = false := by
  induction items using List.reverseRecOn with
  | nil => exact ⟨by simp [joinAll], .nil⟩
  | append_singleton items y ih =>
    rw [joinAll_concat]
    have hy : Admits Single slot y := h y (by simp)
    obtain ⟨hadmits, hapart⟩ := ih fun y hy => h y (List.mem_append_left _ hy)
    have hstep := joined y (joinAll items)
    refine ⟨fun x hx => ?_, pairwise_sameEntity_of_joined hstep hadmits hy hapart⟩
    rcases hstep.mem_cases hx with hx | rfl | ⟨z, hz, same, rfl⟩
    · exact hadmits x hx
    · exact hy.mono fun _ _ => Single.gathered
    · exact admits_takeUp hy (hadmits z hz) same

/-- The objects of rows conform, with single items. -/
theorem admits_of_mem_decoded {template : Template}
    (hsound : Sound (.node template.label template.fields)) {options : DecodeOptions}
    {rows : List Row} :
    ∀ y ∈ (rows.map (decodeRow options template)).map Entity.toInstance,
      Admits Single (.node template.label template.fields) y := by
  intro y hy
  simp only [List.mem_map, exists_exists_and_eq_and] at hy
  obtain ⟨row, -, rfl⟩ := hy
  exact admits_decodeRow hsound options row

/-- Every merged object conforms to the template of its document, with gathered values in its fields
at every depth. -/
theorem admits_mergeEntities {document : Json} (hdocument : document.WellFormed)
    {compiled : CompiledQuery} (h : (compile document).outcome = .ok compiled)
    (options : DecodeOptions) (rows : List Row) :
    ∀ e ∈ mergeEntities (rows.map (decodeRow options compiled.template)),
      Admits Gathered (.node compiled.template.label compiled.template.fields) e.toInstance := by
  intro e he
  have hsound := sound_of_compile hdocument h
  have hmem := List.mem_map_of_mem (f := Entity.toInstance) he
  rw [mergeEntities_toInstance] at hmem
  exact (admits_joinAll (admits_of_mem_decoded hsound)).1 _ hmem

theorem admits_mergeEntities_places :
    Places.document.WellFormed ∧ (compile Places.document).outcome = .ok Places.compiled ∧
      ∀ e ∈ mergeEntities (Places.rows.map (decodeRow ⟨.shown, .plain⟩ Places.compiled.template)),
        Admits Gathered
          (.node Places.compiled.template.label Places.compiled.template.fields) e.toInstance :=
  ⟨Places.wellFormed_document, Places.outcome_document,
    admits_mergeEntities Places.wellFormed_document Places.outcome_document _ _⟩

example : (mergeEntities (Places.rows.map
    (decodeRow ⟨.shown, .plain⟩ Places.compiled.template))).map Entity.toInstance =
    [.object (some "id")
      [("id", ofText "harbour"), ("name", .list [ofText "old", ofText "new"]),
        ("kind", .constant (.string "place")),
        ("parts", .list
          [.object (some "id") [("id", ofText "pier"), ("name", ofText "north")],
            .object (some "id") [("id", ofText "mole"), ("name", ofText "south")]])],
      .object (some "id") [("name", ofText "nowhere"), ("kind", .constant (.string "place"))]] := by
  rfl

end Template

end QueryByExample
