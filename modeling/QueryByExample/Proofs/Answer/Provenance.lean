import QueryByExample.Proofs.Answer.Replay
/-!
# Where merged values come from

Merging loses nothing and invents nothing. An object belongs to the first merged object with its
identity. That one covers it: it holds an equal value for each of its values, and for each object
with an identity one with the same identity that covers it in turn. Conversely, every way into a
merged object follows a way into an object that belongs to it, through the same keys and the same
identities, to the very value.

An object is covered by what absorbs it, so covering follows from what is known of replayed rows.

## Main definitions

- `Instance.Covers`: one object holds all of another.
- `Instance.Walk`, `Instance.Corresponds`: ways into objects, and ways that match.
- `Instance.Sourced`: every way into an object follows a way into one of some objects.

## Main statements

- `Template.covers_of_takeUp_eq_self`: an object that takes nothing up from another covers it.
- `Template.sourced_takeUp`, `Template.sourced_joinAll`: one step, and all of them.
- `mergeEntities_provenance`: objects are covered and sourced, or left alone.
-/

namespace QueryByExample

namespace Instance

variable {x y z : Instance} {key : String} {D E : Set Instance}

mutual

/-- Each field of the second object is held by the first one. -/
inductive Covers : Instance → Instance → Prop where
  | fields {x y : Instance}
      (keys : ∀ key w, Fields.find? key y.fields = some w →
        ∃ v, Fields.find? key x.fields = some v)
      (items : ∀ key v w, Fields.find? key x.fields = some v → Fields.find? key y.fields = some w →
        ∀ item ∈ w.items, CoversItem v item) : Covers x y

/-- A field holds an item: an equal one, or for an object with an identity one with the same
identity that covers it. -/
inductive CoversItem : Instance → Instance → Prop where
  | same {v x item : Instance} (hid : item.anchorValue? = none) (hx : x ∈ v.items)
      (h : x.same item = true) : CoversItem v item
  | entity {v x item : Instance} (hx : x ∈ v.items) (hid : x.sameEntity item = true)
      (h : Covers x item) : CoversItem v item

end

/-- A way into an object: the items that are passed, each with the key that holds it. -/
def Walk : Instance → List (String × Instance) → Prop
  | _, [] => True
  | x, (key, z) :: rest => x.Holds key z ∧ Walk z rest

/-- Two steps match: they have the same key, and lead to objects with the same identity or, without
one, to the very same item. -/
structure Corresponds (step source : String × Instance) : Prop where
  key : step.1 = source.1
  plain : step.2.anchorValue? = none → step.2 = source.2
  entity : step.2.anchorValue? ≠ none → step.2.sameEntity source.2 = true

/-- Every way into the object matches a way into one of the given objects. -/
def Sourced (D : Set Instance) (x : Instance) : Prop :=
  ∀ walk, x.Walk walk → ∃ d ∈ D, ∃ source, d.Walk source ∧ List.Forall₂ Corresponds walk source

/-- The objects that some objects hold under a key, with the identity of `z`. -/
def heldWith (D : Set Instance) (key : String) (z : Instance) : Set Instance :=
  {o | ∃ d ∈ D, d.Holds key o ∧ z.sameEntity o = true}

theorem WellFormed.of_holds (hx : x.WellFormed) (hz : x.Holds key z) : z.WellFormed := by
  obtain ⟨v, hv, hz⟩ := hz
  cases hx with
  | object _ h =>
    have hwf := h key v (Fields.mem_of_find? hv)
    cases hwf with
    | list hitems => exact hitems z hz
    | _ => obtain rfl := List.mem_singleton.1 hz; constructor <;> assumption
  | _ => cases hv

/-- A way matches itself. -/
theorem corresponds_self (hx : x.WellFormed) {walk : List (String × Instance)} (h : x.Walk walk) :
    List.Forall₂ Corresponds walk walk := by
  induction walk generalizing x with
  | nil => exact .nil
  | cons step rest ih =>
    obtain ⟨key, z⟩ := step
    have hz := hx.of_holds h.1
    exact .cons ⟨rfl, fun _ => rfl, hz.sameEntity_self⟩ (ih hz h.2)

theorem sourced_self (hx : x.WellFormed) (h : x ∈ D) : Sourced D x :=
  fun walk hwalk => ⟨x, h, walk, hwalk, corresponds_self hx hwalk⟩

theorem Sourced.mono (h : Sourced D x) (hsub : D ⊆ E) : Sourced E x := by
  intro walk hwalk
  obtain ⟨d, hd, source, hsource, hmatch⟩ := h walk hwalk
  exact ⟨d, hsub hd, source, hsource, hmatch⟩

/-- An item without identity is held by one of the objects. -/
theorem Sourced.exists_holds (h : Sourced D x) (hz : x.Holds key z) (hid : z.anchorValue? = none) :
    ∃ d ∈ D, d.Holds key z := by
  obtain ⟨d, hd, source, hsource, hmatch⟩ := h [(key, z)] ⟨hz, trivial⟩
  cases hmatch with
  | @cons _ step _ _ hstep hrest =>
    obtain ⟨key', z'⟩ := step
    obtain rfl : key = key' := hstep.key
    obtain rfl : z = z' := hstep.plain hid
    exact ⟨d, hd, hsource.1⟩

/-- An item with an identity is traced to what the objects hold in its place. -/
theorem Sourced.nested (h : Sourced D x) (hz : x.Holds key z) (hid : z.anchorValue? ≠ none) :
    Sourced (heldWith D key z) z := by
  intro walk hwalk
  obtain ⟨d, hd, source, hsource, hmatch⟩ := h ((key, z) :: walk) ⟨hz, hwalk⟩
  cases hmatch with
  | @cons _ step _ rest hstep hrest =>
    obtain ⟨key', o⟩ := step
    obtain rfl : key = key' := hstep.key
    exact ⟨o, ⟨d, hd, hsource.1, hstep.entity hid⟩, rest, hsource.2, hrest⟩

/-- An object is traced if the items of its fields are. -/
theorem sourced_of_items (hx : x.WellFormed) (hD : D.Nonempty)
    (plain : ∀ key z, x.Holds key z → z.anchorValue? = none → ∃ d ∈ D, d.Holds key z)
    (nested : ∀ key z, x.Holds key z → z.anchorValue? ≠ none → Sourced (heldWith D key z) z) :
    Sourced D x := by
  intro walk hwalk
  cases walk with
  | nil =>
    obtain ⟨d, hd⟩ := hD
    exact ⟨d, hd, [], trivial, .nil⟩
  | cons step rest =>
    obtain ⟨key, z⟩ := step
    by_cases hid : z.anchorValue? = none
    · obtain ⟨d, hd, hdz⟩ := plain key z hwalk.1 hid
      exact ⟨d, hd, (key, z) :: rest, ⟨hdz, hwalk.2⟩, corresponds_self hx hwalk⟩
    · obtain ⟨o, ⟨d, hd, hdo, hzo⟩, source, hsource, hmatch⟩ :=
        nested key z hwalk.1 hid rest hwalk.2
      exact ⟨d, hd, (key, o) :: source, ⟨hdo, hsource⟩,
        .cons ⟨rfl, fun hnone => absurd hnone hid, fun _ => hzo⟩ hmatch⟩

end Instance

namespace Template

open Instance

variable {form : Bool → Instance → Prop} {slot : Slot} {label : Label}
  {slots : List (String × Slot)} {x y z : Instance} {items : List Instance} {key : String}
  {D : Set Instance}

/-! ### Covered objects -/

/-- An object that takes nothing up from another one with its identity covers it. -/
theorem covers_of_takeUp_eq_self (hy : Admits Single slot y) (hx : Admits Gathered slot x)
    (hid : x.sameEntity y = true) (h : x.takeUp y = x) : Covers x y := by
  induction hy using Admits.induction_holds generalizing x with
  | plain slot y hy _ hnone => exact absurd hnone (anchorValue?_ne_none_of_sameEntity hid).2
  | node label slots y hy ih =>
    refine .fields (fun key w hw => ?_) fun key v w hv hw item hitem => ?_
    · obtain ⟨slot, -, hfits⟩ := hy.exists_fits hw
      obtain ⟨item, -, hitems, -⟩ := hfits.exists_item
      have hitem : item ∈ w.items := by simp [hitems]
      obtain ⟨v, hv, -⟩ := exists_enlist_eq_self hx hy h ⟨w, hw, hitem⟩
      exact ⟨v, hv⟩
    · have hholds : y.Holds key item := ⟨w, hw, hitem⟩
      obtain ⟨v', hv', henlist⟩ := exists_enlist_eq_self hx hy h hholds
      obtain rfl := Option.some.inj (hv.symm.trans hv')
      obtain ⟨slot, hslot, hadmits⟩ := hx.exists_fits hv
      rcases enlist_eq_self_iff.1 henlist with ⟨index, x, first, found, htake⟩ | ⟨new, x, hx, hsame⟩
      · have same := Position.prop_of_findIdx? first found
        have hx := List.mem_of_getElem? found
        exact .entity hx same (ih key item slot hholds hslot (hadmits.2 x hx) same htake)
      · -- equal items without a common identity have none at all
        have hnone := (hadmits.2 x hx).anchorValue?_eq_none_of_same (hy.of_holds hslot hholds) hsame
          (List.findIdx?_eq_none_iff.1 new x hx)
        exact .same hnone.2 hx hsame

/-! ### Objects with sources -/

/-- An item that an object holds after it took another one up was held by one of them, or took up
what the other one holds. -/
theorem holds_takeUp_cases (hx : Admits Gathered (.node label slots) x)
    (hy : Admits Single (.node label slots) y) (hz : (x.takeUp y).Holds key z) :
    x.Holds key z ∨ y.Holds key z ∨ ∃ z' item, x.Holds key z' ∧ y.Holds key item ∧
      z'.sameEntity item = true ∧ z = z'.takeUp item := by
  obtain ⟨fields, rfl, -⟩ := hx.exists_fields
  obtain ⟨additions, rfl, distinct'⟩ := hy.exists_fields
  rw [takeUp_object] at hz
  obtain ⟨value, hvalue, hz⟩ := hz
  rcases find?_mergeFields_cases distinct' hvalue with ⟨hv, -⟩ | ⟨-, hw⟩ | ⟨v, w, hv, hw, rfl⟩
  · exact Or.inl ⟨value, hv, hz⟩
  · exact Or.inr (Or.inl ⟨value, hw, hz⟩)
  · obtain ⟨slot, hslot, hfits⟩ := hx.exists_fits hv
    obtain ⟨item, rfl, hitems, hitem⟩ := (hy.fits hslot hw).exists_item
    have hholds : (Instance.object label.anchor? additions).Holds key item :=
      ⟨_, hw, by simp [hitems]⟩
    rw [hfits.items_mergeValue hitem] at hz
    rcases (enlisted item v.items).mem_cases hz with hz | rfl | ⟨z', hz', same, rfl⟩
    · exact Or.inl ⟨v, hv, hz⟩
    · exact Or.inr (Or.inl hholds)
    · exact Or.inr (Or.inr ⟨z', item, ⟨v, hv, hz'⟩, hholds, same, rfl⟩)

/-- An object that took another one up is traced to the same objects and to that one. -/
theorem sourced_takeUp (hy : Admits Single slot y) (hx : Admits Gathered slot x)
    (hid : x.sameEntity y = true) (h : Sourced D x) : Sourced (insert y D) (x.takeUp y) := by
  induction hy using Admits.induction_holds generalizing x D with
  | plain slot y hy _ hnone => exact absurd hnone (anchorValue?_ne_none_of_sameEntity hid).2
  | node label slots y hy ih =>
    -- what two held items with the same identity become when they meet
    have hheld : ∀ key z item, x.Holds key z → y.Holds key item → z.sameEntity item = true →
        (z.takeUp item).anchorValue? = z.anchorValue? ∧
          Sourced (insert item (heldWith D key z)) (z.takeUp item) := by
      intro key z item hz hitem same
      obtain ⟨slot, hslot, hadmits⟩ := hx.exists_slot_of_holds hz
      have hidz := (anchorValue?_ne_none_of_sameEntity same).1
      exact ⟨hadmits.anchorValue?_takeUp (hy.of_holds hslot hitem) same,
        ih key item slot hitem hslot hadmits same (h.nested hz hidz)⟩
    refine sourced_of_items (admits_takeUp hy hx hid).wellFormed ⟨y, Set.mem_insert _ _⟩
      (fun key z hz hnone => ?_) fun key z hz hidz => ?_
    · rcases holds_takeUp_cases hx hy hz with hz | hz | ⟨z', item, hz', hitem, same, rfl⟩
      · obtain ⟨d, hd, hdz⟩ := h.exists_holds hz hnone
        exact ⟨d, Set.mem_insert_of_mem _ hd, hdz⟩
      · exact ⟨y, Set.mem_insert _ _, hz⟩
      · rw [(hheld key z' item hz' hitem same).1] at hnone
        exact absurd hnone (anchorValue?_ne_none_of_sameEntity same).1
    · rcases holds_takeUp_cases hx hy hz with hz | hz | ⟨z', item, hz', hitem, same, rfl⟩
      · refine (h.nested hz hidz).mono ?_
        rintro o ⟨d, hd, hdo, hzo⟩
        exact ⟨d, Set.mem_insert_of_mem _ hd, hdo, hzo⟩
      · have hwf := hy.wellFormed.of_holds hz
        exact sourced_self hwf ⟨y, Set.mem_insert _ _, hz, hwf.sameEntity_self hidz⟩
      · obtain ⟨hkeep, hsourced⟩ := hheld key z' item hz' hitem same
        refine hsourced.mono ?_
        rintro o (rfl | ⟨d, hd, hdo, hzo⟩)
        · exact ⟨y, Set.mem_insert _ _, hitem, (sameEntity_congr_left hkeep).trans same⟩
        · exact ⟨d, Set.mem_insert_of_mem _ hd, hdo, (sameEntity_congr_left hkeep).trans hzo⟩

/-- Joined objects with an identity are traced to the objects that belong to them: those of which
they are the first ones with their identity. -/
theorem sourced_joinAll (hitems : ∀ y ∈ items, Admits Single slot y) {index : Nat}
    (hx : (joinAll items)[index]? = some x) (hid : x.anchorValue? ≠ none) :
    Sourced {y | y ∈ items ∧ (joinAll items).findIdx? (·.sameEntity y) = some index} x := by
  induction items using List.reverseRecOn generalizing index x with
  | nil => simp [joinAll] at hx
  | append_singleton items y ih =>
    have hitems' : ∀ y ∈ items, Admits Single slot y := fun y hy =>
      hitems y (List.mem_append_left _ hy)
    have hadmits := (admits_joinAll hitems').1
    have hy : Admits Single slot y := hitems y (by simp)
    have hstep := joined y (joinAll items)
    replace ih : ∀ {index x}, (joinAll items)[index]? = some x → x.anchorValue? ≠ none →
        Sourced {y | y ∈ items ∧ (joinAll items).findIdx? (·.sameEntity y) = some index} x :=
      fun hx hid => ih hitems' hx hid
    rw [joinAll_concat] at hx ⊢
    generalize join y (joinAll items) = next at hstep hx ⊢
    generalize joinAll items = merged at ih hadmits hstep
    cases hstep with
    | @merged index' x' first found same =>
      have hadmitsx := hadmits x' (List.mem_of_getElem? found)
      have hkeep := hadmitsx.anchorValue?_takeUp hy same
      -- the objects that belong to an item do not change
      have hfirst : ∀ z, (merged.modify index' (·.takeUp y)).findIdx? (·.sameEntity z) =
          merged.findIdx? (·.sameEntity z) := fun z => Position.findIdx?_modify fun a ha => by
        obtain rfl := Option.some.inj (found.symm.trans ha)
        exact sameEntity_congr_left hkeep
      simp only [hfirst]
      by_cases hindex : index' = index
      · -- the item that takes `y` up is now traced to `y` too
        subst hindex
        obtain rfl : x'.takeUp y = x := by simpa [found] using hx
        rw [hkeep] at hid
        refine (sourced_takeUp hy hadmitsx same (ih found hid)).mono ?_
        rintro z (rfl | ⟨hz, hbelongs⟩)
        · exact ⟨by simp, first⟩
        · exact ⟨List.mem_append_left _ hz, hbelongs⟩
      · have hx : merged[index]? = some x := by simpa [hindex] using hx
        refine (ih hx hid).mono ?_
        rintro z ⟨hz, hbelongs⟩
        exact ⟨List.mem_append_left _ hz, hbelongs⟩
    | added new =>
      rcases lt_or_ge index merged.length with hlt | hge
      · rw [List.getElem?_append_left hlt] at hx
        refine (ih hx hid).mono ?_
        rintro z ⟨hz, hbelongs⟩
        refine ⟨List.mem_append_left _ hz, ?_⟩
        rw [List.findIdx?_append, hbelongs]
        rfl
      · rw [List.getElem?_append_right hge] at hx
        obtain ⟨hindex, rfl⟩ : index - merged.length = 0 ∧ y = x := by
          simpa [List.getElem?_singleton] using hx
        obtain rfl : index = merged.length := by omega
        refine sourced_self hy.wellFormed ⟨by simp, ?_⟩
        rw [List.findIdx?_append, new]
        simp [hy.wellFormed.sameEntity_self hid]

/-- Objects without identity stay as they are, in their order. -/
theorem filter_joinAll (hitems : ∀ y ∈ items, Admits Single slot y) :
    (joinAll items).filter (·.anchorValue?.isNone) = items.filter (·.anchorValue?.isNone) := by
  induction items using List.reverseRecOn with
  | nil => rfl
  | append_singleton items y ih =>
    have hitems' : ∀ y ∈ items, Admits Single slot y := fun y hy =>
      hitems y (List.mem_append_left _ hy)
    have hadmits := (admits_joinAll hitems').1
    have hy : Admits Single slot y := hitems y (by simp)
    have hstep := joined y (joinAll items)
    specialize ih hitems'
    rw [joinAll_concat, List.filter_append]
    generalize join y (joinAll items) = next at hstep ⊢
    generalize joinAll items = merged at ih hadmits hstep
    cases hstep with
    | added => rw [List.filter_append, ih]
    | merged first found same =>
      have hkeep := (hadmits _ (List.mem_of_getElem? found)).anchorValue?_takeUp hy same
      obtain ⟨hid, hid'⟩ := anchorValue?_ne_none_of_sameEntity same
      rw [Position.filter_modify fun z hz => ?_, ih]
      · simp [hid']
      · obtain rfl := Option.some.inj (found.symm.trans hz)
        rw [hkeep]
        exact ⟨Option.isNone_eq_false_iff.2 (Option.isSome_iff_ne_none.2 hid),
          Option.isNone_eq_false_iff.2 (Option.isSome_iff_ne_none.2 hid)⟩

end Template

namespace Entity

/-- The place of the merged object that an object belongs to: the first one with its identity. -/
def place? (merged : List Entity) (e : Entity) : Option Nat := merged.findIdx? (·.sameEntity e)

theorem place?_eq (merged : List Entity) (e : Entity) :
    e.place? merged = (merged.map toInstance).findIdx? (·.sameEntity e.toInstance) := by
  rw [List.findIdx?_map]
  rfl

end Entity

/-- Merging loses nothing and invents nothing. An object with an identity belongs to a merged object
that covers it; every way into a merged object with an identity matches a way into one of the
objects that belong to it; objects without identity stay as they are. -/
theorem mergeEntities_provenance {document : Json} (hdocument : document.WellFormed)
    {compiled : CompiledQuery} (h : (compile document).outcome = .ok compiled)
    (options : DecodeOptions) (rows : List Row) :
    let decoded := rows.map (decodeRow options compiled.template)
    let merged := mergeEntities decoded
    (∀ d ∈ decoded, d.anchorValue? ≠ none → ∃ index e, d.place? merged = some index ∧
      merged[index]? = some e ∧ e.toInstance.Covers d.toInstance) ∧
    (∀ index e, merged[index]? = some e → e.anchorValue? ≠ none →
      Instance.Sourced (Entity.toInstance '' {d | d ∈ decoded ∧ d.place? merged = some index})
        e.toInstance) ∧
    merged.filter (·.anchorValue?.isNone) = decoded.filter (·.anchorValue?.isNone) := by
  intro decoded merged
  have hsound := Template.sound_of_compile hdocument h
  have hitems : ∀ y ∈ decoded.map Entity.toInstance, Template.Admits Instance.Single
      (.node compiled.template.label compiled.template.fields) y :=
    Template.admits_of_mem_decoded hsound
  have hmerged : merged.map Entity.toInstance = Instance.joinAll (decoded.map Entity.toInstance) :=
    mergeEntities_toInstance decoded
  have hadmits := (Template.admits_joinAll hitems).1
  simp only [Entity.place?_eq, hmerged]
  refine ⟨fun d hd hid => ?_, fun index e he hid => ?_, ?_⟩
  · -- what absorbs an object covers it
    have hmem := List.mem_map_of_mem (f := Entity.toInstance) hd
    obtain ⟨index, x, first, found, htake⟩ := Template.absorbed_joinAll hitems hmem hid
    have same := Position.prop_of_findIdx? first found
    have hcovers := Template.covers_of_takeUp_eq_self (hitems _ hmem)
      (hadmits x (List.mem_of_getElem? found)) same htake
    rw [← hmerged, List.getElem?_map, Option.map_eq_some_iff] at found
    obtain ⟨e, he, rfl⟩ := found
    exact ⟨index, e, first, he, hcovers⟩
  · -- ways into a merged object are those of the objects that belong to it
    have he' : (Instance.joinAll (decoded.map Entity.toInstance))[index]? = some e.toInstance := by
      rw [← hmerged, List.getElem?_map, he]
      rfl
    refine (Template.sourced_joinAll hitems he' hid).mono ?_
    rintro y ⟨hy, hbelongs⟩
    obtain ⟨d, hd, rfl⟩ := List.mem_map.1 hy
    exact ⟨d, ⟨hd, hbelongs⟩, rfl⟩
  · -- objects without identity are left alone
    have hfilter := Template.filter_joinAll hitems
    rw [← hmerged, List.filter_map, List.filter_map] at hfilter
    exact List.map_injective_iff.2 Entity.toInstance_injective hfilter

theorem mergeEntities_provenance_places :
    Places.document.WellFormed ∧ (compile Places.document).outcome = .ok Places.compiled ∧
      let decoded := Places.rows.map (decodeRow ⟨.shown, .plain⟩ Places.compiled.template)
      let merged := mergeEntities decoded
      (∀ d ∈ decoded, d.anchorValue? ≠ none → ∃ index e, d.place? merged = some index ∧
        merged[index]? = some e ∧ e.toInstance.Covers d.toInstance) ∧
      (∀ index e, merged[index]? = some e → e.anchorValue? ≠ none →
        Instance.Sourced (Entity.toInstance '' {d | d ∈ decoded ∧ d.place? merged = some index})
          e.toInstance) ∧
      merged.filter (·.anchorValue?.isNone) = decoded.filter (·.anchorValue?.isNone) :=
  ⟨Places.wellFormed_document, Places.outcome_document,
    mergeEntities_provenance Places.wellFormed_document Places.outcome_document _ _⟩

end QueryByExample
