import QueryByExample.Proofs.Answer.Invariant
/-!
# The vocabulary of tagged texts

Answers in plain names and answers in the keywords of linked data differ only in the keys of tagged
texts. The keys take part in the equality by which values are merged, so the two ways of merging are
followed side by side: rows decode to values that differ in this way, such values are equal and have
the same identity in the one vocabulary iff they do in the other, and merging keeps the difference.

The difference has to be read along the template, because a nested object may look like a tagged
text without being one.

## Main definitions

- `Template.Retagged`: values of a slot that differ only in the keys of tagged texts.

## Main statements

- `Template.Retagged.same_eq`, `Template.Retagged.sameEntity_eq`: the same comparisons hold.
- `Template.Retagged.takeUp_and_mergeValue`: merging one value.
- `Template.retagged_mergeEntities`: merging all rows.
-/

namespace QueryByExample

namespace Template

open Instance

/-- Two values of a slot differ only in the keys of tagged texts: the first has plain names, the
second one keywords. -/
inductive Retagged : Slot → Instance → Instance → Prop where
  | constant {given value : Json} : Retagged (.constant given) (.constant value) (.constant value)
  | literal {column : Column} {value : Literal} :
      Retagged (.leaf column) (.literal value) (.literal value)
  | tagged {column : Column} {language value : String} :
      Retagged (.leaf column) (languagePair .plain language value)
        (languagePair .jsonLd language value)
  | object (label : Label) {slots : List (String × Slot)}
      {fields fields' : List (String × Instance)}
      (distinct : Fields.Distinct fields) (names : Fields.names fields = Fields.names fields')
      (known : ∀ key v, Fields.find? key fields = some v →
        ∃ slot, Fields.find? key slots = some slot)
      (values : ∀ key slot v v', Fields.find? key slots = some slot →
        Fields.find? key fields = some v → Fields.find? key fields' = some v' →
        Retagged slot v v') :
      Retagged (.node label slots) (.object label.anchor? fields) (.object label.anchor? fields')
  | list {slot : Slot} {items items' : List Instance} (length : items.length = items'.length)
      (flat : ∀ x ∈ items, x.isList = false)
      (each : ∀ (i : Nat) x x', items[i]? = some x → items'[i]? = some x' → Retagged slot x x') :
      Retagged slot (.list items) (.list items')

/-- Two values of the slot that a key has. -/
def RetaggedAt (slots : List (String × Slot)) (key : String) (v v' : Instance) : Prop :=
  ∃ slot, Fields.find? key slots = some slot ∧ Retagged slot v v'

variable {slot : Slot} {label : Label} {slots : List (String × Slot)}
  {v v' x x' y y' : Instance} {items items' : List Instance}
  {fields fields' : List (String × Instance)}

theorem Retagged.isList_eq (h : Retagged slot x x') : x.isList = x'.isList := by
  cases h <;> rfl

theorem Retagged.isConstant_eq (h : Retagged slot x x') : x.isConstant = x'.isConstant := by
  cases h <;> rfl

theorem Retagged.forall₂ (h : Retagged slot (.list items) (.list items')) :
    List.Forall₂ (Retagged slot) items items' := by
  cases h with
  | list length _ each =>
    exact Fields.forall₂_iff_rel.2 fun i => Fields.rel_getElem?_of_length_eq length (each i)

theorem retagged_list (flat : ∀ x ∈ items, x.isList = false)
    (h : List.Forall₂ (Retagged slot) items items') :
    Retagged slot (.list items) (.list items') := by
  refine .list h.length_eq flat fun i x x' hx hx' => ?_
  have hrel := Fields.forall₂_iff_rel.1 h i
  rw [hx, hx'] at hrel
  cases hrel with
  | some hxx' => exact hxx'

/-- Objects are related field by field: they have the same keys in the same order. -/
theorem retagged_object (distinct : Fields.Distinct fields)
    (names : Fields.names fields = Fields.names fields')
    (h : ∀ key v v', Fields.find? key fields = some v → Fields.find? key fields' = some v' →
      RetaggedAt slots key v v') :
    Retagged (.node label slots) (.object label.anchor? fields)
      (.object label.anchor? fields') := by
  refine .object label distinct names (fun key v hv => ?_) fun key slot v v' hslot hv hv' => ?_
  · have hkey : key ∈ Fields.names fields' := names ▸ Fields.mem_names_of_find? hv
    obtain ⟨v', hv'⟩ := Fields.exists_find?_of_mem_names hkey
    obtain ⟨slot, hslot, -⟩ := h key v v' hv hv'
    exact ⟨slot, hslot⟩
  · obtain ⟨slot', hslot', hvv'⟩ := h key v v' hv hv'
    obtain rfl := Option.some.inj (hslot.symm.trans hslot')
    exact hvv'

/-- Under every key both objects have related values, or neither has one. -/
theorem Retagged.rel_find? (h : Retagged (.node label slots) (.object label.anchor? fields)
    (.object label.anchor? fields')) (key : String) :
    Option.Rel (RetaggedAt slots key) (Fields.find? key fields) (Fields.find? key fields') := by
  cases h with
  | object _ distinct names known values =>
    refine Fields.rel_find?_of_names_perm (.of_eq names) fun v v' hv hv' => ?_
    obtain ⟨slot, hslot⟩ := known key v hv
    exact ⟨slot, hslot, values key slot v v' hslot hv hv'⟩

theorem Retagged.forall₂_fields (h : Retagged (.node label slots) (.object label.anchor? fields)
    (.object label.anchor? fields')) :
    List.Forall₂ (fun field field' => field.1 = field'.1 ∧
      RetaggedAt slots field.1 field.2 field'.2) fields fields' := by
  have hrel := h.rel_find?
  cases h with
  | object _ distinct names => exact Fields.forall₂_of_rel_find? distinct names hrel

theorem Retagged.hasBoundValues_eq (h : Retagged (.node label slots)
    (.object label.anchor? fields) (.object label.anchor? fields')) :
    (Entity.mk label.anchor? fields).hasBoundValues =
      (Entity.mk label.anchor? fields').hasBoundValues := by
  refine Position.any_eq_of_forall₂ (h.forall₂_fields.imp ?_)
  rintro field field' ⟨-, slot, -, hv⟩
  rw [hv.isConstant_eq]

/-! ### Comparisons -/

theorem same_languagePair_eq (language value language' value' : String) :
    (languagePair .plain language value).same (languagePair .plain language' value') =
      (languagePair .jsonLd language value).same (languagePair .jsonLd language' value') := by
  simp [languagePair, same, sameFields, Fields.find?, Vocabulary.languageKey, Vocabulary.valueKey]

/-- Values are equal in the one vocabulary iff they are in the other one. -/
theorem Retagged.same_eq (hx : Retagged slot x x') (hy : Retagged slot y y') :
    x.same y = x'.same y' := by
  induction hx generalizing y y' with
  | constant =>
    cases hy with
    | constant => rfl
    | list => rfl
  | literal =>
    cases hy with
    | literal => rfl
    | tagged => rfl
    | list => rfl
  | tagged =>
    cases hy with
    | literal => rfl
    | tagged => exact same_languagePair_eq _ _ _ _
    | list => rfl
  | @object label slots fields fields' distinct names known values ih =>
    cases hy with
    | list => rfl
    | @object _ _ others others' distinct' names' known' values' =>
      have hfields := Retagged.object label distinct names known values
      have hothers := Retagged.object label distinct' names' known' values'
      have hdistinct : Fields.Distinct fields' := by rwa [Fields.Distinct, ← names]
      have hdistinct' : Fields.Distinct others' := by rwa [Fields.Distinct, ← names']
      rw [Bool.eq_iff_iff, same_object_iff distinct distinct', same_object_iff hdistinct hdistinct']
      refine forall_congr' fun key => Fields.rel_congr (hfields.rel_find? key)
        (hothers.rel_find? key) fun a a' b b' ha ha' hb hb' haa' hbb' => ?_
      obtain ⟨slot, hslot, -⟩ := haa'
      obtain ⟨slot', hslot', hbb'⟩ := hbb'
      obtain rfl := Option.some.inj (hslot.symm.trans hslot')
      rw [ih key slot a a' hslot ha ha' hbb']
  | @list slot items items' length flat each ih =>
    cases hy with
    | @list _ others others' length' flat' each' =>
      rw [Bool.eq_iff_iff, same_list_iff, same_list_iff]
      have hrel := Fields.forall₂_iff_rel.1 (Retagged.forall₂ (.list length flat each))
      have hrel' := Fields.forall₂_iff_rel.1 (Retagged.forall₂ (.list length' flat' each'))
      refine forall_congr' fun i => Fields.rel_congr (hrel i) (hrel' i)
        fun a a' b b' ha ha' _ _ _ hbb' => ?_
      rw [ih i a a' ha ha' hbb']
    | _ => rfl

theorem Retagged.rel_anchorValue? (hx : Retagged slot x x') :
    Option.Rel (fun a a' => ∃ key label slots inner, slot = .node label slots ∧
      label.anchor? = some key ∧ Fields.find? key slots = some inner ∧ Retagged inner a a')
      x.anchorValue? x'.anchorValue? := by
  cases hx with
  | @object label slots fields fields' distinct names known values =>
    have hrel := (Retagged.object label distinct names known values).rel_find?
    cases hanchor : label.anchor? with
    | none => exact .none
    | some key =>
      have hkey := hrel key
      simp only [anchorValue?]
      generalize Fields.find? key fields = a? at hkey ⊢
      generalize Fields.find? key fields' = a'? at hkey ⊢
      cases hkey with
      | none => exact .none
      | some h =>
        obtain ⟨inner, hinner, h⟩ := h
        exact .some ⟨key, label, slots, inner, rfl, hanchor, hinner, h⟩
  | _ => exact .none

/-- Objects have the same identity in the one vocabulary iff they do in the other one. -/
theorem Retagged.sameEntity_eq (hx : Retagged slot x x') (hy : Retagged slot y y') :
    x.sameEntity y = x'.sameEntity y' := by
  have hxrel := hx.rel_anchorValue?
  have hyrel := hy.rel_anchorValue?
  unfold sameEntity
  generalize x.anchorValue? = a? at hxrel
  generalize x'.anchorValue? = a'? at hxrel
  generalize y.anchorValue? = b? at hyrel
  generalize y'.anchorValue? = b'? at hyrel
  cases hxrel with
  | none => rfl
  | some h =>
    cases hyrel with
    | none => rfl
    | some h' =>
      obtain ⟨key, label, slots, inner, rfl, hkey, hinner, h⟩ := h
      obtain ⟨_, _, _, _, heq, hkey', hinner', h'⟩ := h'
      obtain ⟨rfl, rfl⟩ := Shape.node.inj heq
      obtain rfl := Option.some.inj (hkey.symm.trans hkey')
      obtain rfl := Option.some.inj (hinner.symm.trans hinner')
      exact h.same_eq h'

/-! ### Merging -/

theorem findIdx?_sameEntity_eq (h : List.Forall₂ (Retagged slot) items items')
    (hy : Retagged slot y y') :
    items.findIdx? (·.sameEntity y) = items'.findIdx? (·.sameEntity y') :=
  Position.findIdx?_eq_of_forall₂ (h.imp fun _ _ hx => hx.sameEntity_eq hy)

section Step

variable (hy : Retagged slot y y')
  (htake : ∀ x x', Retagged slot x x' → x.sameEntity y = true →
    Retagged slot (x.takeUp y) (x'.takeUp y'))

include hy htake in
theorem forall₂_join (h : List.Forall₂ (Retagged slot) items items') :
    List.Forall₂ (Retagged slot) (join y items) (join y' items') := by
  unfold join
  rw [← findIdx?_sameEntity_eq h hy]
  cases hfind : items.findIdx? (·.sameEntity y) with
  | some index =>
    refine Position.forall₂_modify h fun x x' hx _ hxx' => ?_
    have same := Position.prop_of_findIdx? hfind hx
    exact htake x x' hxx' same
  | none => exact List.rel_append h (.cons hy .nil)

include hy htake in
theorem forall₂_enlist (h : List.Forall₂ (Retagged slot) items items') :
    List.Forall₂ (Retagged slot) (enlist y items) (enlist y' items') := by
  have hany : items.any (·.same y) = items'.any (·.same y') :=
    Position.any_eq_of_forall₂ (h.imp fun _ _ hx => hx.same_eq hy)
  unfold enlist addItem
  rw [← findIdx?_sameEntity_eq h hy, ← hany]
  cases hfind : items.findIdx? (·.sameEntity y) with
  | some index =>
    refine Position.forall₂_modify h fun x x' hx _ hxx' => ?_
    have same := Position.prop_of_findIdx? hfind hx
    exact htake x x' hxx' same
  | none =>
    cases items.any (·.same y) with
    | true => exact h
    | false => exact List.rel_append h (.cons hy .nil)

include hy htake in
/-- A field takes an item in the same way in both vocabularies. -/
theorem Retagged.mergeValue_listed (flag : Bool) (hitem : y.isList = false)
    (hv : Retagged slot v v') :
    Retagged slot (mergeValue v (listed flag y)) (mergeValue v' (listed flag y')) := by
  have hitem' : y'.isList = false := hy.isList_eq ▸ hitem
  cases hlist : v.isList with
  | true =>
    cases hv with
    | list length flat each =>
      rw [mergeValue_list hitem, mergeValue_list hitem']
      refine retagged_list (fun x hx => ?_)
        (forall₂_enlist hy htake (Retagged.forall₂ (.list length flat each)))
      rcases (enlisted y _).mem_cases hx with hx | rfl | ⟨z, hz, -, rfl⟩
      · exact flat x hx
      · exact hitem
      · exact isList_takeUp (flat z hz)
    | _ => cases hlist
  | false =>
    rw [mergeValue_single hlist hitem, mergeValue_single (hv.isList_eq ▸ hlist) hitem',
      ← hv.same_eq hy, ← hv.sameEntity_eq hy]
    split
    · exact hv
    · split
      · next same => exact htake v v' hv same
      · exact retagged_list (by simp [hlist, hitem]) (.cons hv (.cons hy .nil))

end Step

theorem mergeValue_cons (v x : Instance) (rest : List Instance) :
    mergeValue v (.list (x :: rest)) = mergeValue v (listed true x) := by
  cases x <;> rfl

/-- An object takes up the fields of another one in the same way in both vocabularies, and so does a
field a value. -/
theorem Retagged.takeUp_and_mergeValue (hy : Retagged slot y y') :
    (∀ x x', Retagged slot x x' → x.sameEntity y = true →
      Retagged slot (x.takeUp y) (x'.takeUp y')) ∧
    ∀ v v', Retagged slot v v' → Retagged slot (mergeValue v y) (mergeValue v' y') := by
  -- an item without identity is never taken up
  have hplain : ∀ {slot y y'}, Retagged slot y y' → y.isList = false → y.anchorValue? = none →
      (∀ x x', Retagged slot x x' → x.sameEntity y = true →
        Retagged slot (x.takeUp y) (x'.takeUp y')) ∧
      ∀ v v', Retagged slot v v' → Retagged slot (mergeValue v y) (mergeValue v' y') := by
    intro slot y y' hy hitem hid
    have htake : ∀ x x', Retagged slot x x' → x.sameEntity y = true →
        Retagged slot (x.takeUp y) (x'.takeUp y') := fun x x' _ same =>
      absurd hid (anchorValue?_ne_none_of_sameEntity same).2
    exact ⟨htake, fun v v' hv => hy.mergeValue_listed htake false hitem hv⟩
  induction hy with
  | constant => exact hplain .constant rfl rfl
  | literal => exact hplain .literal rfl rfl
  | tagged => exact hplain .tagged rfl rfl
  | @object label slots additions additions' distinct names known values ih =>
    have hy := Retagged.object label distinct names known values
    have htake : ∀ x x', Retagged (.node label slots) x x' →
        x.sameEntity (.object label.anchor? additions) = true →
        Retagged (.node label slots) (x.takeUp (.object label.anchor? additions))
          (x'.takeUp (.object label.anchor? additions')) := by
      intro x x' hx same
      cases hx with
      | list => exact absurd rfl (anchorValue?_ne_none_of_sameEntity same).1
      | @object _ _ base base' distinct' names' known' values' =>
        have hx := Retagged.object label distinct' names' known' values'
        rw [takeUp_object, takeUp_object]
        refine retagged_object (distinct_mergeFields distinct')
          (names_mergeFields_congr names' names) fun key r r' hr hr' => ?_
        have hadditions : Fields.Distinct additions' := by rwa [Fields.Distinct, ← names]
        rw [find?_mergeFields distinct] at hr
        rw [find?_mergeFields hadditions] at hr'
        have hbase := hx.rel_find? key
        have hnew := hy.rel_find? key
        have hmerge := fun slot w w' hslot hw hw' => (ih key slot w w' hslot hw hw').2
        generalize Fields.find? key additions = w? at hr hnew hmerge
        generalize Fields.find? key additions' = w'? at hr' hnew hmerge
        generalize Fields.find? key base = v? at hr hbase
        generalize Fields.find? key base' = v'? at hr' hbase
        -- both objects keep the field, both get it, or both merge a value into it
        cases hnew with
        | none =>
          rw [Option.elim_none] at hr hr'
          rw [hr, hr'] at hbase
          cases hbase with
          | some h => exact h
        | some hw =>
          obtain ⟨slot, hslot, hw⟩ := hw
          obtain rfl := Option.some.inj hr
          obtain rfl := Option.some.inj hr'
          refine ⟨slot, hslot, ?_⟩
          cases hbase with
          | none => exact hw
          | some hv =>
            obtain ⟨slot', hslot', hv⟩ := hv
            obtain rfl := Option.some.inj (hslot.symm.trans hslot')
            exact hmerge slot _ _ hslot rfl rfl _ _ hv
    exact ⟨htake, fun v v' hv => hy.mergeValue_listed htake false rfl hv⟩
  | @list slot items items' length flat each ih =>
    refine ⟨fun x x' _ same => absurd rfl (anchorValue?_ne_none_of_sameEntity same).2,
      fun v v' hv => ?_⟩
    cases items with
    | nil =>
      obtain rfl : items' = [] := List.length_eq_zero_iff.1 length.symm
      exact hv
    | cons x rest =>
      cases items' with
      | nil => cases length
      | cons x' rest' =>
        rw [mergeValue_cons, mergeValue_cons]
        exact (each 0 x x' rfl rfl).mergeValue_listed (ih 0 x x' rfl rfl).1 true
          (flat x List.mem_cons_self) hv

/-! ### Rows -/

section Decoding

variable {tags : TagDisplay} {row : Row}

theorem retagged_listed {flag : Bool} (hitem : x.isList = false) (h : Retagged slot x x') :
    Retagged slot (listed flag x) (listed flag x') := by
  cases flag with
  | true => exact retagged_list (by simp [hitem]) (.cons h .nil)
  | false => exact h

theorem rel_decodeBinding (column : Column) (binding : Binding) (accept? : Option ValueKind)
    (tags : TagDisplay) :
    Option.Rel (fun x x' => x.isList = false ∧ Retagged (.leaf column) x x')
      (decodeBinding binding accept? tags .plain) (decodeBinding binding accept? tags .jsonLd) := by
  unfold decodeBinding
  generalize Literal.ofBinding binding = value
  dsimp only
  split
  · exact .none
  · cases value with
    | text s =>
      cases binding.language? with
      | none => exact .some ⟨rfl, .literal⟩
      | some language =>
        cases tags with
        | shown => exact .some ⟨rfl, .tagged⟩
        | hidden => exact .some ⟨rfl, .literal⟩
    | _ => exact .some ⟨rfl, .literal⟩

theorem rel_decodeColumn (column : Column) :
    Option.Rel (Retagged (.leaf column)) (decodeColumn ⟨tags, .plain⟩ row column)
      (decodeColumn ⟨tags, .jsonLd⟩ row column) := by
  unfold decodeColumn
  cases row.find? column.name with
  | none => exact .none
  | some binding =>
    have hrel := rel_decodeBinding column binding column.accept? (column.tags?.getD tags)
    simp only [Option.bind_some]
    generalize decodeBinding binding column.accept? (column.tags?.getD tags) .plain = v? at hrel ⊢
    generalize decodeBinding binding column.accept? (column.tags?.getD tags) .jsonLd = v'? at hrel ⊢
    cases hrel with
    | none => exact .none
    | some h => exact .some (retagged_listed h.1 h.2)

theorem forall₂_decodeFields {S : String → Instance → Instance → Prop}
    (h : ∀ key slot, (key, slot) ∈ slots → Option.Rel (S key)
      (decodeField ⟨tags, .plain⟩ row slot) (decodeField ⟨tags, .jsonLd⟩ row slot)) :
    List.Forall₂ (fun field field' => field.1 = field'.1 ∧ S field.1 field.2 field'.2)
      (decodeFields ⟨tags, .plain⟩ row slots) (decodeFields ⟨tags, .jsonLd⟩ row slots) := by
  induction slots with
  | nil => exact .nil
  | cons field rest ih =>
    obtain ⟨key, slot⟩ := field
    have hrest := ih fun key slot hmem => h key slot (List.mem_cons_of_mem _ hmem)
    have hslot := h key slot List.mem_cons_self
    rw [decodeFields, decodeFields]
    generalize decodeField ⟨tags, .plain⟩ row slot = v? at hslot ⊢
    generalize decodeField ⟨tags, .jsonLd⟩ row slot = v'? at hslot ⊢
    cases hslot with
    | none => exact hrest
    | some hv => exact .cons ⟨rfl, hv⟩ hrest

theorem retagged_decodeFields (tags : TagDisplay) (row : Row) (label : Label)
    (distinct : Fields.Distinct slots)
    (h : ∀ key slot, (key, slot) ∈ slots → Option.Rel (Retagged slot)
      (decodeField ⟨tags, .plain⟩ row slot) (decodeField ⟨tags, .jsonLd⟩ row slot)) :
    Retagged (.node label slots)
      (.object label.anchor? (Fields.ofList (decodeFields ⟨tags, .plain⟩ row slots)))
      (.object label.anchor? (Fields.ofList (decodeFields ⟨tags, .jsonLd⟩ row slots))) := by
  have hslots : ∀ key slot, (key, slot) ∈ slots → Option.Rel (RetaggedAt slots key)
      (decodeField ⟨tags, .plain⟩ row slot) (decodeField ⟨tags, .jsonLd⟩ row slot) := by
    intro key slot hmem
    have hrel := h key slot hmem
    generalize decodeField ⟨tags, .plain⟩ row slot = v? at hrel ⊢
    generalize decodeField ⟨tags, .jsonLd⟩ row slot = v'? at hrel ⊢
    cases hrel with
    | none => exact .none
    | some hv => exact .some ⟨slot, distinct.find?_of_mem hmem, hv⟩
  have hfields := forall₂_decodeFields hslots
  have hdistinct (options : DecodeOptions) : Fields.Distinct (decodeFields options row slots) :=
    (names_decodeFields_sublist slots).nodup distinct
  rw [Fields.ofList_eq_self (hdistinct _), Fields.ofList_eq_self (hdistinct _)]
  have hnames := Fields.names_eq_of_forall₂ (hfields.imp fun _ _ h => h.1)
  refine retagged_object (hdistinct _) hnames fun key v v' hv hv' => ?_
  have hrel := Fields.rel_find?_of_forall₂ hfields key
  rw [hv, hv'] at hrel
  cases hrel with
  | some h => exact h

/-- A row gives related values for a slot, or none. -/
theorem rel_decodeField (hsound : Sound slot) :
    Option.Rel (Retagged slot) (decodeField ⟨tags, .plain⟩ row slot)
      (decodeField ⟨tags, .jsonLd⟩ row slot) := by
  induction hsound with
  | constant => exact .some .constant
  | leaf => exact rel_decodeColumn _
  | @node label slots distinct _ _ ih =>
    have hobject := retagged_decodeFields tags row label distinct ih
    have hbound := hobject.hasBoundValues_eq
    simp only [decodeField, nodeInstance]
    split
    · next h =>
      rw [if_pos (hbound ▸ h)]
      exact .some (retagged_listed rfl hobject)
    · next h =>
      rw [if_neg (hbound ▸ h)]
      exact .none

theorem retagged_decodeRow {template : Template}
    (hsound : Sound (.node template.label template.fields)) (tags : TagDisplay) (row : Row) :
    Retagged (.node template.label template.fields)
      (decodeRow ⟨tags, .plain⟩ template row).toInstance
      (decodeRow ⟨tags, .jsonLd⟩ template row).toInstance := by
  cases hsound with
  | node distinct _ hslots =>
    exact retagged_decodeFields tags row template.label distinct fun key slot hmem =>
      rel_decodeField (hslots key slot hmem)

end Decoding

theorem forall₂_joinAll (h : List.Forall₂ (Retagged slot) items items') :
    List.Forall₂ (Retagged slot) (joinAll items) (joinAll items') := by
  refine List.rel_foldl (fun merged merged' hmerged y y' hy => ?_) .nil h
  exact forall₂_join hy hy.takeUp_and_mergeValue.1 hmerged

/-- The merged objects of some rows are related one by one. -/
theorem retagged_mergeEntities {template : Template}
    (hsound : Sound (.node template.label template.fields)) (tags : TagDisplay) (rows : List Row) :
    List.Forall₂ (fun e e' : Entity => Retagged (.node template.label template.fields)
        e.toInstance e'.toInstance)
      (mergeEntities (rows.map (decodeRow ⟨tags, .plain⟩ template)))
      (mergeEntities (rows.map (decodeRow ⟨tags, .jsonLd⟩ template))) := by
  have hrows : List.Forall₂ (Retagged (.node template.label template.fields))
      ((rows.map (decodeRow ⟨tags, .plain⟩ template)).map Entity.toInstance)
      ((rows.map (decodeRow ⟨tags, .jsonLd⟩ template)).map Entity.toInstance) := by
    simp only [List.forall₂_map_left_iff, List.forall₂_map_right_iff]
    exact List.forall₂_same.2 fun row _ => retagged_decodeRow hsound tags row
  have hmerged := forall₂_joinAll hrows
  rw [← mergeEntities_toInstance, ← mergeEntities_toInstance] at hmerged
  exact List.forall₂_map_left_iff.1 (List.forall₂_map_right_iff.1 hmerged)

end Template

end QueryByExample
