import QueryByExample.Answer.Decode
import QueryByExample.Answer.Merge
import QueryByExample.Proofs.Answer.Equality
import QueryByExample.Proofs.Template
/-!
# Objects that conform to a template

An object conforms to a template if its fields hold what their slots say, down to every depth. How
many items a field holds, and whether they stand in a list, is left to a parameter: a row gives one
item for each field, and merging rows gathers several.

## Main definitions

- `Instance.items`, `Instance.Holds`: the items of a field.
- `Instance.Single`, `Instance.Gathered`: fields of a row and fields of a merged object.
- `Template.Admits`, `Template.Fits`: conformance of an item and of a field.

## Main statements

- `Template.admits_decodeRow`: the object of a row conforms to the template of the row.
-/

namespace QueryByExample

namespace Instance

/-- Is the value a list? -/
def isList : Instance → Bool
  | .list _ => true
  | _ => false

/-- The items of a list; any other value is its own only item. -/
def items : Instance → List Instance
  | .list items => items
  | value => [value]

/-- The fields of an object. -/
def fields : Instance → List (String × Instance)
  | .object _ fields => fields
  | _ => []

/-- The object holds the item under a key, alone or in a list. -/
def Holds (value : Instance) (key : String) (item : Instance) : Prop :=
  ∃ found, Fields.find? key value.fields = some found ∧ item ∈ found.items

@[simp] theorem items_list (items : List Instance) : (list items).items = items := rfl

theorem items_of_isList_eq_false {value : Instance} (h : value.isList = false) :
    value.items = [value] := by
  cases value with
  | list => cases h
  | _ => rfl

theorem items_listed {flag : Bool} {value : Instance} (h : value.isList = false) :
    (listed flag value).items = [value] := by
  cases flag with
  | true => rfl
  | false => exact items_of_isList_eq_false h

/-- A literal or a tagged text: what a column holds. -/
inductive IsAtom : Instance → Prop where
  | literal {value : Literal} : IsAtom (.literal value)
  | tagged {vocabulary : Vocabulary} {language value : String} :
      IsAtom (languagePair vocabulary language value)

theorem IsAtom.isList {value : Instance} (h : value.IsAtom) : value.isList = false := by
  cases h <;> rfl

theorem IsAtom.anchorValue? {value : Instance} (h : value.IsAtom) : value.anchorValue? = none := by
  cases h <;> rfl

theorem IsAtom.wellFormed {value : Instance} (h : value.IsAtom) : value.WellFormed := by
  cases h with
  | literal => exact .literal
  | @tagged vocabulary language value =>
    refine .object ?_ fun key value hmem => ?_
    · cases vocabulary <;> simp [Fields.Distinct, Fields.names, Vocabulary.languageKey,
        Vocabulary.valueKey]
    · simp only [ofText, List.mem_cons, Prod.mk.injEq, List.not_mem_nil, or_false] at hmem
      rcases hmem with ⟨-, rfl⟩ | ⟨-, rfl⟩ <;> exact .literal

/-- A field of a row: one item, in a list if its slot asks for one. -/
def Single (flag : Bool) (value : Instance) : Prop :=
  ∃ item, value = listed flag item ∧ item.isList = false

/-- A field of a merged object. Its slot may ask for a list; else there is one only where two items
met. Items are no lists, are not equal to each other, and are not objects with the same identity. -/
structure Gathered (flag : Bool) (value : Instance) : Prop where
  isList : flag = true → value.isList = true
  two_le : flag = false → value.isList = true → 2 ≤ value.items.length
  nonempty : value.items ≠ []
  flat : ∀ item ∈ value.items, item.isList = false
  unequal : value.items.Pairwise fun x y => x.same y = false
  apart : value.items.Pairwise fun x y => x.sameEntity y = false

theorem Single.gathered {flag : Bool} {value : Instance} (h : Single flag value) :
    Gathered flag value := by
  obtain ⟨item, rfl, hitem⟩ := h
  have hitems : (listed flag item).items = [item] := items_listed hitem
  constructor
  · rintro rfl
    rfl
  · rintro rfl hlist
    exact absurd hlist (by simp [listed, hitem])
  · simp [hitems]
  · simp [hitems, hitem]
  · simp [hitems]
  · simp [hitems]

end Instance

namespace Template

/-- Does the slot ask for a list? -/
def Slot.list : Slot → Bool
  | .constant _ => false
  | .leaf column => column.list
  | .node label _ => label.list

/-- An item conforms to a slot: a constant is that of the template, a column holds a literal or a
tagged text, and an object has an identity that is none of its lists and fields that conform to
slots of the node. The parameter says which forms the fields have. -/
inductive Admits (form : Bool → Instance → Prop) : Slot → Instance → Prop where
  | constant {value : Json} (h : value.WellFormed) : Admits form (.constant value) (.constant value)
  | leaf {column : Column} {item : Instance} (h : item.IsAtom) : Admits form (.leaf column) item
  | node {label : Label} {slots : List (String × Slot)} {fields : List (String × Instance)}
      (distinct : Fields.Distinct fields)
      (identity : ∀ id, (Instance.object label.anchor? fields).anchorValue? = some id → id.IsAtom)
      (known : ∀ key value, Fields.find? key fields = some value →
        ∃ slot, Fields.find? key slots = some slot)
      (formed : ∀ key value slot, Fields.find? key fields = some value →
        Fields.find? key slots = some slot → form (Slot.list slot) value)
      (items : ∀ key value slot, Fields.find? key fields = some value →
        Fields.find? key slots = some slot → ∀ item ∈ value.items, Admits form slot item) :
      Admits form (.node label slots) (.object label.anchor? fields)

/-- A field conforms to a slot. -/
def Fits (form : Bool → Instance → Prop) (slot : Slot) (value : Instance) : Prop :=
  form (Slot.list slot) value ∧ ∀ item ∈ value.items, Admits form slot item

variable {form : Bool → Instance → Prop} {slot : Slot} {label : Label}
  {slots : List (String × Slot)} {anchor? : Option String} {fields : List (String × Instance)}

theorem Admits.exists_fields {x : Instance} (hx : Admits form (.node label slots) x) :
    ∃ fields, x = .object label.anchor? fields ∧ Fields.Distinct fields := by
  cases hx with
  | @node _ _ fields distinct => exact ⟨fields, rfl, distinct⟩

/-- The fields of a conforming object conform. -/
theorem Admits.exists_fits {x value : Instance} {key : String}
    (hx : Admits form (.node label slots) x) (hk : Fields.find? key x.fields = some value) :
    ∃ slot, Fields.find? key slots = some slot ∧ Fits form slot value := by
  cases hx with
  | node distinct identity known formed items =>
    obtain ⟨slot, hslot⟩ := known key value hk
    exact ⟨slot, hslot, formed key value slot hk hslot, items key value slot hk hslot⟩

theorem Admits.fits {x value : Instance} {key : String} (hx : Admits form (.node label slots) x)
    (hslot : Fields.find? key slots = some slot) (hk : Fields.find? key x.fields = some value) :
    Fits form slot value := by
  obtain ⟨slot', hslot', hfits⟩ := hx.exists_fits hk
  obtain rfl := Option.some.inj (hslot.symm.trans hslot')
  exact hfits

/-- The items that a conforming object holds conform. -/
theorem Admits.exists_slot_of_holds {x z : Instance} {key : String}
    (hx : Admits form (.node label slots) x) (hz : x.Holds key z) :
    ∃ slot, Fields.find? key slots = some slot ∧ Admits form slot z := by
  obtain ⟨v, hv, hz⟩ := hz
  obtain ⟨slot, hslot, hfits⟩ := hx.exists_fits hv
  exact ⟨slot, hslot, hfits.2 z hz⟩

theorem Admits.of_holds {x z : Instance} {key : String} (hx : Admits form (.node label slots) x)
    (hslot : Fields.find? key slots = some slot) (hz : x.Holds key z) : Admits form slot z := by
  obtain ⟨slot', hslot', hadmits⟩ := hx.exists_slot_of_holds hz
  obtain rfl := Option.some.inj (hslot.symm.trans hslot')
  exact hadmits

/-- An object all of whose fields conform conforms. -/
theorem admits_node (distinct : Fields.Distinct fields)
    (identity : ∀ id, (Instance.object label.anchor? fields).anchorValue? = some id → id.IsAtom)
    (h : ∀ key value, Fields.find? key fields = some value →
      ∃ slot, Fields.find? key slots = some slot ∧ Fits form slot value) :
    Admits form (.node label slots) (.object label.anchor? fields) := by
  refine .node distinct identity (fun key value hk => ?_) (fun key value slot hk hslot => ?_)
    fun key value slot hk hslot => ?_
  · obtain ⟨slot, hslot, -⟩ := h key value hk
    exact ⟨slot, hslot⟩
  · obtain ⟨slot', hslot', hfits⟩ := h key value hk
    obtain rfl := Option.some.inj (hslot.symm.trans hslot')
    exact hfits.1
  · obtain ⟨slot', hslot', hfits⟩ := h key value hk
    obtain rfl := Option.some.inj (hslot.symm.trans hslot')
    exact hfits.2

/-- The identity of a conforming item is a literal or a tagged text. -/
theorem Admits.isAtom_anchorValue {item id : Instance} (h : Admits form slot item)
    (hid : item.anchorValue? = some id) : id.IsAtom := by
  cases h with
  | constant => cases hid
  | leaf hatom => rw [hatom.anchorValue?] at hid; cases hid
  | node _ identity => exact identity id hid

theorem Admits.isList {item : Instance} (h : Admits form slot item) : item.isList = false := by
  cases h with
  | constant => rfl
  | leaf hatom => exact hatom.isList
  | node => rfl

/-- Induction on the depth of an item, through what objects hold. -/
@[elab_as_elim]
theorem Admits.induction_holds {motive : ∀ slot item, Admits form slot item → Prop}
    (plain : ∀ slot item (h : Admits form slot item), (∀ label slots, slot ≠ .node label slots) →
      item.anchorValue? = none → motive slot item h)
    (node : ∀ label slots item (h : Admits form (.node label slots) item),
      (∀ key inner slot (hinner : item.Holds key inner)
        (hslot : Fields.find? key slots = some slot),
        motive slot inner (h.of_holds hslot hinner)) → motive (.node label slots) item h)
    {item : Instance} (h : Admits form slot item) : motive slot item h := by
  induction h with
  | constant hvalue => exact plain _ _ (.constant hvalue) (by simp) rfl
  | leaf hatom => exact plain _ _ (.leaf hatom) (by simp) hatom.anchorValue?
  | node distinct identity known formed items ih =>
    refine node _ _ _ (.node distinct identity known formed items) ?_
    rintro key inner slot ⟨value, hvalue, hinner⟩ hslot
    exact ih key value slot hvalue hslot inner hinner

/-- Only objects of nodes have an identity. -/
theorem Admits.exists_node {item : Instance} (h : Admits form slot item)
    (hid : item.anchorValue? ≠ none) : ∃ label slots, slot = .node label slots := by
  cases h with
  | constant => exact absurd rfl hid
  | leaf hatom => exact absurd hatom.anchorValue? hid
  | @node label slots => exact ⟨label, slots, rfl⟩

/-- A form may be weakened. -/
theorem Admits.mono {form' : Bool → Instance → Prop} (hform : ∀ flag value, form flag value →
    form' flag value) {item : Instance} (h : Admits form slot item) : Admits form' slot item := by
  induction h with
  | constant hvalue => exact .constant hvalue
  | leaf hatom => exact .leaf hatom
  | node distinct identity known formed _ ih =>
    exact .node distinct identity known
      (fun key value slot hk hslot => hform _ _ (formed key value slot hk hslot)) ih

/-- Conforming items are well-formed. -/
theorem Admits.wellFormed {item : Instance} (h : Admits form slot item) : item.WellFormed := by
  induction h with
  | constant hvalue => exact .constant hvalue
  | leaf hatom => exact hatom.wellFormed
  | node distinct identity known _ _ ih =>
    refine .object distinct fun key value hmem => ?_
    have hk := distinct.find?_of_mem hmem
    obtain ⟨slot, hslot⟩ := known key value hk
    have hitems := ih key value slot hk hslot
    -- a value that is no list is its own item
    cases value with
    | list items => exact .list hitems
    | _ => exact hitems _ List.mem_cons_self

/-! ### Objects of rows -/

section Decoding

variable {options : DecodeOptions} {row : Row}

theorem isAtom_of_decodeBinding {binding : Binding} {accept? : Option ValueKind}
    {tags : TagDisplay} {vocabulary : Vocabulary} {value : Instance}
    (h : decodeBinding binding accept? tags vocabulary = some value) : value.IsAtom := by
  unfold decodeBinding at h
  simp only at h
  split at h
  · cases h
  · split at h
    · obtain rfl := Option.some.inj h
      exact .tagged
    · obtain rfl := Option.some.inj h
      exact .literal

theorem exists_atom_of_decodeColumn {column : Column} {value : Instance}
    (h : decodeColumn options row column = some value) :
    ∃ item, item.IsAtom ∧ value = listed column.list item := by
  obtain ⟨binding, -, h⟩ := Option.bind_eq_some_iff.1 h
  obtain ⟨item, hitem, rfl⟩ := Option.map_eq_some_iff.1 h
  exact ⟨item, isAtom_of_decodeBinding hitem, rfl⟩

theorem names_decodeFields_sublist (slots : List (String × Slot)) :
    (Fields.names (decodeFields options row slots)).Sublist (Fields.names slots) := by
  induction slots with
  | nil => exact .slnil
  | cons field rest ih =>
    obtain ⟨key, slot⟩ := field
    rw [decodeFields]
    split
    · exact ih.cons_cons key
    · exact ih.cons key

theorem exists_of_mem_decodeFields {key : String} {value : Instance}
    (h : (key, value) ∈ decodeFields options row slots) :
    ∃ slot, (key, slot) ∈ slots ∧ decodeField options row slot = some value := by
  induction slots with
  | nil => cases h
  | cons field rest ih =>
    obtain ⟨key', slot⟩ := field
    rw [decodeFields] at h
    split at h
    · next found hfound =>
      rcases List.mem_cons.1 h with heq | h
      · obtain ⟨rfl, rfl⟩ := Prod.mk.inj heq
        exact ⟨slot, List.mem_cons_self, hfound⟩
      · obtain ⟨slot', hmem, hslot'⟩ := ih h
        exact ⟨slot', List.mem_cons_of_mem _ hmem, hslot'⟩
    · obtain ⟨slot', hmem, hslot'⟩ := ih h
      exact ⟨slot', List.mem_cons_of_mem _ hmem, hslot'⟩

/-- The object of a node conforms if its fields do. -/
theorem admits_decodeFields (options : DecodeOptions) (row : Row) (distinct : Fields.Distinct slots)
    (anchor : ∀ key, label.anchor? = some key →
      ∃ column, Fields.find? key slots = some (.leaf column) ∧ column.list = false)
    (h : ∀ key slot value, (key, slot) ∈ slots → decodeField options row slot = some value →
      Fits Instance.Single slot value) :
    Admits Instance.Single (.node label slots)
      (.object label.anchor? (Fields.ofList (decodeFields options row slots))) := by
  have hdistinct : Fields.Distinct (decodeFields options row slots) :=
    (names_decodeFields_sublist slots).nodup distinct
  rw [Fields.ofList_eq_self hdistinct]
  refine admits_node hdistinct (fun id hid => ?_) fun key value hk => ?_
  · cases hanchor : label.anchor? with
    | none => rw [hanchor] at hid; cases hid
    | some key =>
      rw [hanchor] at hid
      obtain ⟨column, hcolumn, hlist⟩ := anchor key hanchor
      obtain ⟨slot, hmem, hslot⟩ := exists_of_mem_decodeFields (Fields.mem_of_find? hid)
      obtain rfl := Option.some.inj ((distinct.find?_of_mem hmem).symm.trans hcolumn)
      obtain ⟨item, hatom, rfl⟩ := exists_atom_of_decodeColumn hslot
      -- the column of an anchor is not read as a list, so the item stands alone
      simpa [listed, hlist] using hatom
  · obtain ⟨slot, hmem, hslot⟩ := exists_of_mem_decodeFields (Fields.mem_of_find? hk)
    exact ⟨slot, distinct.find?_of_mem hmem, h key slot value hmem hslot⟩

/-- What a row gives for a slot fits the slot. -/
theorem fits_decodeField (hsound : Sound slot) {value : Instance}
    (h : decodeField options row slot = some value) : Fits Instance.Single slot value := by
  induction hsound generalizing value with
  | constant hvalue =>
    obtain rfl := Option.some.inj h
    exact ⟨⟨_, rfl, rfl⟩, by simpa [Instance.items] using .constant hvalue⟩
  | leaf =>
    obtain ⟨item, hatom, rfl⟩ := exists_atom_of_decodeColumn h
    refine ⟨⟨item, rfl, hatom.isList⟩, ?_⟩
    simpa [Instance.items_listed hatom.isList] using .leaf hatom
  | node distinct anchor _ ih =>
    have hadmits := admits_decodeFields options row distinct anchor
      fun key slot value hmem hvalue => ih key slot hmem hvalue
    simp only [decodeField, nodeInstance] at h
    split at h
    · obtain rfl := Option.some.inj h
      refine ⟨⟨_, rfl, rfl⟩, ?_⟩
      rw [Instance.items_listed rfl]
      exact fun item hitem => List.mem_singleton.1 hitem ▸ hadmits
    · cases h

/-- The object of a row conforms to a sound template, with single items. -/
theorem admits_decodeRow {template : Template}
    (hsound : Sound (.node template.label template.fields)) (options : DecodeOptions) (row : Row) :
    Admits Instance.Single (.node template.label template.fields)
      (decodeRow options template row).toInstance := by
  cases hsound with
  | node distinct anchor hslots =>
    exact admits_decodeFields options row distinct anchor fun key slot value hmem hvalue =>
      fits_decodeField (hslots key slot hmem) hvalue

end Decoding

end Template

end QueryByExample
