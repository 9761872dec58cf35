import QueryByExample.Proofs.Answer.Decoding
/-!
# Hidden language tags

A row that is decoded without language tags gives the same object as with them, up to the columns
that do not say themselves how tags are shown: there, a tagged text becomes the text alone. Whether
a column has a value does not depend on tags, so the same fields and nodes are left out.

## Main definitions

- `Template.Untags`: the value of a variable and the same value without its language.
- `Template.Hides`: two values of a slot, the second without the tags that are to be hidden.

## Main statements

- `Template.untags_decodeBinding`: what hiding does to one binding.
- `hides_decodeRow_of_compile`: what it does to the object of a row.
-/

namespace QueryByExample

namespace Template

/-- A tagged text becomes the text alone; any other literal stays. -/
inductive Untags (vocabulary : Vocabulary) : Instance → Instance → Prop where
  | literal (value : Literal) : Untags vocabulary (.literal value) (.literal value)
  | pair (language text : String) :
      Untags vocabulary (languagePair vocabulary language text) (.literal (.text text))

mutual

/-- Two values of a slot, the second one without language tags where the slot leaves open whether
they are shown. -/
inductive Hides (vocabulary : Vocabulary) : Slot → Instance → Instance → Prop where
  | constant (value : Json) : Hides vocabulary (.constant value) (.constant value) (.constant value)
  /-- The column says itself how tags are shown. -/
  | fixed {column : Column} {tags : TagDisplay} (h : column.tags? = some tags) (value : Instance) :
      Hides vocabulary (.leaf column) value value
  | leaf {column : Column} {shown hidden : Instance} (h : column.tags? = none)
      (untags : Untags vocabulary shown hidden) :
      Hides vocabulary (.leaf column) (listed column.list shown) (listed column.list hidden)
  | node {label : Label} {slots : List (String × Slot)} {shown hidden : List (String × Instance)}
      (h : HidesFields vocabulary slots shown hidden) :
      Hides vocabulary (.node label slots) (listed label.list (.object label.anchor? shown))
        (listed label.list (.object label.anchor? hidden))

/-- Two values for each of some slots under the same key, or none in either object. -/
inductive HidesFields (vocabulary : Vocabulary) :
    List (String × Slot) → List (String × Instance) → List (String × Instance) → Prop where
  | nil : HidesFields vocabulary [] [] []
  | absent {key : String} {slot : Slot} {slots : List (String × Slot)}
      {shown hidden : List (String × Instance)} (rest : HidesFields vocabulary slots shown hidden) :
      HidesFields vocabulary ((key, slot) :: slots) shown hidden
  | present {key : String} {slot : Slot} {value value' : Instance} {slots : List (String × Slot)}
      {shown hidden : List (String × Instance)} (h : Hides vocabulary slot value value')
      (rest : HidesFields vocabulary slots shown hidden) :
      HidesFields vocabulary ((key, slot) :: slots) ((key, value) :: shown)
        ((key, value') :: hidden)

end

variable {vocabulary : Vocabulary} {row : Row} {slot : Slot} {slots : List (String × Slot)}

/-- Hiding keeps the keys of an object and their order. -/
theorem HidesFields.names_eq {shown hidden : List (String × Instance)}
    (h : HidesFields vocabulary slots shown hidden) :
    Fields.names hidden = Fields.names shown := by
  induction slots generalizing shown hidden with
  | nil =>
    cases h
    rfl
  | cons field rest ih =>
    cases h with
    | absent h => exact ih h
    | @present key _ _ _ _ _ _ _ h => exact congrArg (key :: ·) (ih h)

/-- A binding has the wrong kind with tags and without them, or else loses its tag. -/
theorem untags_decodeBinding (binding : Binding) (accept? : Option ValueKind) :
    Option.Rel (Untags vocabulary) (decodeBinding binding accept? .shown vocabulary)
      (decodeBinding binding accept? .hidden vocabulary) := by
  unfold decodeBinding
  dsimp only
  split
  · exact .none
  · cases Literal.ofBinding binding with
    | text text =>
      cases binding.language? with
      | none => exact .some (.literal _)
      | some language => exact .some (.pair language text)
    | _ => exact .some (.literal _)

/-- A column has no value with tags and without them, or else the tag is hidden. -/
theorem hides_decodeColumn (column : Column) :
    Option.Rel (Hides vocabulary (.leaf column)) (decodeColumn ⟨.shown, vocabulary⟩ row column)
      (decodeColumn ⟨.hidden, vocabulary⟩ row column) := by
  unfold decodeColumn
  cases row.find? column.name with
  | none => exact .none
  | some binding =>
    rw [Option.bind_some, Option.bind_some]
    cases htags : column.tags? with
    | some tags =>
      rw [Option.getD_some, Option.getD_some]
      cases decodeBinding binding column.accept? tags vocabulary with
      | none => exact .none
      | some value => exact .some (.fixed htags _)
    | none =>
      have huntags := @untags_decodeBinding vocabulary binding column.accept?
      rw [Option.getD_none, Option.getD_none]
      generalize decodeBinding binding column.accept? .shown vocabulary = shown? at huntags ⊢
      generalize decodeBinding binding column.accept? .hidden vocabulary = hidden? at huntags ⊢
      cases huntags with
      | none => exact .none
      | some untags => exact .some (.leaf htags untags)

/-- Whether a column has a value does not depend on how tags are shown. -/
theorem isBound_hidden (column : Column) :
    column.isBound ⟨.hidden, vocabulary⟩ row = column.isBound ⟨.shown, vocabulary⟩ row := by
  have hbound : ∀ options,
      column.isBound options row = (decodeColumn options row column).isSome := by
    intro options
    rw [decodeColumn_eq, Option.isSome_map, Column.isBound]
  have hrel := @hides_decodeColumn vocabulary row column
  rw [hbound, hbound]
  generalize decodeColumn ⟨.shown, vocabulary⟩ row column = shown? at hrel ⊢
  generalize decodeColumn ⟨.hidden, vocabulary⟩ row column = hidden? at hrel ⊢
  cases hrel <;> rfl

theorem hidesFields_decodeFields
    (h : ∀ key slot, (key, slot) ∈ slots → Option.Rel (Hides vocabulary slot)
      (decodeField ⟨.shown, vocabulary⟩ row slot) (decodeField ⟨.hidden, vocabulary⟩ row slot)) :
    HidesFields vocabulary slots (decodeFields ⟨.shown, vocabulary⟩ row slots)
      (decodeFields ⟨.hidden, vocabulary⟩ row slots) := by
  induction slots with
  | nil => exact .nil
  | cons field rest ih =>
    obtain ⟨key, slot⟩ := field
    have hslot := h key slot List.mem_cons_self
    have hrest := ih fun key slot hmem => h key slot (List.mem_cons_of_mem _ hmem)
    rw [decodeFields, decodeFields]
    generalize decodeField ⟨.shown, vocabulary⟩ row slot = shown? at hslot ⊢
    generalize decodeField ⟨.hidden, vocabulary⟩ row slot = hidden? at hslot ⊢
    cases hslot with
    | none => exact .absent hrest
    | some hides => exact .present hides hrest

/-- Hiding leaves out the same slots, and hides tags in the others. -/
theorem hides_decodeField (hsound : Sound slot) :
    Option.Rel (Hides vocabulary slot) (decodeField ⟨.shown, vocabulary⟩ row slot)
      (decodeField ⟨.hidden, vocabulary⟩ row slot) := by
  induction hsound with
  | constant => exact .some (.constant _)
  | @leaf column => exact hides_decodeColumn column
  | @node label slots distinct anchor hslots ih =>
    have hfields := hidesFields_decodeFields ih
    have hsound : Sound (.node label slots) := .node distinct anchor hslots
    rw [decodeField_node hsound, decodeField_node hsound]
    simp only [isBound_hidden]
    split
    · exact .some (.node hfields)
    · exact .none

end Template

/-- A row of a document that compiles gives the same object with and without language tags, anchors,
keys, lists and constants included, but for the tagged texts in columns that leave their display
open: without tags, they are the texts alone. -/
theorem hides_decodeRow_of_compile {document : Json} (hdocument : document.WellFormed)
    {compiled : CompiledQuery} (h : (compile document).outcome = .ok compiled) (row : Row)
    (vocabulary : Vocabulary) :
    let shown := decodeRow ⟨.shown, vocabulary⟩ compiled.template row
    let hidden := decodeRow ⟨.hidden, vocabulary⟩ compiled.template row
    hidden.anchor? = shown.anchor? ∧ Fields.names hidden.fields = Fields.names shown.fields ∧
      Template.HidesFields vocabulary compiled.template.fields shown.fields hidden.fields := by
  intro shown hidden
  have hfields : Template.HidesFields vocabulary compiled.template.fields shown.fields
      hidden.fields := by
    cases Template.sound_of_compile hdocument h with
    | node distinct _ hslots =>
      have hdistinct : ∀ options, Fields.Distinct
          (decodeFields options row compiled.template.fields) := fun options =>
        Template.distinct_decodeFields distinct
      simp only [shown, hidden, decodeRow, Fields.ofList_eq_self (hdistinct _)]
      exact Template.hidesFields_decodeFields fun key slot hmem =>
        Template.hides_decodeField (hslots key slot hmem)
  exact ⟨rfl, hfields.names_eq, hfields⟩

namespace Places

/-- A place whose name and one of whose parts have a language. -/
def tagged : Row :=
  .ofList [("place", ⟨"literal", "harbour", none, none⟩),
    ("name", ⟨"literal", "Hafen", none, some "de"⟩),
    ("part", ⟨"literal", "7", some "xsd:integer", some "de"⟩),
    ("partName", ⟨"literal", "Kai", none, some "de"⟩)]

end Places

-- the part is a number, whose tag is not shown in any case
example : (decodeRow ⟨.hidden, .jsonLd⟩ Places.compiled.template Places.tagged).fields =
    [("id", .ofText "harbour"), ("name", .ofText "Hafen"), ("kind", .constant (.string "place")),
      ("parts", .list [.object (some "id")
        [("id", .literal (.integer 7)), ("name", .ofText "Kai")]])] := rfl

theorem hides_decodeRow_of_compile_places :
    (Places.document.WellFormed ∧ (compile Places.document).outcome = .ok Places.compiled) ∧
    let shown := decodeRow ⟨.shown, .jsonLd⟩ Places.compiled.template Places.tagged
    let hidden := decodeRow ⟨.hidden, .jsonLd⟩ Places.compiled.template Places.tagged
    hidden.anchor? = shown.anchor? ∧ Fields.names hidden.fields = Fields.names shown.fields ∧
      Template.HidesFields .jsonLd Places.compiled.template.fields shown.fields hidden.fields :=
  ⟨⟨Places.wellFormed_document, Places.outcome_document⟩,
    hides_decodeRow_of_compile Places.wellFormed_document Places.outcome_document _ _⟩

end QueryByExample
