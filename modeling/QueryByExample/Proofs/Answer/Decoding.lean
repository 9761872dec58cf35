import QueryByExample.Proofs.Answer.Conformance
import QueryByExample.Proofs.Plan
import QueryByExample.Transform
/-!
# What a row shows

The object of a row is the template without the columns that have no value in the row and without
the nodes that are left with none. Rows decode to the same object if they agree on the columns of
the template.

## Main definitions

- `Shape.pruneFields`: a shape without leaves that are not kept and nodes none of whose leaves is.
- `Template.Shows`: a value holds, for every slot of a shape, what a row says.

## Main statements

- `Template.showsFields_decodeFields`: a row shows the pruned template.
- `decodeRow_shows_of_compile`: so does every row of a document that compiles.
- `CompiledQuery.assemble_congr`: the answer depends on the columns of the template only.
-/

namespace QueryByExample

namespace Shape

variable {ν α : Type}

mutual

/-- A shape without the leaves that are not kept and the nodes none of whose leaves is. -/
def prune (keep : α → Bool) : Shape ν α → Option (Shape ν α)
  | .constant value => some (.constant value)
  | .leaf content => if keep content then some (.leaf content) else none
  | .node label fields =>
    if (leavesOf fields).any (fun leaf => keep leaf.2) then
      some (.node label (pruneFields keep fields))
    else none

/-- The fields of which something is left. -/
def pruneFields (keep : α → Bool) : List (String × Shape ν α) → List (String × Shape ν α)
  | [] => []
  | (name, shape) :: rest =>
    match prune keep shape with
    | some kept => (name, kept) :: pruneFields keep rest
    | none => pruneFields keep rest

end

variable {keep keep' : α → Bool}

mutual

theorem prune_congr (name : String) {shape : Shape ν α}
    (h : ∀ leaf ∈ leaves name shape, keep leaf.2 = keep' leaf.2) :
    prune keep shape = prune keep' shape := by
  cases shape with
  | constant value => rfl
  | leaf content =>
    have hkeep : keep content = keep' content := h (name, content) (List.mem_singleton.2 rfl)
    rw [prune, prune, hkeep]
  | node label fields =>
    have hany : (leavesOf fields).any (fun leaf => keep leaf.2) =
        (leavesOf fields).any (fun leaf => keep' leaf.2) := by
      rw [Bool.eq_iff_iff, List.any_eq_true, List.any_eq_true]
      exact exists_congr fun leaf => and_congr_right fun hleaf => by rw [h leaf hleaf]
    rw [prune, prune, hany, pruneFields_congr h]

/-- Pruning looks at the leaves only. -/
theorem pruneFields_congr {fields : List (String × Shape ν α)}
    (h : ∀ leaf ∈ leavesOf fields, keep leaf.2 = keep' leaf.2) :
    pruneFields keep fields = pruneFields keep' fields := by
  cases fields with
  | nil => rfl
  | cons field rest =>
    obtain ⟨name, shape⟩ := field
    rw [leavesOf, List.forall_mem_append] at h
    rw [pruneFields, pruneFields, prune_congr name h.1, pruneFields_congr h.2]

end

end Shape

namespace Template

variable {options : DecodeOptions} {row other : Row} {slot : Slot} {slots : List (String × Slot)}

/-! ### Rows that agree -/

mutual

theorem decodeField_congr (key : String) {slot : Slot}
    (h : ∀ leaf ∈ Shape.leaves key slot, row.find? leaf.2.name = other.find? leaf.2.name) :
    decodeField options row slot = decodeField options other slot := by
  cases slot with
  | constant value => rfl
  | leaf column =>
    have hfind : row.find? column.name = other.find? column.name :=
      h (key, column) (List.mem_singleton.2 rfl)
    rw [decodeField, decodeField, decodeColumn, decodeColumn, hfind]
  | node label slots => rw [decodeField, decodeField, decodeFields_congr h]

/-- Rows that agree on the columns of some slots give them the same values. -/
theorem decodeFields_congr {slots : List (String × Slot)}
    (h : ∀ leaf ∈ Shape.leavesOf slots, row.find? leaf.2.name = other.find? leaf.2.name) :
    decodeFields options row slots = decodeFields options other slots := by
  cases slots with
  | nil => rfl
  | cons field rest =>
    obtain ⟨key, slot⟩ := field
    rw [Shape.leavesOf, List.forall_mem_append] at h
    rw [decodeFields, decodeFields, decodeField_congr key h.1, decodeFields_congr h.2]

end

theorem decodeRow_congr {template : Template}
    (h : ∀ name ∈ template.columns, row.find? name = other.find? name) :
    decodeRow options template row = decodeRow options template other := by
  have hleaves : ∀ leaf ∈ Shape.leavesOf template.fields,
      row.find? leaf.2.name = other.find? leaf.2.name := by
    intro leaf hleaf
    exact h leaf.2.name (List.mem_map_of_mem hleaf)
  rw [decodeRow, decodeRow, decodeFields_congr hleaves]

/-! ### Columns with a value -/

/-- The value that a row has for a column, if it binds its variable to a term of the right kind. -/
def Column.value? (options : DecodeOptions) (row : Row) (column : Column) : Option Instance :=
  (row.find? column.name).bind fun binding =>
    decodeBinding binding column.accept? (column.tags?.getD options.tags) options.vocabulary

/-- The row has a value for the column. -/
def Column.isBound (options : DecodeOptions) (row : Row) (column : Column) : Bool :=
  (column.value? options row).isSome

theorem decodeColumn_eq (column : Column) :
    decodeColumn options row column = (column.value? options row).map (listed column.list) := by
  rw [decodeColumn, Column.value?, Option.map_bind]
  rfl

theorem isAtom_of_value? {column : Column} {value : Instance}
    (h : column.value? options row = some value) : value.IsAtom := by
  obtain ⟨binding, -, hvalue⟩ := Option.bind_eq_some_iff.1 h
  exact isAtom_of_decodeBinding hvalue

/-! ### Nodes with a value

Decoding keeps a node if something other than a constant is left of it. The bottom of every such
value is a column with a value. -/

theorem isConstant_of_isAtom {value : Instance} (h : value.IsAtom) : value.isConstant = false := by
  cases h <;> rfl

theorem isConstant_listed {flag : Bool} {value : Instance} (h : value.isConstant = false) :
    (listed flag value).isConstant = false := by
  cases flag with
  | true => rfl
  | false => exact h

theorem nodeInstance_eq (label : Label) {fields : List (String × Instance)}
    (distinct : Fields.Distinct fields) :
    nodeInstance label fields =
      if fields.any (fun field => !field.2.isConstant) then
        some (listed label.list (.object label.anchor? fields))
      else none := by
  rw [nodeInstance, Fields.ofList_eq_self distinct]
  rfl

theorem distinct_decodeFields (distinct : Fields.Distinct slots) :
    Fields.Distinct (decodeFields options row slots) :=
  (names_decodeFields_sublist slots).nodup distinct

/-- Fields are more than constants iff some field is. -/
theorem any_decodeFields
    (h : ∀ key slot, (key, slot) ∈ slots →
      (decodeField options row slot).any (fun value => !value.isConstant) =
        (Shape.leaves key slot).any fun leaf => leaf.2.isBound options row) :
    (decodeFields options row slots).any (fun field => !field.2.isConstant) =
      (Shape.leavesOf slots).any fun leaf => leaf.2.isBound options row := by
  induction slots with
  | nil => rfl
  | cons field rest ih =>
    obtain ⟨key, slot⟩ := field
    have hslot := h key slot List.mem_cons_self
    have hrest := ih fun key slot hmem => h key slot (List.mem_cons_of_mem _ hmem)
    rw [Shape.leavesOf, List.any_append, ← hslot, ← hrest, decodeFields]
    cases decodeField options row slot with
    | none => rfl
    | some value => rfl

/-- A slot gives more than a constant iff one of its columns has a value. -/
theorem any_decodeField (hsound : Sound slot) (key : String) :
    (decodeField options row slot).any (fun value => !value.isConstant) =
      (Shape.leaves key slot).any fun leaf => leaf.2.isBound options row := by
  induction hsound generalizing key with
  | constant => rfl
  | @leaf column =>
    rw [decodeField, decodeColumn_eq, Shape.leaves, List.any_cons, List.any_nil, Bool.or_false,
      Column.isBound]
    cases hvalue : column.value? options row with
    | none => rfl
    | some value =>
      have hconstant : (listed column.list value).isConstant = false :=
        isConstant_listed (isConstant_of_isAtom (isAtom_of_value? hvalue))
      simp [hconstant]
  | @node label slots distinct _ _ ih =>
    have hany := any_decodeFields fun key slot hmem => ih key slot hmem key
    rw [decodeField, nodeInstance_eq label (distinct_decodeFields distinct), hany, Shape.leaves]
    split
    · next hbound =>
      have hconstant : (listed label.list (.object label.anchor?
          (decodeFields options row slots))).isConstant = false := isConstant_listed rfl
      simp [hconstant, hbound]
    · next hbound => simpa using hbound

/-- A node gives an object iff one of the columns below it has a value. -/
theorem decodeField_node {label : Label} (hsound : Sound (.node label slots)) :
    decodeField options row (.node label slots) =
      if (Shape.leavesOf slots).any (fun leaf => leaf.2.isBound options row) then
        some (listed label.list (.object label.anchor? (decodeFields options row slots)))
      else none := by
  cases hsound with
  | node distinct _ hslots =>
    have hany : (decodeFields options row slots).any (fun field => !field.2.isConstant) =
        (Shape.leavesOf slots).any fun leaf => leaf.2.isBound options row := by
      apply any_decodeFields
      intro key slot hmem
      exact any_decodeField (hslots key slot hmem) key
    rw [decodeField, nodeInstance_eq label (distinct_decodeFields distinct), hany]

/-! ### What is shown -/

mutual

/-- A value is what a row says for a slot: a constant as it stands, the value of a column, or an
object. Columns and nodes that ask for a list have it as the only item of one. -/
inductive Shows (options : DecodeOptions) (row : Row) : Slot → Instance → Prop where
  | constant (value : Json) : Shows options row (.constant value) (.constant value)
  | leaf {column : Column} {value : Instance} (atom : value.IsAtom)
      (h : column.value? options row = some value) :
      Shows options row (.leaf column) (listed column.list value)
  | node {label : Label} {slots : List (String × Slot)} {fields : List (String × Instance)}
      (h : ShowsFields options row slots fields) :
      Shows options row (.node label slots) (listed label.list (.object label.anchor? fields))

/-- Fields are what a row says for slots, one by one, under the same keys. -/
inductive ShowsFields (options : DecodeOptions) (row : Row) :
    List (String × Slot) → List (String × Instance) → Prop where
  | nil : ShowsFields options row [] []
  | cons {key : String} {slot : Slot} {value : Instance} {slots : List (String × Slot)}
      {fields : List (String × Instance)} (h : Shows options row slot value)
      (rest : ShowsFields options row slots fields) :
      ShowsFields options row ((key, slot) :: slots) ((key, value) :: fields)

end

/-- A row shows pruned fields if it shows every pruned field. -/
theorem showsFields_pruneFields
    (h : ∀ key slot, (key, slot) ∈ slots → Option.Rel (Shows options row)
      (Shape.prune (Column.isBound options row) slot) (decodeField options row slot)) :
    ShowsFields options row (Shape.pruneFields (Column.isBound options row) slots)
      (decodeFields options row slots) := by
  induction slots with
  | nil => exact .nil
  | cons field rest ih =>
    obtain ⟨key, slot⟩ := field
    have hslot := h key slot List.mem_cons_self
    have hrest := ih fun key slot hmem => h key slot (List.mem_cons_of_mem _ hmem)
    rw [Shape.pruneFields, decodeFields]
    generalize Shape.prune (Column.isBound options row) slot = kept? at hslot
    generalize decodeField options row slot = value? at hslot
    cases hslot with
    | none => exact hrest
    | some hshows => exact .cons hshows hrest

/-- What a row gives for a slot is what it shows for the pruned slot. -/
theorem rel_prune_decodeField (hsound : Sound slot) :
    Option.Rel (Shows options row) (Shape.prune (Column.isBound options row) slot)
      (decodeField options row slot) := by
  induction hsound with
  | constant => exact .some (.constant _)
  | @leaf column =>
    rw [Shape.prune, decodeField, decodeColumn_eq, Column.isBound]
    cases hvalue : column.value? options row with
    | none => exact .none
    | some value => exact .some (.leaf (isAtom_of_value? hvalue) hvalue)
  | @node label slots distinct anchor hslots ih =>
    have hfields := showsFields_pruneFields ih
    rw [decodeField_node (.node distinct anchor hslots), Shape.prune]
    split
    · exact .some (.node hfields)
    · exact .none

/-- The object of a row is what the row shows for the pruned template. -/
theorem showsFields_decodeRow {template : Template}
    (hsound : Sound (.node template.label template.fields)) (options : DecodeOptions) (row : Row) :
    ShowsFields options row
      (Shape.pruneFields (Column.isBound options row) template.fields)
      (decodeRow options template row).fields := by
  cases hsound with
  | node distinct _ hslots =>
    have hdistinct : Fields.Distinct (decodeFields options row template.fields) :=
      distinct_decodeFields distinct
    rw [decodeRow, Fields.ofList_eq_self hdistinct]
    exact showsFields_pruneFields fun key slot hmem => rel_prune_decodeField (hslots key slot hmem)

end Template

/-- The object of a row is the prototype without the directives that have no value in the row and
without the nested objects none of whose directives has one; if all have one, only the objects
without any directive are missing. -/
theorem decodeRow_shows_of_compile {document : Json} (hdocument : document.WellFormed)
    {compiled : CompiledQuery} (h : (compile document).outcome = .ok compiled) :
    ∃ node fields, Prototype.Reads document compiled.query.modifiers node fields ∧
      let plan := Plan.ofFields compiled.query.modifiers fields
      compiled = plan.compiled compiled.query.modifiers compiled.form ∧
      Shape.mapFields (fun _ => ()) (fun leaf => Except.ok leaf.directive) plan.fields =
        Prototype.ofEntries node ∧
      ∀ (options : DecodeOptions) (row : Row),
        let object := decodeRow options compiled.template row
        let bound := Template.Column.isBound options row
        Template.ShowsFields options row (Shape.pruneFields bound compiled.template.fields)
          object.fields ∧
        ((∀ leaf ∈ Shape.leavesOf compiled.template.fields, bound leaf.2 = true) →
          Template.ShowsFields options row
            (Shape.pruneFields (fun _ => true) compiled.template.fields) object.fields) := by
  obtain ⟨node, fields, hreads, hcompiled⟩ := exists_plan_of_compile h
  refine ⟨node, fields, hreads, hcompiled, Plan.mapFields_draft hreads, ?_⟩
  intro options row object bound
  have hshows : Template.ShowsFields options row
      (Shape.pruneFields bound compiled.template.fields) object.fields :=
    Template.showsFields_decodeRow (Template.sound_of_compile hdocument h) options row
  refine ⟨hshows, ?_⟩
  intro hbound
  have hall : Shape.pruneFields bound compiled.template.fields =
      Shape.pruneFields (fun _ => true) compiled.template.fields :=
    Shape.pruneFields_congr hbound
  rwa [hall] at hshows

namespace Places

/-- How the rows about places are decoded. -/
def options : DecodeOptions := ⟨.shown, .plain⟩

end Places

-- the row binds no variable of a part
example : Fields.names (Shape.pruneFields
    (Template.Column.isBound Places.options (Places.row none [("place", "harbour")]))
    Places.compiled.template.fields) = ["id", "kind"] := by decide

theorem decodeRow_shows_of_compile_places :
    (Places.document.WellFormed ∧ (compile Places.document).outcome = .ok Places.compiled) ∧
    ∃ node fields,
      Prototype.Reads Places.document Places.compiled.query.modifiers node fields ∧
      let plan := Plan.ofFields Places.compiled.query.modifiers fields
      Places.compiled = plan.compiled Places.compiled.query.modifiers Places.compiled.form ∧
      Shape.mapFields (fun _ => ()) (fun leaf => Except.ok leaf.directive) plan.fields =
        Prototype.ofEntries node ∧
      ∀ (options : DecodeOptions) (row : Row),
        let object := decodeRow options Places.compiled.template row
        let bound := Template.Column.isBound options row
        Template.ShowsFields options row (Shape.pruneFields bound Places.compiled.template.fields)
          object.fields ∧
        ((∀ leaf ∈ Shape.leavesOf Places.compiled.template.fields, bound leaf.2 = true) →
          Template.ShowsFields options row
            (Shape.pruneFields (fun _ => true) Places.compiled.template.fields) object.fields) :=
  ⟨⟨Places.wellFormed_document, Places.outcome_document⟩,
    decodeRow_shows_of_compile Places.wellFormed_document Places.outcome_document⟩

namespace CompiledQuery

/-- The answer is the same for results whose rows agree on the columns of the template. -/
theorem assemble_congr (compiled : CompiledQuery) (settings : Settings)
    {results others : ResultSet}
    (h : List.Forall₂ (fun row other =>
      ∀ name ∈ compiled.template.columns, row.find? name = other.find? name)
      results.rows others.rows) :
    compiled.assemble settings results = compiled.assemble settings others := by
  have hrows : List.Forall₂ Eq
      (results.rows.map (decodeRow (compiled.decodeOptions settings) compiled.template))
      (others.rows.map (decodeRow (compiled.decodeOptions settings) compiled.template)) := by
    rw [List.forall₂_map_left_iff, List.forall₂_map_right_iff]
    exact h.imp fun row other hagree => Template.decodeRow_congr hagree
  have hentries : compiled.entries settings results = compiled.entries settings others := by
    rw [List.forall₂_eq_eq_eq] at hrows
    rw [entries, entries, hrows]
  rw [assemble, assemble, hentries]

end CompiledQuery

end QueryByExample
