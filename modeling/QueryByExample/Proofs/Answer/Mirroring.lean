import QueryByExample.Proofs.Answer.Conformance
import QueryByExample.Proofs.Query.Linking
/-!
# Templates mirror prototypes

The template of a document has the keys of its prototype, level by level and in the same order: an
object is a node, a directive a column, and anything else a constant. The key that identifies a
node is chosen by the directives of the node alone. It holds the root, from which the patterns of
the node start, so that the identity of a decoded object is what its patterns are about.

## Main definitions

- `Prototype.anchorKey?`: the key that identifies an object of a prototype.
- `Plan.Node.IdentifiedBy`: a column for the root of a node.
- `Plan.Node.Starts`: the patterns of a node start from its root.
- `Template.Mirrors`: a value of a prototype, its plan and its slot in the template.

## Main statements

- `Prototype.anchorKey?_eq`: the plan takes the key that the directives say.
- `Plan.mirrors_fieldOf`: a planned field mirrors the value that it was planned from.
- `Template.Admits.isAtom_of_part`: identities are literals or tagged texts at every depth.
- `mirrors_of_compile`: the template of a document that compiles mirrors its prototype.
-/

namespace QueryByExample

namespace Prototype

/-! ### The key that identifies an object -/

/-- The directive that a value is, if it is one. -/
def directiveOf? : Json → Option Directive
  | .string text => (Directive.parse text).toOption.join
  | _ => none

/-- The key that identifies an object: the first whose directive is marked as an anchor, else `@id`,
else `id`, if they hold directives. -/
def anchorKey? (entries : List (String × Json)) : Option String :=
  ((entries.find? fun entry => (directiveOf? entry.2).any (·.options.anchor)).map Prod.fst).or
    (["@id", "id"].find? fun key => ((Fields.find? key entries).bind directiveOf?).isSome)

/-- A checked shape as it was written. -/
def forget : Shape Unit Leaf → Shape Unit (Except Directive.Error Directive) :=
  Shape.map id fun leaf => .ok leaf.directive

/-- Checked fields as they were written. -/
def forgetFields : Checked → Draft := Shape.mapFields id fun leaf => .ok leaf.directive

theorem forgetFields_of_reads {document : Json} {m : Modifiers} {node : List (String × Json)}
    {fields : Checked} (h : Reads document m node fields) :
    forgetFields fields = ofEntries node := by
  rw [← Plan.mapFields_draft h, forgetFields, ← Plan.mapFields_ofFields m fields,
    Shape.mapFields_mapFields, Plan.mapFields_ofFields]
  rfl

/-- A value of a prototype and its shape once it was checked: an object and a node, a directive and
a leaf, or a constant. -/
theorem cases_of_forget {shape : Shape Unit Leaf} {value : Json} (h : forget shape = ofJson value) :
    (∃ entries fields, value = .object entries ∧ shape = .node () fields ∧
      forgetFields fields = ofEntries entries) ∨
    (∃ text leaf, value = .string text ∧ shape = .leaf leaf ∧
      Directive.parse text = .ok (some leaf.directive)) ∨
    (shape = .constant value ∧ (∀ entries, value ≠ .object entries) ∧
      ∀ text, value = .string text → Directive.parse text = .ok none) := by
  cases value with
  | object entries =>
    rw [ofJson] at h
    cases shape with
    | node label fields =>
      exact .inl ⟨entries, fields, rfl, rfl, (Shape.node.inj h).2⟩
    | _ => cases h
  | string text =>
    rw [ofJson] at h
    cases hparse : Directive.parse text with
    | error fault =>
      rw [hparse] at h
      cases shape <;> cases h
    | ok directive? =>
      rw [hparse] at h
      cases directive? with
      | none =>
        cases shape with
        | constant value =>
          obtain rfl := Shape.constant.inj h
          refine .inr (.inr ⟨rfl, nofun, fun other hother => ?_⟩)
          rwa [← Json.string.inj hother]
        | _ => cases h
      | some directive =>
        cases shape with
        | leaf leaf =>
          obtain rfl := Except.ok.inj (Shape.leaf.inj h)
          exact .inr (.inl ⟨text, leaf, rfl, rfl, hparse⟩)
        | _ => cases h
  | _ =>
    cases shape with
    | constant value =>
      obtain rfl := Shape.constant.inj h
      exact .inr (.inr ⟨rfl, nofun, nofun⟩)
    | _ => cases h

theorem directive?_eq {shape : Shape Unit Leaf} {value : Json} (h : forget shape = ofJson value) :
    Plan.directive? shape = directiveOf? value := by
  rcases cases_of_forget h with ⟨entries, fields, rfl, rfl, -⟩ | ⟨text, leaf, rfl, rfl, hparse⟩ |
    ⟨rfl, -, htext⟩
  · rfl
  · rw [directiveOf?, hparse]
    rfl
  · cases value with
    | string text =>
      rw [directiveOf?, htext text rfl]
      rfl
    | _ => rfl

variable {fields : Checked} {entries : List (String × Json)}

/-- Induction on the fields of a checked prototype, beside the entries that they were written as. -/
@[elab_as_elim]
theorem forgetFields_induction {motive : Checked → List (String × Json) → Prop}
    (nil : motive [] [])
    (cons : ∀ key shape rest value others, forget shape = ofJson value →
      motive rest others → motive ((key, shape) :: rest) ((key, value) :: others))
    (h : forgetFields fields = ofEntries entries) : motive fields entries := by
  induction fields generalizing entries with
  | nil =>
    cases entries with
    | nil => exact nil
    | cons entry others => cases h
  | cons field rest ih =>
    cases entries with
    | nil => cases h
    | cons entry others =>
      obtain ⟨hfield, hrest⟩ := List.cons.inj h
      obtain ⟨key, shape⟩ := field
      obtain ⟨key', value⟩ := entry
      obtain ⟨rfl, hshape⟩ := Prod.mk.inj hfield
      exact cons key shape rest value others hshape (ih hrest)

theorem markedAnchor?_eq (h : forgetFields fields = ofEntries entries) :
    (Plan.markedAnchor? fields).map Prod.fst =
      (entries.find? fun entry => (directiveOf? entry.2).any (·.options.anchor)).map Prod.fst := by
  refine forgetFields_induction ?_ ?_ h
  · rfl
  intro key shape rest value others hshape ih
  rw [Plan.markedAnchor?, directive?_eq hshape, List.find?_cons]
  cases directiveOf? value with
  | none => exact ih
  | some directive =>
    dsimp only
    rw [Option.any_some]
    cases directive.options.anchor with
    | true => rfl
    | false => exact ih

theorem find?_bind_directive?_eq (h : forgetFields fields = ofEntries entries) (name : String) :
    (Fields.find? name fields).bind Plan.directive? =
      (Fields.find? name entries).bind directiveOf? := by
  refine forgetFields_induction ?_ ?_ h
  · rfl
  intro key shape rest value others hshape ih
  rw [Fields.find?, Fields.find?]
  by_cases hkey : key = name
  · rw [if_pos hkey, if_pos hkey]
    exact directive?_eq hshape
  · rwa [if_neg hkey, if_neg hkey]

/-- The key that identifies a planned node is the one that the directives of its object say. -/
theorem anchorKey?_eq (h : forgetFields fields = ofEntries entries) :
    (Plan.anchorOf? fields).map Prod.fst = anchorKey? entries := by
  have hidentity : (Plan.identityKeys.findSome? (Plan.anchorAt? fields)).map Prod.fst =
      ["@id", "id"].find? fun key => ((Fields.find? key entries).bind directiveOf?).isSome := by
    simp only [Plan.identityKeys, List.findSome?_cons, List.find?_cons, Plan.anchorAt?,
      find?_bind_directive?_eq h, List.findSome?_nil, List.find?_nil]
    cases (Fields.find? "@id" entries).bind directiveOf? <;>
      cases (Fields.find? "id" entries).bind directiveOf? <;> rfl
  rw [Plan.anchorOf?, Option.map_or, markedAnchor?_eq h, hidentity, anchorKey?]

-- a marked directive goes before an identity key, and a constant under one identifies nothing
example : anchorKey? [("@id", .string "Rome"), ("id", .string "?city"),
    ("name", .string "$rdfs:label$anchor")] = some "name" := by decide

end Prototype

namespace Plan

/-! ### The root of a node -/

/-- The key identifies a node: under it, the node has a column for its root, which is not read as a
list. -/
def Node.IdentifiedBy (node : Node) (fields : List (String × Shape Node Leaf))
    (slots : List (String × Template.Slot)) (key : String) : Prop :=
  ∃ leaf column, Fields.find? key fields = some (.leaf leaf) ∧ leaf.name = node.root ∧
    Fields.find? key slots = some (.leaf column) ∧ column.name = Variable.bare node.root ∧
    column.list = false

/-- The patterns of a node start from its root, or lead to it if they are reversed. Those that start
from the enclosing node are excepted, and so is the pattern of the root itself. -/
def Node.Starts (node : Node) (fields : List (String × Shape Node Leaf)) : Prop :=
  ∀ key leaf, (key, .leaf leaf) ∈ fields → leaf.directive.options.fromParent = false →
    leaf.name ≠ node.root → ∀ p ∈ Clause.patternsOf 0 leaf.clauses,
      if leaf.directive.options.reverse then p.subject = leaf.name ∧ p.object = node.root
      else p.subject = node.root ∧ p.object = leaf.name

variable {m : Modifiers} {scope : Scope} {source : Prototype.Checked}

theorem subjectOf_eq_root {node : Node} {name : String} (hname : name ≠ node.root) :
    subjectOf scope node name false = node.root := by
  cases hscope : scope.parent? <;> simp [subjectOf, hscope, hname]

theorem starts_fieldsOf {node : Node} : node.Starts (fieldsOf m scope node 0 source) := by
  intro key leaf hmem hparent hname p hp
  obtain ⟨position, shape, -, hleaf⟩ := exists_of_mem_fieldsOf hmem
  cases shape with
  | constant value => cases hleaf
  | node label inner => cases hleaf
  | leaf content =>
    obtain rfl := Shape.leaf.inj hleaf
    let site : Site := ⟨key, leafOf m scope node position key content, node, []⟩
    have hclauses : Clause.patternsOf 0 site.leaf.clauses = (site.pattern? m).toList :=
      patternsOf_leafClauses m site (required_leafOf_iff m scope node [] position key content)
    rw [hclauses, Option.mem_toList] at hp
    obtain ⟨path, -, rfl⟩ := Option.map_eq_some_iff.1 hp
    have hsubject : site.leaf.subject = node.root := by
      have hoption : content.directive.options.fromParent = false := hparent
      rw [subject_leafOf, hoption]
      exact subjectOf_eq_root hname
    by_cases hreverse : site.leaf.directive.options.reverse = true
    · rw [if_pos hreverse, if_pos hreverse]
      exact ⟨rfl, hsubject⟩
    · rw [if_neg hreverse, if_neg hreverse]
      exact ⟨hsubject, rfl⟩

theorem identifiedBy_fieldsOf (distinct : Fields.Distinct source) {key : String}
    (hanchor : (nodeOf scope source).anchor? = some key) :
    (nodeOf scope source).IdentifiedBy (fieldsOf m scope (nodeOf scope source) 0 source)
      (Shape.mapFields Node.label Leaf.column (fieldsOf m scope (nodeOf scope source) 0 source))
      key := by
  have hfields : Fields.Distinct (fieldsOf m scope (nodeOf scope source) 0 source) := by
    rwa [Fields.Distinct, names_fieldsOf]
  have hslots : Fields.Distinct (Shape.mapFields Node.label Leaf.column
      (fieldsOf m scope (nodeOf scope source) 0 source)) := by
    rwa [Fields.Distinct, Shape.names_mapFields]
  have hkey := hanchor
  rw [anchor?_nodeOf, Option.map_eq_some_iff] at hkey
  obtain ⟨⟨_, directive⟩, hfound, rfl⟩ := hkey
  obtain ⟨content, hmem, rfl⟩ := exists_leaf_of_anchorOf? hfound
  obtain ⟨position, hplan⟩ := exists_mem_fieldsOf m scope (nodeOf scope source) 0 hmem
  have hname : (leafOf m scope (nodeOf scope source) position _ content).name =
      (nodeOf scope source).root := (leafOf_anchor m position hfound).1
  refine ⟨_, _, hfields.find?_of_mem hplan, hname,
    hslots.find?_of_mem (Shape.mem_mapFields.2 ⟨_, hplan, rfl⟩), congrArg Variable.bare hname, ?_⟩
  simp [Leaf.column, leafOf, hanchor]

end Plan

/-! ### The template of a prototype -/

namespace Template

mutual

/-- A value of a prototype, its plan and its slot in the template: an object is a node, a directive
is a column for its variable, and anything else is a constant. -/
inductive Mirrors : Json → Shape Plan.Node Plan.Leaf → Slot → Prop where
  | constant {value : Json} (hobject : ∀ entries, value ≠ .object entries)
      (htext : ∀ text, value = .string text → Directive.parse text = .ok none) :
      Mirrors value (.constant value) (.constant value)
  | leaf {text : String} {leaf : Plan.Leaf} {column : Column}
      (hparse : Directive.parse text = .ok (some leaf.directive))
      (hname : column.name = Variable.bare leaf.name) :
      Mirrors (.string text) (.leaf leaf) (.leaf column)
  | node {entries : List (String × Json)} {node : Plan.Node} {label : Label}
      {fields : List (String × Shape Plan.Node Plan.Leaf)} {slots : List (String × Slot)}
      (hfields : MirrorsFields entries fields slots)
      (hanchor : label.anchor? = Prototype.anchorKey? entries)
      (hidentity : ∀ key, label.anchor? = some key → node.IdentifiedBy fields slots key)
      (hstarts : node.Starts fields) :
      Mirrors (.object entries) (.node node fields) (.node label slots)

/-- Entries, their plans and their slots: the keys are the same, in the same order. -/
inductive MirrorsFields : List (String × Json) →
    List (String × Shape Plan.Node Plan.Leaf) → List (String × Slot) → Prop where
  | nil : MirrorsFields [] [] []
  | cons {key : String} {value : Json} {shape : Shape Plan.Node Plan.Leaf} {slot : Slot}
      {entries : List (String × Json)} {fields : List (String × Shape Plan.Node Plan.Leaf)}
      {slots : List (String × Slot)} (h : Mirrors value shape slot)
      (hrest : MirrorsFields entries fields slots) :
      MirrorsFields ((key, value) :: entries) ((key, shape) :: fields) ((key, slot) :: slots)

end

end Template

namespace Plan

open Template (Mirrors MirrorsFields)

variable {m : Modifiers}

/-- Planned fields mirror the entries that they were planned from if each of them does. -/
theorem mirrorsFields_fieldsOf {scope : Scope} {node : Node} (index : Nat)
    {entries : List (String × Json)} {fields : Prototype.Checked}
    (h : ∀ key shape position value, (key, shape) ∈ fields →
      Prototype.forget shape = Prototype.ofJson value →
      Mirrors value (fieldOf m scope node position key shape)
        (Shape.map Node.label Leaf.column (fieldOf m scope node position key shape)))
    (hforget : Prototype.forgetFields fields = Prototype.ofEntries entries) :
    MirrorsFields entries (fieldsOf m scope node index fields)
      (Shape.mapFields Node.label Leaf.column (fieldsOf m scope node index fields)) := by
  revert h index
  refine Prototype.forgetFields_induction ?_ ?_ hforget
  · exact fun _ _ => .nil
  · intro key shape rest value others hshape ih index h
    have hfirst := h key shape index value List.mem_cons_self hshape
    exact .cons hfirst (ih (index + 1) fun key shape position value hmem =>
      h key shape position value (List.mem_cons_of_mem _ hmem))

/-- A planned node mirrors its object if its fields mirror the entries. -/
theorem mirrors_nodeOf {scope : Scope} {fields : Prototype.Checked}
    {entries : List (String × Json)} (distinct : Fields.Distinct fields)
    (hforget : Prototype.forgetFields fields = Prototype.ofEntries entries)
    (h : ∀ key shape position value, (key, shape) ∈ fields →
      Prototype.forget shape = Prototype.ofJson value →
      Mirrors value (fieldOf m scope (nodeOf scope fields) position key shape)
        (Shape.map Node.label Leaf.column
          (fieldOf m scope (nodeOf scope fields) position key shape))) :
    Mirrors (.object entries)
      (.node (nodeOf scope fields) (fieldsOf m scope (nodeOf scope fields) 0 fields))
      (.node (nodeOf scope fields).label (Shape.mapFields Node.label Leaf.column
        (fieldsOf m scope (nodeOf scope fields) 0 fields))) := by
  refine .node (mirrorsFields_fieldsOf 0 h hforget) ?_
    (fun key hkey => identifiedBy_fieldsOf distinct hkey) starts_fieldsOf
  rw [Node.label, anchor?_nodeOf, Prototype.anchorKey?_eq hforget]

/-- A planned field mirrors the value that it was planned from. -/
theorem mirrors_fieldOf {scope : Scope} {node : Node} {index : Nat} {key : String} {value : Json}
    {shape : Shape Unit Prototype.Leaf} (hregular : shape.Regular)
    (hforget : Prototype.forget shape = Prototype.ofJson value) :
    Mirrors value (fieldOf m scope node index key shape)
      (Shape.map Node.label Leaf.column (fieldOf m scope node index key shape)) := by
  induction hregular generalizing scope node index key value with
  | constant =>
    rcases Prototype.cases_of_forget hforget with ⟨_, _, -, hshape, -⟩ | ⟨_, _, -, hshape, -⟩ |
      ⟨hshape, hobject, htext⟩
    · cases hshape
    · cases hshape
    · obtain rfl := Shape.constant.inj hshape
      exact .constant hobject htext
  | leaf =>
    rcases Prototype.cases_of_forget hforget with ⟨_, _, -, hshape, -⟩ |
      ⟨text, leaf, rfl, hshape, hparse⟩ | ⟨hshape, -, -⟩
    · cases hshape
    · obtain rfl := Shape.leaf.inj hshape
      exact .leaf hparse rfl
    · cases hshape
  | node distinct _ ih =>
    rcases Prototype.cases_of_forget hforget with ⟨entries, fields, rfl, hshape, hfields⟩ |
      ⟨_, _, -, hshape, -⟩ | ⟨hshape, -, -⟩
    · obtain ⟨-, rfl⟩ := Shape.node.inj hshape
      exact mirrors_nodeOf distinct hfields fun key shape position value hmem hshape =>
        ih key shape hmem hshape
    · cases hshape
    · cases hshape

end Plan

/-! ### Identities at every depth -/

namespace Instance

variable {part value : Instance}

/-- Nothing inside of a literal or a tagged text has an identity. -/
theorem IsAtom.anchorValue?_of_part (h : value.IsAtom) (hpart : Part part value) :
    part.anchorValue? = none := by
  cases h with
  | literal =>
    cases hpart
    rfl
  | tagged =>
    cases hpart with
    | self => rfl
    | field hmem hpart =>
      rw [List.mem_cons, List.mem_singleton] at hmem
      -- both fields hold a text
      rcases hmem with heq | heq <;>
      · obtain ⟨-, rfl⟩ := Prod.mk.inj heq
        cases hpart
        rfl

/-- What stands inside of a value and has an identity stands inside of one of its items. -/
theorem Part.exists_item (h : Part part value) (hid : part.anchorValue? ≠ none) :
    ∃ item ∈ value.items, Part part item := by
  cases value with
  | list items =>
    cases h with
    | self => exact absurd rfl hid
    | item hmem h => exact ⟨_, hmem, h⟩
  | _ => exact ⟨_, List.mem_singleton.2 rfl, h⟩

end Instance

/-- The identity of anything inside of a conforming item is a literal or a tagged text. -/
theorem Template.Admits.isAtom_of_part {form : Bool → Instance → Prop} {slot : Template.Slot}
    {item part id : Instance} (h : Template.Admits form slot item) (hpart : Instance.Part part item)
    (hid : part.anchorValue? = some id) : id.IsAtom := by
  have hne : part.anchorValue? ≠ none := by simp [hid]
  induction h with
  | constant =>
    cases hpart
    cases hid
  | leaf hatom => exact absurd (hatom.anchorValue?_of_part hpart) hne
  | node distinct identity known formed items ih =>
    cases hpart with
    | self => exact identity id hid
    | field hmem hpart =>
      have hvalue := distinct.find?_of_mem hmem
      obtain ⟨slot, hslot⟩ := known _ _ hvalue
      obtain ⟨item, hitem, hpart⟩ := hpart.exists_item hne
      exact ih _ _ slot hvalue hslot item hitem hpart

/-- The template of a document that compiles mirrors its prototype, and the identity of every object
that a row gives, at any depth, is a literal or a tagged text. -/
theorem mirrors_of_compile {document : Json} (hdocument : document.WellFormed)
    {compiled : CompiledQuery} (h : (compile document).outcome = .ok compiled) :
    ∃ node fields, Prototype.Reads document compiled.query.modifiers node fields ∧
      let plan := Plan.ofFields compiled.query.modifiers fields
      compiled = plan.compiled compiled.query.modifiers compiled.form ∧
      Template.Mirrors (.object node) (.node plan.node plan.fields)
        (.node compiled.template.label compiled.template.fields) ∧
      ∀ options row part id,
        Instance.Part part (decodeRow options compiled.template row).toInstance →
        part.anchorValue? = some id → id.IsAtom := by
  obtain ⟨node, fields, hreads, hcompiled⟩ := exists_plan_of_compile h
  have hregular := Prototype.regular_of_reads hdocument hreads
  have hforget := Prototype.forgetFields_of_reads hreads
  have htemplate := congrArg CompiledQuery.template hcompiled
  refine ⟨node, fields, hreads, hcompiled, ?_, fun options row part id hpart hid => ?_⟩
  · rw [htemplate]
    cases hregular with
    | node distinct hregular =>
      exact Plan.mirrors_nodeOf distinct hforget fun key shape position value hmem =>
        Plan.mirrors_fieldOf (hregular key shape hmem)
  · have hadmits := Template.admits_decodeRow (Template.sound_of_compile hdocument h) options row
    exact hadmits.isAtom_of_part hpart hid

theorem mirrors_of_compile_cities :
    (Cities.document.WellFormed ∧ (compile Cities.document).outcome = .ok Cities.compiled) ∧
    ∃ node fields, Prototype.Reads Cities.document Cities.compiled.query.modifiers node fields ∧
      let plan := Plan.ofFields Cities.compiled.query.modifiers fields
      Cities.compiled = plan.compiled Cities.compiled.query.modifiers Cities.compiled.form ∧
      Template.Mirrors (.object node) (.node plan.node plan.fields)
        (.node Cities.compiled.template.label Cities.compiled.template.fields) ∧
      ∀ options row part id,
        Instance.Part part (decodeRow options Cities.compiled.template row).toInstance →
        part.anchorValue? = some id → id.IsAtom :=
  ⟨⟨Cities.wellFormed_document, Cities.outcome_document⟩,
    mirrors_of_compile Cities.wellFormed_document Cities.outcome_document⟩

end QueryByExample
