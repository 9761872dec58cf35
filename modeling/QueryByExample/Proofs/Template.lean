import QueryByExample.Proofs.Compile
import QueryByExample.Proofs.Json.Equality
import QueryByExample.Results.Basic
/-!
# Templates of compiled documents

The template of a well-formed document repeats no key, and the anchor of each of its nodes is a
column that is not read as a list. So the identity of a decoded object is never a list.

## Main definitions

- `Shape.Regular`: no node repeats a name, and constants are well-formed.
- `Template.Sound`: what compiled templates satisfy besides.

## Main statements

- `Template.sound_of_compile`: templates of well-formed documents are sound.
-/

namespace QueryByExample

/-- No node of the shape repeats a name, and its constants are well-formed. -/
inductive Shape.Regular {ν α : Type} : Shape ν α → Prop where
  | constant {value : Json} (h : value.WellFormed) : Regular (.constant value)
  | leaf {content : α} : Regular (.leaf content)
  | node {label : ν} {fields : List (String × Shape ν α)} (distinct : Fields.Distinct fields)
      (h : ∀ name shape, (name, shape) ∈ fields → Regular shape) : Regular (.node label fields)

namespace Prototype

theorem ofEntries_eq_map (entries : List (String × Json)) :
    ofEntries entries = entries.map fun entry => (entry.1, ofJson entry.2) := by
  induction entries with
  | nil => rfl
  | cons entry rest ih => simp [ofEntries, ih]

theorem distinct_ofEntries {entries : List (String × Json)} (h : Fields.Distinct entries) :
    Fields.Distinct (ofEntries entries) := by
  simpa [Fields.Distinct, Fields.names, ofEntries_eq_map, Function.comp_def] using h

/-- A well-formed value is a regular part of a prototype. -/
theorem regular_ofJson {value : Json} (h : value.WellFormed) : (ofJson value).Regular := by
  induction h with
  | null => exact .constant .null
  | bool => exact .constant .bool
  | number hn => exact .constant (.number hn)
  | @string s =>
    rw [ofJson]
    split
    · exact .constant .string
    · exact .leaf
    · exact .leaf
  | array hitems => exact .constant (.array hitems)
  | object distinct _ ih =>
    refine .node (distinct_ofEntries distinct) fun name shape hmem => ?_
    rw [ofEntries_eq_map] at hmem
    obtain ⟨entry, hentry, heq⟩ := List.mem_map.1 hmem
    obtain ⟨rfl, rfl⟩ := Prod.mk.inj heq
    exact ih entry.1 entry.2 hentry

theorem wellFormed_of_nodeAt {key : String} {value : Json} {node : List (String × Json)}
    (h : nodeAt key value = .ok node) (hwf : value.WellFormed) :
    (Json.object node).WellFormed := by
  unfold nodeAt at h
  split at h
  · obtain rfl := Except.ok.inj h
    exact hwf
  · obtain rfl := Except.ok.inj h
    cases hwf with
    | array hitems => exact hitems _ List.mem_cons_self
  · cases h

/-- The prototype of a well-formed document is well-formed. -/
theorem wellFormed_of_locate {entries node : List (String × Json)} {form : OutputForm}
    (h : locate entries = .ok (form, node))
    (hwf : ∀ key value, (key, value) ∈ entries → value.WellFormed) :
    (Json.object node).WellFormed := by
  unfold locate at h
  split at h
  · next graph hgraph =>
    obtain ⟨found, hfound, heq⟩ := Except.map_eq_ok_iff.1 h
    obtain ⟨-, rfl⟩ := Prod.mk.inj heq
    exact wellFormed_of_nodeAt hfound (hwf _ _ (Fields.mem_of_find? hgraph))
  · next proto _ hproto =>
    obtain ⟨found, hfound, heq⟩ := Except.map_eq_ok_iff.1 h
    obtain ⟨-, rfl⟩ := Prod.mk.inj heq
    exact wellFormed_of_nodeAt hfound (hwf _ _ (Fields.mem_of_find? hproto))
  · cases h

end Prototype

namespace Shape

variable {ν μ α β ε : Type}

/-- Settling the leaves of a regular shape gives a regular shape. -/
theorem Regular.settle {f : String → α → Traced ε β} {name : String} {shape : Shape ν α}
    {settled : Shape ν β} (hreg : shape.Regular)
    (h : (Shape.settle f name shape).outcome = .ok settled) : settled.Regular := by
  induction hreg generalizing name settled with
  | constant hvalue =>
    obtain rfl := Except.ok.inj h
    exact .constant hvalue
  | leaf =>
    obtain ⟨made, -, rfl⟩ := settle_leaf_eq_ok_iff.1 h
    exact .leaf
  | node distinct _ ih =>
    obtain ⟨made, hmade, rfl⟩ := settle_node_eq_ok_iff.1 h
    refine .node ?_ fun name shape hmem => ?_
    · simpa only [Fields.Distinct, names_of_settleFields hmade] using distinct
    · obtain ⟨source, hsource, hshape⟩ := exists_of_mem_settleFields hmade hmem
      exact ih _ _ hsource hshape

theorem mapFields_eq_map (f : ν → μ) (g : α → β) (fields : List (String × Shape ν α)) :
    mapFields f g fields = fields.map fun field => (field.1, map f g field.2) := by
  induction fields with
  | nil => rfl
  | cons field rest ih => simp [mapFields, ih]

theorem mem_mapFields {f : ν → μ} {g : α → β} {fields : List (String × Shape ν α)} {name : String}
    {shape : Shape μ β} :
    (name, shape) ∈ mapFields f g fields ↔
      ∃ source, (name, source) ∈ fields ∧ map f g source = shape := by
  simp only [mapFields_eq_map, List.mem_map, Prod.exists, Prod.mk.injEq]
  constructor
  · rintro ⟨name', source, hmem, rfl, h⟩
    exact ⟨source, hmem, h⟩
  · rintro ⟨source, hmem, h⟩
    exact ⟨name, source, hmem, rfl, h⟩

end Shape

namespace Prototype

/-- A prototype stays regular when it is checked. -/
theorem regular_of_check {language? : Option String} {node : List (String × Json)}
    {fields : Checked} (hnode : (Json.object node).WellFormed)
    (hcheck : (check language? (ofEntries node)).outcome = .ok fields) :
    (Shape.node () fields).Regular := by
  have hdraft : (Shape.node () (ofEntries node)).Regular := regular_ofJson hnode
  have hsettled : (Shape.settle (checkLeaf language?) ""
      (Shape.node () (ofEntries node))).outcome = .ok (.node () fields) :=
    Shape.settle_node_eq_ok_iff.2 ⟨fields, hcheck, rfl⟩
  exact hdraft.settle hsettled

end Prototype

namespace Plan

/-- Planning keeps the names of fields. -/
theorem names_fieldsOf (m : Modifiers) (scope : Scope) (node : Node) (index : Nat)
    (fields : Prototype.Checked) :
    Fields.names (fieldsOf m scope node index fields) = Fields.names fields := by
  induction fields generalizing index with
  | nil => rfl
  | cons field rest ih =>
    obtain ⟨key, shape⟩ := field
    simpa [fieldsOf, Fields.names] using ih (index + 1)

/-- Every planned field is the plan of a field of its name. -/
theorem exists_of_mem_fieldsOf {m : Modifiers} {scope : Scope} {node : Node} {index : Nat}
    {fields : Prototype.Checked} {key : String} {shape : Shape Node Leaf}
    (h : (key, shape) ∈ fieldsOf m scope node index fields) :
    ∃ position source, (key, source) ∈ fields ∧
      shape = fieldOf m scope node position key source := by
  induction fields generalizing index with
  | nil => cases h
  | cons field rest ih =>
    obtain ⟨key', source⟩ := field
    rcases List.mem_cons.1 h with heq | h
    · obtain ⟨rfl, rfl⟩ := Prod.mk.inj heq
      exact ⟨index, source, List.mem_cons_self, rfl⟩
    · obtain ⟨position, source, hmem, hshape⟩ := ih h
      exact ⟨position, source, List.mem_cons_of_mem _ hmem, hshape⟩

/-- Every field is planned at some position. -/
theorem exists_mem_fieldsOf (m : Modifiers) (scope : Scope) (node : Node) (index : Nat)
    {fields : Prototype.Checked} {key : String} {source : Shape Unit Prototype.Leaf}
    (h : (key, source) ∈ fields) :
    ∃ position, (key, fieldOf m scope node position key source) ∈
      fieldsOf m scope node index fields := by
  induction fields generalizing index with
  | nil => cases h
  | cons field rest ih =>
    rcases List.mem_cons.1 h with rfl | h
    · exact ⟨index, List.mem_cons_self⟩
    · obtain ⟨position, hmem⟩ := ih (index + 1) h
      exact ⟨position, List.mem_cons_of_mem _ hmem⟩

theorem exists_leaf_of_directive? {shape : Shape Unit Prototype.Leaf} {directive : Directive}
    (h : directive? shape = some directive) :
    ∃ content : Prototype.Leaf, shape = .leaf content ∧ content.directive = directive := by
  cases shape with
  | leaf content => exact ⟨content, rfl, Option.some.inj h⟩
  | _ => cases h

/-- The field that identifies a node is a leaf with the directive of the anchor. -/
theorem exists_leaf_of_anchorOf? {fields : Prototype.Checked} {key : String}
    {directive : Directive} (h : anchorOf? fields = some (key, directive)) :
    ∃ content : Prototype.Leaf, (key, .leaf content) ∈ fields ∧
      content.directive = directive := by
  rcases Option.or_eq_some_iff.1 h with h | ⟨-, h⟩
  · clear * - h
    induction fields with
    | nil => cases h
    | cons field rest ih =>
      obtain ⟨key', shape⟩ := field
      have hrest : markedAnchor? rest = some (key, directive) →
          ∃ content : Prototype.Leaf, (key, .leaf content) ∈ (key', shape) :: rest ∧
            content.directive = directive := by
        intro h
        obtain ⟨content, hmem, hcontent⟩ := ih h
        exact ⟨content, List.mem_cons_of_mem _ hmem, hcontent⟩
      rw [markedAnchor?] at h
      split at h
      · next found hfound =>
        split at h
        · obtain ⟨rfl, rfl⟩ := Prod.mk.inj (Option.some.inj h)
          obtain ⟨content, rfl, hcontent⟩ := exists_leaf_of_directive? hfound
          exact ⟨content, List.mem_cons_self, hcontent⟩
        · exact hrest h
      · exact hrest h
  · obtain ⟨key', -, hkey'⟩ := List.exists_of_findSome?_eq_some h
    simp only [anchorAt?, Option.map_eq_some_iff, Option.bind_eq_some_iff] at hkey'
    obtain ⟨_, ⟨shape, hfind, hshape⟩, heq⟩ := hkey'
    obtain ⟨rfl, rfl⟩ := Prod.mk.inj heq
    obtain ⟨content, rfl, hcontent⟩ := exists_leaf_of_directive? hshape
    exact ⟨content, Fields.mem_of_find? hfind, hcontent⟩

theorem anchor?_nodeOf (scope : Scope) (fields : Prototype.Checked) :
    (nodeOf scope fields).anchor? = (anchorOf? fields).map Prod.fst := by
  unfold nodeOf
  split <;> simp_all

/-- In a node that repeats no key, the leaf under the key of the anchor is the anchor. -/
theorem anchorOf?_of_mem {scope : Scope} {fields : Prototype.Checked}
    (distinct : Fields.Distinct fields) {key : String} {content : Prototype.Leaf}
    (hanchor : (nodeOf scope fields).anchor? = some key) (hmem : (key, .leaf content) ∈ fields) :
    anchorOf? fields = some (key, content.directive) := by
  rw [anchor?_nodeOf, Option.map_eq_some_iff] at hanchor
  obtain ⟨⟨key', directive⟩, hfound, rfl⟩ := hanchor
  obtain ⟨content', hmem', rfl⟩ := exists_leaf_of_anchorOf? hfound
  have hcontent := (distinct.find?_of_mem hmem').symm.trans (distinct.find?_of_mem hmem)
  simp only [Option.some.injEq, Shape.leaf.injEq] at hcontent
  rw [hfound, hcontent]

end Plan

namespace Template

/-- A node or a field of a template. -/
abbrev Slot := Shape Label Column

/-- No node repeats a key, the anchor of a node is a column that is not read as a list, and
constants are well-formed. -/
inductive Sound : Slot → Prop where
  | constant {value : Json} (h : value.WellFormed) : Sound (.constant value)
  | leaf {column : Column} : Sound (.leaf column)
  | node {label : Label} {fields : List (String × Slot)} (distinct : Fields.Distinct fields)
      (anchor : ∀ key, label.anchor? = some key →
        ∃ column, Fields.find? key fields = some (.leaf column) ∧ column.list = false)
      (h : ∀ key slot, (key, slot) ∈ fields → Sound slot) : Sound (.node label fields)

/-- The template of a planned node is sound if the templates of its planned fields are. -/
theorem sound_node {m : Modifiers} {scope : Plan.Scope} {fields : Prototype.Checked}
    (distinct : Fields.Distinct fields)
    (h : ∀ key source position, (key, source) ∈ fields →
      Sound (Shape.map Plan.Node.label Plan.Leaf.column
        (Plan.fieldOf m scope (Plan.nodeOf scope fields) position key source))) :
    Sound (.node (Plan.nodeOf scope fields).label
      (Shape.mapFields Plan.Node.label Plan.Leaf.column
        (Plan.fieldsOf m scope (Plan.nodeOf scope fields) 0 fields))) := by
  have hdistinct : Fields.Distinct (Shape.mapFields Plan.Node.label Plan.Leaf.column
      (Plan.fieldsOf m scope (Plan.nodeOf scope fields) 0 fields)) := by
    rwa [Fields.Distinct, Shape.names_mapFields, Plan.names_fieldsOf]
  refine .node hdistinct (fun key hkey => ?_) fun key slot hmem => ?_
  · have hanchor : (Plan.nodeOf scope fields).anchor? = some key := hkey
    have hfirst := hanchor
    rw [Plan.anchor?_nodeOf, Option.map_eq_some_iff] at hfirst
    obtain ⟨⟨_, directive⟩, hfound, rfl⟩ := hfirst
    obtain ⟨content, hmem, -⟩ := Plan.exists_leaf_of_anchorOf? hfound
    obtain ⟨position, hplan⟩ := Plan.exists_mem_fieldsOf m scope (Plan.nodeOf scope fields) 0 hmem
    refine ⟨_, hdistinct.find?_of_mem (Shape.mem_mapFields.2 ⟨_, hplan, rfl⟩), ?_⟩
    -- a leaf under the key of the anchor is planned without a list, whatever it asks for
    simp [Plan.Leaf.column, Plan.leafOf, hanchor]
  · obtain ⟨planned, hplanned, rfl⟩ := Shape.mem_mapFields.1 hmem
    obtain ⟨position, source, hsource, rfl⟩ := Plan.exists_of_mem_fieldsOf hplanned
    exact h key source position hsource

/-- The template of a planned field is sound if the field is regular. -/
theorem sound_fieldOf {m : Modifiers} {scope : Plan.Scope} {node : Plan.Node} {position : Nat}
    {key : String} {shape : Shape Unit Prototype.Leaf} (h : shape.Regular) :
    Sound (Shape.map Plan.Node.label Plan.Leaf.column
      (Plan.fieldOf m scope node position key shape)) := by
  induction h generalizing scope node position key with
  | constant hvalue => exact .constant hvalue
  | leaf => exact .leaf
  | node distinct _ ih =>
    exact sound_node distinct fun key source position hmem => ih key source hmem

/-- The template of a well-formed prototype is sound. -/
theorem sound_of_check {m : Modifiers} {node : List (String × Json)} {fields : Prototype.Checked}
    (hnode : (Json.object node).WellFormed)
    (hcheck : (Prototype.check m.language? (Prototype.ofEntries node)).outcome = .ok fields) :
    Sound (.node (Plan.ofFields m fields).template.label
      (Plan.ofFields m fields).template.fields) := by
  cases Prototype.regular_of_check hnode hcheck with
  | node distinct hfields =>
    exact sound_node distinct fun key source position hmem =>
      sound_fieldOf (hfields key source hmem)

/-- The template of a well-formed document is sound. -/
theorem sound_of_compile {document : Json} {compiled : CompiledQuery}
    (hdocument : document.WellFormed) (h : (compile document).outcome = .ok compiled) :
    Sound (.node compiled.template.label compiled.template.fields) := by
  obtain ⟨entries, m, form, node, fields, rfl, -, hlocate, hcheck, rfl⟩ := compile_eq_ok_iff.1 h
  cases hdocument with
  | object _ hentries =>
    refine sound_of_check (Prototype.wellFormed_of_locate hlocate fun key value hmem => ?_) hcheck
    exact hentries key value (List.mem_of_mem_filter hmem)

end Template

/-! ### A small document

Places with their parts, each identified by a variable. -/

namespace Places

/-- The prototype of a place. -/
def entries : List (String × Json) :=
  [("id", .string "?place"), ("name", .string "?name"), ("kind", .string "place"),
    ("parts", .object [("id", .string "?part$list"), ("name", .string "?partName")])]

/-- The document. -/
def document : Json := .object [("proto", .object entries)]

/-- A leaf that stands for a variable. -/
def leaf (name : String) (options : Directive.Options) : Shape Unit Prototype.Leaf :=
  .leaf ⟨⟨.variable name, options⟩, none⟩

/-- The prototype as it was checked. -/
def checked : Prototype.Checked :=
  [("id", leaf "?place" {}), ("name", leaf "?name" {}), ("kind", .constant (.string "place")),
    ("parts", .node () [("id", leaf "?part" { list := true }), ("name", leaf "?partName" {})])]

/-- The compiled form of the document. -/
def compiled : CompiledQuery := (Plan.ofFields {} checked).compiled {} .plain

theorem wellFormed_document : document.WellFormed := by
  simp [document, entries, Json.wellFormed_object_iff, Json.WellFormed.string, Fields.Distinct,
    Fields.names]

theorem outcome_document : (compile document).outcome = .ok compiled := by
  have hmodifiers : (Modifiers.ofEntries [("proto", Json.object entries)]).outcome = .ok {} := rfl
  have hcheck : (Prototype.check none (Prototype.ofEntries entries)).outcome = .ok checked := rfl
  exact compile_eq_ok_iff.2 ⟨_, _, _, _, _, rfl, hmodifiers, rfl, hcheck, rfl⟩

/-- A row that binds some variables to literals of a datatype. -/
def row (datatype? : Option String) (bindings : List (String × String)) : Row :=
  .ofList (bindings.map fun binding => (binding.1, ⟨"literal", binding.2, datatype?, none⟩))

/-- Rows about one place with two parts and two names, and one about a place that is not known. -/
def rows : List Row :=
  [row none [("place", "harbour"), ("name", "old"), ("part", "pier"), ("partName", "north")],
    row none [("place", "harbour"), ("name", "old"), ("part", "mole"), ("partName", "south")],
    row none [("place", "harbour"), ("name", "new"), ("part", "pier")],
    row none [("name", "nowhere")]]

/-- Rows about a place and its parts that are numbered. -/
def numbered : List Row :=
  [row (some "xsd:integer") [("place", "1"), ("part", "7")],
    row (some "xsd:integer") [("place", "1"), ("part", "8")]]

end Places

end QueryByExample
