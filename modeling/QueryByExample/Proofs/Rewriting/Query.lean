import QueryByExample.Proofs.Modifiers
import QueryByExample.Proofs.Rewriting.Prototype
/-!
# Names and constants do not reach the query

A document with other keys and other constants at the places of its prototype has the same query; its
template is changed in the same way. The exceptions are the keys that identify nodes and those that
the inline values bind, which decide about what is mandatory.

## Main definitions

- `Rewriting.Plays`: a field has the same part in its node under its new name.
- `Rewriting.plan`: a rewritten plan.

## Main statements

- `Rewriting.nodeOf_shapes`: a node is identified by the same field.
- `Rewriting.fieldsOf_shapes`: planning commutes with rewriting.
- `compile_rewriting`: a rewritten document has the same query.
-/

namespace QueryByExample

namespace Rewriting

variable {ρ : Rewriting} {m : Modifiers} {ν α : Type}

/-! ### Plans -/

section Plans

variable {path : List String} {fields : Prototype.Checked}

/-- A field that identifies a node, renamed. -/
def anchor (ρ : Rewriting) (path : List String) (field : String × Directive) :
    String × Directive :=
  (ρ.key path field.1, field.2)

theorem directive?_shape (key : String) (field : Shape Unit Prototype.Leaf) :
    Plan.directive? (ρ.shape (fun _ => id) path key field) = Plan.directive? field := by
  cases field <;> rfl

theorem markedAnchor?_shapes (fields : Prototype.Checked) :
    Plan.markedAnchor? (ρ.shapes (fun _ => id) path fields) =
      (Plan.markedAnchor? fields).map (ρ.anchor path) := by
  induction fields with
  | nil => rfl
  | cons field rest ih =>
    obtain ⟨key, field⟩ := field
    rw [shapes, Plan.markedAnchor?, Plan.markedAnchor?, directive?_shape, ih]
    cases Plan.directive? field with
    | none => rfl
    | some directive => cases hanchor : directive.options.anchor <;> simp [hanchor, anchor]

theorem find?_shapes {relabel : List String → ν → ν} {fields : List (String × Shape ν α)}
    {key : String}
    (h : ∀ name ∈ Fields.names fields, ρ.key path name = key ↔ name = key) :
    Fields.find? key (ρ.shapes relabel path fields) =
      (Fields.find? key fields).map (ρ.shape relabel path key) := by
  induction fields with
  | nil => rfl
  | cons field rest ih =>
    obtain ⟨name, field⟩ := field
    rw [Fields.names, List.map_cons, List.forall_mem_cons] at h
    rw [shapes, Fields.find?, Fields.find?, ih h.2]
    by_cases hname : name = key
    · rw [if_pos hname, if_pos (h.1.2 hname), hname, Option.map_some]
    · rw [if_neg hname, if_neg (hname ∘ h.1.1)]

theorem anchorAt?_shapes (h : ρ.AdmitsKeys m path (Fields.names fields)) {key : String}
    (hkey : key ∈ Plan.identityKeys) :
    Plan.anchorAt? (ρ.shapes (fun _ => id) path fields) key =
      (Plan.anchorAt? fields key).map (ρ.anchor path) := by
  have hnames : ∀ name ∈ Fields.names fields, ρ.key path name = key ↔ name = key := by
    intro name hname
    constructor
    · rintro rfl
      exact (h.eq_of_key_eq_identity hname hkey).symm
    · rintro rfl
      exact h.key_eq_of_identity hname hkey
  rw [Plan.anchorAt?, Plan.anchorAt?, find?_shapes hnames]
  cases hfind : Fields.find? key fields with
  | none => rfl
  | some field =>
    have hsame := h.key_eq_of_identity (Fields.mem_names_of_find? hfind) hkey
    rw [Option.map_some, Option.bind_some, Option.bind_some, directive?_shape]
    cases Plan.directive? field with
    | none => rfl
    | some directive => simp [anchor, hsame]

theorem findSome?_eq_map {γ δ : Type} {f : γ → Option δ} {f' : γ → Option δ} {g : δ → δ}
    {keys : List γ} (h : ∀ key ∈ keys, f' key = (f key).map g) :
    keys.findSome? f' = (keys.findSome? f).map g := by
  induction keys with
  | nil => rfl
  | cons key rest ih =>
    rw [List.forall_mem_cons] at h
    rw [List.findSome?_cons, List.findSome?_cons, h.1, ih h.2]
    cases f key <;> rfl

theorem anchorOf?_shapes (h : ρ.AdmitsKeys m path (Fields.names fields)) :
    Plan.anchorOf? (ρ.shapes (fun _ => id) path fields) =
      (Plan.anchorOf? fields).map (ρ.anchor path) := by
  have hidentity : Plan.identityKeys.findSome?
        (Plan.anchorAt? (ρ.shapes (fun _ => id) path fields)) =
      (Plan.identityKeys.findSome? (Plan.anchorAt? fields)).map (ρ.anchor path) :=
    findSome?_eq_map fun key hkey => anchorAt?_shapes h hkey
  rw [Plan.anchorOf?, Plan.anchorOf?, markedAnchor?_shapes, hidentity, Option.map_or]

/-- A node is identified by the same field, under its new name. -/
theorem nodeOf_shapes (h : ρ.AdmitsKeys m path (Fields.names fields)) (scope : Plan.Scope) :
    Plan.nodeOf scope (ρ.shapes (fun _ => id) path fields) =
      ρ.node path (Plan.nodeOf scope fields) := by
  unfold Plan.nodeOf
  rw [anchorOf?_shapes h]
  cases Plan.anchorOf? fields <;> rfl

/-- A field plays the same part under its new name. -/
structure Plays (ρ : Rewriting) (m : Modifiers) (path : List String) (node : Plan.Node)
    (key : String) : Prop where
  identity : Plan.identityKeys.contains (ρ.key path key) = Plan.identityKeys.contains key
  binds : m.binds (ρ.key path key) = m.binds key
  anchor : ((ρ.node path node).anchor? == some (ρ.key path key)) = (node.anchor? == some key)

theorem AdmitsKeys.plays (h : ρ.AdmitsKeys m path (Fields.names fields)) (scope : Plan.Scope)
    {key : String} (hkey : key ∈ Fields.names fields) :
    Plays ρ m path (Plan.nodeOf scope fields) key := by
  refine ⟨h.contains_identityKeys hkey, h.binds hkey, ?_⟩
  rw [node, Plan.anchor?_nodeOf]
  cases hanchor : Plan.anchorOf? fields with
  | none => rfl
  | some field =>
    obtain ⟨other, directive⟩ := field
    obtain ⟨content, hmem, -⟩ := Plan.exists_leaf_of_anchorOf? hanchor
    have hother : other ∈ Fields.names fields := List.mem_map_of_mem hmem
    by_cases heq : other = key
    · simp [heq]
    · -- no other field of the node can take the new name of the anchor
      have hne : ρ.key path other ≠ ρ.key path key := heq ∘ h.injOn hother hkey
      simp [heq, hne]

/-- The plan of a leaf does not mention its name. -/
theorem leafOf_rename {node : Plan.Node} {key : String} (h : Plays ρ m path node key)
    (scope : Plan.Scope) (index : Nat) (leaf : Prototype.Leaf) :
    Plan.leafOf m scope (ρ.node path node) index (ρ.key path key) leaf =
      Plan.leafOf m scope node index key leaf := by
  have hroot : (ρ.node path node).root = node.root := rfl
  have hsubject : ∀ name fromParent, Plan.subjectOf scope (ρ.node path node) name fromParent =
      Plan.subjectOf scope node name fromParent := fun _ _ => rfl
  simp only [Plan.leafOf, h.identity, h.binds, h.anchor, hroot, hsubject]

mutual

theorem fieldOf_shape {path : List String} {node : Plan.Node} {key : String}
    (hkey : Plays ρ m path node key) {field : Shape Unit Prototype.Leaf}
    (hfield : ∀ label inner, field = .node label inner → Respects ρ m (key :: path) inner)
    (scope : Plan.Scope) (index : Nat) :
    Plan.fieldOf m scope (ρ.node path node) index (ρ.key path key)
        (ρ.shape (fun _ => id) path key field) =
      ρ.shape ρ.node path key (Plan.fieldOf m scope node index key field) := by
  cases field with
  | constant value => rfl
  | leaf content => rw [shape, Plan.fieldOf, Plan.fieldOf, leafOf_rename hkey, shape]
  | node label inner =>
    -- the inner node has its anchor under a new name, so its fields play their parts again
    obtain ⟨keys, nodes⟩ := hfield label inner rfl
    rw [shape, Plan.fieldOf, Plan.fieldOf, shape, nodeOf_shapes keys]
    exact congrArg (Shape.node _) (fieldsOf_shapes (fun key hkey => keys.plays _ hkey) nodes _ 0)

/-- Planning commutes with rewriting. -/
theorem fieldsOf_shapes {path : List String} {node : Plan.Node} {fields : Prototype.Checked}
    (hkeys : ∀ key ∈ Fields.names fields, Plays ρ m path node key)
    (hfields : ∀ key label inner, (key, .node label inner) ∈ fields →
      Respects ρ m (key :: path) inner) (scope : Plan.Scope) (index : Nat) :
    Plan.fieldsOf m scope (ρ.node path node) index (ρ.shapes (fun _ => id) path fields) =
      ρ.shapes ρ.node path (Plan.fieldsOf m scope node index fields) := by
  cases fields with
  | nil => rfl
  | cons field rest =>
    obtain ⟨key, field⟩ := field
    rw [Fields.names, List.map_cons, List.forall_mem_cons] at hkeys
    have hfield : ∀ label inner, field = .node label inner →
        Respects ρ m (key :: path) inner := by
      rintro label inner rfl
      exact hfields key label inner List.mem_cons_self
    have hrest : ∀ key label inner, (key, .node label inner) ∈ rest →
        Respects ρ m (key :: path) inner :=
      fun key label inner hmem => hfields key label inner (List.mem_cons_of_mem _ hmem)
    rw [shapes, Plan.fieldsOf, Plan.fieldsOf, shapes, fieldOf_shape hkeys.1 hfield scope index,
      fieldsOf_shapes hkeys.2 hrest scope (index + 1)]

end

mutual

theorem fieldClauses_shape (path : List String) (key : String)
    (field : Shape Plan.Node Plan.Leaf) :
    Plan.fieldClauses (ρ.shape ρ.node path key field) = Plan.fieldClauses field := by
  cases field with
  | constant value => rfl
  | leaf content => rfl
  | node label fields =>
    rw [shape, Plan.fieldClauses, Plan.fieldClauses, fieldsClauses_shapes (key :: path) fields]
    rfl

/-- The clauses of fields do not mention their names and constants. -/
theorem fieldsClauses_shapes (path : List String)
    (fields : List (String × Shape Plan.Node Plan.Leaf)) :
    Plan.fieldsClauses (ρ.shapes ρ.node path fields) = Plan.fieldsClauses fields := by
  cases fields with
  | nil => rfl
  | cons field rest =>
    obtain ⟨key, field⟩ := field
    rw [shapes, Plan.fieldsClauses, Plan.fieldsClauses, fieldClauses_shape path key field,
      fieldsClauses_shapes path rest]

end

/-- A rewritten plan. -/
def plan (ρ : Rewriting) (plan : Plan) : Plan :=
  ⟨ρ.node [] plan.node, ρ.shapes ρ.node [] plan.fields⟩

theorem ofFields_shapes (h : Respects ρ m [] fields) :
    Plan.ofFields m (ρ.shapes (fun _ => id) [] fields) = ρ.plan (Plan.ofFields m fields) := by
  obtain ⟨keys, nodes⟩ := h
  rw [Plan.ofFields, nodeOf_shapes keys]
  exact congrArg (Plan.mk _) (fieldsOf_shapes (fun key hkey => keys.plays _ hkey) nodes _ 0)

theorem projection_plan (p : Plan) : (ρ.plan p).projection = p.projection := by
  have hleaves : ∀ leaves : List (String × Plan.Leaf),
      leaves.map (fun leaf => leaf.2.projection) =
        (leaves.map Prod.snd).map Plan.Leaf.projection := by
    intro leaves
    rw [List.map_map]
    rfl
  rw [Plan.projection, Plan.projection, hleaves, hleaves, Plan.leaves, Plan.leaves, plan,
    leavesOf_shapes]

theorem template_plan (p : Plan) : (ρ.plan p).template = ρ.template p.template := by
  have hlabel : ∀ path (n : Plan.Node), (ρ.node path n).label = ρ.label path n.label :=
    fun _ _ => rfl
  rw [Plan.template, Plan.template, template, plan, mapFields_shapes hlabel, hlabel]

/-- A rewritten plan has the same query and a rewritten template. -/
theorem compiled_plan (p : Plan) (form : OutputForm) :
    (ρ.plan p).compiled m form =
      { p.compiled m form with template := ρ.template p.template } := by
  rw [Plan.compiled, projection_plan, template_plan, Plan.clauses, plan, fieldsClauses_shapes]
  rfl

end Plans

/-! ### Documents -/

section Documents

variable {document : List (String × Json)}

theorem find?_document (ρ : Rewriting) (document : List (String × Json)) (name : String) :
    Fields.find? name (ρ.document document) = (Fields.find? name document).map fun value =>
      if name = place document then ρ.prototype value else value := by
  rw [Rewriting.document]
  generalize place document = place
  induction document with
  | nil => rfl
  | cons entry rest ih =>
    obtain ⟨key, value⟩ := entry
    rw [List.map_cons, Fields.find?, Fields.find?, ih]
    by_cases hkey : key = name
    · rw [if_pos hkey, if_pos hkey, hkey, Option.map_some]
    · rw [if_neg hkey, if_neg hkey]

theorem isKey_place (document : List (String × Json)) :
    Modifiers.isKey (place document) = false := by
  unfold place
  split <;> rfl

/-- The modifiers of a document are not rewritten. -/
theorem filter_document (ρ : Rewriting) (document : List (String × Json)) :
    ((ρ.document document).filter fun entry => Modifiers.isKey entry.1) =
      document.filter fun entry => Modifiers.isKey entry.1 := by
  have hplace := isKey_place document
  rw [Rewriting.document]
  generalize place document = place at hplace
  induction document with
  | nil => rfl
  | cons entry rest ih =>
    by_cases hkey : Modifiers.isKey entry.1 = true
    · have hne : entry.1 ≠ place := by
        intro heq
        rw [heq, hplace] at hkey
        cases hkey
      simp [hkey, hne, ih]
    · simp [hkey, ih]

theorem nodeAt_prototype {key : String} {value : Json} {node : List (String × Json)}
    (h : Prototype.nodeAt key value = .ok node) :
    Prototype.nodeAt key (ρ.prototype value) = .ok (ρ.entries [] node) := by
  unfold Prototype.nodeAt at h
  split at h
  · obtain rfl := Except.ok.inj h
    rfl
  · obtain rfl := Except.ok.inj h
    rfl
  · cases h

theorem locate_document {node : List (String × Json)} {form : OutputForm}
    (h : Prototype.locate (Modifiers.otherEntries document) = .ok (form, node)) :
    Prototype.locate (Modifiers.otherEntries (ρ.document document)) =
      .ok (form, ρ.entries [] node) := by
  rw [Prototype.locate_otherEntries, Prototype.locate] at h ⊢
  rw [find?_document, find?_document, find?_document]
  cases hgraph : Fields.find? "@graph" document with
  | some graph =>
    have hplace : place document = "@graph" := by rw [place, hgraph]; rfl
    rw [hgraph] at h
    obtain ⟨_, hnode, heq⟩ := Except.map_eq_ok_iff.1 h
    obtain ⟨rfl, rfl⟩ := Prod.mk.inj heq
    simp [hplace, nodeAt_prototype hnode, Except.map]
  | none =>
    have hplace : place document = "proto" := by rw [place, hgraph]; rfl
    rw [hgraph] at h
    cases hproto : Fields.find? "proto" document with
    | none =>
      rw [hproto] at h
      cases h
    | some proto =>
      rw [hproto] at h
      obtain ⟨_, hnode, heq⟩ := Except.map_eq_ok_iff.1 h
      obtain ⟨rfl, rfl⟩ := Prod.mk.inj heq
      simp [hplace, nodeAt_prototype hnode, Except.map]

/-- The compiled form of a rewritten document is that of the document, with a rewritten template. -/
theorem compile_document {compiled : CompiledQuery} {node : List (String × Json)}
    {form : OutputForm} (h : (compile (.object document)).outcome = .ok compiled)
    (hlocate : Prototype.locate (Modifiers.otherEntries document) = .ok (form, node))
    (admits : ρ.Admits compiled.query.modifiers [] node) :
    (compile (.object (ρ.document document))).outcome =
      .ok { compiled with template := ρ.template compiled.template } := by
  obtain ⟨_, m, form', node', fields, hentries, hm, hlocate', hcheck, rfl⟩ :=
    compile_eq_ok_iff.1 h
  obtain rfl := Json.object.inj hentries
  obtain ⟨rfl, rfl⟩ := Prod.mk.inj (Except.ok.inj (hlocate.symm.trans hlocate'))
  change ρ.Admits m [] node at admits
  have hm' : (Modifiers.ofEntries (ρ.document document)).outcome = .ok m := by
    rw [Modifiers.ofEntries_congr (filter_document ρ document), hm]
  have hcheck' : (Prototype.check m.language? (Prototype.ofEntries (ρ.entries [] node))).outcome =
      .ok (ρ.shapes (fun _ => id) [] fields) := by
    rw [ofEntries_entries admits]
    exact check_shapes hcheck
  refine compile_eq_ok_iff.2 ⟨ρ.document document, m, form, ρ.entries [] node, _, rfl, hm',
    locate_document hlocate, hcheck', ?_⟩
  rw [ofFields_shapes (admits.respects.settled hcheck), compiled_plan]
  rfl

end Documents

end Rewriting

/-- Names and constants do not reach the query. Replace literals in the prototype of a document that
compiles by other literals, and rename keys that neither identify a node nor are bound by inline
values, to such keys that differ within their node. The new document compiles to the same text,
projection, page and display of tags, and its template is rewritten in the same way. -/
theorem compile_rewriting (ρ : Rewriting) {document node : List (String × Json)}
    {form : OutputForm} {compiled : CompiledQuery}
    (h : (compile (.object document)).outcome = .ok compiled)
    (hlocate : Prototype.locate (Modifiers.otherEntries document) = .ok (form, node))
    (admits : ρ.Admits compiled.query.modifiers [] node) :
    ∃ compiled', (compile (.object (ρ.document document))).outcome = .ok compiled' ∧
      compiled'.text = compiled.text ∧
      compiled'.query.projection = compiled.query.projection ∧
      compiled'.pagination? = compiled.pagination? ∧ compiled'.tags? = compiled.tags? ∧
      compiled'.form = compiled.form ∧ compiled'.template = ρ.template compiled.template :=
  ⟨_, Rewriting.compile_document h hlocate admits, rfl, rfl, rfl, rfl, rfl, rfl⟩

namespace Harbours

/-- A harbour and its mayor, who is bound by inline values. -/
def node : List (String × Json) :=
  [("town", .string "$ex:town$anchor"), ("kind", .string "harbour"),
    ("mayor", .object [("name", .string "$rdfs:label"), ("since", .null)])]

def document : List (String × Json) :=
  [("$values", .object [("mayor", .string "ex:ada")]), ("proto", .object node)]

def modifiers : Modifiers := { values := [("?mayor", ["ex:ada"])] }

def leaf (path : String) (options : Directive.Options) : Shape Unit Prototype.Leaf :=
  .leaf ⟨⟨.path path, options⟩, none⟩

def checked : Prototype.Checked :=
  [("town", leaf "ex:town" { anchor := true }), ("kind", .constant (.string "harbour")),
    ("mayor", .node () [("name", leaf "rdfs:label" {}), ("since", .constant .null)])]

def compiled : CompiledQuery := (Plan.ofFields modifiers checked).compiled modifiers .plain

/-- The town becomes a city and the name of its mayor a title. All constants become true. -/
def rewriting : Rewriting where
  key path key :=
    if path = [] ∧ key = "town" then "city"
    else if path = ["mayor"] ∧ key = "name" then "title"
    else key
  constant _ _ _ := .bool true

theorem outcome_check :
    (Prototype.check none (Prototype.ofEntries node)).outcome = .ok checked := rfl

theorem outcome_document : (compile (.object document)).outcome = .ok compiled := by
  have hmodifiers : (Modifiers.ofEntries document).outcome = .ok modifiers := rfl
  exact compile_eq_ok_iff.2 ⟨document, modifiers, .plain, node, checked, rfl, hmodifiers, rfl,
    outcome_check, rfl⟩

theorem admits_node : rewriting.Admits modifiers [] node := by
  refine .node ⟨by decide, ?_⟩ (fun _ _ _ _ => rfl) ?_
  · intro name hname
    by_cases htown : name = "town"
    · subst htown
      exact Or.inr ⟨⟨by decide, by decide⟩, ⟨by decide, by decide⟩⟩
    · exact Or.inl (by simp [rewriting, htown])
  · intro key inner hmem
    obtain ⟨rfl, rfl⟩ : key = "mayor" ∧
        inner = [("name", .string "$rdfs:label"), ("since", .null)] := by
      simpa [node] using hmem
    refine .node ⟨by decide, ?_⟩ (fun _ _ _ _ => rfl) (by simp)
    intro name hname
    by_cases hlabel : name = "name"
    · subst hlabel
      exact Or.inr ⟨⟨by decide, by decide⟩, ⟨by decide, by decide⟩⟩
    · exact Or.inl (by simp [rewriting, hlabel])

end Harbours

-- the key that identifies the harbour is renamed with its field
example : (Harbours.rewriting.template Harbours.compiled.template).label.anchor? = some "city" := rfl

theorem compile_rewriting_harbours :
    ((compile (.object Harbours.document)).outcome = .ok Harbours.compiled ∧
      Prototype.locate (Modifiers.otherEntries Harbours.document) = .ok (.plain, Harbours.node) ∧
      Harbours.rewriting.Admits Harbours.compiled.query.modifiers [] Harbours.node) ∧
    ∃ compiled',
      (compile (.object (Harbours.rewriting.document Harbours.document))).outcome =
        .ok compiled' ∧
      compiled'.text = Harbours.compiled.text ∧
      compiled'.query.projection = Harbours.compiled.query.projection ∧
      compiled'.pagination? = Harbours.compiled.pagination? ∧
      compiled'.tags? = Harbours.compiled.tags? ∧ compiled'.form = Harbours.compiled.form ∧
      compiled'.template = Harbours.rewriting.template Harbours.compiled.template :=
  ⟨⟨Harbours.outcome_document, rfl, Harbours.admits_node⟩,
    compile_rewriting Harbours.rewriting Harbours.outcome_document rfl Harbours.admits_node⟩

end QueryByExample
