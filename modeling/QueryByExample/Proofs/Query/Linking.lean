import QueryByExample.Proofs.Query.Connection
import QueryByExample.Proofs.Query.Naming
/-!
# Linking

The pattern of its anchor links a node to its surroundings. Clauses follow the order of the fields,
so this pattern stands where the anchor stands among the fields of the node: behind all that the
fields in front of it contribute, optional clauses that use the root of the node included, and in
front of the rest.

## Main definitions

- `Clause.membersOf`: the members of a group in the order in which they are evaluated.
- `Clause.usesAny`: a variable occurs in some clauses.
- `Plan.nodes`: the nodes of a plan.
- `Plan.Node.LinkedBy`: a node is anchored by a leaf that follows a path.
- `Plan.Node.LinkedFirst`: the pattern of the anchor precedes the optional clauses with the root.

## Main statements

- `Plan.intercalate_membersOf`: the members make up the text of the group.
- `Plan.IsPlanned.membersOf_eq`: where the pattern of an anchor stands.
- `anchor_membersOf_of_compile`: the same for the nodes of a document that compiles.
- `not_linkedFirst_lakes`: an optional clause with the root may come first.
-/

namespace QueryByExample

namespace Clause

mutual

/-- The members that a clause gives to the group in which it stands. A mandatory group is written
without braces, so its members are those of the group around it. -/
def members : Clause → List Clause
  | .group clauses => membersOf clauses
  | .triple subject path object => [.triple subject path object]
  | .languageFilter name code => [.languageFilter name code]
  | .optional clauses => [.optional clauses]

/-- The members of a group, from left to right. -/
def membersOf : List Clause → List Clause
  | [] => []
  | clause :: rest => members clause ++ membersOf rest

end

mutual

/-- A variable occurs in a clause. -/
def uses (name : String) : Clause → Bool
  | .triple subject path object => subject == name || path == name || object == name
  | .languageFilter other _ => other == name
  | .group clauses => usesAny name clauses
  | .optional clauses => usesAny name clauses

/-- A variable occurs in one of some clauses. -/
def usesAny (name : String) : List Clause → Bool
  | [] => false
  | clause :: rest => uses name clause || usesAny name rest

end

theorem membersOf_append (clauses others : List Clause) :
    membersOf (clauses ++ others) = membersOf clauses ++ membersOf others := by
  induction clauses with
  | nil => simp [membersOf]
  | cons clause rest ih => simp [membersOf, ih]

theorem texts_append (clauses others : List Clause) :
    texts (clauses ++ others) = texts clauses ++ texts others := by
  induction clauses with
  | nil => simp [texts]
  | cons clause rest ih => simp [texts, ih]

theorem texts_eq_nil_iff {clauses : List Clause} : texts clauses = [] ↔ clauses = [] := by
  cases clauses <;> simp [texts]

/-- The members of a group make up its text, and only a group without clauses has none. -/
structure Flattens (clauses : List Clause) : Prop where
  text : separator.intercalate (texts (membersOf clauses)) =
    separator.intercalate (texts clauses)
  nil_iff : membersOf clauses = [] ↔ clauses = []

namespace Flattens

theorem nil : Flattens [] := ⟨rfl, Iff.rfl⟩

/-- A clause without braces around other ones is a member itself. -/
theorem single {clause : Clause} (h : members clause = [clause]) : Flattens [clause] :=
  ⟨by rw [membersOf, h]; rfl, by simp [membersOf, h]⟩

theorem append {clauses others : List Clause} (h : Flattens clauses) (h' : Flattens others) :
    Flattens (clauses ++ others) := by
  refine ⟨?_, by simp [membersOf_append, h.nil_iff, h'.nil_iff]⟩
  rcases eq_or_ne clauses [] with rfl | hne
  · exact h'.text
  rcases eq_or_ne others [] with rfl | hne'
  · simpa using h.text
  have hmembers : texts (membersOf clauses) ≠ [] := by simpa [texts_eq_nil_iff, h.nil_iff] using hne
  have hmembers' : texts (membersOf others) ≠ [] := by
    simpa [texts_eq_nil_iff, h'.nil_iff] using hne'
  rw [membersOf_append, texts_append, texts_append,
    String.intercalate_append_of_ne_nil hmembers hmembers',
    String.intercalate_append_of_ne_nil (mt texts_eq_nil_iff.1 hne) (mt texts_eq_nil_iff.1 hne'),
    h.text, h'.text]

theorem group {clauses : List Clause} (h : Flattens clauses) (hne : clauses ≠ []) :
    Flattens [.group clauses] := by
  have hmembers : membersOf [.group clauses] = membersOf clauses := by
    rw [membersOf, members, membersOf, List.append_nil]
  have htexts : texts [.group clauses] = [separator.intercalate (texts clauses)] := rfl
  refine ⟨?_, ?_⟩
  · rw [hmembers, htexts, String.intercalate_singleton, h.text]
  · rw [hmembers, h.nil_iff]
    simp [hne]

theorem grouped {clauses : List Clause} (h : Flattens clauses) (required : Bool) :
    Flattens (Clause.grouped required clauses) := by
  cases clauses with
  | nil => exact nil
  | cons clause rest =>
    cases required with
    | false => exact single rfl
    | true => exact h.group (List.cons_ne_nil _ _)

end Flattens

end Clause

namespace Shape

variable {ν α : Type}

mutual

/-- The nodes in a field, itself included, with their fields. -/
def nodes : Shape ν α → List (ν × List (String × Shape ν α))
  | .constant _ => []
  | .leaf _ => []
  | .node label fields => (label, fields) :: nodesOf fields

/-- The nodes in some fields with their own fields, depth first. -/
def nodesOf : List (String × Shape ν α) → List (ν × List (String × Shape ν α))
  | [] => []
  | (_, shape) :: rest => nodes shape ++ nodesOf rest

end

end Shape

namespace Plan

/-- The nodes of a plan with their fields, the outermost first. -/
def nodes (plan : Plan) : List (Node × List (String × Shape Node Leaf)) :=
  (plan.node, plan.fields) :: Shape.nodesOf plan.fields

variable {m : Modifiers}

/-- A node that was planned from fields of a checked prototype. -/
def IsPlanned (m : Modifiers) (node : Node) (fields : List (String × Shape Node Leaf)) : Prop :=
  ∃ scope source, (Shape.node () source).Regular ∧ node = nodeOf scope source ∧
    fields = fieldsOf m scope node 0 source

mutual

theorem isPlanned_of_mem_nodes {scope : Scope} {node : Node} {index : Nat} {key : String}
    {shape : Shape Unit Prototype.Leaf} (h : shape.Regular)
    {n : Node × List (String × Shape Node Leaf)}
    (hn : n ∈ (fieldOf m scope node index key shape).nodes) : IsPlanned m n.1 n.2 := by
  cases shape with
  | constant value => cases hn
  | leaf content => cases hn
  | node label fields =>
    rw [fieldOf, Shape.nodes] at hn
    rcases List.mem_cons.1 hn with rfl | hn
    · exact ⟨_, fields, h, rfl, rfl⟩
    · cases h with
      | node distinct hfields => exact isPlanned_of_mem_nodesOf hfields hn

/-- Every node of a plan was planned from fields of the prototype. -/
theorem isPlanned_of_mem_nodesOf {scope : Scope} {node : Node} {index : Nat}
    {fields : Prototype.Checked} (h : ∀ key shape, (key, shape) ∈ fields → shape.Regular)
    {n : Node × List (String × Shape Node Leaf)}
    (hn : n ∈ Shape.nodesOf (fieldsOf m scope node index fields)) : IsPlanned m n.1 n.2 := by
  cases fields with
  | nil => cases hn
  | cons field rest =>
    obtain ⟨key, shape⟩ := field
    rw [fieldsOf, Shape.nodesOf, List.mem_append] at hn
    rcases hn with hn | hn
    · exact isPlanned_of_mem_nodes (h key shape List.mem_cons_self) hn
    · refine isPlanned_of_mem_nodesOf (fun key shape hmem => ?_) hn
      exact h key shape (List.mem_cons_of_mem _ hmem)

end

theorem isPlanned_of_mem_ofFields {fields : Prototype.Checked}
    (h : (Shape.node () fields).Regular) {n : Node × List (String × Shape Node Leaf)}
    (hn : n ∈ (ofFields m fields).nodes) : IsPlanned m n.1 n.2 := by
  rcases List.mem_cons.1 hn with rfl | hn
  · exact ⟨.outermost, fields, h, rfl, rfl⟩
  · cases h with
    | node distinct hfields => exact isPlanned_of_mem_nodesOf hfields hn

/-! ### The clauses of a node -/

theorem members_triple (leaf : Leaf) (path : String) :
    Clause.members (leaf.triple path) = [leaf.triple path] := by
  unfold Leaf.triple
  split <;> rfl

theorem flattens_leaf (leaf : Leaf) : Clause.Flattens leaf.clauses := by
  unfold Leaf.clauses
  cases leaf.directive.path? with
  | none => exact .nil
  | some path =>
    have htriple := Clause.Flattens.single (members_triple leaf path)
    refine Clause.Flattens.grouped ?_ leaf.required
    cases leaf.language? with
    | none => exact htriple
    | some code => exact htriple.append (.single rfl)

mutual

theorem flattens_fieldClauses (shape : Shape Node Leaf) :
    Clause.Flattens (fieldClauses shape) := by
  cases shape with
  | constant value => exact .nil
  | leaf content => exact flattens_leaf content
  | node label fields => exact (flattens_fieldsClauses fields).grouped label.required

theorem flattens_fieldsClauses (fields : List (String × Shape Node Leaf)) :
    Clause.Flattens (fieldsClauses fields) := by
  cases fields with
  | nil => exact .nil
  | cons field rest => exact (flattens_fieldClauses field.2).append (flattens_fieldsClauses rest)

end

/-- The members of the group of a node make up its text. -/
theorem intercalate_membersOf (fields : List (String × Shape Node Leaf)) :
    Clause.separator.intercalate (Clause.texts (Clause.membersOf (fieldsClauses fields))) =
      Clause.separator.intercalate (Clause.texts (fieldsClauses fields)) :=
  (flattens_fieldsClauses fields).text

theorem fieldsClauses_append (fields others : List (String × Shape Node Leaf)) :
    fieldsClauses (fields ++ others) = fieldsClauses fields ++ fieldsClauses others := by
  induction fields with
  | nil => rfl
  | cons field rest ih =>
    obtain ⟨key, shape⟩ := field
    simp [fieldsClauses, ih]

/-- A leaf that must match is a member with its language filter. -/
theorem membersOf_leafClauses {leaf : Leaf} (hrequired : leaf.required = true) {path : String}
    (hpath : leaf.directive.path? = some path) :
    Clause.membersOf leaf.clauses =
      leaf.triple path :: (leaf.language?.map (Clause.languageFilter leaf.name)).toList := by
  cases hlanguage : leaf.language? <;>
    simp [Leaf.clauses, hpath, hrequired, hlanguage, Clause.grouped, Clause.membersOf,
      Clause.members, members_triple]

/-! ### Where the anchor stands -/

/-- The node is anchored by a leaf that follows a path. -/
structure Node.LinkedBy (node : Node) (fields : List (String × Shape Node Leaf)) (key : String)
    (leaf : Leaf) (path : String) : Prop where
  anchor : node.anchor? = some key
  mem : (key, .leaf leaf) ∈ fields
  path : leaf.directive.path? = some path

/-- Among the clauses of the node, the pattern of a leaf precedes all optional clauses in which the
root of the node occurs. -/
def Node.LinkedFirst (node : Node) (fields : List (String × Shape Node Leaf)) (leaf : Leaf)
    (path : String) : Prop :=
  ∃ before after, Clause.membersOf (fieldsClauses fields) = before ++ leaf.triple path :: after ∧
    ∀ clauses, .optional clauses ∈ before → Clause.usesAny node.root clauses = false

namespace IsPlanned

variable {node : Node} {fields : List (String × Shape Node Leaf)} {key path : String} {leaf : Leaf}

/-- The leaf that anchors a planned node holds its root, and it must match. -/
theorem name_and_required (h : IsPlanned m node fields)
    (hlinked : node.LinkedBy fields key leaf path) :
    leaf.name = node.root ∧ leaf.required = true := by
  obtain ⟨scope, source, hregular, rfl, rfl⟩ := h
  obtain ⟨position, shape, hmem, hleaf⟩ := exists_of_mem_fieldsOf hlinked.mem
  cases hregular with
  | node distinct _ =>
    cases shape with
    | constant value => cases hleaf
    | node label inner => cases hleaf
    | leaf content =>
      obtain rfl := Shape.leaf.inj hleaf
      have hanchor := anchorOf?_of_mem distinct hlinked.anchor hmem
      exact ⟨(leafOf_anchor m position hanchor).1, by simp [leafOf, hlinked.anchor]⟩

/-- The pattern of the anchor stands behind the clauses of the fields in front of the anchor, and in
front of those of the fields behind it. -/
theorem membersOf_eq (h : IsPlanned m node fields) (hlinked : node.LinkedBy fields key leaf path)
    {before after : List (String × Shape Node Leaf)}
    (hfields : fields = before ++ (key, .leaf leaf) :: after) :
    Clause.membersOf (fieldsClauses fields) =
      Clause.membersOf (fieldsClauses before) ++ leaf.triple path ::
        ((leaf.language?.map (Clause.languageFilter leaf.name)).toList ++
          Clause.membersOf (fieldsClauses after)) := by
  obtain ⟨-, hrequired⟩ := h.name_and_required hlinked
  rw [hfields, fieldsClauses_append, fieldsClauses, fieldClauses, Clause.membersOf_append,
    Clause.membersOf_append, membersOf_leafClauses hrequired hlinked.path, List.cons_append]

end IsPlanned

end Plan

/-- Every path that anchors a node of a document that compiles is followed in the order of the
fields. Its pattern comes after all that the fields in front of the anchor contribute, and before
all that the fields behind it do; so it precedes the optional clauses in which the root of the node
occurs, if no field in front of the anchor contributes one. -/
theorem anchor_membersOf_of_compile {document : Json} (hdocument : document.WellFormed)
    {compiled : CompiledQuery} (h : (compile document).outcome = .ok compiled) :
    ∃ entries fields, Prototype.Reads document compiled.query.modifiers entries fields ∧
      let plan := Plan.ofFields compiled.query.modifiers fields
      compiled = plan.compiled compiled.query.modifiers compiled.form ∧
      Shape.mapFields (fun _ => ()) (fun leaf => Except.ok leaf.directive) plan.fields =
        Prototype.ofEntries entries ∧
      ∀ n ∈ plan.nodes,
        Clause.separator.intercalate (Clause.texts (Clause.membersOf (Plan.fieldsClauses n.2))) =
          Clause.separator.intercalate (Clause.texts (Plan.fieldsClauses n.2)) ∧
        ∀ key leaf path, n.1.LinkedBy n.2 key leaf path →
          leaf.name = n.1.root ∧
          ∃ before after, n.2 = before ++ (key, .leaf leaf) :: after ∧
            Clause.membersOf (Plan.fieldsClauses n.2) =
              Clause.membersOf (Plan.fieldsClauses before) ++ leaf.triple path ::
                ((leaf.language?.map (Clause.languageFilter leaf.name)).toList ++
                  Clause.membersOf (Plan.fieldsClauses after)) ∧
            ((∀ clauses, .optional clauses ∈ Clause.membersOf (Plan.fieldsClauses before) →
                Clause.usesAny n.1.root clauses = false) →
              n.1.LinkedFirst n.2 leaf path) := by
  obtain ⟨entries, fields, hreads, hcompiled⟩ := exists_plan_of_compile h
  have hregular := Prototype.regular_of_reads hdocument hreads
  refine ⟨entries, fields, hreads, hcompiled, Plan.mapFields_draft hreads, fun n hn => ?_⟩
  refine ⟨Plan.intercalate_membersOf n.2, fun key leaf path hlinked => ?_⟩
  have hplanned := Plan.isPlanned_of_mem_ofFields hregular hn
  obtain ⟨before, after, hfields⟩ := List.append_of_mem hlinked.mem
  have hmembers := hplanned.membersOf_eq hlinked hfields
  refine ⟨(hplanned.name_and_required hlinked).1, before, after, hfields, hmembers, ?_⟩
  exact fun hbefore => ⟨_, _, hmembers, hbefore⟩

/-! ### An anchor behind a name

Lakes with their countries, whose names are asked for in front of their anchors. -/

namespace Lakes

/-- The prototype of a lake. -/
def entries : List (String × Json) :=
  [("id", .string "?lake"),
    ("country", .object [("name", .string "$rdfs:label"), ("id", .string "$dbo:country")])]

/-- The document. -/
def document : Json := .object [("proto", .object entries)]

/-- The prototype as it was checked. -/
def checked : Prototype.Checked :=
  [("id", Places.leaf "?lake" {}),
    ("country", .node () [("name", Cities.leaf "rdfs:label" {}),
      ("id", Cities.leaf "dbo:country" {})])]

/-- The compiled form of the document. -/
def compiled : CompiledQuery := (Plan.ofFields {} checked).compiled {} .plain

theorem wellFormed_document : document.WellFormed := by
  simp [document, entries, Json.wellFormed_object_iff, Json.WellFormed.string, Fields.Distinct,
    Fields.names]

theorem outcome_check :
    (Prototype.check none (Prototype.ofEntries entries)).outcome = .ok checked := rfl

theorem reads_document : Prototype.Reads document {} entries checked :=
  ⟨_, .plain, rfl, rfl, rfl, outcome_check⟩

theorem outcome_document : (compile document).outcome = .ok compiled :=
  compile_eq_ok_iff.2 ⟨_, {}, .plain, entries, checked, rfl, rfl, rfl, outcome_check, rfl⟩

/-- The leaf that anchors a country, behind its name. -/
def anchor : Plan.Leaf :=
  Plan.leafOf {} ⟨"v1_", some "?lake"⟩ ⟨some "id", "?v1_r", false, false⟩ 1 "id"
    ⟨⟨.path "dbo:country", {}⟩, none⟩

/-- The plan of the fields of a country. -/
def country : List (String × Shape Plan.Node Plan.Leaf) :=
  Plan.fieldsOf {} ⟨"v1_", some "?lake"⟩ ⟨some "id", "?v1_r", false, false⟩ 0
    [("name", Cities.leaf "rdfs:label" {}), ("id", Cities.leaf "dbo:country" {})]

theorem country_mem_nodes :
    (⟨some "id", "?v1_r", false, false⟩, country) ∈ (Plan.ofFields {} checked).nodes :=
  List.mem_cons_of_mem _ List.mem_cons_self

theorem membersOf_country : Clause.membersOf (Plan.fieldsClauses country) =
    [.optional [.triple "?v1_r" "rdfs:label" "?v1_0"],
      .triple "?lake" "dbo:country" "?v1_r"] := rfl

end Lakes

theorem anchor_membersOf_of_compile_lakes :
    (Lakes.document.WellFormed ∧ (compile Lakes.document).outcome = .ok Lakes.compiled) ∧
    ∃ entries fields, Prototype.Reads Lakes.document Lakes.compiled.query.modifiers entries fields ∧
      let plan := Plan.ofFields Lakes.compiled.query.modifiers fields
      Lakes.compiled = plan.compiled Lakes.compiled.query.modifiers Lakes.compiled.form ∧
      Shape.mapFields (fun _ => ()) (fun leaf => Except.ok leaf.directive) plan.fields =
        Prototype.ofEntries entries ∧
      ∀ n ∈ plan.nodes,
        Clause.separator.intercalate (Clause.texts (Clause.membersOf (Plan.fieldsClauses n.2))) =
          Clause.separator.intercalate (Clause.texts (Plan.fieldsClauses n.2)) ∧
        ∀ key leaf path, n.1.LinkedBy n.2 key leaf path →
          leaf.name = n.1.root ∧
          ∃ before after, n.2 = before ++ (key, .leaf leaf) :: after ∧
            Clause.membersOf (Plan.fieldsClauses n.2) =
              Clause.membersOf (Plan.fieldsClauses before) ++ leaf.triple path ::
                ((leaf.language?.map (Clause.languageFilter leaf.name)).toList ++
                  Clause.membersOf (Plan.fieldsClauses after)) ∧
            ((∀ clauses, .optional clauses ∈ Clause.membersOf (Plan.fieldsClauses before) →
                Clause.usesAny n.1.root clauses = false) →
              n.1.LinkedFirst n.2 leaf path) :=
  ⟨⟨Lakes.wellFormed_document, Lakes.outcome_document⟩,
    anchor_membersOf_of_compile Lakes.wellFormed_document Lakes.outcome_document⟩

/-- An anchor behind an optional clause with the root: the names of all things that have one are
joined to the lake, and then compared with its country. -/
theorem not_linkedFirst_lakes :
    (Lakes.document.WellFormed ∧ (compile Lakes.document).outcome = .ok Lakes.compiled ∧
      Prototype.Reads Lakes.document {} Lakes.entries Lakes.checked ∧
      Lakes.compiled = (Plan.ofFields {} Lakes.checked).compiled {} .plain) ∧
    ¬ ∀ n ∈ (Plan.ofFields {} Lakes.checked).nodes, ∀ key leaf path,
      n.1.LinkedBy n.2 key leaf path → n.1.LinkedFirst n.2 leaf path := by
  refine ⟨⟨Lakes.wellFormed_document, Lakes.outcome_document, Lakes.reads_document, rfl⟩, ?_⟩
  intro h
  have hlinked : Plan.Node.LinkedBy ⟨some "id", "?v1_r", false, false⟩ Lakes.country "id"
      Lakes.anchor "dbo:country" := ⟨rfl, List.mem_cons_of_mem _ List.mem_cons_self, rfl⟩
  obtain ⟨before, after, hmembers, hbefore⟩ := h _ Lakes.country_mem_nodes _ _ _ hlinked
  rw [Lakes.membersOf_country] at hmembers
  cases before with
  | nil => cases hmembers
  | cons clause rest =>
    obtain rfl := (List.cons.inj hmembers).1
    exact absurd (hbefore _ List.mem_cons_self) (by decide)

end QueryByExample
