import Mathlib.Logic.Relation
import QueryByExample.Proofs.Query.Pattern
import QueryByExample.Proofs.Template
/-!
# Connection

The patterns of a query as a graph: each joins its subject and its object. If no nested node is
anchored by a variable of its own, all patterns are connected with the variable of the entity that
the document describes, so that the query has no accidental cross product.

A node is connected with its surroundings by the pattern of its anchor. The two variables from which
patterns of a node start, its root and that of the enclosing node, are therefore connected by
induction on the prototype.

## Main definitions

- `Prototype.nested`: the nested nodes of a prototype.
- `Plan.base`: the variable of the entity that a document describes.
- `Pattern.Joined`: two variables at the ends of one pattern.

## Main statements

- `Plan.reaches_sitesOf`: the sites of a node are connected with its root.
- `reaches_of_mem_patterns`: the patterns of a compiled document are connected.
-/

namespace QueryByExample

namespace Prototype

mutual

/-- The fields of the nodes in a field, itself included. -/
def nestedAt : Shape Unit Leaf → List Checked
  | .constant _ => []
  | .leaf _ => []
  | .node _ fields => fields :: nested fields

/-- The fields of the nodes that are nested in a node, depth first. -/
def nested : List (String × Shape Unit Leaf) → List Checked
  | [] => []
  | (_, shape) :: rest => nestedAt shape ++ nested rest

end

end Prototype

namespace Pattern

/-- Two variables are the ends of one of the patterns. -/
def Joined (patterns : List Pattern) (a b : String) : Prop :=
  ∃ p ∈ patterns, (p.subject = a ∧ p.object = b) ∨ (p.subject = b ∧ p.object = a)

/-- Patterns lead from one variable to another one. -/
abbrev Reaches (patterns : List Pattern) : String → String → Prop :=
  Relation.ReflTransGen (Joined patterns)

variable {patterns : List Pattern} {a b : String}

theorem Joined.symm (h : Joined patterns a b) : Joined patterns b a := by
  obtain ⟨p, hp, hends⟩ := h
  exact ⟨p, hp, hends.symm⟩

end Pattern

namespace Plan

open Pattern (Joined Reaches)

/-- The anchor of a node stands for a variable that is declared elsewhere. -/
def AnchoredByVariable (fields : Prototype.Checked) : Prop :=
  ∃ key directive, anchorOf? fields = some (key, directive) ∧ directive.path? = none

/-- The variable from which the patterns of a query start: the one that anchors the prototype, else
the default. -/
def base (fields : Prototype.Checked) : String :=
  match anchorOf? fields with
  | some (_, directive) =>
    if directive.path?.isNone then directive.declaredVariable?.getD defaultRoot else defaultRoot
  | none => defaultRoot

/-- A prototype that is anchored by a variable has that variable as its root. -/
theorem root_eq_base {fields : Prototype.Checked} (h : AnchoredByVariable fields) (scope : Scope) :
    (nodeOf scope fields).root = base fields := by
  obtain ⟨key, directive, hanchor, hpath⟩ := h
  have hdeclared : directive.declaredVariable? ≠ none := by
    obtain ⟨⟨name⟩ | ⟨path⟩, options⟩ := directive
    · unfold Directive.declaredVariable?
      cases options.chosenVariable? <;> simp
    · cases hpath
  obtain ⟨name, hname⟩ := Option.ne_none_iff_exists'.1 hdeclared
  simp [nodeOf, base, hanchor, hpath, hname]

theorem base_eq_default {fields : Prototype.Checked} (h : ¬ AnchoredByVariable fields) :
    base fields = defaultRoot := by
  unfold base
  split
  · next key directive hanchor =>
    refine if_neg fun hpath => h ⟨key, directive, hanchor, ?_⟩
    exact Option.isNone_iff_eq_none.1 hpath
  · rfl

section Reaching

variable {m : Modifiers} {patterns : List Pattern} {start : String}

/-- The pattern of a site has its variable and the one that its path starts from at its ends. -/
theorem Site.ends_of_pattern? {site : Site} {p : Pattern} (h : site.pattern? m = some p) :
    site.leaf.directive.path? ≠ none ∧
      ((p.subject = site.leaf.subject ∧ p.object = site.leaf.name) ∨
        (p.subject = site.leaf.name ∧ p.object = site.leaf.subject)) := by
  obtain ⟨path, hpath, rfl⟩ := Option.map_eq_some_iff.1 h
  refine ⟨by simp [hpath], ?_⟩
  split
  · exact Or.inr ⟨rfl, rfl⟩
  · exact Or.inl ⟨rfl, rfl⟩

theorem Site.joined {site : Site} (hpath : site.leaf.directive.path? ≠ none)
    (hmem : ∀ p, site.pattern? m = some p → p ∈ patterns) :
    Joined patterns site.leaf.subject site.leaf.name := by
  obtain ⟨path, hpath⟩ := Option.ne_none_iff_exists'.1 hpath
  obtain ⟨p, hp⟩ : ∃ p, site.pattern? m = some p := ⟨_, by rw [pattern?, hpath, Option.map_some]⟩
  obtain ⟨-, hends⟩ := ends_of_pattern? hp
  exact ⟨p, hmem p hp, hends⟩

theorem subject_leafOf (scope : Scope) (node : Node) (index : Nat) (key : String)
    (content : Prototype.Leaf) :
    (leafOf m scope node index key content).subject =
      subjectOf scope node (leafOf m scope node index key content).name
        content.directive.options.fromParent := rfl

/-- The leaf that anchors a node holds its root, and its path starts at the enclosing node. -/
theorem leafOf_anchor (m : Modifiers) {scope : Scope} {fields : Prototype.Checked} (index : Nat)
    {key : String} {content : Prototype.Leaf}
    (h : anchorOf? fields = some (key, content.directive)) :
    (leafOf m scope (nodeOf scope fields) index key content).name = (nodeOf scope fields).root ∧
      (leafOf m scope (nodeOf scope fields) index key content).subject =
        scope.parent?.getD defaultRoot := by
  have hname : (leafOf m scope (nodeOf scope fields) index key content).name =
      (nodeOf scope fields).root := by
    cases hdeclared : content.directive.declaredVariable? <;> simp [leafOf, nodeOf, h, hdeclared]
  refine ⟨hname, ?_⟩
  rw [subject_leafOf, hname, subjectOf]
  cases scope.parent? <;> simp

/-- The pattern of its anchor connects a node with the variable of its surroundings. -/
theorem reaches_root {scope : Scope} {enclosing : List Prototype.Checked}
    {fields : Prototype.Checked}
    (hsites : ∀ site ∈ sitesOf m scope (nodeOf scope fields) enclosing 0 fields,
      ∀ p, site.pattern? m = some p → p ∈ patterns)
    (hanchor : ¬ AnchoredByVariable fields)
    (hparent : Reaches patterns start (scope.parent?.getD defaultRoot)) :
    Reaches patterns start (nodeOf scope fields).root := by
  cases hfound : anchorOf? fields with
  | none =>
    have hroot : (nodeOf scope fields).root = scope.parent?.getD defaultRoot := by
      rw [nodeOf, hfound]
    rwa [hroot]
  | some anchor =>
    obtain ⟨key, directive⟩ := anchor
    obtain ⟨content, hmem, rfl⟩ := exists_leaf_of_anchorOf? hfound
    obtain ⟨position, hsite⟩ :=
      exists_mem_sitesOf m scope (nodeOf scope fields) enclosing 0 hmem
    have hpath : content.directive.path? ≠ none := fun h => hanchor ⟨_, _, hfound, h⟩
    have hjoined := Site.joined hpath (hsites _ hsite)
    obtain ⟨hname, hsubject⟩ := leafOf_anchor m position hfound
    rw [hname, hsubject] at hjoined
    exact hparent.tail hjoined

/-- The path of a leaf starts at a variable that is reached if the root of its node and that of the
enclosing node are; without an enclosing node, the leaf itself may be the root. -/
theorem reaches_subject {scope : Scope} {node : Node} {enclosing : List Prototype.Checked}
    {index : Nat} {key : String} {content : Prototype.Leaf}
    (hsite : ∀ p, Site.pattern? m ⟨key, leafOf m scope node index key content, node, enclosing⟩ =
      some p → p ∈ patterns)
    (hparent : ∀ parent, scope.parent? = some parent → Reaches patterns start parent)
    (hroot : Reaches patterns start node.root) (hpath : content.directive.path? ≠ none) :
    Reaches patterns start (leafOf m scope node index key content).subject := by
  have hjoined := Site.joined hpath hsite
  dsimp only at hjoined
  rw [subject_leafOf] at hjoined ⊢
  generalize (leafOf m scope node index key content).name = name at hjoined ⊢
  cases hscope : scope.parent? with
  | some parent =>
    simp only [subjectOf, hscope]
    split
    · exact hparent parent hscope
    · exact hroot
  | none =>
    by_cases hname : name = node.root
    · -- the leaf is the root, so its own pattern leads back to where its path starts
      rw [hname] at hjoined ⊢
      exact hroot.tail hjoined.symm
    · simp only [subjectOf, hscope, hname, if_false]
      exact hroot

mutual

theorem reaches_sitesAt {scope : Scope} {node : Node} {enclosing : List Prototype.Checked}
    {index : Nat} {key : String} {shape : Shape Unit Prototype.Leaf}
    (hsites : ∀ site ∈ sitesAt m scope node enclosing index key shape,
      ∀ p, site.pattern? m = some p → p ∈ patterns)
    (hnested : ∀ inner ∈ Prototype.nestedAt shape, ¬ AnchoredByVariable inner)
    (hparent : ∀ parent, scope.parent? = some parent → Reaches patterns start parent)
    (hroot : Reaches patterns start node.root) :
    ∀ site ∈ sitesAt m scope node enclosing index key shape,
      site.leaf.directive.path? ≠ none → Reaches patterns start site.leaf.subject := by
  cases shape with
  | constant value => simp [sitesAt]
  | leaf content =>
    rw [sitesAt, List.forall_mem_singleton] at hsites ⊢
    exact fun hpath => reaches_subject hsites hparent hroot hpath
  | node label fields =>
    rw [sitesAt] at hsites ⊢
    rw [Prototype.nestedAt] at hnested
    have hroot' := reaches_root hsites (hnested fields List.mem_cons_self) hroot
    refine reaches_sitesOf hsites (fun inner hinner => ?_) (fun parent hparent => ?_) hroot'
    · exact hnested inner (List.mem_cons_of_mem _ hinner)
    · obtain rfl := Option.some.inj hparent
      exact hroot

/-- All patterns of a node are connected if its root and that of the enclosing node are. -/
theorem reaches_sitesOf {scope : Scope} {node : Node} {enclosing : List Prototype.Checked}
    {index : Nat} {fields : Prototype.Checked}
    (hsites : ∀ site ∈ sitesOf m scope node enclosing index fields,
      ∀ p, site.pattern? m = some p → p ∈ patterns)
    (hnested : ∀ inner ∈ Prototype.nested fields, ¬ AnchoredByVariable inner)
    (hparent : ∀ parent, scope.parent? = some parent → Reaches patterns start parent)
    (hroot : Reaches patterns start node.root) :
    ∀ site ∈ sitesOf m scope node enclosing index fields,
      site.leaf.directive.path? ≠ none → Reaches patterns start site.leaf.subject := by
  cases fields with
  | nil => simp [sitesOf]
  | cons field rest =>
    obtain ⟨key, shape⟩ := field
    rw [sitesOf, List.forall_mem_append] at hsites ⊢
    rw [Prototype.nested, List.forall_mem_append] at hnested
    exact ⟨reaches_sitesAt hsites.1 hnested.1 hparent hroot,
      reaches_sitesOf hsites.2 hnested.2 hparent hroot⟩

end

theorem reaches_sites {fields : Prototype.Checked}
    (hsites : ∀ site ∈ sites m fields, ∀ p, site.pattern? m = some p → p ∈ patterns)
    (hnested : ∀ inner ∈ Prototype.nested fields, ¬ AnchoredByVariable inner) :
    ∀ site ∈ sites m fields, site.leaf.directive.path? ≠ none →
      Reaches patterns (base fields) site.leaf.subject := by
  refine reaches_sitesOf hsites hnested nofun ?_
  by_cases hanchor : AnchoredByVariable fields
  · rw [root_eq_base hanchor]
  · refine reaches_root hsites hanchor ?_
    rw [base_eq_default hanchor]
    rfl

end Reaching

end Plan

/-- No accidental cross product: if no nested node is anchored by a variable that is declared
elsewhere, both ends of every pattern are connected with the variable of the entity that the
document describes. -/
theorem reaches_of_mem_patterns {document : Json} {compiled : CompiledQuery}
    (h : (compile document).outcome = .ok compiled) {m : Modifiers} {node : List (String × Json)}
    {fields : Prototype.Checked} (hreads : Prototype.Reads document m node fields)
    (hnested : ∀ inner ∈ Prototype.nested fields, ¬ Plan.AnchoredByVariable inner) :
    let patterns := Clause.patternsOf 0 compiled.query.clauses
    ∀ p ∈ patterns, Pattern.Reaches patterns (Plan.base fields) p.subject ∧
      Pattern.Reaches patterns (Plan.base fields) p.object := by
  intro patterns p hp
  obtain ⟨form, hplan⟩ := hreads.outcome_compile
  obtain rfl := Except.ok.inj (h.symm.trans hplan)
  have hpatterns : patterns = (Plan.sites m fields).filterMap (Plan.Site.pattern? m) :=
    Plan.patternsOf_clauses m fields
  have hsites : ∀ site ∈ Plan.sites m fields, ∀ p, site.pattern? m = some p → p ∈ patterns := by
    intro site hsite p hp
    rw [hpatterns]
    exact List.mem_filterMap.2 ⟨site, hsite, hp⟩
  rw [hpatterns] at hp
  obtain ⟨site, hsite, hpattern⟩ := List.mem_filterMap.1 hp
  obtain ⟨hpath, hends⟩ := Plan.Site.ends_of_pattern? hpattern
  have hsubject := Plan.reaches_sites hsites hnested site hsite hpath
  have hname := hsubject.tail (Plan.Site.joined hpath (hsites site hsite))
  rcases hends with ⟨hs, ho⟩ | ⟨hs, ho⟩
  · rw [hs, ho]
    exact ⟨hsubject, hname⟩
  · rw [hs, ho]
    exact ⟨hname, hsubject⟩

theorem reaches_of_mem_patterns_cities :
    ((compile Cities.document).outcome = .ok Cities.compiled ∧
      Prototype.Reads Cities.document {} Cities.entries Cities.checked ∧
      ∀ inner ∈ Prototype.nested Cities.checked, ¬ Plan.AnchoredByVariable inner) ∧
    let patterns := Clause.patternsOf 0 Cities.compiled.query.clauses
    ∀ p ∈ patterns, Pattern.Reaches patterns (Plan.base Cities.checked) p.subject ∧
      Pattern.Reaches patterns (Plan.base Cities.checked) p.object := by
  have hnested : ∀ inner ∈ Prototype.nested Cities.checked, ¬ Plan.AnchoredByVariable inner := by
    intro inner hinner
    obtain rfl := List.mem_singleton.1 hinner
    rintro ⟨key, directive, hanchor, hpath⟩
    obtain ⟨rfl, rfl⟩ := Prod.mk.inj (Option.some.inj hanchor)
    cases hpath
  exact ⟨⟨Cities.outcome_document, Cities.reads_document, hnested⟩,
    reaches_of_mem_patterns Cities.outcome_document Cities.reads_document hnested⟩

end QueryByExample
