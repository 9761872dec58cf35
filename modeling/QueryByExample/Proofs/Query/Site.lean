import QueryByExample.Proofs.Compile
/-!
# Sites

The places of a prototype where its directives stand. A site knows the plan of its directive, the
node that it belongs to and the nested nodes around it.

## Main definitions

- `Prototype.directives`: the directives of a prototype with their keys, depth first.
- `Plan.Site`, `Plan.sites`: the sites of a prototype, depth first.

## Main statements

- `Prototype.directives_of_check`: the leaves of a checked prototype are its directives.
- `Plan.directives_sites`: every leaf has one site, in the same order.
-/

namespace QueryByExample

namespace Prototype

mutual

/-- The directives in the value of a key. Those of an object are its own. -/
def directivesAt (key : String) : Json → List (String × Directive)
  | .object entries => directives entries
  | .string text =>
    match Directive.parse text with
    | .ok (some directive) => [(key, directive)]
    | _ => []
  | _ => []

/-- The directives of a prototype with their keys, depth first. -/
def directives : List (String × Json) → List (String × Directive)
  | [] => []
  | (key, value) :: rest => directivesAt key value ++ directives rest

end

/-- A leaf passes its check iff its directive was read and its best match, if there is one, has a
language. -/
theorem checkLeaf_eq_ok_iff {language? : Option String} {key : String}
    {reading : Except Directive.Error Directive} {leaf : Leaf} :
    (checkLeaf language? key reading).outcome = .ok leaf ↔ reading = .ok leaf.directive ∧
      bestLanguage language? key leaf.directive.options.bestLanguage? = .ok leaf.bestLanguage? := by
  constructor
  · intro h
    obtain ⟨directive, hreading, h⟩ := Traced.bind_eq_ok_iff.1 h
    obtain ⟨-, -, h⟩ := Traced.bind_eq_ok_iff.1 h
    obtain ⟨best?, hbest, h⟩ := Traced.bind_eq_ok_iff.1 h
    obtain rfl := Except.ok.inj h
    exact ⟨Except.mapError_eq_ok_iff.1 hreading, hbest⟩
  · rintro ⟨rfl, hbest⟩
    refine Traced.bind_eq_ok_iff.2 ⟨leaf.directive, rfl, ?_⟩
    refine Traced.bind_eq_ok_iff.2 ⟨(), rfl, ?_⟩
    exact Traced.bind_eq_ok_iff.2 ⟨leaf.bestLanguage?, hbest, rfl⟩

theorem eq_ok_of_checkLeaf {language? : Option String} {key : String}
    {reading : Except Directive.Error Directive} {leaf : Leaf}
    (h : (checkLeaf language? key reading).outcome = .ok leaf) :
    reading = .ok leaf.directive :=
  (checkLeaf_eq_ok_iff.1 h).1

mutual

theorem directivesAt_of_settle {language? : Option String} {key : String} {value : Json}
    {shape : Shape Unit Leaf}
    (h : (Shape.settle (checkLeaf language?) key (ofJson value)).outcome = .ok shape) :
    (Shape.leaves key shape).map (fun leaf => (leaf.1, leaf.2.directive)) =
      directivesAt key value := by
  cases value with
  | object entries =>
    rw [ofJson] at h
    obtain ⟨fields, hfields, rfl⟩ := Shape.settle_node_eq_ok_iff.1 h
    rw [Shape.leaves, directivesAt]
    exact directives_of_check hfields
  | string text =>
    rw [ofJson] at h
    rw [directivesAt]
    cases hparse : Directive.parse text with
    | ok directive? =>
      cases directive? with
      | none =>
        rw [hparse] at h
        obtain rfl := Except.ok.inj h
        rfl
      | some directive =>
        rw [hparse] at h
        obtain ⟨leaf, hleaf, rfl⟩ := Shape.settle_leaf_eq_ok_iff.1 h
        obtain rfl := Except.ok.inj (eq_ok_of_checkLeaf hleaf)
        rfl
    | error fault =>
      rw [hparse] at h
      obtain ⟨leaf, hleaf, rfl⟩ := Shape.settle_leaf_eq_ok_iff.1 h
      cases eq_ok_of_checkLeaf hleaf
  | _ =>
    obtain rfl := Except.ok.inj h
    rfl

/-- The leaves of a checked prototype are its directives, in the same order. -/
theorem directives_of_check {language? : Option String} {entries : List (String × Json)}
    {fields : Checked} (h : (check language? (ofEntries entries)).outcome = .ok fields) :
    (Shape.leavesOf fields).map (fun leaf => (leaf.1, leaf.2.directive)) = directives entries := by
  cases entries with
  | nil =>
    obtain rfl := Except.ok.inj h
    rfl
  | cons entry rest =>
    obtain ⟨key, value⟩ := entry
    rw [check, ofEntries, Shape.settleFields] at h
    obtain ⟨shape, hshape, h⟩ := Traced.bind_eq_ok_iff.1 h
    obtain ⟨others, hothers, h⟩ := Traced.bind_eq_ok_iff.1 h
    obtain rfl := Except.ok.inj h
    rw [Shape.leavesOf, List.map_append, directives, directivesAt_of_settle hshape,
      directives_of_check hothers]

end

end Prototype

namespace Plan

/-- A leaf of a prototype and where it stands. -/
structure Site where
  key : String
  leaf : Leaf
  /-- The node that the leaf belongs to. -/
  node : Node
  /-- The fields of the nested nodes around the leaf, the outermost first. -/
  enclosing : List Prototype.Checked

mutual

/-- The sites of the field `key` at `index`. -/
def sitesAt (m : Modifiers) (scope : Scope) (node : Node) (enclosing : List Prototype.Checked)
    (index : Nat) (key : String) : Shape Unit Prototype.Leaf → List Site
  | .constant _ => []
  | .leaf content => [⟨key, leafOf m scope node index key content, node, enclosing⟩]
  | .node _ fields =>
    let inner := scope.inner index node.root
    sitesOf m inner (nodeOf inner fields) (enclosing ++ [fields]) 0 fields

/-- The sites of fields, the first of which is at `index`. -/
def sitesOf (m : Modifiers) (scope : Scope) (node : Node) (enclosing : List Prototype.Checked)
    (index : Nat) : Prototype.Checked → List Site
  | [] => []
  | (key, shape) :: rest =>
    sitesAt m scope node enclosing index key shape ++
      sitesOf m scope node enclosing (index + 1) rest

end

/-- The sites of a prototype, depth first. -/
def sites (m : Modifiers) (fields : Prototype.Checked) : List Site :=
  sitesOf m .outermost (nodeOf .outermost fields) [] 0 fields

variable (m : Modifiers)

mutual

theorem directives_sitesAt (scope : Scope) (node : Node) (enclosing : List Prototype.Checked)
    (index : Nat) (key : String) (shape : Shape Unit Prototype.Leaf) :
    (sitesAt m scope node enclosing index key shape).map
        (fun site => (site.key, site.leaf.directive)) =
      (Shape.leaves key shape).map fun leaf => (leaf.1, leaf.2.directive) := by
  cases shape with
  | constant value => simp [sitesAt, Shape.leaves]
  | leaf content => simp [sitesAt, Shape.leaves, leafOf]
  | node label fields =>
    rw [sitesAt, Shape.leaves]
    exact directives_sitesOf _ _ _ _ _

theorem directives_sitesOf (scope : Scope) (node : Node) (enclosing : List Prototype.Checked)
    (index : Nat) (fields : Prototype.Checked) :
    (sitesOf m scope node enclosing index fields).map
        (fun site => (site.key, site.leaf.directive)) =
      (Shape.leavesOf fields).map fun leaf => (leaf.1, leaf.2.directive) := by
  cases fields with
  | nil => simp [sitesOf, Shape.leavesOf]
  | cons field rest =>
    obtain ⟨key, shape⟩ := field
    rw [sitesOf, Shape.leavesOf, List.map_append, List.map_append, directives_sitesAt,
      directives_sitesOf]

end

/-- A leaf of a node has its site among those of the node. -/
theorem exists_mem_sitesOf (scope : Scope) (node : Node) (enclosing : List Prototype.Checked)
    (index : Nat) {fields : Prototype.Checked} {key : String} {content : Prototype.Leaf}
    (h : (key, .leaf content) ∈ fields) :
    ∃ position, ⟨key, leafOf m scope node position key content, node, enclosing⟩ ∈
      sitesOf m scope node enclosing index fields := by
  induction fields generalizing index with
  | nil => cases h
  | cons field rest ih =>
    rw [sitesOf]
    rcases List.mem_cons.1 h with rfl | h
    · exact ⟨index, List.mem_append_left _ (by simp [sitesAt])⟩
    · obtain ⟨position, hmem⟩ := ih (index + 1) h
      exact ⟨position, List.mem_append_right _ hmem⟩

end Plan

end QueryByExample
