import QueryByExample.Proofs.Query.Site
/-!
# Plans of compiled documents

Checking and planning take nothing away from a prototype. What a plan adds to its leaves and nodes
can be forgotten, which leaves the checked prototype; what the check adds can be forgotten in turn,
which leaves the prototype as it was written, with every directive that it holds.

## Main statements

- `Plan.mapFields_ofFields`: a plan without its additions is the checked prototype.
- `Plan.mapFields_draft`: without those of the check, it is the prototype.
- `Plan.directives_leaves`: the leaves of a plan are the directives of the prototype, depth first.
- `exists_plan_of_compile`: what compiles is a plan.
-/

namespace QueryByExample

namespace Shape

section Forgetting

variable {ν μ ρ α β γ ε : Type}

mutual

theorem map_map (f : ν → μ) (f' : μ → ρ) (g : α → β) (g' : β → γ) (shape : Shape ν α) :
    map f' g' (map f g shape) = map (f' ∘ f) (g' ∘ g) shape := by
  cases shape with
  | constant value => rfl
  | leaf content => rfl
  | node label fields => simp only [map, mapFields_mapFields, Function.comp]

theorem mapFields_mapFields (f : ν → μ) (f' : μ → ρ) (g : α → β) (g' : β → γ)
    (fields : List (String × Shape ν α)) :
    mapFields f' g' (mapFields f g fields) = mapFields (f' ∘ f) (g' ∘ g) fields := by
  cases fields with
  | nil => rfl
  | cons field rest =>
    obtain ⟨name, shape⟩ := field
    simp only [mapFields, map_map, mapFields_mapFields]

end

/-- The contents of leaves before they were settled can be read off the settled ones. -/
def Recovers (f : String → α → Traced ε β) (g : β → α) : Prop :=
  ∀ name content made, (f name content).outcome = .ok made → g made = content

variable {f : String → α → Traced ε β} {g : β → α}

mutual

theorem map_of_settle (hg : Recovers f g) {name : String} {shape : Shape ν α} {settled : Shape ν β}
    (h : (settle f name shape).outcome = .ok settled) : map id g settled = shape := by
  cases shape with
  | constant value =>
    obtain rfl := Except.ok.inj h
    rfl
  | leaf content =>
    obtain ⟨made, hmade, rfl⟩ := settle_leaf_eq_ok_iff.1 h
    rw [map, hg name content made hmade]
  | node label fields =>
    obtain ⟨made, hmade, rfl⟩ := settle_node_eq_ok_iff.1 h
    rw [map, mapFields_of_settleFields hg hmade, id]

/-- Settling keeps the shape of fields and all that their leaves said. -/
theorem mapFields_of_settleFields (hg : Recovers f g) {fields : List (String × Shape ν α)}
    {settled : List (String × Shape ν β)} (h : (settleFields f fields).outcome = .ok settled) :
    mapFields id g settled = fields := by
  cases fields with
  | nil =>
    obtain rfl := Except.ok.inj h
    rfl
  | cons field rest =>
    obtain ⟨name, shape⟩ := field
    rw [settleFields] at h
    obtain ⟨made, hmade, h⟩ := Traced.bind_eq_ok_iff.1 h
    obtain ⟨others, hothers, h⟩ := Traced.bind_eq_ok_iff.1 h
    obtain rfl := Except.ok.inj h
    rw [mapFields, map_of_settle hg hmade, mapFields_of_settleFields hg hothers]

end

variable {P : String → β → Prop}

mutual

theorem forall_leaves_of_settle
    (hP : ∀ name content made, (f name content).outcome = .ok made → P name made) {name : String}
    {shape : Shape ν α} {settled : Shape ν β} (h : (settle f name shape).outcome = .ok settled) :
    ∀ leaf ∈ leaves name settled, P leaf.1 leaf.2 := by
  cases shape with
  | constant value =>
    obtain rfl := Except.ok.inj h
    simp [leaves]
  | leaf content =>
    obtain ⟨made, hmade, rfl⟩ := settle_leaf_eq_ok_iff.1 h
    simpa [leaves] using hP name content made hmade
  | node label fields =>
    obtain ⟨made, hmade, rfl⟩ := settle_node_eq_ok_iff.1 h
    rw [leaves]
    exact forall_leaves_of_settleFields hP hmade

/-- What settling establishes for every leaf holds of all settled leaves. -/
theorem forall_leaves_of_settleFields
    (hP : ∀ name content made, (f name content).outcome = .ok made → P name made)
    {fields : List (String × Shape ν α)} {settled : List (String × Shape ν β)}
    (h : (settleFields f fields).outcome = .ok settled) :
    ∀ leaf ∈ leavesOf settled, P leaf.1 leaf.2 := by
  cases fields with
  | nil =>
    obtain rfl := Except.ok.inj h
    simp [leavesOf]
  | cons field rest =>
    obtain ⟨name, shape⟩ := field
    rw [settleFields] at h
    obtain ⟨made, hmade, h⟩ := Traced.bind_eq_ok_iff.1 h
    obtain ⟨others, hothers, h⟩ := Traced.bind_eq_ok_iff.1 h
    obtain rfl := Except.ok.inj h
    rw [leavesOf, List.forall_mem_append]
    exact ⟨forall_leaves_of_settle hP hmade, forall_leaves_of_settleFields hP hothers⟩

end

end Forgetting

end Shape

namespace Plan

/-- The leaf of the checked prototype that a leaf was planned from. -/
def Leaf.checked (leaf : Leaf) : Prototype.Leaf := ⟨leaf.directive, leaf.bestLanguage?⟩

variable (m : Modifiers)

mutual

theorem map_fieldOf (scope : Scope) (node : Node) (index : Nat) (key : String)
    (shape : Shape Unit Prototype.Leaf) :
    Shape.map (fun _ => ()) Leaf.checked (fieldOf m scope node index key shape) = shape := by
  cases shape with
  | constant value => rfl
  | leaf content => rfl
  | node label fields => rw [fieldOf, Shape.map, mapFields_fieldsOf]

theorem mapFields_fieldsOf (scope : Scope) (node : Node) (index : Nat)
    (fields : Prototype.Checked) :
    Shape.mapFields (fun _ => ()) Leaf.checked (fieldsOf m scope node index fields) = fields := by
  cases fields with
  | nil => rfl
  | cons field rest =>
    obtain ⟨key, shape⟩ := field
    rw [fieldsOf, Shape.mapFields, map_fieldOf, mapFields_fieldsOf]

end

/-- A plan without what it adds is the checked prototype. -/
theorem mapFields_ofFields (fields : Prototype.Checked) :
    Shape.mapFields (fun _ => ()) Leaf.checked (ofFields m fields).fields = fields :=
  mapFields_fieldsOf m .outermost _ 0 fields

/-- The leaves of a plan are those of the checked prototype, in the same order. -/
theorem checked_leaves (fields : Prototype.Checked) :
    (ofFields m fields).leaves.map (fun leaf => (leaf.1, leaf.2.checked)) =
      Shape.leavesOf fields := by
  rw [leaves, ← Shape.leavesOf_mapFields (fun _ => ()), mapFields_ofFields]

variable {m} {document : Json} {node : List (String × Json)} {fields : Prototype.Checked}

/-- A plan of a document is its prototype, key by key and with every constant, once the places of
its directives in the query are forgotten. -/
theorem mapFields_draft (h : Prototype.Reads document m node fields) :
    Shape.mapFields (fun _ => ()) (fun leaf => Except.ok leaf.directive) (ofFields m fields).fields =
      Prototype.ofEntries node := by
  obtain ⟨entries, form, -, -, -, hcheck⟩ := h
  have hreading : Shape.Recovers (Prototype.checkLeaf m.language?)
      (fun leaf => Except.ok leaf.directive) := by
    intro key reading leaf hleaf
    exact (Prototype.eq_ok_of_checkLeaf hleaf).symm
  calc Shape.mapFields (fun _ => ()) (fun leaf => Except.ok leaf.directive) (ofFields m fields).fields
      = Shape.mapFields id (fun leaf => Except.ok leaf.directive)
          (Shape.mapFields (fun _ => ()) Leaf.checked (ofFields m fields).fields) := by
        rw [Shape.mapFields_mapFields]
        rfl
    _ = Shape.mapFields id (fun leaf => Except.ok leaf.directive) fields := by
        rw [mapFields_ofFields]
    _ = Prototype.ofEntries node := Shape.mapFields_of_settleFields hreading hcheck

/-- The leaves of a plan are the directives of the prototype, depth first. -/
theorem directives_leaves (h : Prototype.Reads document m node fields) :
    (ofFields m fields).leaves.map (fun leaf => (leaf.1, leaf.2.directive)) =
      Prototype.directives node := by
  obtain ⟨entries, form, -, -, -, hcheck⟩ := h
  rw [← Prototype.directives_of_check hcheck, ← checked_leaves m fields, List.map_map]
  rfl

end Plan

/-- A document that compiles says something, and its compiled form is that of its plan. -/
theorem exists_plan_of_compile {document : Json} {compiled : CompiledQuery}
    (h : (compile document).outcome = .ok compiled) :
    ∃ node fields, Prototype.Reads document compiled.query.modifiers node fields ∧
      compiled = (Plan.ofFields compiled.query.modifiers fields).compiled
        compiled.query.modifiers compiled.form := by
  obtain ⟨node, fields, form, hreads, hcompiled⟩ := exists_reads_of_compile h
  have hform : compiled.form = form := by
    rw [hcompiled]
    rfl
  exact ⟨node, fields, hreads, hform ▸ hcompiled⟩

end QueryByExample
