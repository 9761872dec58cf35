import QueryByExample.Proofs.Plan
import QueryByExample.Proofs.Query.Pattern
import QueryByExample.Proofs.Template
/-!
# Made-up names

A leaf whose directive fixes no variable gets a name that is made up from the positions of the
fields on the way to it. Two such leaves never share a name: where their ways part, either the
positions differ, or one of them is the anchor of the node and the other is not.

Nothing keeps an author from declaring a variable that is spelled like a made-up name. Such a
variable is then shared with an unrelated leaf; a variable of any other spelling never is.

## Main definitions

- `Plan.Spelling`: what follows the stem of a made-up name.
- `Plan.Scope.Spells`: the names made up below a field.
- `Plan.IsSpelled`: the names that may be made up.

## Main statements

- `Plan.pairwise_leaves`: leaves without a variable of their own have different names.
- `pairwise_name_ne_of_compile`: so have those of a document that compiles.
- `declared_ne_of_not_isSpelled`: they differ from declared variables that are spelled otherwise.
-/

namespace QueryByExample

namespace Prototype

/-- The prototype that a well-formed document holds is regular once it was checked. -/
theorem regular_of_reads {document : Json} {m : Modifiers} {node : List (String × Json)}
    {fields : Checked} (hdocument : document.WellFormed) (h : Reads document m node fields) :
    (Shape.node () fields).Regular := by
  obtain ⟨entries, form, rfl, -, hlocate, hcheck⟩ := h
  cases hdocument with
  | object _ hentries =>
    have hnode : (Json.object node).WellFormed := by
      apply wellFormed_of_locate hlocate
      intro key value hmem
      exact hentries key value (List.mem_of_mem_filter hmem)
    exact regular_of_check hnode hcheck

end Prototype

namespace Plan

/-! ### Spelling -/

/-- What follows the stem of a made-up name: the letter of a root or the position of a field, behind
the positions of the nested nodes on the way to it. -/
inductive Spelling : List Char → Prop where
  | root : Spelling ['r']
  | field (index : Nat) : Spelling (Nat.toDigits 10 index)
  | nested (index : Nat) {rest : List Char} (h : Spelling rest) :
    Spelling (Nat.toDigits 10 index ++ '_' :: rest)

/-- A name that is made up below the field `key` at `index`. Unless it is that of the root, its
leading digits after the stem are the position of the field. -/
def Scope.Spells (scope : Scope) (anchor? : Option String) (index : Nat) (key name : String) :
    Prop :=
  ∃ rest, Spelling rest ∧ name.toList = '?' :: (scope.stem.toList ++ rest) ∧
    ((anchor? = some key ∧ rest = ['r']) ∨
      rest.takeWhile Char.isDigit = Nat.toDigits 10 index)

theorem takeWhile_isDigit_toDigits (index : Nat) {rest : List Char}
    (h : rest.takeWhile Char.isDigit = []) :
    (Nat.toDigits 10 index ++ rest).takeWhile Char.isDigit = Nat.toDigits 10 index := by
  have hdigits : ∀ c ∈ Nat.toDigits 10 index, c.isDigit = true := by
    intro c hc
    exact Nat.isDigit_of_mem_toDigits (by omega) (by omega) hc
  rw [List.takeWhile_append_of_pos hdigits, h, List.append_nil]

theorem toDigits_injective {i j : Nat} (h : Nat.toDigits 10 i = Nat.toDigits 10 j) : i = j := by
  rw [← Nat.ofDigitChars_ten_toDigits (n := i), h, Nat.ofDigitChars_ten_toDigits]

namespace Scope

variable {scope : Scope} {anchor? inner? : Option String} {i j : Nat} {key other name root : String}

theorem spells_fieldName (scope : Scope) (anchor? : Option String) (index : Nat) (key : String) :
    scope.Spells anchor? index key (scope.fieldName index) := by
  refine ⟨Nat.toDigits 10 index, .field index, ?_, Or.inr ?_⟩
  · simp [fieldName]
  · have hnil : ([] : List Char).takeWhile Char.isDigit = [] := rfl
    simpa using takeWhile_isDigit_toDigits index hnil

theorem spells_rootName (scope : Scope) (index : Nat) (h : anchor? = some key) :
    scope.Spells anchor? index key scope.rootName :=
  ⟨['r'], .root, by simp [rootName], Or.inl ⟨h, rfl⟩⟩

/-- A name that is made up in a nested node starts with the position of the node. -/
theorem Spells.of_inner (h : (scope.inner i root).Spells inner? j other name) :
    scope.Spells anchor? i key name := by
  obtain ⟨rest, hrest, hname, -⟩ := h
  refine ⟨Nat.toDigits 10 i ++ '_' :: rest, .nested i hrest, ?_, Or.inr ?_⟩
  · rw [hname]
    simp [inner]
  · exact takeWhile_isDigit_toDigits i rfl

/-- Names that are made up below different fields of a node differ. -/
theorem Spells.ne {a b : String} (ha : scope.Spells anchor? i key a)
    (hb : scope.Spells anchor? j other b) (hindex : i ≠ j) (hkey : key ≠ other) : a ≠ b := by
  rintro rfl
  obtain ⟨rest, -, hrest, ha⟩ := ha
  obtain ⟨rest', -, hrest', hb⟩ := hb
  obtain rfl : rest = rest' := by simpa [hrest] using hrest'
  have hroot : (['r'] : List Char).takeWhile Char.isDigit = [] := rfl
  rcases ha with ⟨hanchor, rfl⟩ | ha
  · rcases hb with ⟨hanchor', -⟩ | hb
    · exact hkey (Option.some.inj (hanchor.symm.trans hanchor'))
    · exact Nat.toDigits_ne_nil (hb.symm.trans hroot)
  · rcases hb with ⟨-, rfl⟩ | hb
    · exact Nat.toDigits_ne_nil (ha.symm.trans hroot)
    · exact hindex (toDigits_injective (ha.symm.trans hb))

end Scope

/-! ### Leaves -/

/-- The directive of the leaf fixes no variable. -/
def Leaf.IsUnnamed (leaf : Leaf) : Prop := leaf.directive.declaredVariable? = none

/-- Two leaves have different names unless a directive fixed one of them. -/
def Apart (a b : String × Leaf) : Prop :=
  a.2.IsUnnamed → b.2.IsUnnamed → a.2.name ≠ b.2.name

variable {m : Modifiers} {scope : Scope}

/-- The name of an unnamed leaf is made up from its position, or from that of its node if it is the
anchor. -/
theorem spells_leafOf {siblings : Prototype.Checked} (distinct : Fields.Distinct siblings)
    {index : Nat} {key : String} {content : Prototype.Leaf} (hmem : (key, .leaf content) ∈ siblings)
    (hunnamed : content.directive.declaredVariable? = none) :
    scope.Spells (nodeOf scope siblings).anchor? index key
      (leafOf m scope (nodeOf scope siblings) index key content).name := by
  by_cases hanchor : (nodeOf scope siblings).anchor? = some key
  · -- keys do not repeat, so the directive that anchors the node is that of this leaf
    have hroot : (nodeOf scope siblings).root = scope.rootName := by
      simp [nodeOf, anchorOf?_of_mem distinct hanchor hmem, hunnamed]
    have hname : (leafOf m scope (nodeOf scope siblings) index key content).name =
        scope.rootName := by simp [leafOf, hunnamed, hanchor, hroot]
    rw [hname]
    exact scope.spells_rootName index hanchor
  · have hname : (leafOf m scope (nodeOf scope siblings) index key content).name =
        scope.fieldName index := by simp [leafOf, hunnamed, hanchor]
    rw [hname]
    exact scope.spells_fieldName _ index key

/-- A leaf of planned fields is a leaf of one of them, at its position. -/
theorem exists_of_mem_leavesOf {node : Node} {index : Nat} {fields : Prototype.Checked}
    {leaf : String × Leaf} (h : leaf ∈ Shape.leavesOf (fieldsOf m scope node index fields)) :
    ∃ position key shape, index ≤ position ∧ (key, shape) ∈ fields ∧
      leaf ∈ Shape.leaves key (fieldOf m scope node position key shape) := by
  induction fields generalizing index with
  | nil => cases h
  | cons field rest ih =>
    obtain ⟨key, shape⟩ := field
    rw [fieldsOf, Shape.leavesOf, List.mem_append] at h
    rcases h with h | h
    · exact ⟨index, key, shape, Nat.le_refl _, List.mem_cons_self, h⟩
    · obtain ⟨position, key', shape', hle, hmem, hleaf⟩ := ih h
      exact ⟨position, key', shape', by omega, List.mem_cons_of_mem _ hmem, hleaf⟩

/-- Unnamed leaves below a field have names that are made up below it. -/
theorem spells_of_mem_leaves {siblings : Prototype.Checked} (distinct : Fields.Distinct siblings)
    {index : Nat} {key : String} {shape : Shape Unit Prototype.Leaf} (hshape : shape.Regular)
    (hmem : (key, shape) ∈ siblings) {leaf : String × Leaf}
    (h : leaf ∈ Shape.leaves key (fieldOf m scope (nodeOf scope siblings) index key shape))
    (hunnamed : leaf.2.IsUnnamed) :
    scope.Spells (nodeOf scope siblings).anchor? index key leaf.2.name := by
  induction hshape generalizing scope siblings index key with
  | constant => cases h
  | leaf =>
    obtain rfl := List.mem_singleton.1 h
    exact spells_leafOf distinct hmem hunnamed
  | node hdistinct _ ih =>
    rw [fieldOf, Shape.leaves] at h
    obtain ⟨position, key', shape', -, hmem', hleaf⟩ := exists_of_mem_leavesOf h
    exact (ih key' shape' hmem' hdistinct hmem' hleaf).of_inner

/-- The unnamed leaves of fields of one node have different names if those of every single field
have. -/
theorem pairwise_fieldsOf {siblings : Prototype.Checked} (distinct : Fields.Distinct siblings)
    (hregular : ∀ key shape, (key, shape) ∈ siblings → shape.Regular)
    (hfields : ∀ key shape, (key, shape) ∈ siblings → ∀ position,
      (Shape.leaves key (fieldOf m scope (nodeOf scope siblings) position key shape)).Pairwise
        Apart)
    {fields : Prototype.Checked} (hsub : fields.Sublist siblings) (index : Nat) :
    (Shape.leavesOf (fieldsOf m scope (nodeOf scope siblings) index fields)).Pairwise Apart := by
  induction fields generalizing index with
  | nil => exact .nil
  | cons field rest ih =>
    obtain ⟨key, shape⟩ := field
    have hmem : (key, shape) ∈ siblings := hsub.subset List.mem_cons_self
    have hrest : rest.Sublist siblings := (List.sublist_cons_self _ _).trans hsub
    have hkey : key ∉ Fields.names rest :=
      (Fields.distinct_cons.1 ((hsub.map Prod.fst).nodup distinct)).1
    rw [fieldsOf, Shape.leavesOf, List.pairwise_append]
    refine ⟨hfields key shape hmem index, ih hrest (index + 1), ?_⟩
    intro a ha b hb haun hbun
    obtain ⟨position, key', shape', hle, hmem', hb⟩ := exists_of_mem_leavesOf hb
    have hne : key ≠ key' := by
      rintro rfl
      exact hkey (List.mem_map_of_mem hmem')
    have hspells := spells_of_mem_leaves distinct (hregular _ _ hmem) hmem ha haun
    have hspells' := spells_of_mem_leaves distinct (hregular _ _ (hrest.subset hmem'))
      (hrest.subset hmem') hb hbun
    exact hspells.ne hspells' (by omega) hne

/-- The unnamed leaves below a field have different names. -/
theorem pairwise_leaves {shape : Shape Unit Prototype.Leaf} (h : shape.Regular) (node : Node)
    (index : Nat) (key : String) :
    (Shape.leaves key (fieldOf m scope node index key shape)).Pairwise Apart := by
  induction h generalizing scope node index key with
  | constant => exact .nil
  | leaf => exact List.pairwise_singleton _ _
  | node distinct hregular ih =>
    rw [fieldOf, Shape.leaves]
    exact pairwise_fieldsOf distinct hregular
      (fun key' shape' hmem position => ih key' shape' hmem _ position key') (List.Sublist.refl _) 0

variable {fields : Prototype.Checked}

theorem pairwise_ofFields (h : (Shape.node () fields).Regular) :
    (ofFields m fields).leaves.Pairwise Apart := by
  cases h with
  | node distinct hregular =>
    exact pairwise_fieldsOf distinct hregular
      (fun key shape hmem position => pairwise_leaves (hregular key shape hmem) _ position key)
      (List.Sublist.refl _) 0

/-- A name that may be made up: positions after the stem of the outermost node. -/
def IsSpelled (name : String) : Prop := ∃ rest, Spelling rest ∧ name.toList = '?' :: 'v' :: rest

theorem isSpelled_of_mem_leaves (h : (Shape.node () fields).Regular) {leaf : String × Leaf}
    (hleaf : leaf ∈ (ofFields m fields).leaves) (hunnamed : leaf.2.IsUnnamed) :
    IsSpelled leaf.2.name := by
  cases h with
  | node distinct hregular =>
    obtain ⟨position, key, shape, -, hmem, hleaf⟩ := exists_of_mem_leavesOf hleaf
    obtain ⟨rest, hrest, hname, -⟩ :=
      spells_of_mem_leaves distinct (hregular key shape hmem) hmem hleaf hunnamed
    exact ⟨rest, hrest, hname⟩

end Plan

/-- Made-up names are unique: in a document that compiles, two leaves whose directives fix no
variable have different names, and none of them is that of the default root. -/
theorem pairwise_name_ne_of_compile {document : Json} (hdocument : document.WellFormed)
    {compiled : CompiledQuery} (h : (compile document).outcome = .ok compiled) :
    ∃ node fields, Prototype.Reads document compiled.query.modifiers node fields ∧
      let plan := Plan.ofFields compiled.query.modifiers fields
      compiled = plan.compiled compiled.query.modifiers compiled.form ∧
      plan.leaves.map (fun leaf => (leaf.1, leaf.2.directive)) = Prototype.directives node ∧
      plan.leaves.Pairwise (fun a b => a.2.directive.declaredVariable? = none →
        b.2.directive.declaredVariable? = none → a.2.name ≠ b.2.name) ∧
      ∀ leaf ∈ plan.leaves, leaf.2.directive.declaredVariable? = none → leaf.2.name ≠ "?id" := by
  obtain ⟨node, fields, hreads, hcompiled⟩ := exists_plan_of_compile h
  have hregular := Prototype.regular_of_reads hdocument hreads
  refine ⟨node, fields, hreads, hcompiled, Plan.directives_leaves hreads,
    Plan.pairwise_ofFields hregular, ?_⟩
  intro leaf hleaf hunnamed hid
  obtain ⟨rest, -, hname⟩ := Plan.isSpelled_of_mem_leaves hregular hleaf hunnamed
  rw [hid] at hname
  exact absurd hname (by simp)

namespace Cities

theorem wellFormed_document : document.WellFormed := by
  simp [document, entries, Json.wellFormed_object_iff, Json.WellFormed.string, Fields.Distinct,
    Fields.names]

end Cities

-- the anchor of the country, its name and the name of the city are made up
example : (Plan.ofFields {} Cities.checked).leaves.map (·.2.name) =
    ["?city", "?v1", "?v2_r", "?v2_1"] := by decide

theorem pairwise_name_ne_of_compile_cities :
    (Cities.document.WellFormed ∧ (compile Cities.document).outcome = .ok Cities.compiled) ∧
    ∃ node fields,
      Prototype.Reads Cities.document Cities.compiled.query.modifiers node fields ∧
      let plan := Plan.ofFields Cities.compiled.query.modifiers fields
      Cities.compiled = plan.compiled Cities.compiled.query.modifiers Cities.compiled.form ∧
      plan.leaves.map (fun leaf => (leaf.1, leaf.2.directive)) = Prototype.directives node ∧
      plan.leaves.Pairwise (fun a b => a.2.directive.declaredVariable? = none →
        b.2.directive.declaredVariable? = none → a.2.name ≠ b.2.name) ∧
      ∀ leaf ∈ plan.leaves, leaf.2.directive.declaredVariable? = none → leaf.2.name ≠ "?id" :=
  ⟨⟨Cities.wellFormed_document, Cities.outcome_document⟩,
    pairwise_name_ne_of_compile Cities.wellFormed_document Cities.outcome_document⟩

/-! ### Declared variables

The names that authors choose are not looked at when names are made up. -/

/-- A made-up name differs from every declared variable that is not itself spelled like one. -/
theorem declared_ne_of_not_isSpelled {document : Json} (hdocument : document.WellFormed)
    {compiled : CompiledQuery} (h : (compile document).outcome = .ok compiled) :
    ∃ node fields, Prototype.Reads document compiled.query.modifiers node fields ∧
      let plan := Plan.ofFields compiled.query.modifiers fields
      compiled = plan.compiled compiled.query.modifiers compiled.form ∧
      plan.leaves.map (fun leaf => (leaf.1, leaf.2.directive)) = Prototype.directives node ∧
      ∀ a ∈ plan.leaves, ∀ b ∈ plan.leaves, ∀ name, a.2.directive.declaredVariable? = none →
        b.2.directive.declaredVariable? = some name → ¬ Plan.IsSpelled name →
          a.2.name ≠ name := by
  obtain ⟨node, fields, hreads, hcompiled⟩ := exists_plan_of_compile h
  have hregular := Prototype.regular_of_reads hdocument hreads
  refine ⟨node, fields, hreads, hcompiled, Plan.directives_leaves hreads, ?_⟩
  intro a ha b _ name hunnamed _ hname heq
  apply hname
  rw [← heq]
  exact Plan.isSpelled_of_mem_leaves hregular ha hunnamed

theorem declared_ne_of_not_isSpelled_cities :
    (Cities.document.WellFormed ∧ (compile Cities.document).outcome = .ok Cities.compiled) ∧
    ∃ node fields,
      Prototype.Reads Cities.document Cities.compiled.query.modifiers node fields ∧
      let plan := Plan.ofFields Cities.compiled.query.modifiers fields
      Cities.compiled = plan.compiled Cities.compiled.query.modifiers Cities.compiled.form ∧
      plan.leaves.map (fun leaf => (leaf.1, leaf.2.directive)) = Prototype.directives node ∧
      ∀ a ∈ plan.leaves, ∀ b ∈ plan.leaves, ∀ name, a.2.directive.declaredVariable? = none →
        b.2.directive.declaredVariable? = some name → ¬ Plan.IsSpelled name →
          a.2.name ≠ name :=
  ⟨⟨Cities.wellFormed_document, Cities.outcome_document⟩,
    declared_ne_of_not_isSpelled Cities.wellFormed_document Cities.outcome_document⟩

/-! ### A variable that is captured

Rivers whose source is to be read from the variable `?v1`, which is also the name made up for the
second field. -/

namespace Rivers

/-- The prototype of a river. -/
def entries : List (String × Json) :=
  [("id", .string "?river"), ("mouth", .string "$dbo:mouth"), ("source", .string "?v1")]

/-- The document. -/
def document : Json := .object [("proto", .object entries)]

/-- The prototype as it was checked. -/
def checked : Prototype.Checked :=
  [("id", .leaf ⟨⟨.variable "?river", {}⟩, none⟩), ("mouth", Cities.leaf "dbo:mouth" {}),
    ("source", .leaf ⟨⟨.variable "?v1", {}⟩, none⟩)]

/-- The compiled form of the document. -/
def compiled : CompiledQuery := (Plan.ofFields {} checked).compiled {} .plain

theorem outcome_check :
    (Prototype.check none (Prototype.ofEntries entries)).outcome = .ok checked := rfl

theorem reads_document : Prototype.Reads document {} entries checked :=
  ⟨_, .plain, rfl, rfl, rfl, outcome_check⟩

theorem outcome_document : (compile document).outcome = .ok compiled :=
  compile_eq_ok_iff.2 ⟨_, {}, .plain, entries, checked, rfl, rfl, rfl, outcome_check, rfl⟩

end Rivers

/-- Made-up names need not differ from declared variables: the mouth of a river and its source share
a column, although only the source declares it. -/
theorem declared_eq_madeUp_rivers :
    Rivers.document.WellFormed ∧ (compile Rivers.document).outcome = .ok Rivers.compiled ∧
      Prototype.Reads Rivers.document {} Rivers.entries Rivers.checked ∧
      Rivers.compiled.template.columns = ["river", "v1", "v1"] ∧
      ¬ ∀ a ∈ (Plan.ofFields {} Rivers.checked).leaves,
        ∀ b ∈ (Plan.ofFields {} Rivers.checked).leaves,
        a.2.directive.declaredVariable? = none →
          b.2.directive.declaredVariable? ≠ some a.2.name := by
  refine ⟨?_, Rivers.outcome_document, Rivers.reads_document, rfl, by decide⟩
  simp [Rivers.document, Rivers.entries, Json.wellFormed_object_iff, Json.WellFormed.string,
    Fields.Distinct, Fields.names]

end QueryByExample
