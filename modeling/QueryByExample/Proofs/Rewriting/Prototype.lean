import Mathlib.Data.List.Nodup
import QueryByExample.Proofs.Query.Site
import QueryByExample.Proofs.Template
/-!
# Rewriting prototypes

The keys of a prototype name the fields of the answer, and its constants are repeated there. A
rewriting gives other keys and other constants to its places. Since no key is repeated in a node, a
place is given by the keys that lead to it; they are listed from the inside out, as the recursion
meets them.

## Main definitions

- `Rewriting`: new keys and constants for the places of a prototype.
- `Rewriting.document`, `Rewriting.template`: a rewritten document and a rewritten template.
- `Rewriting.Admits`: the rewritings of a prototype.

## Main statements

- `Rewriting.ofEntries_entries`: reading a prototype commutes with rewriting.
- `Rewriting.check_shapes`: so does checking it.
-/

namespace QueryByExample

/-- New keys and constants for the places of a prototype. A place is given by the way to its node and
its old key. -/
structure Rewriting where
  key : List String → String → String
  constant : List String → String → Json → Json

/-- Is a value of a prototype repeated in the answer? All values are but objects, which are nodes, and
the texts that start like directives. -/
def Json.isLiteral : Json → Bool
  | .object _ => false
  | .string text => text.toList.head? != some '$' && text.toList.head? != some '?'
  | _ => true

namespace Rewriting

variable (ρ : Rewriting) {ν μ α β : Type}

/-! ### Rewriting documents and templates -/

mutual

/-- A rewritten value. -/
def json (path : List String) (key : String) : Json → Json
  | .object node => .object (entries (key :: path) node)
  | value => if value.isLiteral then ρ.constant path key value else value

/-- The rewritten entries of a node. -/
def entries (path : List String) : List (String × Json) → List (String × Json)
  | [] => []
  | (key, value) :: rest => (ρ.key path key, json path key value) :: entries path rest

end

/-- The rewritten value of the key that holds a prototype. -/
def prototype : Json → Json
  | .object node => .object (ρ.entries [] node)
  | .array (.object node :: others) => .array (.object (ρ.entries [] node) :: others)
  | value => value

/-- The key that holds the prototype of a document. -/
def place (entries : List (String × Json)) : String :=
  if (Fields.find? "@graph" entries).isSome then "@graph" else "proto"

/-- A document with its prototype rewritten. -/
def document (entries : List (String × Json)) : List (String × Json) :=
  entries.map fun entry =>
    (entry.1, if entry.1 = place entries then ρ.prototype entry.2 else entry.2)

section Shapes

variable (relabel : List String → ν → ν)

mutual

/-- A rewritten field. The labels of nodes are changed in the way that `relabel` says. -/
def shape (path : List String) (key : String) : Shape ν α → Shape ν α
  | .constant value => .constant (ρ.constant path key value)
  | .leaf content => .leaf content
  | .node label fields => .node (relabel (key :: path) label) (shapes (key :: path) fields)

/-- The rewritten fields of a node. -/
def shapes (path : List String) : List (String × Shape ν α) → List (String × Shape ν α)
  | [] => []
  | (key, field) :: rest => (ρ.key path key, shape path key field) :: shapes path rest

end

end Shapes

/-- The label of a node of a template, with its field renamed. -/
def label (path : List String) (label : Template.Label) : Template.Label :=
  { label with anchor? := label.anchor?.map (ρ.key path) }

/-- A node of a plan, with its field renamed. -/
def node (path : List String) (node : Plan.Node) : Plan.Node :=
  { node with anchor? := node.anchor?.map (ρ.key path) }

/-- A rewritten template. The keys that identify objects are renamed with the fields. -/
def template (t : Template) : Template :=
  ⟨ρ.label [] t.label, ρ.shapes ρ.label [] t.fields⟩

/-! ### Rewritings that are admitted -/

/-- A name without influence: it identifies no node, and the inline values do not bind it. -/
structure IsFree (m : Modifiers) (name : String) : Prop where
  not_identity : name ∉ Plan.identityKeys
  not_bound : m.binds name = false

/-- The fields of a node are renamed to different names. Only free names are given up, and only for
free ones. -/
structure AdmitsKeys (m : Modifiers) (path names : List String) : Prop where
  distinct : (names.map (ρ.key path)).Nodup
  free : ∀ name ∈ names,
    ρ.key path name = name ∨ IsFree m name ∧ IsFree m (ρ.key path name)

/-- The rewritings of a prototype: in all of its nodes keys are renamed as above, and literals are
replaced by literals. -/
inductive Admits (m : Modifiers) : List String → List (String × Json) → Prop where
  | node {path : List String} {node : List (String × Json)}
      (keys : ρ.AdmitsKeys m path (Fields.names node))
      (literals : ∀ key value, (key, value) ∈ node → value.isLiteral = true →
        (ρ.constant path key value).isLiteral = true)
      (nodes : ∀ key inner, (key, .object inner) ∈ node → Admits m (key :: path) inner) :
      Admits m path node

variable {ρ} {m : Modifiers}

namespace AdmitsKeys

variable {path names : List String} {name : String}

theorem key_eq_of_identity (h : ρ.AdmitsKeys m path names) (hname : name ∈ names)
    (hidentity : name ∈ Plan.identityKeys) : ρ.key path name = name := by
  rcases h.free name hname with heq | ⟨hfree, -⟩
  · exact heq
  · exact absurd hidentity hfree.not_identity

theorem eq_of_key_eq_identity (h : ρ.AdmitsKeys m path names) (hname : name ∈ names)
    (hidentity : ρ.key path name ∈ Plan.identityKeys) : ρ.key path name = name := by
  rcases h.free name hname with heq | ⟨-, hfree⟩
  · exact heq
  · exact absurd hidentity hfree.not_identity

theorem contains_identityKeys (h : ρ.AdmitsKeys m path names) (hname : name ∈ names) :
    Plan.identityKeys.contains (ρ.key path name) = Plan.identityKeys.contains name := by
  rcases h.free name hname with heq | ⟨hold, hnew⟩
  · rw [heq]
  · have hold := hold.not_identity
    have hnew := hnew.not_identity
    rw [← List.contains_iff_mem, Bool.not_eq_true] at hold hnew
    rw [hold, hnew]

theorem binds (h : ρ.AdmitsKeys m path names) (hname : name ∈ names) :
    m.binds (ρ.key path name) = m.binds name := by
  rcases h.free name hname with heq | ⟨hold, hnew⟩
  · rw [heq]
  · rw [hold.not_bound, hnew.not_bound]

theorem injOn (h : ρ.AdmitsKeys m path names) {other : String} (hname : name ∈ names)
    (hother : other ∈ names) (heq : ρ.key path name = ρ.key path other) : name = other :=
  List.inj_on_of_nodup_map h.distinct hname hother heq

end AdmitsKeys

/-! ### Shapes -/

section Shapes

variable {relabel : List String → ν → ν} {relabel' : List String → μ → μ}

theorem shapes_eq_map (path : List String) (fields : List (String × Shape ν α)) :
    ρ.shapes relabel path fields = fields.map fun field =>
      (ρ.key path field.1, ρ.shape relabel path field.1 field.2) := by
  induction fields with
  | nil => rfl
  | cons field rest ih => rw [shapes, ih, List.map_cons]

mutual

theorem leaves_shape (path : List String) (key : String) (field : Shape ν α) :
    (Shape.leaves (ρ.key path key) (ρ.shape relabel path key field)).map Prod.snd =
      (Shape.leaves key field).map Prod.snd := by
  cases field with
  | constant value => rfl
  | leaf content => rfl
  | node label fields => exact leavesOf_shapes (key :: path) fields

/-- The leaves stay the same. -/
theorem leavesOf_shapes (path : List String) (fields : List (String × Shape ν α)) :
    (Shape.leavesOf (ρ.shapes relabel path fields)).map Prod.snd =
      (Shape.leavesOf fields).map Prod.snd := by
  cases fields with
  | nil => rfl
  | cons field rest =>
    obtain ⟨key, field⟩ := field
    rw [shapes, Shape.leavesOf, Shape.leavesOf, List.map_append, List.map_append,
      leaves_shape path key field, leavesOf_shapes path rest]

end

variable {f : ν → μ} {g : α → β}

mutual

theorem map_shape (hf : ∀ path label, f (relabel path label) = relabel' path (f label))
    (path : List String) (key : String) (field : Shape ν α) :
    Shape.map f g (ρ.shape relabel path key field) =
      ρ.shape relabel' path key (Shape.map f g field) := by
  cases field with
  | constant value => rfl
  | leaf content => rfl
  | node label fields =>
    rw [shape, Shape.map, Shape.map, shape, hf, mapFields_shapes hf (key :: path) fields]

/-- What nodes and leaves carry may be changed before or after a rewriting. -/
theorem mapFields_shapes (hf : ∀ path label, f (relabel path label) = relabel' path (f label))
    (path : List String) (fields : List (String × Shape ν α)) :
    Shape.mapFields f g (ρ.shapes relabel path fields) =
      ρ.shapes relabel' path (Shape.mapFields f g fields) := by
  cases fields with
  | nil => rfl
  | cons field rest =>
    obtain ⟨key, field⟩ := field
    rw [shapes, Shape.mapFields, Shape.mapFields, shapes, map_shape hf path key field,
      mapFields_shapes hf path rest]

end

variable {ε : Type} {settling : String → α → Traced ε β}

mutual

theorem settle_shape (hsettling : ∀ key key' content made,
      (settling key content).outcome = .ok made → (settling key' content).outcome = .ok made)
    (path : List String) (key : String) {field : Shape ν α} {settled : Shape ν β}
    (h : (Shape.settle settling key field).outcome = .ok settled) :
    (Shape.settle settling (ρ.key path key) (ρ.shape relabel path key field)).outcome =
      .ok (ρ.shape relabel path key settled) := by
  cases field with
  | constant value =>
    obtain rfl := Except.ok.inj h
    rfl
  | leaf content =>
    obtain ⟨made, hmade, rfl⟩ := Shape.settle_leaf_eq_ok_iff.1 h
    exact Shape.settle_leaf_eq_ok_iff.2 ⟨made, hsettling _ _ _ _ hmade, rfl⟩
  | node label fields =>
    obtain ⟨made, hmade, rfl⟩ := Shape.settle_node_eq_ok_iff.1 h
    exact Shape.settle_node_eq_ok_iff.2
      ⟨_, settleFields_shapes hsettling (key :: path) hmade, rfl⟩

/-- Leaves that are settled whatever their names are may be settled before or after a rewriting. -/
theorem settleFields_shapes (hsettling : ∀ key key' content made,
      (settling key content).outcome = .ok made → (settling key' content).outcome = .ok made)
    (path : List String) {fields : List (String × Shape ν α)} {settled : List (String × Shape ν β)}
    (h : (Shape.settleFields settling fields).outcome = .ok settled) :
    (Shape.settleFields settling (ρ.shapes relabel path fields)).outcome =
      .ok (ρ.shapes relabel path settled) := by
  cases fields with
  | nil =>
    obtain rfl := Except.ok.inj h
    rfl
  | cons field rest =>
    obtain ⟨key, field⟩ := field
    rw [Shape.settleFields] at h
    obtain ⟨made, hmade, h⟩ := Traced.bind_eq_ok_iff.1 h
    obtain ⟨others, hothers, h⟩ := Traced.bind_eq_ok_iff.1 h
    obtain rfl := Except.ok.inj h
    rw [shapes, Shape.settleFields]
    refine Traced.bind_eq_ok_iff.2 ⟨_, settle_shape hsettling path key hmade, ?_⟩
    exact Traced.bind_eq_ok_iff.2 ⟨_, settleFields_shapes hsettling path hothers, rfl⟩

end

end Shapes

/-! ### Prototypes -/

theorem entries_eq_map (path : List String) (node : List (String × Json)) :
    ρ.entries path node = node.map fun entry =>
      (ρ.key path entry.1, ρ.json path entry.1 entry.2) := by
  induction node with
  | nil => rfl
  | cons entry rest ih => rw [entries, ih, List.map_cons]

theorem bind_ne_ok_none {ε γ δ : Type} {outcome : Except ε γ} {next : γ → Except ε (Option δ)}
    (h : ∀ a, next a ≠ .ok none) : (outcome >>= next) ≠ .ok none := by
  cases outcome with
  | error fault =>
    intro heq
    cases heq
  | ok a => exact h a

/-- The literals among texts are those that are no directives. -/
theorem parse_eq_none_iff {text : String} :
    Directive.parse text = .ok none ↔ (Json.string text).isLiteral = true := by
  rw [Json.isLiteral]
  unfold Directive.parse
  split
  · -- a path: the head decides between an error and a directive
    next rest htext =>
    obtain ⟨head, tokens⟩ := Directive.parts rest
    refine iff_of_false (bind_ne_ok_none fun options => ?_) (by simp [htext])
    by_cases hpath : (Text.trimChars head).isEmpty = true
    · simp [hpath, throw, throwThe, MonadExceptOf.throw, bind, Except.bind]
    · simp [hpath, pure, Except.pure]
  · -- a variable
    next rest htext =>
    obtain ⟨head, tokens⟩ := Directive.parts rest
    refine iff_of_false (bind_ne_ok_none fun options => ?_) (by simp [htext])
    by_cases hname : head.isEmpty = true
    · simp [hname, throw, throwThe, MonadExceptOf.throw, bind, Except.bind]
    · simp [hname, pure, Except.pure]
  · next hpath hvariable =>
    refine iff_of_true rfl ?_
    cases htext : text.toList with
    | nil => rfl
    | cons c rest =>
      have hc : c ≠ '$' ∧ c ≠ '?' :=
        ⟨fun h => hpath rest (h ▸ htext), fun h => hvariable rest (h ▸ htext)⟩
      simp [hc]

theorem ofJson_of_isLiteral {value : Json} (h : value.isLiteral = true) :
    Prototype.ofJson value = .constant value := by
  cases value with
  | object node => cases h
  | string text => rw [Prototype.ofJson, parse_eq_none_iff.2 h]
  | null | bool _ | number _ | array _ => rfl

theorem ofJson_string_of_not_isLiteral {text : String}
    (h : ¬ (Json.string text).isLiteral = true) :
    ∃ reading, Prototype.ofJson (.string text) = .leaf reading := by
  rw [Prototype.ofJson]
  cases hparse : Directive.parse text with
  | error fault => exact ⟨.error fault, rfl⟩
  | ok directive? =>
    cases directive? with
    | some directive => exact ⟨.ok directive, rfl⟩
    | none => exact absurd (parse_eq_none_iff.1 hparse) h

theorem ofJson_json {path : List String} {key : String} {value : Json}
    (literal : value.isLiteral = true → (ρ.constant path key value).isLiteral = true)
    (node : ∀ inner, value = .object inner →
      Prototype.ofEntries (ρ.entries (key :: path) inner) =
        ρ.shapes (fun _ => id) (key :: path) (Prototype.ofEntries inner)) :
    Prototype.ofJson (ρ.json path key value) =
      ρ.shape (fun _ => id) path key (Prototype.ofJson value) := by
  by_cases hliteral : value.isLiteral = true
  · have hjson : ρ.json path key value = ρ.constant path key value := by
      cases value with
      | object inner => cases hliteral
      | _ => rw [json, if_pos hliteral]; exact nofun
    rw [hjson, ofJson_of_isLiteral hliteral, ofJson_of_isLiteral (literal hliteral), shape]
  · cases value with
    | object inner =>
      rw [json, Prototype.ofJson, Prototype.ofJson, shape, node inner rfl, id]
    | string text =>
      obtain ⟨reading, hreading⟩ := ofJson_string_of_not_isLiteral hliteral
      rw [json, if_neg hliteral, hreading, shape]
      exact nofun
    | null | bool _ | number _ | array _ => exact absurd rfl hliteral

/-- Reading a prototype commutes with rewriting. -/
theorem ofEntries_entries {path : List String} {node : List (String × Json)}
    (h : ρ.Admits m path node) :
    Prototype.ofEntries (ρ.entries path node) =
      ρ.shapes (fun _ => id) path (Prototype.ofEntries node) := by
  induction h with
  | @node path node keys literals nodes ih =>
    rw [Prototype.ofEntries_eq_map, Prototype.ofEntries_eq_map, entries_eq_map, shapes_eq_map,
      List.map_map, List.map_map]
    refine List.map_congr_left fun entry hentry => Prod.ext rfl ?_
    obtain ⟨key, value⟩ := entry
    refine ofJson_json (literals key value hentry) ?_
    rintro inner rfl
    exact ih key inner hentry

/-- The fields of all nodes are renamed as they may be. -/
inductive Respects (ρ : Rewriting) (m : Modifiers) :
    List String → List (String × Shape ν α) → Prop where
  | node {path : List String} {fields : List (String × Shape ν α)}
      (keys : ρ.AdmitsKeys m path (Fields.names fields))
      (nodes : ∀ key label inner, (key, .node label inner) ∈ fields →
        Respects ρ m (key :: path) inner) : Respects ρ m path fields

theorem Admits.respects {path : List String} {node : List (String × Json)}
    (h : ρ.Admits m path node) : Respects ρ m path (Prototype.ofEntries node) := by
  induction h with
  | @node path node keys literals nodes ih =>
    rw [Prototype.ofEntries_eq_map]
    refine .node (by simpa [Fields.names, Function.comp_def] using keys) ?_
    intro key label inner hmem
    obtain ⟨⟨_, value⟩, hentry, heq⟩ := List.mem_map.1 hmem
    obtain ⟨rfl, hvalue⟩ := Prod.mk.inj heq
    cases value with
    | object entries =>
      obtain ⟨-, rfl⟩ := Shape.node.inj hvalue
      exact ih _ entries hentry
    | string text =>
      rw [Prototype.ofJson] at hvalue
      split at hvalue <;> cases hvalue
    | null | bool _ | number _ | array _ => cases hvalue

theorem Respects.settled {ε : Type} {settling : String → α → Traced ε β} {path : List String}
    {fields : List (String × Shape ν α)} (h : Respects ρ m path fields)
    {settled : List (String × Shape ν β)}
    (hsettled : (Shape.settleFields settling fields).outcome = .ok settled) :
    Respects ρ m path settled := by
  induction h generalizing settled with
  | node keys nodes ih =>
    refine .node (by rwa [Shape.names_of_settleFields hsettled]) ?_
    intro key label inner hmem
    obtain ⟨source, hsource, hmade⟩ := Shape.exists_of_mem_settleFields hsettled hmem
    cases source with
    | constant value => cases hmade
    | leaf content =>
      obtain ⟨made, -, heq⟩ := Shape.settle_leaf_eq_ok_iff.1 hmade
      cases heq
    | node label' fields =>
      obtain ⟨made, hinner, heq⟩ := Shape.settle_node_eq_ok_iff.1 hmade
      obtain ⟨-, rfl⟩ := Shape.node.inj heq
      exact ih key label' fields hsource hinner

theorem checkLeaf_rename (language? : Option String) (key key' : String)
    (reading : Except Directive.Error Directive) (leaf : Prototype.Leaf)
    (h : (Prototype.checkLeaf language? key reading).outcome = .ok leaf) :
    (Prototype.checkLeaf language? key' reading).outcome = .ok leaf := by
  rw [Prototype.checkLeaf_eq_ok_iff] at h ⊢
  refine ⟨h.1, ?_⟩
  rw [← h.2]
  obtain ⟨-, hbest⟩ := h
  cases hlanguage : leaf.directive.options.bestLanguage? with
  | none => rfl
  | some code? =>
    rw [hlanguage, Prototype.bestLanguage] at hbest
    rw [Prototype.bestLanguage, Prototype.bestLanguage]
    cases hcode : code?.or language? with
    | some code => rfl
    | none =>
      rw [hcode] at hbest
      cases hbest

/-- Checking a prototype commutes with rewriting. -/
theorem check_shapes {language? : Option String} {path : List String} {draft : Prototype.Draft}
    {fields : Prototype.Checked} (h : (Prototype.check language? draft).outcome = .ok fields) :
    (Prototype.check language? (ρ.shapes (fun _ => id) path draft)).outcome =
      .ok (ρ.shapes (fun _ => id) path fields) :=
  settleFields_shapes (checkLeaf_rename language?) path h

end Rewriting

end QueryByExample
