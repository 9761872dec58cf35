import QueryByExample.Proofs.Json.Equality
import QueryByExample.Proofs.Modifiers
import QueryByExample.Proofs.Query.Site
/-!
# Documents that have no query

A document compiles iff it is an object with accepted modifiers, its prototype is where it should
be, and all texts of the prototype are read and have the languages that they ask for. Otherwise the
first of these checks that fails decides the error, and of the texts the first one, depth first.

## Main definitions

- `Prototype.texts`: the texts of a prototype with their keys, depth first.
- `Prototype.Offends`: a text that has no place in a query, and its error.
- `Prototype.Compilable`: the documents that compile.
- `Prototype.Refuses`: the documents that do not, and their errors.

## Main statements

- `Shape.failure?_settleFields`: the first leaf that fails decides the error.
- `outcome_compile_iff`: which documents compile, and which errors the others have.
-/

namespace QueryByExample

/-! ### The first leaf that fails -/

namespace Shape

variable {ν α β ε : Type} (f : String → α → Traced ε β)

mutual

theorem failure?_settle (name : String) (shape : Shape ν α) :
    failure? (settle f name shape).outcome =
      (leaves name shape).findSome? fun leaf => failure? (f leaf.1 leaf.2).outcome := by
  cases shape with
  | constant value => rfl
  | leaf content =>
    rw [settle, leaves, Traced.outcome_bind, List.findSome?_singleton]
    cases (f name content).outcome <;> rfl
  | node label fields =>
    rw [settle, leaves, Traced.outcome_bind, ← failure?_settleFields fields]
    cases (settleFields f fields).outcome <;> rfl

/-- The first leaf without a result decides the error. -/
theorem failure?_settleFields (fields : List (String × Shape ν α)) :
    failure? (settleFields f fields).outcome =
      (leavesOf fields).findSome? fun leaf => failure? (f leaf.1 leaf.2).outcome := by
  cases fields with
  | nil => rfl
  | cons field rest =>
    obtain ⟨name, shape⟩ := field
    rw [settleFields, leavesOf, Traced.outcome_bind, List.findSome?_append,
      ← failure?_settle name shape, ← failure?_settleFields rest]
    cases (settle f name shape).outcome with
    | error fault => rfl
    | ok made =>
      simp only [Except.bind, Traced.outcome_bind]
      cases (settleFields f rest).outcome <;> rfl

end

end Shape

/-! ### Texts -/

namespace Prototype

mutual

/-- The texts in the value of a key. Those of an object have keys of their own. -/
def textsAt (key : String) : Json → List (String × String)
  | .object entries => texts entries
  | .string text => [(key, text)]
  | _ => []

/-- The texts of a prototype that nested objects lead to, with their keys, depth first. -/
def texts : List (String × Json) → List (String × String)
  | [] => []
  | (key, value) :: rest => textsAt key value ++ texts rest

end

/-- A text that has no place in a query of a document with the given language: it is not read, or
it asks for a best match without a language. -/
inductive Offends (language? : Option String) (key text : String) : Error → Prop where
  | directive {fault : Directive.Error} (h : Directive.parse text = .error fault) :
      Offends language? key text (.directive key fault)
  | missingLanguage {directive : Directive} (h : Directive.parse text = .ok (some directive))
      (best : directive.options.bestLanguage? = some none) (none : language? = none) :
      Offends language? key text (.missingLanguage key)

/-- The error of a text, if it has one. -/
def textFailure? (language? : Option String) (key text : String) : Option Error :=
  (Shape.leaves key (ofJson (.string text))).findSome? fun leaf =>
    failure? (checkLeaf language? leaf.1 leaf.2).outcome

theorem failure?_bestLanguage {language? : Option String} {key : String}
    {best? : Option (Option String)} {error : Error} :
    failure? (bestLanguage language? key best?) = some error ↔
      best? = some none ∧ language? = none ∧ error = .missingLanguage key := by
  cases best? with
  | none => simp [bestLanguage, failure?]
  | some code? =>
    cases code? with
    | some code => simp [bestLanguage, failure?]
    | none => cases language? <;> simp [bestLanguage, failure?, eq_comm]

theorem failure?_checkLeaf_ok (language? : Option String) (key : String) (directive : Directive) :
    failure? (checkLeaf language? key (.ok directive)).outcome =
      failure? (bestLanguage language? key directive.options.bestLanguage?) := by
  simp only [checkLeaf, Traced.outcome_bind, Traced.outcome_ofExcept, Except.mapError, Except.bind,
    Traced.outcome_report]
  cases bestLanguage language? key directive.options.bestLanguage? <;> rfl

theorem textFailure?_eq_some_iff {language? : Option String} {key text : String} {error : Error} :
    textFailure? language? key text = some error ↔ Offends language? key text error := by
  rw [textFailure?, ofJson]
  cases hparse : Directive.parse text with
  | error fault =>
    constructor
    · intro h
      obtain rfl : Error.directive key fault = error := Option.some.inj h
      exact .directive hparse
    · intro h
      cases h with
      | directive h =>
        obtain rfl := Except.error.inj (h.symm.trans hparse)
        rfl
      | missingLanguage h => cases h.symm.trans hparse
  | ok directive? =>
    cases directive? with
    | none =>
      -- a text that is no directive becomes a constant, which is not checked
      constructor
      · intro h
        cases h
      · intro h
        cases h with
        | directive h => cases h.symm.trans hparse
        | missingLanguage h => cases h.symm.trans hparse
    | some directive =>
      simp only [Shape.leaves, List.findSome?_singleton, failure?_checkLeaf_ok,
        failure?_bestLanguage]
      constructor
      · rintro ⟨best, none, rfl⟩
        exact .missingLanguage hparse best none
      · intro h
        cases h with
        | directive h => cases h.symm.trans hparse
        | missingLanguage h best none =>
          obtain rfl := Option.some.inj (Except.ok.inj (h.symm.trans hparse))
          exact ⟨best, none, rfl⟩

mutual

theorem leaves_ofJson (key : String) (value : Json) :
    Shape.leaves key (ofJson value) = (textsAt key value).flatMap fun text =>
      Shape.leaves text.1 (ofJson (.string text.2)) := by
  cases value with
  | object entries =>
    rw [ofJson, Shape.leaves, textsAt]
    exact leavesOf_ofEntries entries
  | string text => rw [textsAt, List.flatMap_singleton]
  | null | bool _ | number _ | array _ => rfl

/-- The leaves of a prototype are those of its texts. -/
theorem leavesOf_ofEntries (entries : List (String × Json)) :
    Shape.leavesOf (ofEntries entries) = (texts entries).flatMap fun text =>
      Shape.leaves text.1 (ofJson (.string text.2)) := by
  cases entries with
  | nil => rfl
  | cons entry rest =>
    obtain ⟨key, value⟩ := entry
    rw [ofEntries, Shape.leavesOf, texts, List.flatMap_append, leaves_ofJson key value,
      leavesOf_ofEntries rest]

end

theorem findSome?_flatMap {α β γ : Type} (f : β → Option γ) (g : α → List β) (items : List α) :
    (items.flatMap g).findSome? f = items.findSome? fun item => (g item).findSome? f := by
  induction items with
  | nil => rfl
  | cons item rest ih =>
    rw [List.flatMap_cons, List.findSome?_append, List.findSome?_cons, ih]
    cases (g item).findSome? f <;> rfl

/-- The first text with an error decides that of a prototype. -/
theorem failure?_check (language? : Option String) (node : List (String × Json)) :
    failure? (check language? (ofEntries node)).outcome =
      (texts node).findSome? fun text => textFailure? language? text.1 text.2 := by
  rw [check, Shape.failure?_settleFields, leavesOf_ofEntries, findSome?_flatMap]
  rfl

end Prototype

/-! ### The language of a document -/

namespace Modifiers

/-- The language that a document declares. An empty one counts as none. -/
def declaredLanguage? (entries : List (String × Json)) : Option String :=
  match Fields.find? "$lang" entries with
  | some (.string code) => if code.isEmpty then none else some code
  | _ => none

theorem language?_foldl {entries : List (String × Json)} (h : "$lang" ∉ Fields.names entries)
    (m : Modifiers) : (entries.foldl applyEntry m).language? = m.language? := by
  induction entries generalizing m with
  | nil => rfl
  | cons entry rest ih =>
    rw [Fields.names, List.map_cons, List.mem_cons, not_or] at h
    rw [List.foldl_cons, ih h.2]
    unfold applyEntry
    split
    · next setting hread =>
      have hkey : setting.key ≠ "$lang" := by
        rw [key_of_read hread]
        exact Ne.symm h.1
      cases setting with
      | language code? => exact absurd rfl hkey
      | _ => rfl
    · rfl

/-- The language of the modifiers is the one that the document declares. -/
theorem language?_of_ofEntries {entries : List (String × Json)} {m : Modifiers}
    (distinct : Fields.Distinct entries) (h : (ofEntries entries).outcome = .ok m) :
    m.language? = declaredLanguage? entries := by
  obtain ⟨haccepts, rfl⟩ := ofEntries_eq_ok_iff.1 h
  cases hfind : Fields.find? "$lang" entries with
  | none =>
    rw [language?_foldl (Fields.find?_eq_none_iff.1 hfind), declaredLanguage?, hfind]
  | some value =>
    have htext : isText value = true := haccepts _ (Fields.mem_of_find? hfind)
    rw [foldl_applyEntry_of_find? distinct hfind, declaredLanguage?, hfind]
    cases value with
    | null => rfl
    | string code => rfl
    | bool _ | number _ | array _ | object _ => cases htext

end Modifiers

namespace Prototype

/-! ### Where a prototype stands -/

/-- The place of the prototype among the root entries: a graph goes first. -/
inductive IsAt (entries : List (String × Json)) : String → Json → Prop where
  | graph {value : Json} (h : Fields.find? "@graph" entries = some value) :
      IsAt entries "@graph" value
  | proto {value : Json} (hgraph : Fields.find? "@graph" entries = none)
      (h : Fields.find? "proto" entries = some value) : IsAt entries "proto" value

/-- A value holds a prototype if it is an object or an array that starts with one. -/
inductive Holds : Json → List (String × Json) → Prop where
  | object (node : List (String × Json)) : Holds (.object node) node
  | array (node : List (String × Json)) (others : List Json) :
      Holds (.array (.object node :: others)) node

theorem holds_iff {value : Json} {node : List (String × Json)} (key : String) :
    Holds value node ↔ nodeAt key value = .ok node := by
  constructor
  · intro h
    cases h <;> rfl
  · intro h
    unfold nodeAt at h
    split at h
    · obtain rfl := Except.ok.inj h
      exact .object _
    · obtain rfl := Except.ok.inj h
      exact .array _ _
    · cases h

theorem nodeAt_eq_error_iff {key : String} {value : Json} {error : Error} :
    nodeAt key value = .error error ↔
      error = .malformed (.noNode key) ∧ ∀ node, ¬ Holds value node := by
  simp only [holds_iff key]
  unfold nodeAt
  split <;> simp [eq_comm]

theorem locate_of_isAt {entries : List (String × Json)} {key : String} {value : Json}
    (h : IsAt entries key value) :
    ∃ form, locate (Modifiers.otherEntries entries) =
      (nodeAt key value).map fun node => (form, node) := by
  rw [locate_otherEntries]
  cases h with
  | graph h => exact ⟨_, by rw [locate, h]⟩
  | proto hgraph h => exact ⟨_, by rw [locate, hgraph, h]⟩

theorem locate_of_find?_eq_none {entries : List (String × Json)}
    (hgraph : Fields.find? "@graph" entries = none)
    (hproto : Fields.find? "proto" entries = none) :
    locate (Modifiers.otherEntries entries) = .error (.malformed .noPrototype) := by
  rw [locate_otherEntries, locate, hgraph, hproto]

theorem isAt_cases (entries : List (String × Json)) :
    (∃ key value, IsAt entries key value) ∨
      Fields.find? "@graph" entries = none ∧ Fields.find? "proto" entries = none := by
  cases hgraph : Fields.find? "@graph" entries with
  | some value => exact Or.inl ⟨_, value, .graph hgraph⟩
  | none =>
    cases hproto : Fields.find? "proto" entries with
    | some value => exact Or.inl ⟨_, value, .proto hgraph hproto⟩
    | none => exact Or.inr ⟨rfl, rfl⟩

theorem exists_locate_iff {entries node : List (String × Json)} :
    (∃ form, locate (Modifiers.otherEntries entries) = .ok (form, node)) ↔
      ∃ key value, IsAt entries key value ∧ Holds value node := by
  constructor
  · rintro ⟨form, h⟩
    rcases isAt_cases entries with ⟨key, value, place⟩ | ⟨hgraph, hproto⟩
    · obtain ⟨form', hlocate⟩ := locate_of_isAt place
      rw [hlocate, Except.map_eq_ok_iff] at h
      obtain ⟨_, hnode, heq⟩ := h
      obtain rfl := (Prod.mk.inj heq).2
      exact ⟨key, value, place, (holds_iff key).2 hnode⟩
    · rw [locate_of_find?_eq_none hgraph hproto] at h
      cases h
  · rintro ⟨key, value, place, holds⟩
    obtain ⟨form, hlocate⟩ := locate_of_isAt place
    rw [(holds_iff key).1 holds] at hlocate
    exact ⟨form, hlocate⟩

theorem locate_eq_error_iff {entries : List (String × Json)} {error : Error} :
    locate (Modifiers.otherEntries entries) = .error error ↔
      (Fields.find? "@graph" entries = none ∧ Fields.find? "proto" entries = none ∧
        error = .malformed .noPrototype) ∨
      ∃ key value, IsAt entries key value ∧ (∀ node, ¬ Holds value node) ∧
        error = .malformed (.noNode key) := by
  constructor
  · intro h
    rcases isAt_cases entries with ⟨key, value, place⟩ | ⟨hgraph, hproto⟩
    · obtain ⟨form, hlocate⟩ := locate_of_isAt place
      cases hnode : nodeAt key value with
      | ok node =>
        rw [hlocate, hnode] at h
        cases h
      | error fault =>
        rw [hlocate, hnode] at h
        obtain rfl := Except.error.inj h
        obtain ⟨rfl, hholds⟩ := nodeAt_eq_error_iff.1 hnode
        exact Or.inr ⟨key, value, place, hholds, rfl⟩
    · rw [locate_of_find?_eq_none hgraph hproto] at h
      exact Or.inl ⟨hgraph, hproto, (Except.error.inj h).symm⟩
  · rintro (⟨hgraph, hproto, rfl⟩ | ⟨key, value, place, h, rfl⟩)
    · exact locate_of_find?_eq_none hgraph hproto
    · obtain ⟨form, hlocate⟩ := locate_of_isAt place
      rw [hlocate, nodeAt_eq_error_iff.2 ⟨rfl, h⟩]
      rfl

/-! ### Compilable documents -/

/-- All checks of a document pass: its modifiers are accepted, it holds a prototype, and the texts of
the prototype are read and have a language where they ask for one. -/
structure Compilable (entries node : List (String × Json)) : Prop where
  modifiers : ∀ entry ∈ entries, Modifiers.accepts entry.1 entry.2 = true
  place : ∃ key value, IsAt entries key value ∧ Holds value node
  directives : ∀ text ∈ texts node, ∃ directive?, Directive.parse text.2 = .ok directive?
  languages : ∀ text ∈ texts node, ∀ directive, Directive.parse text.2 = .ok (some directive) →
    directive.options.bestLanguage? = some none →
      ∃ code, Modifiers.declaredLanguage? entries = some code

/-- The error of a document is that of the first check that fails: the modifiers in the order of the
root, the place of the prototype, and the texts of the prototype, depth first. -/
inductive Refuses : Json → Error → Prop where
  | notAnObject {document : Json} (h : ∀ entries, document ≠ .object entries) :
      Refuses document (.malformed .notAnObject)
  | modifier {before after : List (String × Json)} {key : String} {value : Json}
      {fault : Modifiers.Error}
      (modifiers : ∀ entry ∈ before, Modifiers.accepts entry.1 entry.2 = true)
      (rejected : Modifiers.accepts key value = false)
      (h : Modifiers.Setting.read key value = .error fault) (names : fault.key = key) :
      Refuses (.object (before ++ (key, value) :: after)) (.modifier fault)
  | noPrototype {entries : List (String × Json)}
      (modifiers : ∀ entry ∈ entries, Modifiers.accepts entry.1 entry.2 = true)
      (hgraph : Fields.find? "@graph" entries = none)
      (hproto : Fields.find? "proto" entries = none) :
      Refuses (.object entries) (.malformed .noPrototype)
  | noNode {entries : List (String × Json)} {key : String} {value : Json}
      (modifiers : ∀ entry ∈ entries, Modifiers.accepts entry.1 entry.2 = true)
      (place : IsAt entries key value) (h : ∀ node, ¬ Holds value node) :
      Refuses (.object entries) (.malformed (.noNode key))
  | text {entries node : List (String × Json)} {key : String} {value : Json}
      {before after : List (String × String)} {text : String × String} {error : Error}
      (modifiers : ∀ entry ∈ entries, Modifiers.accepts entry.1 entry.2 = true)
      (place : IsAt entries key value) (holds : Holds value node)
      (first : texts node = before ++ text :: after)
      (others : ∀ other ∈ before, ∀ error,
        ¬ Offends (Modifiers.declaredLanguage? entries) other.1 other.2 error)
      (h : Offends (Modifiers.declaredLanguage? entries) text.1 text.2 error) :
      Refuses (.object entries) error

theorem not_offends_iff {language? : Option String} {key text : String} :
    (∀ error, ¬ Offends language? key text error) ↔
      (∃ directive?, Directive.parse text = .ok directive?) ∧
        ∀ directive, Directive.parse text = .ok (some directive) →
          directive.options.bestLanguage? = some none → ∃ code, language? = some code := by
  constructor
  · intro h
    constructor
    · cases hparse : Directive.parse text with
      | error fault => exact absurd (.directive hparse) (h _)
      | ok directive? => exact ⟨directive?, rfl⟩
    · intro directive hparse best
      cases language? with
      | none => exact absurd (.missingLanguage hparse best rfl) (h _)
      | some code => exact ⟨code, rfl⟩
  · rintro ⟨⟨directive?, hparse⟩, hlanguage⟩ error herror
    cases herror with
    | directive h => cases h.symm.trans hparse
    | missingLanguage h best none =>
      obtain ⟨code, hcode⟩ := hlanguage _ h best
      cases none.symm.trans hcode

theorem not_offends_iff_textFailure? {language? : Option String} {key text : String} :
    (∀ error, ¬ Offends language? key text error) ↔ textFailure? language? key text = none := by
  rw [Option.eq_none_iff_forall_ne_some]
  exact forall_congr' fun error => not_congr textFailure?_eq_some_iff.symm

theorem check_eq_ok_iff {language? : Option String} {node : List (String × Json)} :
    (∃ fields, (check language? (ofEntries node)).outcome = .ok fields) ↔
      ∀ text ∈ texts node, ∀ error, ¬ Offends language? text.1 text.2 error := by
  rw [← failure?_eq_none_iff, failure?_check, List.findSome?_eq_none_iff]
  exact forall₂_congr fun text _ => not_offends_iff_textFailure?.symm

theorem check_eq_error_iff {language? : Option String} {node : List (String × Json)}
    {error : Error} :
    (check language? (ofEntries node)).outcome = .error error ↔
      ∃ before text after, texts node = before ++ text :: after ∧
        Offends language? text.1 text.2 error ∧
        ∀ other ∈ before, ∀ error, ¬ Offends language? other.1 other.2 error := by
  rw [← failure?_eq_some_iff, failure?_check, List.findSome?_eq_some_iff]
  simp only [textFailure?_eq_some_iff, not_offends_iff_textFailure?]

end Prototype

theorem Modifiers.ofEntries_eq_error_iff {entries : List (String × Json)}
    {fault : Modifiers.Error} :
    (Modifiers.ofEntries entries).outcome = .error fault ↔
      ∃ before entry after, entries = before ++ entry :: after ∧
        Setting.read entry.1 entry.2 = .error fault ∧
        ∀ other ∈ before, accepts other.1 other.2 = true := by
  rw [← failure?_eq_some_iff, ofEntries, failure?_addEntries, List.findSome?_eq_some_iff]
  simp only [failure?_eq_some_iff, (reads_read _ _).isOk_iff]

namespace Prototype

variable {entries node : List (String × Json)} {error : Error}

/-- A document has modifiers iff its root entries are accepted, and then it declares their
language. -/
theorem accepts_iff_exists_ofEntries (distinct : Fields.Distinct entries) :
    (∀ entry ∈ entries, Modifiers.accepts entry.1 entry.2 = true) ↔
      ∃ m, (Modifiers.ofEntries entries).outcome = .ok m ∧
        m.language? = Modifiers.declaredLanguage? entries := by
  constructor
  · intro h
    have hm := Modifiers.ofEntries_eq_ok_iff.2 ⟨h, rfl⟩
    exact ⟨_, hm, Modifiers.language?_of_ofEntries distinct hm⟩
  · rintro ⟨m, hm, -⟩
    exact (Modifiers.ofEntries_eq_ok_iff.1 hm).1

/-- A document with distinct keys compiles iff all of its checks pass. -/
theorem exists_compile_iff (distinct : Fields.Distinct entries) :
    (∃ compiled, (compile (.object entries)).outcome = .ok compiled) ↔
      ∃ node, Compilable entries node := by
  constructor
  · rintro ⟨compiled, h⟩
    obtain ⟨_, m, form, node, fields, hentries, hm, hlocate, hcheck, -⟩ := compile_eq_ok_iff.1 h
    obtain rfl := Json.object.inj hentries
    have htexts := check_eq_ok_iff.1 ⟨fields, hcheck⟩
    rw [Modifiers.language?_of_ofEntries distinct hm] at htexts
    exact ⟨node, (Modifiers.ofEntries_eq_ok_iff.1 hm).1, exists_locate_iff.1 ⟨form, hlocate⟩,
      fun text htext => (not_offends_iff.1 (htexts text htext)).1,
      fun text htext => (not_offends_iff.1 (htexts text htext)).2⟩
  · rintro ⟨node, modifiers, place, directives, languages⟩
    obtain ⟨m, hm, hlanguage⟩ := (accepts_iff_exists_ofEntries distinct).1 modifiers
    obtain ⟨form, hlocate⟩ := exists_locate_iff.2 place
    have htexts : ∀ text ∈ texts node, ∀ error, ¬ Offends m.language? text.1 text.2 error := by
      intro text htext
      rw [hlanguage, not_offends_iff]
      exact ⟨directives text htext, languages text htext⟩
    obtain ⟨fields, hcheck⟩ := check_eq_ok_iff.2 htexts
    exact ⟨_, compile_eq_ok_iff.2 ⟨entries, m, form, node, fields, rfl, hm, hlocate, hcheck, rfl⟩⟩

/-- The error of a document with distinct keys is that of its first check that fails. -/
theorem compile_eq_error_iff_refuses (distinct : Fields.Distinct entries) :
    (compile (.object entries)).outcome = .error error ↔ Refuses (.object entries) error := by
  rw [compile_eq_error_iff]
  constructor
  · rintro (⟨fault, hm, rfl⟩ | ⟨m, hm, h⟩)
    · obtain ⟨before, ⟨key, value⟩, after, rfl, hread, hbefore⟩ :=
        Modifiers.ofEntries_eq_error_iff.1 hm
      have hreads := Modifiers.reads_read key value
      rw [hread] at hreads
      exact .modifier hbefore hreads.eq_false hread hreads.key_eq
    · have hmodifiers := (Modifiers.ofEntries_eq_ok_iff.1 hm).1
      rcases h with hlocate | ⟨form, node, hlocate, hcheck⟩
      · rcases locate_eq_error_iff.1 hlocate with ⟨hgraph, hproto, rfl⟩ | ⟨key, value, place, h, rfl⟩
        · exact .noPrototype hmodifiers hgraph hproto
        · exact .noNode hmodifiers place h
      · obtain ⟨key, value, place, holds⟩ := exists_locate_iff.1 ⟨form, hlocate⟩
        rw [Modifiers.language?_of_ofEntries distinct hm, check_eq_error_iff] at hcheck
        obtain ⟨before, text, after, first, h, others⟩ := hcheck
        exact .text hmodifiers place holds first others h
  · -- the checks before the failing one pass, so the steps before it have results
    intro h
    cases h with
    | notAnObject h => exact absurd rfl (h entries)
    | modifier modifiers rejected h names =>
      exact Or.inl ⟨_, Modifiers.ofEntries_eq_error_iff.2 ⟨_, _, _, rfl, h, modifiers⟩, rfl⟩
    | noPrototype modifiers hgraph hproto =>
      obtain ⟨m, hm, -⟩ := (accepts_iff_exists_ofEntries distinct).1 modifiers
      exact Or.inr ⟨m, hm, Or.inl (locate_eq_error_iff.2 (Or.inl ⟨hgraph, hproto, rfl⟩))⟩
    | noNode modifiers place h =>
      obtain ⟨m, hm, -⟩ := (accepts_iff_exists_ofEntries distinct).1 modifiers
      exact Or.inr ⟨m, hm, Or.inl (locate_eq_error_iff.2 (Or.inr ⟨_, _, place, h, rfl⟩))⟩
    | text modifiers place holds first others h =>
      obtain ⟨m, hm, hlanguage⟩ := (accepts_iff_exists_ofEntries distinct).1 modifiers
      obtain ⟨form, hlocate⟩ := exists_locate_iff.2 ⟨_, _, place, holds⟩
      refine Or.inr ⟨m, hm, Or.inr ⟨form, _, hlocate, ?_⟩⟩
      rw [hlanguage, check_eq_error_iff]
      exact ⟨_, _, _, first, h, others⟩

end Prototype

/-- A document compiles iff it is an object with accepted modifiers that holds a prototype whose
texts are all read and have the languages that they ask for. Otherwise its error is that of the first
of these checks that fails, and it names the modifier or the text that it is about. -/
theorem outcome_compile_iff {document : Json} (hdocument : document.WellFormed) :
    ((∃ compiled, (compile document).outcome = .ok compiled) ↔
      ∃ entries node, document = .object entries ∧ Prototype.Compilable entries node) ∧
    ∀ error, (compile document).outcome = .error error ↔ Prototype.Refuses document error := by
  by_cases hobject : ∃ entries, document = .object entries
  · obtain ⟨entries, rfl⟩ := hobject
    have distinct := (Json.wellFormed_object_iff.1 hdocument).1
    refine ⟨?_, fun error => Prototype.compile_eq_error_iff_refuses distinct⟩
    rw [Prototype.exists_compile_iff distinct]
    constructor
    · rintro ⟨node, h⟩
      exact ⟨entries, node, rfl, h⟩
    · rintro ⟨_, node, hentries, h⟩
      obtain rfl := Json.object.inj hentries
      exact ⟨node, h⟩
  · have hnot : ∀ entries, document ≠ .object entries := fun entries h => hobject ⟨entries, h⟩
    have hcompile : (compile document).outcome = .error (.malformed .notAnObject) := by
      cases document with
      | object entries => exact absurd rfl (hnot entries)
      | _ => rfl
    rw [hcompile]
    constructor
    · constructor
      · rintro ⟨compiled, h⟩
        cases h
      · rintro ⟨entries, -, h, -⟩
        exact absurd h (hnot entries)
    · intro error
      constructor
      · intro h
        obtain rfl := Except.error.inj h
        exact .notAnObject hnot
      · intro h
        cases h with
        | notAnObject => rfl
        | modifier | noPrototype | noNode | text => exact absurd rfl (hnot _)

namespace Ships

/-- A ship whose port asks for the best match of its name, and whose flag is empty. -/
def node : List (String × Json) :=
  [("id", .string "?ship"),
    ("port", .object [("id", .string "$ex:port"), ("name", .string "$rdfs:label$bestlang")]),
    ("flag", .string "$")]

def document : Json := .object [("$limit", .string "5"), ("proto", .object node)]

theorem outcome_document : (compile document).outcome = .error (.missingLanguage "name") := by
  have hmodifiers : (Modifiers.ofEntries [("$limit", Json.string "5"),
      ("proto", Json.object node)]).outcome = .ok { limit? := some 5 } := rfl
  have hcheck : (Prototype.check none (Prototype.ofEntries node)).outcome =
      .error (.missingLanguage "name") := rfl
  exact compile_eq_error_iff.2 (Or.inr ⟨_, hmodifiers, Or.inr ⟨.plain, node, rfl, hcheck⟩⟩)

end Ships

theorem outcome_compile_iff_ships :
    Ships.document.WellFormed ∧
      Prototype.Refuses Ships.document (.missingLanguage "name") ∧
      ¬ Prototype.Refuses Ships.document (.directive "flag" (.emptyPath "$")) ∧
      ¬ ∃ entries node, Ships.document = .object entries ∧ Prototype.Compilable entries node := by
  have hdocument : Ships.document.WellFormed := by
    simp [Ships.document, Ships.node, Json.wellFormed_object_iff, Json.WellFormed.string,
      Fields.Distinct, Fields.names]
  obtain ⟨hok, herror⟩ := outcome_compile_iff hdocument
  refine ⟨hdocument, (herror _).1 Ships.outcome_document, fun h => ?_, fun h => ?_⟩
  · cases Ships.outcome_document.symm.trans ((herror _).2 h)
  · obtain ⟨compiled, h⟩ := hok.2 h
    cases Ships.outcome_document.symm.trans h

end QueryByExample
