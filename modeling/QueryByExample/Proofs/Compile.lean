import Mathlib.Data.List.Forall2
import QueryByExample.Compile
/-!
# The steps of a compilation

A document compiles iff every step of its compilation succeeds; the steps are the reading of the
modifiers, the search for the prototype and the check of its leaves. Otherwise the first step that
fails decides the error.

## Main statements

- `compile_eq_ok_iff`, `compile_eq_error_iff`: when a compilation succeeds, and how it fails.
- `Shape.settleFields_eq_ok_iff`: the check of a prototype, field by field.
-/

namespace QueryByExample

/-- A chain succeeds iff both of its parts do. -/
theorem Traced.bind_eq_ok_iff {ε α β : Type} {t : Traced ε α} {next : α → Traced ε β} {b : β} :
    (t >>= next).outcome = .ok b ↔ ∃ a, t.outcome = .ok a ∧ (next a).outcome = .ok b := by
  rw [Traced.outcome_bind]
  cases t.outcome <;> simp [Except.bind]

theorem Except.mapError_eq_ok_iff {ε ε' α : Type} {f : ε → ε'} {outcome : Except ε α} {a : α} :
    outcome.mapError f = .ok a ↔ outcome = .ok a := by
  cases outcome <;> simp [Except.mapError]

theorem Except.bind_eq_error_iff {ε α β : Type} {outcome : Except ε α} {next : α → Except ε β}
    {fault : ε} :
    outcome.bind next = .error fault ↔
      outcome = .error fault ∨ ∃ a, outcome = .ok a ∧ next a = .error fault := by
  cases outcome <;> simp [Except.bind]

theorem Except.mapError_eq_error_iff {ε ε' α : Type} {f : ε → ε'} {outcome : Except ε α}
    {fault : ε'} : outcome.mapError f = .error fault ↔ ∃ source, outcome = .error source ∧
      f source = fault := by
  cases outcome <;> simp [Except.mapError]

theorem Except.map_eq_ok_iff {ε α β : Type} {f : α → β} {outcome : Except ε α} {b : β} :
    outcome.map f = .ok b ↔ ∃ a, outcome = .ok a ∧ f a = b := by
  cases outcome <;> simp [Except.map]

namespace Shape

variable {ν α β ε : Type}

/-- Settling succeeds iff it succeeds for every field. -/
theorem settleFields_eq_ok_iff {f : String → α → Traced ε β} {fields : List (String × Shape ν α)}
    {settled : List (String × Shape ν β)} :
    (settleFields f fields).outcome = .ok settled ↔
      List.Forall₂ (fun field made => made.1 = field.1 ∧
        (settle f field.1 field.2).outcome = .ok made.2) fields settled := by
  induction fields generalizing settled with
  | nil => cases settled <;> simp [settleFields]
  | cons field rest ih =>
    obtain ⟨name, shape⟩ := field
    rw [settleFields, Traced.bind_eq_ok_iff]
    constructor
    · rintro ⟨made, hmade, h⟩
      obtain ⟨others, hothers, h⟩ := Traced.bind_eq_ok_iff.1 h
      obtain rfl := Except.ok.inj h
      exact .cons ⟨rfl, hmade⟩ (ih.1 hothers)
    · intro h
      cases h with
      | @cons _ made _ others hmade hothers =>
        obtain ⟨name', shape'⟩ := made
        obtain ⟨rfl, hmade⟩ := hmade
        exact ⟨shape', hmade, Traced.bind_eq_ok_iff.2 ⟨others, ih.2 hothers, rfl⟩⟩

/-- Settling keeps the names of fields. -/
theorem names_of_settleFields {f : String → α → Traced ε β} {fields : List (String × Shape ν α)}
    {settled : List (String × Shape ν β)} (h : (settleFields f fields).outcome = .ok settled) :
    Fields.names settled = Fields.names fields := by
  rw [settleFields_eq_ok_iff] at h
  induction h with
  | nil => rfl
  | cons hmade _ ih =>
    simp only [Fields.names] at ih
    simp [Fields.names, hmade.1, ih]

/-- Every settled field comes from a field of its name. -/
theorem exists_of_mem_settleFields {f : String → α → Traced ε β}
    {fields : List (String × Shape ν α)} {settled : List (String × Shape ν β)}
    (h : (settleFields f fields).outcome = .ok settled) {name : String} {shape : Shape ν β}
    (hmem : (name, shape) ∈ settled) :
    ∃ source, (name, source) ∈ fields ∧ (settle f name source).outcome = .ok shape := by
  rw [settleFields_eq_ok_iff] at h
  induction h with
  | nil => cases hmem
  | @cons field _ _ _ hmade _ ih =>
    rcases List.mem_cons.1 hmem with rfl | hmem
    · obtain ⟨rfl, hmade⟩ := hmade
      exact ⟨field.2, List.mem_cons_self, hmade⟩
    · obtain ⟨source, hsource, hshape⟩ := ih hmem
      exact ⟨source, List.mem_cons_of_mem _ hsource, hshape⟩

theorem settle_leaf_eq_ok_iff {f : String → α → Traced ε β} {name : String} {content : α}
    {settled : Shape ν β} :
    (settle f name (.leaf content)).outcome = .ok settled ↔
      ∃ made, (f name content).outcome = .ok made ∧ settled = .leaf made := by
  rw [settle, Traced.bind_eq_ok_iff]
  simp only [Traced.outcome_pure, Except.ok.injEq, eq_comm]

theorem settle_node_eq_ok_iff {f : String → α → Traced ε β} {name : String} {label : ν}
    {fields : List (String × Shape ν α)} {settled : Shape ν β} :
    (settle f name (.node label fields)).outcome = .ok settled ↔
      ∃ made, (settleFields f fields).outcome = .ok made ∧ settled = .node label made := by
  rw [settle, Traced.bind_eq_ok_iff]
  simp only [Traced.outcome_pure, Except.ok.injEq, eq_comm]

end Shape

/-- The outcome of a compilation is that of its first step that fails, else the compiled plan. -/
theorem outcome_compile_object (entries : List (String × Json)) :
    (compile (.object entries)).outcome =
      ((Modifiers.ofEntries entries).outcome.mapError .modifier).bind fun m =>
        (Prototype.locate (Modifiers.otherEntries entries)).bind fun located =>
          (Prototype.check m.language? (Prototype.ofEntries located.2)).outcome.bind fun fields =>
            .ok ((Plan.ofFields m fields).compiled m located.1) := by
  simp only [compile, Traced.outcome_bind, Traced.mapError, Traced.outcome_ofExcept]
  rfl

/-- The steps of a compilation. -/
theorem compile_eq_ok_iff {document : Json} {compiled : CompiledQuery} :
    (compile document).outcome = .ok compiled ↔
      ∃ entries m form node fields, document = .object entries ∧
        (Modifiers.ofEntries entries).outcome = .ok m ∧
        Prototype.locate (Modifiers.otherEntries entries) = .ok (form, node) ∧
        (Prototype.check m.language? (Prototype.ofEntries node)).outcome = .ok fields ∧
        compiled = (Plan.ofFields m fields).compiled m form := by
  cases document with
  | object entries =>
    simp only [compile, Traced.bind_eq_ok_iff, Traced.outcome_ofExcept, Traced.mapError,
      Except.mapError_eq_ok_iff, Prod.exists, Traced.outcome_report, Traced.outcome_pure,
      Json.object.injEq, Except.ok.injEq]
    constructor
    · rintro ⟨m, hm, form, node, hlocate, fields, hcheck, -, -, rfl⟩
      exact ⟨entries, m, form, node, fields, rfl, hm, hlocate, hcheck, rfl⟩
    · rintro ⟨_, m, form, node, fields, rfl, hm, hlocate, hcheck, rfl⟩
      exact ⟨m, hm, form, node, hlocate, fields, hcheck, (), trivial, rfl⟩
  | _ => simp [compile, Traced.ofExcept]

/-- The first step of a compilation that fails decides its error. -/
theorem compile_eq_error_iff {entries : List (String × Json)} {error : Prototype.Error} :
    (compile (.object entries)).outcome = .error error ↔
      (∃ fault, (Modifiers.ofEntries entries).outcome = .error fault ∧ error = .modifier fault) ∨
      ∃ m, (Modifiers.ofEntries entries).outcome = .ok m ∧
        (Prototype.locate (Modifiers.otherEntries entries) = .error error ∨
          ∃ form node, Prototype.locate (Modifiers.otherEntries entries) = .ok (form, node) ∧
            (Prototype.check m.language? (Prototype.ofEntries node)).outcome = .error error) := by
  simp only [outcome_compile_object, Except.bind_eq_error_iff, Except.mapError_eq_error_iff,
    Except.mapError_eq_ok_iff, Prod.exists, reduceCtorEq, and_false, exists_false, or_false,
    eq_comm (a := error)]

/-- A document says something: it has modifiers, a prototype under one of its keys, and every leaf
of the prototype is read and checked. -/
def Prototype.Reads (document : Json) (m : Modifiers) (node : List (String × Json))
    (fields : Checked) : Prop :=
  ∃ entries form, document = .object entries ∧ (Modifiers.ofEntries entries).outcome = .ok m ∧
    locate (Modifiers.otherEntries entries) = .ok (form, node) ∧
    (check m.language? (ofEntries node)).outcome = .ok fields

/-- A document that says something compiles to the plan of its prototype. -/
theorem Prototype.Reads.outcome_compile {document : Json} {m : Modifiers}
    {node : List (String × Json)} {fields : Checked} (h : Reads document m node fields) :
    ∃ form, (compile document).outcome = .ok ((Plan.ofFields m fields).compiled m form) := by
  obtain ⟨entries, form, rfl, hm, hlocate, hcheck⟩ := h
  exact ⟨form, compile_eq_ok_iff.2 ⟨entries, m, form, node, fields, rfl, hm, hlocate, hcheck, rfl⟩⟩

/-- A document says one thing. -/
theorem Prototype.Reads.unique {document : Json} {m m' : Modifiers}
    {node node' : List (String × Json)} {fields fields' : Checked}
    (h : Reads document m node fields) (h' : Reads document m' node' fields') :
    m = m' ∧ node = node' ∧ fields = fields' := by
  obtain ⟨entries, form, rfl, hm, hlocate, hcheck⟩ := h
  obtain ⟨entries', form', hentries, hm', hlocate', hcheck'⟩ := h'
  obtain rfl := Json.object.inj hentries
  obtain rfl := Except.ok.inj (hm.symm.trans hm')
  obtain ⟨-, rfl⟩ := Prod.mk.inj (Except.ok.inj (hlocate.symm.trans hlocate'))
  exact ⟨rfl, rfl, Except.ok.inj (hcheck.symm.trans hcheck')⟩

/-- A document that compiles says something, which its compiled form follows. -/
theorem exists_reads_of_compile {document : Json} {compiled : CompiledQuery}
    (h : (compile document).outcome = .ok compiled) :
    ∃ node fields form, Prototype.Reads document compiled.query.modifiers node fields ∧
      compiled = (Plan.ofFields compiled.query.modifiers fields).compiled
        compiled.query.modifiers form := by
  obtain ⟨entries, m, form, node, fields, rfl, hm, hlocate, hcheck, rfl⟩ := compile_eq_ok_iff.1 h
  exact ⟨node, fields, form, ⟨entries, form, rfl, hm, hlocate, hcheck⟩, rfl⟩

end QueryByExample
