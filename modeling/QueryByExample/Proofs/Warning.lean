import QueryByExample.Proofs.Directive.Grammar
import QueryByExample.Proofs.Refusal
/-!
# Warnings

A document is warned about what it says in vain: root keys that start like modifiers and are none,
and tokens of directives that are for no option. Every one of them is reported once, where it stands,
and nothing else is.

## Main definitions

- `Traced.warnings`: what a computation warns about.
- `Modifiers.unknownKeys`: the root keys that start like modifiers and are none.
- `Directive.tokens`: the tokens of a text.
- `Prototype.unknownTokens`: the tokens of a prototype that are for no option, with their keys.

## Main statements

- `Modifiers.events_addEntries`: the events of reading the modifiers.
- `Shape.events_settleFields`: the events of a check are those of its leaves.
- `Prototype.events_check`: the events of checking a prototype.
- `warnings_of_compile`: the warnings about a document that compiles.
-/

namespace QueryByExample

/-- The warnings among the events of a computation. -/
def Traced.warnings {ε α : Type} (t : Traced ε α) : List Event :=
  t.events.filter fun event => event.level = .warn

/-! ### Root keys -/

namespace Modifiers

/-- The root keys that start like modifiers and are none. -/
def unknownKeys (entries : List (String × Json)) : List String :=
  (Fields.names entries).filter fun key => key.toList.head? = some '$' ∧ key ∉ keys

variable {m m' : Modifiers} {entry : String × Json} {rest entries : List (String × Json)}

theorem unknownKeys_cons :
    unknownKeys (entry :: rest) = unknownKeys [entry] ++ unknownKeys rest := by
  simp only [unknownKeys, Fields.names, List.map_cons, List.map_nil, ← List.filter_append]
  rfl

theorem unknownKeys_eq_nil (h : isKey entry.1 = true → entry.1 ∈ keys) :
    unknownKeys [entry] = [] := by
  have hnot : ¬ (entry.1.toList.head? = some '$' ∧ entry.1 ∉ keys) :=
    fun hunknown => hunknown.2 (h (beq_iff_eq.2 hunknown.1))
  simp [unknownKeys, Fields.names, hnot]

/-- An entry that is read reports its key if it is unknown. -/
theorem events_addEntries_cons {setting? : Option Setting}
    (h : Setting.read entry.1 entry.2 = .ok setting?) :
    (addEntries m (entry :: rest)).events =
      (unknownKeys [entry]).map .unknownModifier ++
        (addEntries (applyEntry m entry) rest).events := by
  obtain ⟨key, value⟩ := entry
  rw [addEntries]
  by_cases hkey : isKey key = true
  · rw [if_pos hkey, h]
    cases setting? with
    | none =>
      have hunknown : unknownKeys [(key, value)] = [key] := by
        have hnot := read_eq_ok_none_iff.1 h
        simp [unknownKeys, Fields.names, beq_iff_eq.1 hkey, hnot]
      rw [hunknown, applyEntry_of_not_mem_keys (read_eq_ok_none_iff.1 h)]
      exact Traced.events_bind_of_ok rfl _
    | some setting =>
      have hmem : key ∈ keys := by
        by_contra hnot
        cases h.symm.trans (read_of_not_mem_keys hnot value)
      have hunknown : unknownKeys [(key, value)] = [] := unknownKeys_eq_nil fun _ => hmem
      rw [hunknown, applyEntry, h]
      rfl
  · have hnot : key ∉ keys := fun hmem => hkey (isKey_of_mem_keys hmem)
    have hunknown : unknownKeys [(key, value)] = [] :=
      unknownKeys_eq_nil fun hisKey => absurd hisKey hkey
    rw [if_neg hkey, hunknown, applyEntry_of_not_mem_keys hnot]
    rfl

/-- Reading the modifiers of a document reports its unknown keys. -/
theorem events_addEntries (h : (addEntries m entries).outcome = .ok m') :
    (addEntries m entries).events = (unknownKeys entries).map .unknownModifier := by
  induction entries generalizing m with
  | nil => rfl
  | cons entry rest ih =>
    rw [outcome_addEntries_cons] at h
    cases hread : Setting.read entry.1 entry.2 with
    | error fault =>
      rw [hread] at h
      cases h
    | ok setting? =>
      rw [hread] at h
      rw [events_addEntries_cons hread, ih h, ← List.map_append, ← unknownKeys_cons]

end Modifiers

/-! ### Leaves -/

namespace Shape

variable {ν α β ε : Type} {f : String → α → Traced ε β}

mutual

theorem events_settle {name : String} {shape : Shape ν α} {settled : Shape ν β}
    (h : (settle f name shape).outcome = .ok settled) :
    (settle f name shape).events =
      (leaves name shape).flatMap fun leaf => (f leaf.1 leaf.2).events := by
  cases shape with
  | constant value => rfl
  | leaf content =>
    obtain ⟨made, hmade, -⟩ := settle_leaf_eq_ok_iff.1 h
    rw [settle, Traced.events_bind_of_ok hmade, leaves, List.flatMap_singleton]
    exact List.append_nil _
  | node label fields =>
    obtain ⟨made, hmade, -⟩ := settle_node_eq_ok_iff.1 h
    rw [settle, Traced.events_bind_of_ok hmade, leaves, events_settleFields hmade]
    exact List.append_nil _

/-- A check that succeeds reports what the leaves report, one after the other. -/
theorem events_settleFields {fields : List (String × Shape ν α)}
    {settled : List (String × Shape ν β)} (h : (settleFields f fields).outcome = .ok settled) :
    (settleFields f fields).events =
      (leavesOf fields).flatMap fun leaf => (f leaf.1 leaf.2).events := by
  cases fields with
  | nil => rfl
  | cons field rest =>
    obtain ⟨name, shape⟩ := field
    rw [settleFields] at h ⊢
    obtain ⟨made, hmade, h⟩ := Traced.bind_eq_ok_iff.1 h
    obtain ⟨others, hothers, -⟩ := Traced.bind_eq_ok_iff.1 h
    rw [Traced.events_bind_of_ok hmade, Traced.events_bind_of_ok hothers, leavesOf,
      List.flatMap_append, events_settle hmade, events_settleFields hothers]
    exact congrArg _ (List.append_nil _)

end

end Shape

/-! ### Tokens -/

namespace Directive

/-- The tokens of a text that starts with a mark: what stands behind each of its dollar signs after
the head. Other texts have none. -/
def tokens (text : String) : List String :=
  match text.toList with
  | [] => []
  | mark :: rest =>
    if mark = '$' ∨ mark = '?' then (rest.splitOn '$').tail.map String.ofList else []

variable {sigil : Sigil} {head text : String} {written : List String} {d : Directive}

theorem tail_splitOn (cs : List Char) : (cs.splitOn '$').tail = (parts cs).2 := by
  rw [← Text.segments_eq_splitOn, parts]
  cases Text.segments '$' cs <;> rfl

theorem tokens_of_written (h : Written sigil head written text) : tokens text = written := by
  have hparts := parts_eq_iff.2 ⟨rfl, h.not_mem⟩
  have htail : (parts ("$".intercalate (head :: written)).toList).2.map String.ofList = written := by
    rw [hparts, List.map_map]
    simp
  rw [← tail_splitOn] at htail
  unfold tokens
  rw [h.toList_eq]
  cases sigil <;> exact htail

theorem tokens_of_not_opens (h : ∀ sigil : Sigil, ¬ sigil.Opens text) : tokens text = [] := by
  unfold tokens
  split
  · rfl
  · next mark rest htext =>
    rw [if_neg]
    rintro (rfl | rfl)
    · exact h .path (Sigil.opens_iff.2 ⟨rest, htext⟩)
    · exact h .binding (Sigil.opens_iff.2 ⟨rest, htext⟩)

/-- The options of a directive are as the tokens of its text say. -/
theorem saidBy_of_parse (h : parse text = .ok (some d)) : d.options.SaidBy (tokens text) := by
  obtain ⟨sigil, head, written, hwritten⟩ := exists_written_of_parse h
  rw [tokens_of_written hwritten]
  exact ((parse_eq_ok_iff hwritten).1 h).2.2

end Directive

/-! ### Prototypes -/

namespace Prototype

/-- The tokens of a prototype that are for no option, with the keys of their texts, depth first. -/
def unknownTokens (node : List (String × Json)) : List (String × String) :=
  (texts node).flatMap fun text =>
    (Directive.tokensFor none (Directive.tokens text.2)).map fun token => (text.1, token)

variable {language? : Option String} {key text : String}

theorem events_checkLeaf (directive : Directive) :
    (checkLeaf language? key (.ok directive)).events =
      directive.options.unknown.map (.unknownOption key) := by
  have hbest : ∀ best? : Except Error (Option String),
      ((.ofExcept best? : Traced Error (Option String)) >>= fun best? =>
        pure (⟨directive, best?⟩ : Leaf)).events = [] := by
    intro best?
    cases best? <;> rfl
  rw [checkLeaf, Traced.events_bind_of_ok rfl, Traced.events_bind_of_ok rfl, hbest,
    List.append_nil]
  rfl

/-- A text reports its tokens that are for no option. -/
theorem events_text {directive? : Option Directive} (h : Directive.parse text = .ok directive?) :
    ((Shape.leaves key (ofJson (.string text))).flatMap fun leaf =>
        (checkLeaf language? leaf.1 leaf.2).events) =
      (Directive.tokensFor none (Directive.tokens text)).map (.unknownOption key) := by
  rw [ofJson, h]
  cases directive? with
  | none =>
    rw [Directive.tokens_of_not_opens (Directive.parse_eq_none_iff_not_opens.1 h)]
    rfl
  | some directive =>
    rw [← (Directive.saidBy_of_parse h).unknown]
    dsimp only
    rw [Shape.leaves, List.flatMap_singleton, events_checkLeaf]

/-- The check of a prototype reports the tokens that are for no option. -/
theorem events_check {node : List (String × Json)} {fields : Checked}
    (h : (check language? (ofEntries node)).outcome = .ok fields) :
    (check language? (ofEntries node)).events =
      (unknownTokens node).map fun token => .unknownOption token.1 token.2 := by
  rw [check, Shape.events_settleFields h, leavesOf_ofEntries, List.flatMap_assoc, unknownTokens,
    List.map_flatMap]
  refine List.flatMap_congr fun text htext => ?_
  obtain ⟨⟨directive?, hparse⟩, -⟩ := not_offends_iff.1 (check_eq_ok_iff.1 ⟨fields, h⟩ text htext)
  rw [events_text hparse, List.map_map]
  rfl

/-- The steps of a compilation report one after the other. -/
theorem events_compile {entries node : List (String × Json)} {m : Modifiers} {form : OutputForm}
    {fields : Checked} (hm : (Modifiers.ofEntries entries).outcome = .ok m)
    (hlocate : locate (Modifiers.otherEntries entries) = .ok (form, node))
    (hcheck : (check m.language? (ofEntries node)).outcome = .ok fields) :
    (compile (.object entries)).events =
      (Modifiers.ofEntries entries).events ++ ((check m.language? (ofEntries node)).events ++
        (Plan.ofFields m fields).events m) := by
  have hm' : ((Modifiers.ofEntries entries).mapError Error.modifier).outcome = .ok m :=
    Except.mapError_eq_ok_iff.2 hm
  have hlocate' : (Traced.ofExcept (locate (Modifiers.otherEntries entries))).outcome =
      .ok (form, node) := hlocate
  rw [compile, Traced.events_bind_of_ok hm', Traced.events_bind_of_ok hlocate']
  dsimp only
  rw [Traced.events_bind_of_ok hcheck, Traced.events_bind_of_ok rfl]
  simp [Traced.mapError]

end Prototype

theorem filter_warn_eq_self {events : List Event} (h : ∀ event ∈ events, event.level = .warn) :
    events.filter (fun event => event.level = .warn) = events :=
  List.filter_eq_self.2 fun event hevent => decide_eq_true (h event hevent)

/-- A document that compiles is warned about its root keys that start like modifiers and are none,
in their order, and then about the tokens of its directives that are for no option, depth first and
each with the key of its directive. The options of a directive are what the other tokens say. -/
theorem warnings_of_compile {document : Json} {compiled : CompiledQuery}
    (h : (compile document).outcome = .ok compiled) :
    ∃ entries key value node, document = .object entries ∧
      Prototype.IsAt entries key value ∧ Prototype.Holds value node ∧
      (compile document).warnings =
        (Modifiers.unknownKeys entries).map .unknownModifier ++
          ((Prototype.unknownTokens node).map fun token => .unknownOption token.1 token.2) ∧
      ∀ text ∈ Prototype.texts node, ∀ directive, Directive.parse text.2 = .ok (some directive) →
        directive.options.SaidBy (Directive.tokens text.2) := by
  obtain ⟨entries, m, form, node, fields, rfl, hm, hlocate, hcheck, -⟩ := compile_eq_ok_iff.1 h
  obtain ⟨key, value, place, holds⟩ := Prototype.exists_locate_iff.1 ⟨form, hlocate⟩
  refine ⟨entries, key, value, node, rfl, place, holds, ?_, ?_⟩
  · have hplan :
        ((Plan.ofFields m fields).events m).filter (fun event => event.level = .warn) = [] := by
      unfold Plan.events
      split <;> rfl
    rw [Traced.warnings, Prototype.events_compile hm hlocate hcheck, Prototype.events_check hcheck,
      Modifiers.ofEntries, Modifiers.events_addEntries hm, List.filter_append, List.filter_append,
      hplan, List.append_nil, filter_warn_eq_self, filter_warn_eq_self]
    · intro event hevent
      obtain ⟨token, -, rfl⟩ := List.mem_map.1 hevent
      rfl
    · intro event hevent
      obtain ⟨key, -, rfl⟩ := List.mem_map.1 hevent
      rfl
  · intro text _ directive hparse
    exact Directive.saidBy_of_parse hparse

/-! ### Bridges

Bridges with the rivers that they cross, with options that are none at both levels. -/

namespace Bridges

/-- The prototype of a bridge. -/
def entries : List (String × Json) :=
  [("id", .string "?bridge$anchor$colour"),
    ("name", .string "$rdfs:label$list$$langTag$list:2$lang:de$lang"),
    ("river", .object [("kind", .string "river"),
      ("@id", .string "$dbo:crosses$required$x:y$x:y")])]

/-- The document. -/
def document : Json :=
  .object [("$limits", .number (.integer 5)), ("proto", .object entries),
    ("$lang", .string "it"), ("$colour", .string "red")]

/-- The modifiers of the document. -/
def modifiers : Modifiers where
  language? := some "it"

/-- The prototype as it was checked. -/
def checked : Prototype.Checked :=
  [("id", .leaf ⟨⟨.variable "?bridge", { anchor := true, unknown := ["colour"] }⟩, none⟩),
    ("name", .leaf ⟨⟨.path "rdfs:label", {
      list := true
      language? := some none
      unknown := ["langTag", "list:2"] }⟩, none⟩),
    ("river", .node () [("kind", .constant (.string "river")),
      ("@id", .leaf ⟨⟨.path "dbo:crosses", {
        required := true
        unknown := ["x:y", "x:y"] }⟩, none⟩)])]

/-- The compiled form of the document. -/
def compiled : CompiledQuery := (Plan.ofFields modifiers checked).compiled modifiers .plain

theorem outcome_document : (compile document).outcome = .ok compiled :=
  compile_eq_ok_iff.2 ⟨_, modifiers, .plain, entries, checked, rfl, rfl, rfl, rfl, rfl⟩

end Bridges

theorem warnings_of_compile_bridges :
    (compile Bridges.document).outcome = .ok Bridges.compiled ∧
    (compile Bridges.document).warnings =
      [.unknownModifier "$limits", .unknownModifier "$colour", .unknownOption "id" "colour",
        .unknownOption "name" "langTag", .unknownOption "name" "list:2",
        .unknownOption "@id" "x:y", .unknownOption "@id" "x:y"] := by
  refine ⟨Bridges.outcome_document, ?_⟩
  obtain ⟨entries, key, value, node, hdocument, place, holds, hwarnings, -⟩ :=
    warnings_of_compile Bridges.outcome_document
  obtain rfl := Json.object.inj hdocument
  cases place with
  | graph h => cases h
  | proto _ h =>
    obtain rfl := Option.some.inj h
    cases holds
    rw [hwarnings]
    decide

end QueryByExample
