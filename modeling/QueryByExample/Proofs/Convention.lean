import QueryByExample.Proofs.Answer.Vocabulary
import QueryByExample.Proofs.Modifiers
import QueryByExample.Transform
/-!
# The two conventions of documents

A prototype may stand alone under `proto` or in an array under `@graph`. Both documents have the
same query, and their answers have the same entries up to the keys of tagged texts.

## Main definitions

- `Template.retag`: an entry in plain names, with the keywords of linked data.

## Main statements

- `Template.Retagged.eachItem_toJson`: related values have the same JSON form up to these keys.
- `CompiledQuery.assemble_graph`: the two answers to a plan.
- `compile_graph_and_plain`: the two conventions agree.
-/

namespace QueryByExample

namespace Instance

theorem jsonFields_eq_map (fields : List (String × Instance)) :
    jsonFields fields = fields.map fun field => (field.1, field.2.toJson) := by
  induction fields with
  | nil => rfl
  | cons field rest ih => simp [jsonFields, ih]

theorem jsonItems_eq_map (items : List Instance) : jsonItems items = items.map toJson := by
  induction items with
  | nil => rfl
  | cons item rest ih => simp [jsonItems, ih]

end Instance

namespace Template

/-- The keyword for the key of a part of a tagged text. -/
def keyword (key : String) : String :=
  if key = Vocabulary.plain.languageKey then Vocabulary.jsonLd.languageKey
  else if key = Vocabulary.plain.valueKey then Vocabulary.jsonLd.valueKey
  else key

/-- Change a value, or every item of an array. -/
def eachItem (f : Json → Json) : Json → Json
  | .array items => .array (items.map f)
  | value => f value

mutual

/-- A value of a slot with keywords instead of plain names in its tagged texts. The objects of a
leaf are tagged texts; those of a node are searched field by field. -/
def retag : Slot → Json → Json
  | .constant _, value => value
  | .leaf _, .object entries => .object (entries.map fun entry => (keyword entry.1, entry.2))
  | .leaf _, value => value
  | .node _ slots, .object entries =>
    .object (entries.map fun entry => (entry.1, retagAt slots entry.1 entry.2))
  | .node _ _, value => value

/-- The value of a field, changed in the way of its slot. -/
def retagAt : List (String × Slot) → String → Json → Json
  | [], _, value => value
  | (name, slot) :: rest, key, value =>
    if name = key then eachItem (retag slot) value else retagAt rest key value

end

variable {slot : Slot} {x x' v v' : Instance}

theorem retagAt_of_find? {slots : List (String × Slot)} {key : String}
    (h : Fields.find? key slots = some slot) (value : Json) :
    retagAt slots key value = eachItem (retag slot) value := by
  induction slots with
  | nil => cases h
  | cons field rest ih =>
    obtain ⟨name, first⟩ := field
    rw [Fields.find?] at h
    by_cases hname : name = key
    · rw [if_pos hname] at h
      obtain rfl := Option.some.inj h
      rw [retagAt, if_pos hname]
    · rw [if_neg hname] at h
      rw [retagAt, if_neg hname, ih h]

theorem eachItem_retag_constant (given value : Json) :
    eachItem (retag (.constant given)) value = value := by
  have hid : retag (.constant given) = id := funext fun value => by rw [retag, id]
  rw [hid]
  cases value <;> simp [eachItem]

theorem retag_literal (column : Column) (value : Literal) :
    retag (.leaf column) value.toJson = value.toJson ∧
      eachItem (retag (.leaf column)) value.toJson = value.toJson := by
  cases value with
  | double x =>
    rw [Literal.toJson]
    split <;> exact ⟨rfl, rfl⟩
  | _ => exact ⟨rfl, rfl⟩

/-- Single values are changed as a whole, unless they are constants, which are not changed. -/
theorem Retagged.eachItem_retag (h : Retagged slot x x') (hitem : x.isList = false) :
    eachItem (retag slot) x.toJson = retag slot x.toJson := by
  cases h with
  | constant => rw [eachItem_retag_constant, retag]
  | @literal column value =>
    obtain ⟨hvalue, hitem⟩ := retag_literal column value
    exact hitem.trans hvalue.symm
  | list => cases hitem
  | _ => rfl

/-- Values that differ in the keys of tagged texts have the same JSON form up to these keys. -/
theorem Retagged.eachItem_toJson (h : Retagged slot v v') :
    eachItem (retag slot) v.toJson = v'.toJson := by
  induction h with
  | constant => exact eachItem_retag_constant _ _
  | @literal column value => exact (retag_literal column value).2
  | tagged => rfl
  | @object label slots fields fields' distinct names known values ih =>
    have hrel := (Retagged.object label distinct names known values).rel_find?
    have hfields : List.Forall₂ (fun field field' => field.1 = field'.1 ∧
        retagAt slots field.1 field.2.toJson = field'.2.toJson) fields fields' := by
      refine Fields.forall₂_of_rel_find?
        (S := fun key v v' => retagAt slots key v.toJson = v'.toJson) distinct names fun key => ?_
      refine Fields.rel_imp (hrel key) fun v v' hv hv' hslot => ?_
      obtain ⟨slot, hslot, -⟩ := hslot
      rw [retagAt_of_find? hslot]
      exact ih key slot v v' hslot hv hv'
    have hjson : (Instance.jsonFields fields).map
        (fun entry => (entry.1, retagAt slots entry.1 entry.2)) = Instance.jsonFields fields' := by
      rw [Instance.jsonFields_eq_map, Instance.jsonFields_eq_map, List.map_map]
      rw [← List.forall₂_eq_eq_eq]
      simp only [List.forall₂_map_left_iff, List.forall₂_map_right_iff]
      exact hfields.imp fun field field' h => Prod.ext h.1 h.2
    simp only [Instance.toJson, eachItem, retag, hjson]
  | @list slot items items' length flat each ih =>
    have hitems : items.map (fun x => retag slot x.toJson) = items'.map Instance.toJson := by
      rw [← List.forall₂_eq_eq_eq]
      simp only [List.forall₂_map_left_iff, List.forall₂_map_right_iff]
      refine List.forall₂_iff_get.2 ⟨length, fun i hi hi' => ?_⟩
      have hx := List.getElem?_eq_getElem hi
      have hx' := List.getElem?_eq_getElem hi'
      have hitem := flat _ (List.getElem_mem hi)
      exact ((each i _ _ hx hx').eachItem_retag hitem).symm.trans (ih i _ _ hx hx')
    simp only [Instance.toJson, eachItem, Instance.jsonItems_eq_map, List.map_map]
    exact congrArg Json.array hitems

-- a nested object that looks like a part of a tagged text keeps its keys
example :
    retag (.node ⟨none, false⟩ [("name", .leaf ⟨"name", none, none, false⟩),
        ("part", .node ⟨none, false⟩ [("value", .leaf ⟨"part", none, none, false⟩)])])
      (.object [("name", .object [("language", .string "en"), ("value", .string "pier")]),
        ("part", .object [("value", .string "mole")])]) =
      .object [("name", .object [("@language", .string "en"), ("@value", .string "pier")]),
        ("part", .object [("value", .string "mole")])] := rfl

/-- Merging the same rows in both vocabularies gives the same entries up to these keys. -/
theorem toJson_mergeEntities {template : Template}
    (hsound : Sound (.node template.label template.fields)) (tags : TagDisplay) (rows : List Row) :
    (mergeEntities (rows.map (decodeRow ⟨tags, .jsonLd⟩ template))).map Entity.toJson =
      (mergeEntities (rows.map (decodeRow ⟨tags, .plain⟩ template))).map fun e =>
        retag (.node template.label template.fields) e.toJson := by
  symm
  rw [← List.forall₂_eq_eq_eq]
  simp only [List.forall₂_map_left_iff, List.forall₂_map_right_iff]
  refine (retagged_mergeEntities hsound tags rows).imp fun e e' he => ?_
  exact (he.eachItem_retag rfl).symm.trans he.eachItem_toJson

end Template

/-! ### Prototypes -/

namespace Prototype

theorem locate_plain {entries node : List (String × Json)}
    (hgraph : Fields.find? "@graph" entries = none)
    (hproto : Fields.find? "proto" entries = some (.object node)) :
    locate (Modifiers.otherEntries entries) = .ok (.plain, node) := by
  rw [locate_otherEntries, locate, hgraph, hproto]
  rfl

theorem locate_graph {entries node : List (String × Json)} {others : List Json}
    (hgraph : Fields.find? "@graph" entries = some (.array (.object node :: others))) :
    locate (Modifiers.otherEntries entries) =
      .ok (.graph (Fields.find? "@context" entries), node) := by
  rw [locate_otherEntries, locate, hgraph]
  rfl

end Prototype

/-! ### Answers -/

namespace CompiledQuery

/-- A page is cut in the same way whatever the entries are. -/
theorem map_page {α : Type} (f : Entity → α) (compiled : CompiledQuery) (entries : List Entity) :
    (compiled.page entries).map f =
      compiled.pagination?.elim (entries.map f) fun page => page.apply (entries.map f) := by
  unfold page
  cases compiled.pagination? with
  | none => rfl
  | some page =>
    obtain ⟨limit?, offset?⟩ := page
    cases limit? with
    | none => simp [Pagination.apply, Pagination.truncate, List.map_drop]
    | some limit => simp [Pagination.apply, Pagination.truncate, List.map_drop, List.map_take]

/-- The answers to a prototype on its own and in a graph have the same entries up to the keys of
tagged texts. -/
theorem assemble_graph {plan : Plan}
    (hsound : Template.Sound (.node plan.template.label plan.template.fields)) (m : Modifiers)
    (context? : Option Json) (settings : Settings) (results : ResultSet) :
    ∃ entries, (plan.compiled m .plain).assemble settings results = .array entries ∧
      (plan.compiled m (.graph context?)).assemble settings results =
        .object [("@context", settings.context context?),
          ("@graph", .array (entries.map
            (Template.retag (.node plan.template.label plan.template.fields))))] := by
  let plain := plan.compiled m .plain
  let graph := plan.compiled m (.graph context?)
  have hentries : (graph.entries settings results).map Entity.toJson =
      (plain.entries settings results).map fun e =>
        Template.retag (.node plan.template.label plan.template.fields) e.toJson :=
    Template.toJson_mergeEntities hsound (m.tags?.getD settings.tags) results.rows
  have hpage : (graph.page (graph.entries settings results)).map Entity.toJson =
      ((plain.page (plain.entries settings results)).map Entity.toJson).map
        (Template.retag (.node plan.template.label plan.template.fields)) := by
    rw [List.map_map, map_page, map_page, hentries]
    rfl
  refine ⟨_, rfl, ?_⟩
  rw [← hpage]
  rfl

end CompiledQuery

/-- The two conventions agree: a prototype on its own and the same prototype at the head of a graph,
beside the same modifiers, fail with the same error or have the same query, and for all results the
entries of their answers are the same up to the keys of tagged texts. -/
theorem compile_graph_and_plain {plain graph node : List (String × Json)} {others : List Json}
    (hnode : (Json.object node).WellFormed)
    (hmodifiers : (plain.filter fun entry => Modifiers.isKey entry.1) =
      graph.filter fun entry => Modifiers.isKey entry.1)
    (hproto : Fields.find? "@graph" plain = none ∧
      Fields.find? "proto" plain = some (.object node))
    (hgraph : Fields.find? "@graph" graph = some (.array (.object node :: others))) :
    (∃ error, (compile (.object plain)).outcome = .error error ∧
      (compile (.object graph)).outcome = .error error) ∨
    ∃ compiled compiled', (compile (.object plain)).outcome = .ok compiled ∧
      (compile (.object graph)).outcome = .ok compiled' ∧
      compiled'.text = compiled.text ∧
      compiled'.query.projection = compiled.query.projection ∧
      compiled'.template = compiled.template ∧
      compiled'.tags? = compiled.tags? ∧
      compiled'.pagination? = compiled.pagination? ∧
      ∀ settings results, ∃ entries,
        compiled.assemble settings results = .array entries ∧
        compiled'.assemble settings results =
          .object [("@context", settings.context (Fields.find? "@context" graph)),
            ("@graph", .array (entries.map (Template.retag
              (.node compiled.template.label compiled.template.fields))))] := by
  rw [outcome_compile_object, outcome_compile_object, ← Modifiers.ofEntries_congr hmodifiers,
    Prototype.locate_plain hproto.1 hproto.2, Prototype.locate_graph hgraph]
  -- the first step that fails is the same one, since both documents have the same steps
  cases (Modifiers.ofEntries plain).outcome with
  | error fault => exact Or.inl ⟨_, rfl, rfl⟩
  | ok m =>
    cases hcheck : (Prototype.check m.language? (Prototype.ofEntries node)).outcome with
    | error fault =>
      refine Or.inl ⟨fault, ?_, ?_⟩
      · simp [Except.mapError, Except.bind, hcheck]
      · simp [Except.mapError, Except.bind, hcheck]
    | ok fields =>
      have hsound := Template.sound_of_check hnode hcheck
      refine Or.inr ⟨(Plan.ofFields m fields).compiled m .plain,
        (Plan.ofFields m fields).compiled m (.graph (Fields.find? "@context" graph)), ?_, ?_,
        rfl, rfl, rfl, rfl, rfl, ?_⟩
      · simp [Except.mapError, Except.bind, hcheck]
      · simp [Except.mapError, Except.bind, hcheck]
      · exact CompiledQuery.assemble_graph hsound m _

namespace Places

/-- The document with a page of one entry. -/
def plainPage : List (String × Json) :=
  [("$limit", .number (.integer 1)), ("$limitMode", .string "library"), ("proto", .object entries)]

/-- The same request as a graph. -/
def graphPage : List (String × Json) :=
  [("$limit", .number (.integer 1)), ("@context", .string "places"),
    ("$limitMode", .string "library"), ("@graph", .array [.object entries, .null])]

theorem wellFormed_entries : (Json.object entries).WellFormed := by
  have hdocument := wellFormed_document
  rw [document, Json.wellFormed_object_iff] at hdocument
  exact hdocument.2 ("proto", .object entries) List.mem_cons_self

end Places

theorem compile_graph_and_plain_places :
    ((Json.object Places.entries).WellFormed ∧
      (Places.plainPage.filter fun entry => Modifiers.isKey entry.1) =
        Places.graphPage.filter (fun entry => Modifiers.isKey entry.1) ∧
      (Fields.find? "@graph" Places.plainPage = none ∧
        Fields.find? "proto" Places.plainPage = some (.object Places.entries)) ∧
      Fields.find? "@graph" Places.graphPage = some (.array [.object Places.entries, .null])) ∧
    ((∃ error, (compile (.object Places.plainPage)).outcome = .error error ∧
      (compile (.object Places.graphPage)).outcome = .error error) ∨
    ∃ compiled compiled', (compile (.object Places.plainPage)).outcome = .ok compiled ∧
      (compile (.object Places.graphPage)).outcome = .ok compiled' ∧
      compiled'.text = compiled.text ∧
      compiled'.query.projection = compiled.query.projection ∧
      compiled'.template = compiled.template ∧
      compiled'.tags? = compiled.tags? ∧
      compiled'.pagination? = compiled.pagination? ∧
      ∀ settings results, ∃ entries,
        compiled.assemble settings results = .array entries ∧
        compiled'.assemble settings results =
          .object [("@context", settings.context (Fields.find? "@context" Places.graphPage)),
            ("@graph", .array (entries.map (Template.retag
              (.node compiled.template.label compiled.template.fields))))]) :=
  ⟨⟨Places.wellFormed_entries, rfl, ⟨rfl, rfl⟩, rfl⟩,
    compile_graph_and_plain Places.wellFormed_entries rfl ⟨rfl, rfl⟩ rfl⟩

end QueryByExample
