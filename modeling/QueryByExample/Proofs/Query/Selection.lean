import QueryByExample.Proofs.Answer.Decoding
import QueryByExample.Proofs.Query.Pattern
/-!
# Selected expressions

The query of a document selects one expression for each directive of its prototype, in their order
and without repetitions, and its template reads the variables of the same directives. What else a
result holds does not reach the answer.

## Main definitions

- `Directive.Options.Selects`: the expression that options select for a variable.

## Main statements

- `Plan.selects_of_mem_leaves`: every leaf of a plan has the expression of its options.
- `Projection.map_text_unrepeated`: repetitions are left out by their text.
- `selected_of_compile`: a query selects what its template reads.
-/

namespace QueryByExample

/-- The expression that options select for the variable `name`, in a document of a language. A best
match takes precedence over an aggregate. -/
inductive Directive.Options.Selects (options : Directive.Options) (language? : Option String)
    (name : String) : String → Prop where
  | variable (best : options.bestLanguage? = none) (aggregate : options.aggregate? = none) :
      Selects options language? name name
  | aggregate {function : Aggregate} (best : options.bestLanguage? = none)
      (aggregate : options.aggregate? = some function) (distinct : options.distinct = false) :
      Selects options language? name
        ("(" ++ function.keyword ++ "(" ++ name ++ ") AS " ++ name ++ ")")
  | distinctAggregate {function : Aggregate} (best : options.bestLanguage? = none)
      (aggregate : options.aggregate? = some function) (distinct : options.distinct = true) :
      Selects options language? name
        ("(" ++ function.keyword ++ "(DISTINCT " ++ name ++ ") AS " ++ name ++ ")")
  | bestMatch {code? : Option String} {code : String}
      (best : options.bestLanguage? = some code?) (language : code?.or language? = some code) :
      Selects options language? name
        ("(sql:BEST_LANGMATCH(" ++ name ++ ", \"" ++ code ++ "\", \"en\") AS " ++ name ++ ")")

namespace Projection

theorem text_aggregate (function : Aggregate) (name : String) :
    (aggregate function false name).text =
      "(" ++ function.keyword ++ "(" ++ name ++ ") AS " ++ name ++ ")" := by
  have hempty : "(" ++ function.keyword ++ "(" ++ "" = "(" ++ function.keyword ++ "(" :=
    String.append_empty
  rw [← hempty]
  rfl

theorem text_aggregate_distinct (function : Aggregate) (name : String) :
    (aggregate function true name).text =
      "(" ++ function.keyword ++ "(DISTINCT " ++ name ++ ") AS " ++ name ++ ")" := by
  have hopen : "(" ++ function.keyword ++ "(" ++ "DISTINCT " =
      "(" ++ function.keyword ++ "(DISTINCT " := by
    rw [String.append_assoc]
    rfl
  rw [← hopen]
  rfl

/-- What is left of a filtered list without repetitions is what the filter leaves of the list
without repetitions. -/
theorem eraseDups_filter (keep : String → Bool) (texts : List String) :
    (texts.filter keep).eraseDups = texts.eraseDups.filter keep := by
  cases texts with
  | nil => rfl
  | cons text rest =>
    have ih := eraseDups_filter keep (rest.filter fun other => !other == text)
    rw [List.filter_filter] at ih
    by_cases hkeep : keep text = true
    · rw [List.filter_cons_of_pos hkeep, List.eraseDups_cons, List.eraseDups_cons,
        List.filter_cons_of_pos hkeep, List.filter_filter, ← ih]
      simp only [Bool.and_comm]
    · -- the text does not pass, so nothing that passes is equal to it
      have hpass : ∀ other ∈ rest, (keep other && !other == text) = keep other := by
        intro other _
        by_cases hother : other = text
        · subst hother
          simp [hkeep]
        · simp [hother]
      rw [List.filter_cons_of_neg hkeep, List.eraseDups_cons, List.filter_cons_of_neg hkeep, ← ih,
        List.filter_congr hpass]
termination_by texts.length
decreasing_by
  exact Nat.lt_succ_of_le (List.length_filter_le _ _)

/-- Expressions without repetitions have the texts of all without repetitions. -/
theorem map_text_unrepeated (expressions : List Projection) :
    (unrepeated expressions).map text = (expressions.map text).eraseDups := by
  induction expressions with
  | nil => rfl
  | cons p rest ih =>
    have hfilter : ((unrepeated rest).filter fun q => q.text != p.text).map text =
        ((unrepeated rest).map text).filter fun other => !other == p.text := by
      rw [List.filter_map]
      rfl
    rw [unrepeated, List.map_cons, hfilter, ih, ← eraseDups_filter, List.map_cons,
      List.eraseDups_cons]

end Projection

namespace Plan

/-- The language of the best match of a leaf is the one that its check found. -/
theorem bestLanguage_of_mem_leaves {document : Json} {m : Modifiers}
    {node : List (String × Json)} {fields : Prototype.Checked}
    (h : Prototype.Reads document m node fields) {leaf : String × Leaf}
    (hleaf : leaf ∈ (ofFields m fields).leaves) :
    Prototype.bestLanguage m.language? leaf.1 leaf.2.directive.options.bestLanguage? =
      .ok leaf.2.bestLanguage? := by
  obtain ⟨entries, form, -, -, -, hcheck⟩ := h
  have hall := Shape.forall_leaves_of_settleFields
    (P := fun key leaf => Prototype.bestLanguage m.language? key
      leaf.directive.options.bestLanguage? = .ok leaf.bestLanguage?)
    (fun key reading leaf hleaf => (Prototype.checkLeaf_eq_ok_iff.1 hleaf).2) hcheck
  have hmem : (leaf.1, leaf.2.checked) ∈ Shape.leavesOf fields := by
    rw [← checked_leaves m fields]
    exact List.mem_map_of_mem hleaf
  exact hall _ hmem

theorem Leaf.selects {leaf : Leaf} {language? : Option String} {key : String}
    (h : Prototype.bestLanguage language? key leaf.directive.options.bestLanguage? =
      .ok leaf.bestLanguage?) :
    leaf.directive.options.Selects language? leaf.name leaf.projection.text := by
  cases hoption : leaf.directive.options.bestLanguage? with
  | none =>
    rw [hoption, Prototype.bestLanguage] at h
    have hnone : leaf.bestLanguage? = none := (Except.ok.inj h).symm
    cases haggregate : leaf.directive.options.aggregate? with
    | none =>
      have htext : leaf.projection.text = leaf.name := by
        rw [Leaf.projection, hnone, haggregate]
        rfl
      rw [htext]
      exact .variable hoption haggregate
    | some function =>
      have htext : leaf.projection.text =
          (Projection.aggregate function leaf.directive.options.distinct leaf.name).text := by
        rw [Leaf.projection, hnone, haggregate]
      cases hdistinct : leaf.directive.options.distinct with
      | false =>
        rw [htext, hdistinct, Projection.text_aggregate]
        exact .aggregate hoption haggregate hdistinct
      | true =>
        rw [htext, hdistinct, Projection.text_aggregate_distinct]
        exact .distinctAggregate hoption haggregate hdistinct
  | some code? =>
    rw [hoption, Prototype.bestLanguage] at h
    cases hcode : code?.or language? with
    | none =>
      rw [hcode] at h
      cases h
    | some code =>
      rw [hcode] at h
      have hsome : leaf.bestLanguage? = some code := (Except.ok.inj h).symm
      have htext : leaf.projection.text = (Projection.bestMatch leaf.name code).text := by
        rw [Leaf.projection, hsome]
      rw [htext]
      exact .bestMatch hoption hcode

/-- The texts of the expressions of the leaves. -/
def expressions (plan : Plan) : List String := plan.leaves.map fun leaf => leaf.2.projection.text

theorem forall₂_selects {document : Json} {m : Modifiers} {node : List (String × Json)}
    {fields : Prototype.Checked} (h : Prototype.Reads document m node fields) :
    List.Forall₂ (fun leaf expression =>
        leaf.2.directive.options.Selects m.language? leaf.2.name expression)
      (ofFields m fields).leaves (ofFields m fields).expressions := by
  rw [expressions, List.forall₂_map_right_iff, List.forall₂_same]
  intro leaf hleaf
  exact Leaf.selects (bestLanguage_of_mem_leaves h hleaf)

/-- The template reads the variables of the leaves. -/
theorem columns_template (plan : Plan) :
    plan.template.columns = plan.leaves.map fun leaf => Variable.bare leaf.2.name := by
  rw [Template.columns, template, Shape.leavesOf_mapFields, List.map_map]
  rfl

theorem map_text_projection (plan : Plan) :
    plan.projection.map Projection.text = plan.expressions.eraseDups := by
  rw [projection, Projection.map_text_unrepeated, List.map_map]
  rfl

theorem isEmpty_projection (plan : Plan) : plan.projection.isEmpty = plan.leaves.isEmpty := by
  cases hleaves : plan.leaves with
  | nil =>
    rw [projection, hleaves]
    rfl
  | cons leaf rest =>
    rw [projection, hleaves]
    rfl

/-- Everything is selected only if there is no directive. -/
theorem selectLine_compiled {document : Json} {m : Modifiers} {node : List (String × Json)}
    {fields : Prototype.Checked} (form : OutputForm)
    (h : Prototype.Reads document m node fields) :
    ((ofFields m fields).compiled m form).query.selectLine =
      "SELECT " ++ (if m.distinct then "DISTINCT " else "") ++
        (if (Prototype.directives node).isEmpty then "*"
          else " ".intercalate (ofFields m fields).expressions.eraseDups) := by
  have hempty : (Prototype.directives node).isEmpty = (ofFields m fields).projection.isEmpty := by
    rw [← directives_leaves h, List.isEmpty_map, isEmpty_projection]
  rw [hempty, ← map_text_projection]
  rfl

end Plan

/-- The line that says what is selected follows the declarations of prefixes. -/
theorem SelectQuery.exists_text_eq (q : SelectQuery) :
    ∃ after, q.text =
      "\n".intercalate (q.modifiers.namespaceClauses ++ q.selectLine :: after) := by
  refine ⟨q.modifiers.graphClauses ++ ["WHERE \x7b"] ++
    q.modifiers.valuesClauses.map (fun clause => "  " ++ clause) ++ q.patternLines ++
    q.modifiers.filters.map (fun filter => "  FILTER(" ++ filter ++ ")") ++ ["\x7d"] ++
    q.modifiers.trailingClauses, ?_⟩
  rw [text, lines, bodyLines]
  simp only [List.append_assoc, List.cons_append, List.nil_append]

/-- The query of a document that compiles selects one expression for each directive, by its options
and without repetitions, and the template reads the variables of the same directives in the same
order. So the answer is the same for results whose rows agree on these variables. -/
theorem selected_of_compile {document : Json} {compiled : CompiledQuery}
    (h : (compile document).outcome = .ok compiled) :
    ∃ node fields expressions, Prototype.Reads document compiled.query.modifiers node fields ∧
      let m := compiled.query.modifiers
      let plan := Plan.ofFields m fields
      compiled = plan.compiled m compiled.form ∧
      plan.leaves.map (fun leaf => (leaf.1, leaf.2.directive)) = Prototype.directives node ∧
      compiled.template.columns = plan.leaves.map (fun leaf => Variable.bare leaf.2.name) ∧
      List.Forall₂ (fun leaf expression =>
        leaf.2.directive.options.Selects m.language? leaf.2.name expression)
        plan.leaves expressions ∧
      compiled.query.projection.map Projection.text = expressions.eraseDups ∧
      (∃ after, compiled.text = "\n".intercalate (m.namespaceClauses ++
        ("SELECT " ++ (if m.distinct then "DISTINCT " else "") ++
          (if (Prototype.directives node).isEmpty then "*"
            else " ".intercalate expressions.eraseDups)) :: after)) ∧
      ∀ (settings : Settings) (results others : ResultSet),
        List.Forall₂ (fun row other =>
          ∀ name ∈ compiled.template.columns, row.find? name = other.find? name)
          results.rows others.rows →
        compiled.assemble settings results = compiled.assemble settings others := by
  obtain ⟨node, fields, hreads, hcompiled⟩ := exists_plan_of_compile h
  generalize compiled.query.modifiers = m at hreads hcompiled ⊢
  generalize compiled.form = form at hcompiled ⊢
  subst hcompiled
  refine ⟨node, fields, (Plan.ofFields m fields).expressions, hreads, rfl,
    Plan.directives_leaves hreads, Plan.columns_template _, Plan.forall₂_selects hreads,
    Plan.map_text_projection _, ?_, ?_⟩
  · obtain ⟨after, hafter⟩ :=
      SelectQuery.exists_text_eq ((Plan.ofFields m fields).compiled m form).query
    refine ⟨after, ?_⟩
    rw [← Plan.selectLine_compiled form hreads]
    exact hafter
  · intro settings results others hrows
    exact CompiledQuery.assemble_congr _ settings hrows

/-! ### A document with expressions

Bands with the number of their members and their names in a language. -/

namespace Bands

/-- The prototype of a band; its albums are told apart by their titles. -/
def entries : List (String × Json) :=
  [("id", .string "?band"), ("name", .string "$foaf:name$bestlang"),
    ("members", .string "$dbo:bandMember$count$distinct"),
    ("debut", .string "$dbo:activeYear$min"),
    ("album", .object [("title", .string "?title$anchor"), ("artist", .string "?band")])]

/-- The document. -/
def document : Json := .object [("$lang", .string "it"), ("proto", .object entries)]

/-- The prototype as it was checked. -/
def checked : Prototype.Checked :=
  [("id", Places.leaf "?band" {}),
    ("name", .leaf ⟨⟨.path "foaf:name", { bestLanguage? := some none }⟩, some "it"⟩),
    ("members", Cities.leaf "dbo:bandMember" { aggregate? := some .count, distinct := true }),
    ("debut", Cities.leaf "dbo:activeYear" { aggregate? := some .min }),
    ("album", .node ()
      [("title", Places.leaf "?title" { anchor := true }), ("artist", Places.leaf "?band" {})])]

/-- The modifiers of the document. -/
def modifiers : Modifiers := { language? := some "it" }

/-- The compiled form of the document. -/
def compiled : CompiledQuery := (Plan.ofFields modifiers checked).compiled modifiers .plain

theorem outcome_document : (compile document).outcome = .ok compiled := by
  have hmodifiers : (Modifiers.ofEntries
      [("$lang", .string "it"), ("proto", .object entries)]).outcome = .ok modifiers := rfl
  have hcheck : (Prototype.check (some "it") (Prototype.ofEntries entries)).outcome =
      .ok checked := rfl
  exact compile_eq_ok_iff.2 ⟨_, modifiers, .plain, entries, checked, rfl, hmodifiers, rfl, hcheck,
    rfl⟩

/-- A row about a band. -/
def results : ResultSet := ⟨["band", "v1"], [Places.row none [("band", "quartet"), ("v1", "Q")]]⟩

/-- The same row with a column that the template does not read. -/
def others : ResultSet :=
  ⟨["rank"], [Places.row none [("band", "quartet"), ("rank", "3"), ("v1", "Q")]]⟩

end Bands

-- the band is read twice and selected once
example : Bands.compiled.template.columns = ["band", "v1", "v2", "v3", "title", "band"] := by
  decide

example : Bands.compiled.query.projection.map Projection.text =
    ["?band", "(sql:BEST_LANGMATCH(?v1, \"it\", \"en\") AS ?v1)",
      "(COUNT(DISTINCT ?v2) AS ?v2)", "(MIN(?v3) AS ?v3)", "?title"] := by decide

theorem selected_of_compile_bands :
    ((compile Bands.document).outcome = .ok Bands.compiled ∧
      List.Forall₂ (fun row other =>
        ∀ name ∈ Bands.compiled.template.columns, row.find? name = other.find? name)
        Bands.results.rows Bands.others.rows) ∧
    ∃ node fields expressions,
      Prototype.Reads Bands.document Bands.compiled.query.modifiers node fields ∧
      let m := Bands.compiled.query.modifiers
      let plan := Plan.ofFields m fields
      Bands.compiled = plan.compiled m Bands.compiled.form ∧
      plan.leaves.map (fun leaf => (leaf.1, leaf.2.directive)) = Prototype.directives node ∧
      Bands.compiled.template.columns = plan.leaves.map (fun leaf => Variable.bare leaf.2.name) ∧
      List.Forall₂ (fun leaf expression =>
        leaf.2.directive.options.Selects m.language? leaf.2.name expression)
        plan.leaves expressions ∧
      Bands.compiled.query.projection.map Projection.text = expressions.eraseDups ∧
      (∃ after, Bands.compiled.text = "\n".intercalate (m.namespaceClauses ++
        ("SELECT " ++ (if m.distinct then "DISTINCT " else "") ++
          (if (Prototype.directives node).isEmpty then "*"
            else " ".intercalate expressions.eraseDups)) :: after)) ∧
      ∀ (settings : Settings) (results others : ResultSet),
        List.Forall₂ (fun row other =>
          ∀ name ∈ Bands.compiled.template.columns, row.find? name = other.find? name)
          results.rows others.rows →
        Bands.compiled.assemble settings results = Bands.compiled.assemble settings others := by
  refine ⟨⟨Bands.outcome_document, ?_⟩, selected_of_compile Bands.outcome_document⟩
  exact .cons (by decide) .nil

end QueryByExample
