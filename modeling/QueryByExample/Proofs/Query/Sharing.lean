import Mathlib.Data.List.Nodup
import QueryByExample.Proofs.Query.Selection
/-!
# Shared variables

Several leaves of a prototype may share a variable. Repetitions among the selected expressions are
left out by their text, so a shared variable is selected by one expression as long as its leaves
have options that agree on the best match and on the aggregate. Two leaves that do not agree both
have their expression in the query.

## Main definitions

- `Directive.Options.Alike`: two options that select the same expression for a variable.

## Main statements

- `Projection.eq_of_text_eq`: expressions for one variable are told apart by their texts.
- `projected_of_compile`: two expressions of a query project the same variable exactly if leaves
  that share it are not alike.
-/

namespace QueryByExample

/-- Options that select the same expression for a variable, in a document of a language. -/
def Directive.Options.Alike (language? : Option String) (a b : Directive.Options) : Prop :=
  a.bestLanguage?.map (·.or language?) = b.bestLanguage?.map (·.or language?) ∧
    (a.bestLanguage? = none →
      a.aggregate? = b.aggregate? ∧ (a.aggregate?.isSome → a.distinct = b.distinct))

namespace Projection

/-! ### Expressions for one variable -/

theorem text_aggregate_mark (function : Aggregate) (distinct : Bool) (name : String) :
    (aggregate function distinct name).text =
      "(" ++ function.keyword ++ "(" ++ (if distinct then "DISTINCT " else "") ++ name ++
        ") AS " ++ name ++ ")" := rfl

theorem text_bestMatch (name code : String) :
    (bestMatch name code).text =
      "(sql:BEST_LANGMATCH(" ++ name ++ ", \"" ++ code ++ "\", \"en\") AS " ++ name ++ ")" := rfl

theorem name_lt_text_aggregate (function : Aggregate) (distinct : Bool) (name : String) :
    name.length < (aggregate function distinct name).text.length := by
  have hclosing : ")".length = 1 := rfl
  simp only [text_aggregate_mark, String.length_append, hclosing]
  omega

theorem name_lt_text_bestMatch (name code : String) :
    name.length < (bestMatch name code).text.length := by
  have hclosing : ")".length = 1 := rfl
  simp only [text_bestMatch, String.length_append, hclosing]
  omega

/-- A keyword is known from the text that it opens. -/
theorem keyword_cancel {f g : Aggregate} {xs ys : List Char}
    (h : f.keyword.toList ++ '(' :: xs = g.keyword.toList ++ '(' :: ys) : f = g ∧ xs = ys := by
  cases f <;> cases g <;> simp_all [Aggregate.keyword]

theorem toList_text_aggregate (function : Aggregate) (distinct : Bool) (name : String) :
    (aggregate function distinct name).text.toList =
      '(' :: (function.keyword.toList ++ '(' :: ((if distinct then "DISTINCT " else "").toList ++
        (name ++ ") AS " ++ name ++ ")").toList)) := by
  have hopening : "(".toList = ['('] := rfl
  simp only [text_aggregate_mark, String.toList_append, hopening, List.append_assoc,
    List.cons_append, List.nil_append]

theorem aggregate_text_ne_bestMatch (function : Aggregate) (distinct : Bool) (name code : String) :
    (aggregate function distinct name).text ≠ (bestMatch name code).text := by
  intro h
  -- no keyword has a small letter
  have hsecond := congrArg (fun text => text.toList[1]?) h
  have hopening : "(sql:BEST_LANGMATCH(".toList = '(' :: 's' :: "ql:BEST_LANGMATCH(".toList := rfl
  simp only [toList_text_aggregate] at hsecond
  simp only [text_bestMatch, String.toList_append, hopening, List.cons_append] at hsecond
  cases function <;> simp [Aggregate.keyword] at hsecond

theorem aggregate_text_inj {f g : Aggregate} {d e : Bool} {name : String}
    (h : (aggregate f d name).text = (aggregate g e name).text) : f = g ∧ d = e := by
  have hlist := congrArg String.toList h
  rw [toList_text_aggregate, toList_text_aggregate] at hlist
  obtain ⟨hfunction, hrest⟩ := keyword_cancel (List.cons.inj hlist).2
  have hmark := String.toList_inj.1 (List.append_cancel_right hrest)
  refine ⟨hfunction, ?_⟩
  match d, e, hmark with
  | true, true, _ | false, false, _ => rfl
  | true, false, hmark | false, true, hmark => exact absurd hmark (by decide)

theorem bestMatch_text_inj {name c d : String}
    (h : (bestMatch name c).text = (bestMatch name d).text) : c = d := by
  have hlist := congrArg String.toList h
  rw [text_bestMatch, text_bestMatch] at hlist
  simp only [String.toList_append, List.append_assoc, List.append_cancel_left_eq] at hlist
  exact String.toList_inj.1 (List.append_cancel_right hlist)

/-- Expressions for one variable are told apart by their texts. -/
theorem eq_of_text_eq {p q : Projection} (hname : p.name = q.name) (htext : p.text = q.text) :
    p = q := by
  -- the texts of different kinds differ by their lengths or by their second characters
  match p, q, hname with
  | .variable n, .variable _, rfl => rfl
  | .variable n, .aggregate g e _, rfl =>
    exact absurd (congrArg String.length htext) (name_lt_text_aggregate g e n).ne
  | .variable n, .bestMatch _ c, rfl =>
    exact absurd (congrArg String.length htext) (name_lt_text_bestMatch n c).ne
  | .aggregate f d n, .variable _, rfl =>
    exact absurd (congrArg String.length htext) (name_lt_text_aggregate f d n).ne'
  | .aggregate f d n, .aggregate g e _, rfl =>
    obtain ⟨rfl, rfl⟩ := aggregate_text_inj htext
    rfl
  | .aggregate f d n, .bestMatch _ c, rfl =>
    exact absurd htext (aggregate_text_ne_bestMatch f d n c)
  | .bestMatch n c, .variable _, rfl =>
    exact absurd (congrArg String.length htext) (name_lt_text_bestMatch n c).ne'
  | .bestMatch n c, .aggregate g e _, rfl =>
    exact absurd htext.symm (aggregate_text_ne_bestMatch g e n c)
  | .bestMatch n c, .bestMatch _ c', rfl => rw [bestMatch_text_inj htext]

/-! ### What is left of a list of expressions -/

theorem mem_of_mem_unrepeated {p : Projection} {expressions : List Projection}
    (h : p ∈ unrepeated expressions) : p ∈ expressions := by
  induction expressions with
  | nil => exact h
  | cons q rest ih =>
    rcases List.mem_cons.1 h with rfl | h
    · exact List.mem_cons_self
    · exact List.mem_cons_of_mem _ (ih (List.mem_of_mem_filter h))

theorem pairwise_unrepeated (expressions : List Projection) :
    (unrepeated expressions).Pairwise (·.text ≠ ·.text) := by
  induction expressions with
  | nil => exact .nil
  | cons p rest ih =>
    refine List.pairwise_cons.2 ⟨?_, ih.filter _⟩
    intro q hq
    have hne : (q.text != p.text) = true := (List.mem_filter.1 hq).2
    exact fun h => (bne_iff_ne.1 hne) h.symm

/-- The text of every expression is kept. -/
theorem exists_mem_unrepeated {p : Projection} {expressions : List Projection}
    (h : p ∈ expressions) : ∃ q ∈ unrepeated expressions, q.text = p.text := by
  have htext : p.text ∈ (unrepeated expressions).map text := by
    rw [map_text_unrepeated, List.mem_eraseDups]
    exact List.mem_map_of_mem h
  exact List.mem_map.1 htext

end Projection

namespace Plan

theorem Leaf.name_projection (leaf : Leaf) : leaf.projection.name = leaf.name := by
  unfold Leaf.projection
  split <;> rfl

/-- A best match that was found is for the language of the option, else for that of the
document. -/
theorem map_or_of_bestLanguage {language? : Option String} {key : String}
    {option? : Option (Option String)} {best? : Option String}
    (h : Prototype.bestLanguage language? key option? = .ok best?) :
    option?.map (·.or language?) = best?.map some := by
  cases option? with
  | none =>
    obtain rfl : none = best? := Except.ok.inj h
    rfl
  | some code? =>
    rw [Prototype.bestLanguage] at h
    cases hcode : code?.or language? with
    | none =>
      rw [hcode] at h
      cases h
    | some code =>
      rw [hcode] at h
      obtain rfl : some code = best? := Except.ok.inj h
      exact congrArg some hcode

/-- Leaves that share a variable have the same expression exactly if their options are alike. -/
theorem Leaf.projection_eq_iff {a b : Leaf} {language? : Option String} {key key' : String}
    (ha : Prototype.bestLanguage language? key a.directive.options.bestLanguage? =
      .ok a.bestLanguage?)
    (hb : Prototype.bestLanguage language? key' b.directive.options.bestLanguage? =
      .ok b.bestLanguage?)
    (hname : a.name = b.name) :
    a.projection = b.projection ↔
      a.directive.options.Alike language? b.directive.options := by
  have hbest := map_or_of_bestLanguage ha
  have hnone : a.directive.options.bestLanguage? = none ↔ a.bestLanguage? = none := by
    rw [← Option.map_eq_none_iff (f := (·.or language?)), hbest, Option.map_eq_none_iff]
  rw [Directive.Options.Alike, hbest, map_or_of_bestLanguage hb, hnone,
    (Option.map_injective (Option.some_injective String)).eq_iff]
  unfold Leaf.projection
  cases a.bestLanguage? with
  | some code =>
    cases b.bestLanguage? with
    | some code' => simp [hname]
    | none => cases b.directive.options.aggregate? <;> simp
  | none =>
    cases b.bestLanguage? with
    | some code' => cases a.directive.options.aggregate? <;> simp
    | none =>
      cases a.directive.options.aggregate? <;> cases b.directive.options.aggregate? <;>
        simp [hname]

variable {document : Json} {m : Modifiers} {node : List (String × Json)}
  {fields : Prototype.Checked}

/-- Two expressions of a plan differ in their texts; if they project the same variable, leaves that
share it are not alike. -/
theorem pairwise_projection (h : Prototype.Reads document m node fields) :
    (ofFields m fields).projection.Pairwise fun p q => p.text ≠ q.text ∧
      (p.name = q.name → ∃ a ∈ (ofFields m fields).leaves, ∃ b ∈ (ofFields m fields).leaves,
        a.2.projection = p ∧ b.2.projection = q ∧ a.2.name = b.2.name ∧
        ¬ a.2.directive.options.Alike m.language? b.2.directive.options) := by
  refine List.Pairwise.imp_of_mem ?_ (Projection.pairwise_unrepeated _)
  intro p q hp hq htext
  refine ⟨htext, fun hname => ?_⟩
  obtain ⟨a, ha, rfl⟩ := List.mem_map.1 (Projection.mem_of_mem_unrepeated hp)
  obtain ⟨b, hb, rfl⟩ := List.mem_map.1 (Projection.mem_of_mem_unrepeated hq)
  rw [Leaf.name_projection, Leaf.name_projection] at hname
  refine ⟨a, ha, b, hb, rfl, rfl, hname, fun halike => htext ?_⟩
  rw [(Leaf.projection_eq_iff (bestLanguage_of_mem_leaves h ha) (bestLanguage_of_mem_leaves h hb)
    hname).2 halike]

/-- Leaves that share a variable both have their expression, and it is the same one exactly if they
are alike. -/
theorem exists_projections (h : Prototype.Reads document m node fields) {a b : String × Leaf}
    (ha : a ∈ (ofFields m fields).leaves) (hb : b ∈ (ofFields m fields).leaves)
    (hname : a.2.name = b.2.name) :
    ∃ p ∈ (ofFields m fields).projection, ∃ q ∈ (ofFields m fields).projection,
      p.text = a.2.projection.text ∧ q.text = b.2.projection.text ∧
      (p = q ↔ a.2.directive.options.Alike m.language? b.2.directive.options) := by
  have hkept {leaf : String × Leaf} (hleaf : leaf ∈ (ofFields m fields).leaves) :
      ∃ p ∈ (ofFields m fields).projection, p.text = leaf.2.projection.text :=
    Projection.exists_mem_unrepeated (List.mem_map_of_mem hleaf)
  obtain ⟨p, hp, hptext⟩ := hkept ha
  obtain ⟨q, hq, hqtext⟩ := hkept hb
  refine ⟨p, hp, q, hq, hptext, hqtext, ?_⟩
  rw [← Leaf.projection_eq_iff (bestLanguage_of_mem_leaves h ha) (bestLanguage_of_mem_leaves h hb)
    hname]
  constructor
  · rintro rfl
    apply Projection.eq_of_text_eq
    · rw [Leaf.name_projection, Leaf.name_projection, hname]
    · exact hptext.symm.trans hqtext
  · intro hsame
    have hnodup : ((ofFields m fields).projection.map Projection.text).Nodup :=
      List.pairwise_map.2 (Projection.pairwise_unrepeated _)
    exact List.inj_on_of_nodup_map hnodup hp hq (by rw [hptext, hqtext, hsame])

end Plan

/-- In the query of a document that compiles, no two expressions have the same text. Two of them
project the same variable only where leaves that are not alike share it, and two such leaves always
have their two expressions in the query. -/
theorem projected_of_compile {document : Json} {compiled : CompiledQuery}
    (h : (compile document).outcome = .ok compiled) :
    ∃ node fields, Prototype.Reads document compiled.query.modifiers node fields ∧
      let m := compiled.query.modifiers
      let plan := Plan.ofFields m fields
      compiled = plan.compiled m compiled.form ∧
      plan.leaves.map (fun leaf => (leaf.1, leaf.2.directive)) = Prototype.directives node ∧
      compiled.query.projection.Pairwise (fun p q => p.text ≠ q.text ∧
        (p.name = q.name → ∃ a ∈ plan.leaves, ∃ b ∈ plan.leaves,
          a.2.projection = p ∧ b.2.projection = q ∧ a.2.name = b.2.name ∧
          ¬ a.2.directive.options.Alike m.language? b.2.directive.options)) ∧
      ∀ a ∈ plan.leaves, ∀ b ∈ plan.leaves, a.2.name = b.2.name →
        ∃ p ∈ compiled.query.projection, ∃ q ∈ compiled.query.projection,
          p.text = a.2.projection.text ∧ q.text = b.2.projection.text ∧
          (p = q ↔ a.2.directive.options.Alike m.language? b.2.directive.options) := by
  obtain ⟨node, fields, hreads, hcompiled⟩ := exists_plan_of_compile h
  have hprojection : compiled.query.projection =
      (Plan.ofFields compiled.query.modifiers fields).projection :=
    congrArg (fun compiled => compiled.query.projection) hcompiled
  refine ⟨node, fields, hreads, hcompiled, Plan.directives_leaves hreads, ?_, ?_⟩
  · rw [hprojection]
    exact Plan.pairwise_projection hreads
  · intro a ha b hb hname
    rw [hprojection]
    exact Plan.exists_projections hreads ha hb hname

/-! ### Choirs

Choirs with their singers and the number of them, under one variable. -/

namespace Choirs

def entries : List (String × Json) :=
  [("id", .string "?choir"), ("singers", .string "$dbo:member$var:singer$count"),
    ("singer", .string "$dbo:member$var:singer"),
    ("home", .object [("id", .string "$dbo:city"), ("choir", .string "?choir")])]

def document : Json := .object [("proto", .object entries)]

def checked : Prototype.Checked :=
  [("id", Places.leaf "?choir" {}),
    ("singers",
      Cities.leaf "dbo:member" { chosenVariable? := some "?singer", aggregate? := some .count }),
    ("singer", Cities.leaf "dbo:member" { chosenVariable? := some "?singer" }),
    ("home", .node () [("id", Cities.leaf "dbo:city" {}), ("choir", Places.leaf "?choir" {})])]

def compiled : CompiledQuery := (Plan.ofFields {} checked).compiled {} .plain

theorem outcome_check :
    (Prototype.check none (Prototype.ofEntries entries)).outcome = .ok checked := rfl

theorem outcome_document : (compile document).outcome = .ok compiled :=
  compile_eq_ok_iff.2 ⟨_, {}, .plain, entries, checked, rfl, rfl, rfl, outcome_check, rfl⟩

end Choirs

theorem projected_of_compile_choirs :
    (compile Choirs.document).outcome = .ok Choirs.compiled ∧
    ∃ node fields, Prototype.Reads Choirs.document Choirs.compiled.query.modifiers node fields ∧
      let m := Choirs.compiled.query.modifiers
      let plan := Plan.ofFields m fields
      Choirs.compiled = plan.compiled m Choirs.compiled.form ∧
      plan.leaves.map (fun leaf => (leaf.1, leaf.2.directive)) = Prototype.directives node ∧
      Choirs.compiled.query.projection.Pairwise (fun p q => p.text ≠ q.text ∧
        (p.name = q.name → ∃ a ∈ plan.leaves, ∃ b ∈ plan.leaves,
          a.2.projection = p ∧ b.2.projection = q ∧ a.2.name = b.2.name ∧
          ¬ a.2.directive.options.Alike m.language? b.2.directive.options)) ∧
      ∀ a ∈ plan.leaves, ∀ b ∈ plan.leaves, a.2.name = b.2.name →
        ∃ p ∈ Choirs.compiled.query.projection, ∃ q ∈ Choirs.compiled.query.projection,
          p.text = a.2.projection.text ∧ q.text = b.2.projection.text ∧
          (p = q ↔ a.2.directive.options.Alike m.language? b.2.directive.options) :=
  ⟨Choirs.outcome_document, projected_of_compile Choirs.outcome_document⟩

-- the choir is shared by leaves that are alike, the singer is not
example : Choirs.compiled.query.projection.map Projection.text =
    ["?choir", "(COUNT(?singer) AS ?singer)", "?singer", "?v3_r"] := by decide

/-- A count and a plain leaf that share a variable are two expressions for it. -/
theorem not_pairwise_name_choirs :
    (compile Choirs.document).outcome = .ok Choirs.compiled ∧
      ¬ Choirs.compiled.query.projection.Pairwise (·.name ≠ ·.name) :=
  ⟨Choirs.outcome_document, by decide⟩

end QueryByExample
