import QueryByExample.Proofs.Query.Linking
import QueryByExample.Proofs.Query.Selection
import QueryByExample.Proofs.Syntax.Bracket
/-!
# Nesting of brackets

The text of a query is properly nested if the texts are that the author wrote and that reach the
query. Everything that is written around them, for each leaf, for each node and for each modifier,
closes the brackets that it opens.

## Main definitions

- `Plan.writtenTexts`: the texts of the author that reach a query.
- `Plan.Leaf.IsNested`: a leaf all of whose texts are properly nested.

## Main statements

- `Plan.placed_fieldsOf`: names that are made up bring no brackets in.
- `Plan.isNested_fieldsClauses`: the clauses of a plan are properly nested.
- `SelectQuery.isNested_text`: so is a query whose parts are.
- `isNested_text_of_compile`: so is the query of a document that compiles.
-/

namespace QueryByExample

open Text (IsNested scan)

/-! ### The texts of the author -/

/-- The texts of the author that modifiers bring into a query. -/
def Modifiers.writtenTexts (m : Modifiers) : List String :=
  m.patterns ++ m.filters ++ m.groupBy ++ m.having ++ m.orderBy ++ m.graphs ++
    m.namespaces.flatMap (fun entry => [entry.1, entry.2]) ++
    m.values.flatMap fun entry => entry.1 :: entry.2

/-- The texts of the author that a leaf brings into a query: the variable and the path of its
directive, and the languages of its filter and of its best match, which may be that of the
document. Only a path whose variable has no inline values is filtered. -/
def Plan.Leaf.writtenTexts (m : Modifiers) (leaf : Leaf) : List String :=
  let options := leaf.directive.options
  leaf.directive.declaredVariable?.toList ++ leaf.directive.path?.toList ++
    (if leaf.directive.path?.isSome && !m.binds leaf.name then
      (options.language?.bind fun code? => code?.or m.language?).toList else []) ++
    (options.bestLanguage?.bind fun code? => code?.or m.language?).toList

/-- The texts of the author that reach a query. -/
def Plan.writtenTexts (m : Modifiers) (plan : Plan) : List String :=
  m.writtenTexts ++ plan.leaves.flatMap fun leaf => leaf.2.writtenTexts m

namespace Shape

variable {ν α : Type}

theorem mem_leavesOf_of_mem {fields : List (String × Shape ν α)} {key : String} {content : α}
    (h : (key, .leaf content) ∈ fields) : (key, content) ∈ leavesOf fields := by
  induction fields with
  | nil => cases h
  | cons field rest ih =>
    rw [leavesOf, List.mem_append]
    rcases List.mem_cons.1 h with rfl | h
    · exact .inl (List.mem_singleton.2 rfl)
    · exact .inr (ih h)

end Shape

namespace Plan

/-! ### Names -/

/-- The stem of made-up names and the root of the enclosing node are properly nested. -/
structure Scope.IsNested (scope : Scope) : Prop where
  stem : Text.IsNested scope.stem
  parent : ∀ parent, scope.parent? = some parent → Text.IsNested parent

namespace Scope

variable {scope : Scope}

theorem isNested_outermost : outermost.IsNested := ⟨by decide, nofun⟩

theorem IsNested.fieldName (h : scope.IsNested) (index : Nat) :
    Text.IsNested (scope.fieldName index) :=
  (Text.IsNested.append (by decide) h.stem).append (Text.isNested_toString index)

theorem IsNested.rootName (h : scope.IsNested) : Text.IsNested scope.rootName :=
  (Text.IsNested.append (by decide) h.stem).append (by decide)

theorem IsNested.inner (h : scope.IsNested) (index : Nat) {root : String}
    (hroot : Text.IsNested root) : (scope.inner index root).IsNested where
  stem := (h.stem.append (Text.isNested_toString index)).append (by decide)
  parent := by
    rintro parent hparent
    rwa [← Option.some.inj hparent]

end Scope

/-- The variables that the directives of some leaves fix are properly nested. -/
def Declares (leaves : List (String × Prototype.Leaf)) : Prop :=
  ∀ leaf ∈ leaves, ∀ name, leaf.2.directive.declaredVariable? = some name → IsNested name

/-- A leaf stands in its place: its variable and the one that its path starts from are properly
nested, and its filter is for the language that its directive says. -/
structure Leaf.Placed (m : Modifiers) (leaf : Leaf) : Prop where
  name : IsNested leaf.name
  subject : IsNested leaf.subject
  language : leaf.language? = if m.binds leaf.name then none
    else leaf.directive.options.language?.bind fun code? => code?.or m.language?

section Placing

variable {m : Modifiers} {scope : Scope} {node : Node}

theorem isNested_defaultRoot : IsNested defaultRoot := by decide

theorem isNested_root {fields : Prototype.Checked} (hscope : scope.IsNested)
    (hdeclares : Declares (Shape.leavesOf fields)) : IsNested (nodeOf scope fields).root := by
  unfold nodeOf
  split
  · next key directive hanchor =>
    obtain ⟨content, hmem, rfl⟩ := exists_leaf_of_anchorOf? hanchor
    cases hname : content.directive.declaredVariable? with
    | none => exact hscope.rootName
    | some name => exact hdeclares _ (Shape.mem_leavesOf_of_mem hmem) name hname
  · cases hparent : scope.parent? with
    | none => exact isNested_defaultRoot
    | some parent => exact hscope.parent parent hparent

theorem isNested_subjectOf (hscope : scope.IsNested) (hroot : IsNested node.root) (name : String)
    (fromParent : Bool) : IsNested (subjectOf scope node name fromParent) := by
  unfold subjectOf
  split
  · next parent hparent =>
    split
    · exact hscope.parent parent hparent
    · exact hroot
  · split
    · exact isNested_defaultRoot
    · exact hroot

theorem isNested_name (hscope : scope.IsNested) (hroot : IsNested node.root) (index : Nat)
    (key : String) {content : Prototype.Leaf}
    (hdeclares : ∀ name, content.directive.declaredVariable? = some name → IsNested name) :
    IsNested (leafOf m scope node index key content).name := by
  have hname : (leafOf m scope node index key content).name =
      content.directive.declaredVariable?.getD
        (if node.anchor? == some key then node.root else scope.fieldName index) := rfl
  rw [hname]
  cases hdeclared : content.directive.declaredVariable? with
  | some name => exact hdeclares name hdeclared
  | none =>
    rw [Option.getD_none]
    split
    · exact hroot
    · exact hscope.fieldName index

theorem placed_leafOf (hscope : scope.IsNested) (hroot : IsNested node.root) (index : Nat)
    (key : String) {content : Prototype.Leaf}
    (hdeclares : ∀ name, content.directive.declaredVariable? = some name → IsNested name) :
    (leafOf m scope node index key content).Placed m where
  name := isNested_name hscope hroot index key hdeclares
  subject := isNested_subjectOf hscope hroot _ _
  language := rfl

mutual

theorem placed_fieldOf {scope : Scope} {node : Node} (hscope : scope.IsNested)
    (hroot : IsNested node.root) (index : Nat) (key : String)
    {shape : Shape Unit Prototype.Leaf} (hdeclares : Declares (Shape.leaves key shape)) :
    ∀ leaf ∈ Shape.leaves key (fieldOf m scope node index key shape), leaf.2.Placed m := by
  cases shape with
  | constant value =>
    rw [fieldOf, Shape.leaves]
    exact List.forall_mem_nil _
  | leaf content =>
    rw [Shape.leaves] at hdeclares
    rw [fieldOf, Shape.leaves, List.forall_mem_singleton]
    exact placed_leafOf hscope hroot index key (hdeclares _ List.mem_cons_self)
  | node label fields =>
    rw [Shape.leaves] at hdeclares
    rw [fieldOf, Shape.leaves]
    have hinner := hscope.inner index hroot
    exact placed_fieldsOf hinner (isNested_root hinner hdeclares) 0 hdeclares

/-- Names that are made up bring no brackets in. -/
theorem placed_fieldsOf {scope : Scope} {node : Node} (hscope : scope.IsNested)
    (hroot : IsNested node.root) (index : Nat) {fields : Prototype.Checked}
    (hdeclares : Declares (Shape.leavesOf fields)) :
    ∀ leaf ∈ Shape.leavesOf (fieldsOf m scope node index fields), leaf.2.Placed m := by
  cases fields with
  | nil =>
    rw [fieldsOf, Shape.leavesOf]
    exact List.forall_mem_nil _
  | cons field rest =>
    obtain ⟨key, shape⟩ := field
    rw [Shape.leavesOf] at hdeclares
    rw [fieldsOf, Shape.leavesOf, List.forall_mem_append]
    obtain ⟨hfirst, hrest⟩ := List.forall_mem_append.1 hdeclares
    exact ⟨placed_fieldOf hscope hroot index key hfirst,
      placed_fieldsOf hscope hroot (index + 1) hrest⟩

end

end Placing

/-! ### Clauses and expressions -/

/-- The texts that a leaf brings into the patterns are properly nested. -/
structure Leaf.IsNested (leaf : Leaf) : Prop where
  name : Text.IsNested leaf.name
  subject : Text.IsNested leaf.subject
  path : ∀ path, leaf.directive.path? = some path → Text.IsNested path
  language : ∀ path code, leaf.directive.path? = some path → leaf.language? = some code →
    Text.IsNested code

/-- A leaf is properly nested if the texts are that its author wrote. -/
theorem Leaf.Placed.isNested {m : Modifiers} {leaf : Leaf} (h : leaf.Placed m)
    (hwritten : ∀ text ∈ leaf.writtenTexts m, Text.IsNested text) : leaf.IsNested := by
  simp only [writtenTexts, List.forall_mem_append, Option.mem_toList] at hwritten
  obtain ⟨⟨⟨-, hpath⟩, hlanguage⟩, -⟩ := hwritten
  refine ⟨h.name, h.subject, hpath, ?_⟩
  intro path code hfound hcode
  rw [h.language] at hcode
  cases hbinds : m.binds leaf.name with
  | true =>
    rw [hbinds, if_pos rfl] at hcode
    cases hcode
  | false =>
    rw [hbinds, if_neg Bool.false_ne_true] at hcode
    rw [hfound, hbinds] at hlanguage
    exact hlanguage code (Option.mem_toList.2 hcode)

end Plan

theorem Clause.isNested_grouped {clauses : List Clause} (required : Bool)
    (h : ∀ text ∈ texts clauses, IsNested text) :
    ∀ text ∈ texts (grouped required clauses), IsNested text := by
  have hjoined : IsNested (separator.intercalate (texts clauses)) :=
    Text.isNested_intercalate (by decide) h
  unfold grouped
  split
  · exact List.forall_mem_nil _
  split
  · exact List.forall_mem_singleton.2 hjoined
  · have hopen : scan [] "OPTIONAL \x7b " = some [.brace] := by decide
    have hclose : scan [.brace] " \x7d" = some [] := by decide
    exact List.forall_mem_singleton.2 (hjoined.between hopen hclose)

namespace Plan

theorem isNested_leafClauses {leaf : Leaf} (h : leaf.IsNested) :
    ∀ text ∈ Clause.texts leaf.clauses, IsNested text := by
  unfold Leaf.clauses
  cases hpath : leaf.directive.path? with
  | none => exact List.forall_mem_nil _
  | some path =>
    refine Clause.isNested_grouped _ ?_
    have htriple : IsNested (leaf.triple path).text := by
      have hpath := h.path path hpath
      unfold Leaf.triple
      split
      · exact (((h.name.append (by decide)).append hpath).append (by decide)).append h.subject
      · exact (((h.subject.append (by decide)).append hpath).append (by decide)).append h.name
    cases hlanguage : leaf.language? with
    | none => exact List.forall_mem_singleton.2 htriple
    | some code =>
      have hcode := h.language path code hpath hlanguage
      have hfilter : IsNested (Clause.languageFilter leaf.name code).text := by
        have hopen : scan [] "FILTER(lang(" = some [.paren, .paren] := by decide
        have hmiddle : scan [.paren, .paren] ") = '" = some [.paren] := by decide
        have hclose : scan [.paren] "')" = some [] := by decide
        have htext : (Clause.languageFilter leaf.name code).text =
            "FILTER(lang(" ++ leaf.name ++ ") = '" ++ code ++ "')" := rfl
        rw [htext, Text.isNested_iff]
        simp only [Text.scan_append, hopen, Option.bind_some, h.name.scan_eq, hmiddle,
          hcode.scan_eq, hclose]
      exact List.forall_mem_cons.2 ⟨htriple, List.forall_mem_singleton.2 hfilter⟩

mutual

theorem isNested_fieldClauses {key : String} {shape : Shape Node Leaf}
    (h : ∀ leaf ∈ Shape.leaves key shape, leaf.2.IsNested) :
    ∀ text ∈ Clause.texts (fieldClauses shape), IsNested text := by
  cases shape with
  | constant value =>
    rw [fieldClauses, Clause.texts]
    exact List.forall_mem_nil _
  | leaf content =>
    rw [Shape.leaves] at h
    rw [fieldClauses]
    exact isNested_leafClauses (h _ List.mem_cons_self)
  | node label fields =>
    rw [Shape.leaves] at h
    rw [fieldClauses]
    exact Clause.isNested_grouped _ (isNested_fieldsClauses h)

/-- Clauses are properly nested if their leaves are. -/
theorem isNested_fieldsClauses {fields : List (String × Shape Node Leaf)}
    (h : ∀ leaf ∈ Shape.leavesOf fields, leaf.2.IsNested) :
    ∀ text ∈ Clause.texts (fieldsClauses fields), IsNested text := by
  cases fields with
  | nil =>
    rw [fieldsClauses, Clause.texts]
    exact List.forall_mem_nil _
  | cons field rest =>
    obtain ⟨key, shape⟩ := field
    rw [Shape.leavesOf] at h
    obtain ⟨hfirst, hrest⟩ := List.forall_mem_append.1 h
    rw [fieldsClauses, Clause.texts_append, List.forall_mem_append]
    exact ⟨isNested_fieldClauses hfirst, isNested_fieldsClauses hrest⟩

end

end Plan

/-- An expression for properly nested texts is properly nested. -/
theorem Directive.Options.Selects.isNested {options : Directive.Options}
    {language? : Option String} {name text : String} (h : options.Selects language? name text)
    (hname : IsNested name) (hcode : ∀ code ∈
      options.bestLanguage?.bind fun code? => code?.or language?, IsNested code) :
    IsNested text := by
  have hmiddle : scan [.paren, .paren] ") AS " = some [.paren] := by decide
  have hclose : scan [.paren] ")" = some [] := by decide
  rcases h with _ | @⟨function⟩ | @⟨function⟩ | @⟨code?, code, hbest, hlanguage⟩
  · exact hname
  · have hkeyword : IsNested function.keyword := by cases function <;> decide
    have hopen : scan [] "(" = some [.paren] := by decide
    have hcall : scan [.paren] "(" = some [.paren, .paren] := by decide
    rw [Text.isNested_iff]
    simp only [Text.scan_append, hopen, Option.bind_some, hkeyword.scan_eq, hcall, hname.scan_eq,
      hmiddle, hclose]
  · have hkeyword : IsNested function.keyword := by cases function <;> decide
    have hopen : scan [] "(" = some [.paren] := by decide
    have hcall : scan [.paren] "(DISTINCT " = some [.paren, .paren] := by decide
    rw [Text.isNested_iff]
    simp only [Text.scan_append, hopen, Option.bind_some, hkeyword.scan_eq, hcall, hname.scan_eq,
      hmiddle, hclose]
  · have hcode : IsNested code := hcode code (by rw [hbest]; exact hlanguage)
    have hopen : scan [] "(sql:BEST_LANGMATCH(" = some [.paren, .paren] := by decide
    have hcomma : scan [.paren, .paren] ", \"" = some [.paren, .paren] := by decide
    have hmiddle : scan [.paren, .paren] "\", \"en\") AS " = some [.paren] := by decide
    rw [Text.isNested_iff]
    simp only [Text.scan_append, hopen, Option.bind_some, hname.scan_eq, hcomma, hcode.scan_eq,
      hmiddle, hclose]

/-! ### The query -/

namespace Modifiers

variable {m : Modifiers}

/-- The texts that an author gave to modifiers are properly nested. -/
structure IsNested (m : Modifiers) : Prop where
  patterns : ∀ text ∈ m.patterns, Text.IsNested text
  filters : ∀ text ∈ m.filters, Text.IsNested text
  groupBy : ∀ text ∈ m.groupBy, Text.IsNested text
  having : ∀ text ∈ m.having, Text.IsNested text
  orderBy : ∀ text ∈ m.orderBy, Text.IsNested text
  graphs : ∀ text ∈ m.graphs, Text.IsNested text
  namespaces : ∀ entry ∈ m.namespaces, Text.IsNested entry.1 ∧ Text.IsNested entry.2
  values : ∀ entry ∈ m.values, Text.IsNested entry.1 ∧ ∀ text ∈ entry.2, Text.IsNested text

theorem isNested_of_writtenTexts (h : ∀ text ∈ m.writtenTexts, Text.IsNested text) :
    m.IsNested := by
  simp only [writtenTexts, List.forall_mem_append] at h
  obtain ⟨⟨⟨⟨⟨⟨⟨hpatterns, hfilters⟩, hgroupBy⟩, hhaving⟩, horderBy⟩, hgraphs⟩, hnamespaces⟩,
    hvalues⟩ := h
  refine ⟨hpatterns, hfilters, hgroupBy, hhaving, horderBy, hgraphs, fun entry hentry => ?_,
    fun entry hentry => ?_⟩
  · have hboth := fun text htext => hnamespaces text (List.mem_flatMap.2 ⟨entry, hentry, htext⟩)
    exact ⟨hboth _ (by simp), hboth _ (by simp)⟩
  · exact List.forall_mem_cons.1 fun text htext =>
      hvalues text (List.mem_flatMap.2 ⟨entry, hentry, htext⟩)

theorem isNested_valueTerm {value : String} (h : Text.IsNested value) :
    Text.IsNested (valueTerm value) := by
  unfold valueTerm
  split
  · exact (Text.IsNested.append (by decide) h).append (by decide)
  split
  · exact h
  · exact (Text.IsNested.append (by decide) h).append (by decide)

namespace IsNested

theorem namespaceClauses (h : m.IsNested) : ∀ text ∈ m.namespaceClauses, Text.IsNested text := by
  intro text htext
  obtain ⟨⟨name, iri⟩, hentry, rfl⟩ := List.mem_map.1 htext
  obtain ⟨hname, hiri⟩ := h.namespaces _ hentry
  have hdeclared : Text.IsNested ("PREFIX " ++ name ++ ": <") :=
    (Text.IsNested.append (by decide) hname).append (by decide)
  exact (hdeclared.append hiri).append (by decide)

theorem valuesClauses (h : m.IsNested) : ∀ text ∈ m.valuesClauses, Text.IsNested text := by
  intro text htext
  obtain ⟨⟨name, values⟩, hentry, rfl⟩ := List.mem_map.1 htext
  obtain ⟨hname, hvalues⟩ := h.values _ hentry
  have hterms : Text.IsNested (" ".intercalate (values.map valueTerm)) := by
    refine Text.isNested_intercalate (by decide) fun term hterm => ?_
    obtain ⟨value, hvalue, rfl⟩ := List.mem_map.1 hterm
    exact isNested_valueTerm (hvalues value hvalue)
  have hkeyword : Text.IsNested ("VALUES " ++ name) := Text.IsNested.append (by decide) hname
  have hbrace : scan [] " \x7b" = some [.brace] := by decide
  have hopen : scan [] ("VALUES " ++ name ++ " \x7b") = some [.brace] := by
    rw [Text.scan_append, hkeyword.scan_eq, Option.bind_some, hbrace]
  have hclose : scan [.brace] "\x7d" = some [] := by decide
  exact hterms.between hopen hclose

theorem graphClauses (h : m.IsNested) : ∀ text ∈ m.graphClauses, Text.IsNested text := by
  intro text htext
  obtain ⟨graph, hgraph, rfl⟩ := List.mem_map.1 htext
  have hgraph := h.graphs graph hgraph
  split
  · exact Text.IsNested.append (by decide) hgraph
  · exact (Text.IsNested.append (by decide) hgraph).append (by decide)

theorem solutionClauses (h : m.IsNested) : ∀ text ∈ m.solutionClauses, Text.IsNested text := by
  have hline : ∀ (isEmpty : Bool) {line : String}, Text.IsNested line →
      ∀ text ∈ if isEmpty then [] else [line], Text.IsNested text := by
    intro isEmpty line hline
    cases isEmpty with
    | true => exact List.forall_mem_nil _
    | false => exact List.forall_mem_singleton.2 hline
  have hgroupBy : Text.IsNested ("GROUP BY " ++ " ".intercalate m.groupBy) :=
    Text.IsNested.append (by decide) (Text.isNested_intercalate (by decide) h.groupBy)
  have horderBy : Text.IsNested ("ORDER BY " ++ " ".intercalate m.orderBy) :=
    Text.IsNested.append (by decide) (Text.isNested_intercalate (by decide) h.orderBy)
  have hhaving : Text.IsNested ("HAVING (" ++ " && ".intercalate m.having ++ ")") := by
    have hjoined : Text.IsNested (" && ".intercalate m.having) :=
      Text.isNested_intercalate (by decide) h.having
    have hopen : scan [] "HAVING (" = some [.paren] := by decide
    have hclose : scan [.paren] ")" = some [] := by decide
    exact hjoined.between hopen hclose
  rw [Modifiers.solutionClauses, List.forall_mem_append, List.forall_mem_append]
  exact ⟨⟨hline _ hgroupBy, hline _ hhaving⟩, hline _ horderBy⟩

end IsNested

theorem isNested_limitClauses (m : Modifiers) : ∀ text ∈ m.limitClauses, Text.IsNested text := by
  have hcount : ∀ {keyword : String} (count? : Option Nat), Text.IsNested keyword →
      ∀ text ∈ (count?.map fun n => keyword ++ toString n).toList, Text.IsNested text := by
    intro keyword count? hkeyword text htext
    obtain ⟨n, -, rfl⟩ := Option.map_eq_some_iff.1 (Option.mem_toList.1 htext)
    exact hkeyword.append (Text.isNested_toString n)
  unfold limitClauses
  split
  · exact List.forall_mem_nil _
  · rw [List.forall_mem_append]
    exact ⟨hcount _ (by decide), hcount _ (by decide)⟩

theorem IsNested.trailingClauses (h : m.IsNested) :
    ∀ text ∈ m.trailingClauses, Text.IsNested text := by
  rw [Modifiers.trailingClauses, List.forall_mem_append]
  exact ⟨h.solutionClauses, isNested_limitClauses m⟩

end Modifiers

namespace SelectQuery

variable {q : SelectQuery}

theorem isNested_selectLine (h : ∀ text ∈ q.projection.map Projection.text, IsNested text) :
    IsNested q.selectLine := by
  have hdistinct : IsNested (if q.modifiers.distinct then "DISTINCT " else "") := by
    split <;> decide
  have hexpressions : IsNested (if q.projection.isEmpty then "*"
      else " ".intercalate (q.projection.map Projection.text)) := by
    split
    · decide
    · exact Text.isNested_intercalate (by decide) h
  exact (Text.IsNested.append (by decide) hdistinct).append hexpressions

theorem isNested_patternLines (hmodifiers : q.modifiers.IsNested)
    (hclauses : ∀ text ∈ Clause.texts q.clauses, IsNested text) :
    ∀ text ∈ q.patternLines, IsNested text := by
  have hpatterns : ∀ text ∈ q.patterns, IsNested text := by
    rw [patterns, List.forall_mem_append]
    refine ⟨fun text htext => ?_, hclauses⟩
    obtain ⟨pattern, hpattern, rfl⟩ := List.mem_map.1 (List.mem_filter.1 htext).1
    exact (hmodifiers.patterns pattern hpattern).trim
  unfold patternLines
  split
  · exact List.forall_mem_nil _
  · have hjoined : IsNested (" .\n  ".intercalate q.patterns) :=
      Text.isNested_intercalate (by decide) hpatterns
    exact List.forall_mem_singleton.2 (Text.IsNested.append (by decide) hjoined)

/-- A query is properly nested if its parts are: only the braces around its graph pattern stand on
lines of their own. -/
theorem isNested_text (hmodifiers : q.modifiers.IsNested)
    (hprojection : ∀ text ∈ q.projection.map Projection.text, IsNested text)
    (hclauses : ∀ text ∈ Clause.texts q.clauses, IsNested text) : IsNested q.text := by
  have hselect : ∀ text ∈ [q.selectLine], IsNested text :=
    List.forall_mem_singleton.2 (isNested_selectLine hprojection)
  have hvalues : ∀ text ∈ q.modifiers.valuesClauses.map (fun clause => "  " ++ clause),
      IsNested text := by
    intro text htext
    obtain ⟨clause, hclause, rfl⟩ := List.mem_map.1 htext
    exact Text.IsNested.append (by decide) (hmodifiers.valuesClauses clause hclause)
  have hfilters : ∀ text ∈ q.modifiers.filters.map (fun filter => "  FILTER(" ++ filter ++ ")"),
      IsNested text := by
    intro text htext
    obtain ⟨filter, hfilter, rfl⟩ := List.mem_map.1 htext
    have hopen : scan [] "  FILTER(" = some [.paren] := by decide
    have hclose : scan [.paren] ")" = some [] := by decide
    exact (hmodifiers.filters filter hfilter).between hopen hclose
  have hopen : ["WHERE \x7b"].foldlM scan [] = some [.brace] := by decide
  have hclose : ["\x7d"].foldlM scan [.brace] = some [] := by decide
  rw [Text.isNested_iff, text, Text.scan_intercalate (by decide), lines, bodyLines]
  simp only [List.foldlM_append, Text.foldlM_scan_eq hmodifiers.namespaceClauses,
    Text.foldlM_scan_eq hselect, Text.foldlM_scan_eq hmodifiers.graphClauses, hopen,
    Text.foldlM_scan_eq hvalues, Text.foldlM_scan_eq (isNested_patternLines hmodifiers hclauses),
    Text.foldlM_scan_eq hfilters, hclose, Text.foldlM_scan_eq hmodifiers.trailingClauses,
    Option.bind_eq_bind, Option.bind_some]

end SelectQuery

namespace Plan

variable {m : Modifiers} {fields : Prototype.Checked}

/-- The leaves of a plan stand in their places if what their directives declare is properly
nested. -/
theorem placed_leaves (hwritten : ∀ leaf ∈ (ofFields m fields).leaves,
    ∀ text ∈ leaf.2.writtenTexts m, IsNested text) :
    ∀ leaf ∈ (ofFields m fields).leaves, leaf.2.Placed m := by
  have hdeclares : Declares (Shape.leavesOf fields) := by
    intro checked hchecked name hname
    rw [← checked_leaves m fields] at hchecked
    obtain ⟨leaf, hleaf, rfl⟩ := List.mem_map.1 hchecked
    refine hwritten leaf hleaf name ?_
    have hdirective : leaf.2.directive.declaredVariable? = some name := hname
    simp [Leaf.writtenTexts, hdirective]
  exact placed_fieldsOf Scope.isNested_outermost
    (isNested_root Scope.isNested_outermost hdeclares) 0 hdeclares

theorem isNested_expressions {document : Json} {node : List (String × Json)}
    (hreads : Prototype.Reads document m node fields)
    (hwritten : ∀ leaf ∈ (ofFields m fields).leaves,
      ∀ text ∈ leaf.2.writtenTexts m, IsNested text) :
    ∀ text ∈ (ofFields m fields).projection.map Projection.text, IsNested text := by
  intro text htext
  rw [map_text_projection, List.mem_eraseDups] at htext
  obtain ⟨leaf, hleaf, rfl⟩ := List.mem_map.1 htext
  have hselects := Leaf.selects (bestLanguage_of_mem_leaves hreads hleaf)
  refine hselects.isNested (placed_leaves hwritten leaf hleaf).name fun code hcode => ?_
  exact hwritten leaf hleaf code
    (List.mem_append_right _ (Option.mem_toList.2 hcode))

end Plan

/-- The query of a document that compiles is properly nested in braces and parentheses if the texts
are that its author wrote and that reach the query. -/
theorem isNested_text_of_compile {document : Json} {compiled : CompiledQuery}
    (h : (compile document).outcome = .ok compiled) :
    ∃ node fields, Prototype.Reads document compiled.query.modifiers node fields ∧
      let plan := Plan.ofFields compiled.query.modifiers fields
      compiled = plan.compiled compiled.query.modifiers compiled.form ∧
      plan.leaves.map (fun leaf => (leaf.1, leaf.2.directive)) = Prototype.directives node ∧
      ((∀ text ∈ plan.writtenTexts compiled.query.modifiers, IsNested text) →
        IsNested compiled.text) := by
  obtain ⟨node, fields, hreads, hcompiled⟩ := exists_plan_of_compile h
  refine ⟨node, fields, hreads, hcompiled, Plan.directives_leaves hreads, fun hwritten => ?_⟩
  obtain ⟨hmodifiers, hwritten⟩ := List.forall_mem_append.1 hwritten
  have hleaves : ∀ leaf ∈ (Plan.ofFields compiled.query.modifiers fields).leaves,
      ∀ text ∈ leaf.2.writtenTexts compiled.query.modifiers, IsNested text :=
    fun leaf hleaf text htext => hwritten text (List.mem_flatMap.2 ⟨leaf, hleaf, htext⟩)
  have hplaced := Plan.placed_leaves hleaves
  have hquery := congrArg CompiledQuery.query hcompiled
  rw [CompiledQuery.text]
  refine SelectQuery.isNested_text (Modifiers.isNested_of_writtenTexts hmodifiers) ?_ ?_
  · rw [hquery]
    exact Plan.isNested_expressions hreads hleaves
  · rw [hquery]
    exact Plan.isNested_fieldsClauses fun leaf hleaf =>
      (hplaced leaf hleaf).isNested (hleaves leaf hleaf)

/-! ### Castles

Castles with their visits and regions, around which the author wrote brackets. -/

namespace Castles

/-- The prototype of a castle. -/
def entries : List (String × Json) :=
  [("id", .string "?castle"), ("name", .string "$rdfs:label$lang:en"),
    ("visits", .string "$(dbo:visits|dbo:guests)$sum"),
    ("region", .object [("id", .string "$dbo:region"), ("name", .string "$rdfs:label$bestlang")])]

/-- The document. -/
def document : Json :=
  .object [("proto", .object entries), ("$lang", .string "de"),
    ("$where", .string "?castle dbo:part \x7b (?tower) \x7d "), ("$having", .string "(?v2 > 9)"),
    ("$values", .object [("region", .array [.string "dbr:Berg_(Land)"])])]

/-- The modifiers of the document. -/
def modifiers : Modifiers where
  patterns := ["?castle dbo:part \x7b (?tower) \x7d "]
  having := ["(?v2 > 9)"]
  values := [("?region", ["dbr:Berg_(Land)"])]
  language? := some "de"

/-- The prototype as it was checked. -/
def checked : Prototype.Checked :=
  [("id", Places.leaf "?castle" {}), ("name", Cities.leaf "rdfs:label" { language? := some "en" }),
    ("visits", Cities.leaf "(dbo:visits|dbo:guests)" { aggregate? := some .sum }),
    ("region", .node () [("id", Cities.leaf "dbo:region" {}),
      ("name", .leaf ⟨⟨.path "rdfs:label", { bestLanguage? := some none }⟩, some "de"⟩)])]

/-- The compiled form of the document. -/
def compiled : CompiledQuery := (Plan.ofFields modifiers checked).compiled modifiers .plain

theorem reads_document : Prototype.Reads document modifiers entries checked :=
  ⟨_, .plain, rfl, rfl, rfl, rfl⟩

theorem outcome_document : (compile document).outcome = .ok compiled :=
  compile_eq_ok_iff.2 ⟨_, modifiers, .plain, entries, checked, rfl, rfl, rfl, rfl, rfl⟩

end Castles

theorem isNested_text_of_compile_castles :
    ((compile Castles.document).outcome = .ok Castles.compiled ∧
      Prototype.Reads Castles.document Castles.modifiers Castles.entries Castles.checked ∧
      ∀ text ∈ (Plan.ofFields Castles.modifiers Castles.checked).writtenTexts Castles.modifiers,
        IsNested text) ∧
    IsNested Castles.compiled.text := by
  have hwritten : ∀ text ∈
      (Plan.ofFields Castles.modifiers Castles.checked).writtenTexts Castles.modifiers,
      IsNested text := by decide
  refine ⟨⟨Castles.outcome_document, Castles.reads_document, hwritten⟩, ?_⟩
  obtain ⟨node, fields, hreads, -, -, hnested⟩ :=
    isNested_text_of_compile Castles.outcome_document
  obtain ⟨-, -, rfl⟩ := Castles.reads_document.unique hreads
  exact hnested hwritten

end QueryByExample
