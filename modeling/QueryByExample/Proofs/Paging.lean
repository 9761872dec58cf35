import QueryByExample.Proofs.Convention
/-!
# The two limit modes

Limit and offset are lines at the end of a query, or they cut the merged entries of its answer. A
document that is changed from the first mode to the second one has the same query without these
lines, and for all results it gives the same entries, cut in the same way. If no two rows describe
the same entity, it does not matter whether rows or entries are cut.

## Main definitions

- `slice`: what an offset and a limit leave of a list.
- `CompiledQuery.answer`: the answer that presents some entries.
- `Apart`: entities that are not merged with each other.

## Main statements

- `Plan.ofFields_congr`: a plan depends on the inline values and the language of a document only.
- `mergeEntities_of_apart`: merging leaves entities that are apart as they are.
- `compile_library_mode`: the two modes agree.
-/

namespace QueryByExample

/-! ### Slices -/

section Slice

variable {α β : Type}

/-- The items from an offset on, at most as many as a limit says. -/
def slice (limit? offset? : Option Nat) (items : List α) : List α :=
  (items.drop (offset?.getD 0)).take (limit?.getD items.length)

theorem Pagination.apply_eq_slice (page : Pagination) (items : List α) :
    page.apply items = slice page.limit? page.offset? items := by
  obtain ⟨limit?, offset?⟩ := page
  cases limit? with
  | some limit => rfl
  | none =>
    have hlength : (items.drop (offset?.getD 0)).length ≤ items.length := by
      rw [List.length_drop]
      omega
    exact (List.take_of_length_le hlength).symm

theorem slice_map (limit? offset? : Option Nat) (f : α → β) (items : List α) :
    slice limit? offset? (items.map f) = (slice limit? offset? items).map f := by
  rw [slice, slice, List.length_map, List.map_take, List.map_drop]

theorem slice_sublist (limit? offset? : Option Nat) (items : List α) :
    (slice limit? offset? items).Sublist items :=
  (List.take_sublist _ _).trans (List.drop_sublist _ _)

-- an offset beyond the last item leaves nothing, a limit beyond it changes nothing
example : slice (some 9) (some 1) [1, 2, 3] = [2, 3] ∧ slice (some 9) (some 3) [1, 2, 3] = [] := by
  decide

end Slice

/-- The rows of a result from an offset on, at most as many as a limit says. -/
def ResultSet.cut (limit? offset? : Option Nat) (results : ResultSet) : ResultSet :=
  { results with rows := slice limit? offset? results.rows }

/-! ### Modifiers -/

namespace Modifiers

/-- The same modifiers in a limit mode. -/
def inMode (m : Modifiers) (mode : LimitMode) : Modifiers := { m with limitMode := mode }

theorem applyEntry_limitMode (m : Modifiers) (entry : String × Json) (mode : LimitMode) :
    (applyEntry m entry).inMode mode =
      if entry.1 = "$limitMode" then m.inMode mode else applyEntry (m.inMode mode) entry := by
  unfold applyEntry
  split
  · next setting hread =>
    rw [← key_of_read hread]
    cases setting <;> rfl
  · split <;> rfl

/-- The limit mode may be set before or after the other modifiers. -/
theorem foldl_applyEntry_limitMode (m : Modifiers) (entries : List (String × Json))
    (mode : LimitMode) :
    (entries.foldl applyEntry m).inMode mode =
      (entries.filter fun entry => entry.1 != "$limitMode").foldl applyEntry
        (m.inMode mode) := by
  induction entries generalizing m with
  | nil => rfl
  | cons entry rest ih =>
    rw [List.foldl_cons, ih, applyEntry_limitMode]
    by_cases hkey : entry.1 = "$limitMode"
    · simp [hkey]
    · simp [hkey]

variable {entries entries' : List (String × Json)}

theorem ofEntries_limitMode {value : Json} {mode : LimitMode}
    (distinct : Fields.Distinct entries')
    (hothers : (entries'.filter fun entry => entry.1 != "$limitMode") =
      entries.filter fun entry => entry.1 != "$limitMode")
    (hmode : Fields.find? "$limitMode" entries' = some value)
    (hread : Setting.read "$limitMode" value = .ok (some (.limitMode mode))) {m : Modifiers}
    (h : (ofEntries entries).outcome = .ok m) :
    (ofEntries entries').outcome = .ok (m.inMode mode) := by
  obtain ⟨haccepts, rfl⟩ := ofEntries_eq_ok_iff.1 h
  rw [ofEntries_eq_ok_iff]
  constructor
  · rintro ⟨key, other⟩ hentry
    by_cases hkey : key = "$limitMode"
    · subst hkey
      obtain rfl := Option.some.inj (hmode.symm.trans (distinct.find?_of_mem hentry))
      rw [(reads_read _ _).isOk_iff, hread]
      rfl
    · have hmem : (key, other) ∈ entries'.filter fun entry => entry.1 != "$limitMode" :=
        List.mem_filter.2 ⟨hentry, bne_iff_ne.2 hkey⟩
      rw [hothers] at hmem
      exact haccepts _ (List.mem_filter.1 hmem).1
  · have hset : ∀ m : Modifiers, applyEntry m ("$limitMode", value) = m.inMode mode := by
      intro m
      rw [applyEntry, hread]
      rfl
    rw [foldl_applyEntry_of_find? distinct hmode, hset, foldl_applyEntry_limitMode,
      foldl_applyEntry_limitMode, hothers, List.filter_filter]
    simp only [Bool.and_self]

theorem otherEntries_filter (entries : List (String × Json)) {key : String}
    (h : isKey key = true) :
    otherEntries (entries.filter fun entry => entry.1 != key) = otherEntries entries := by
  rw [otherEntries, otherEntries, List.filter_filter]
  congr 1
  funext entry
  by_cases hkey : entry.1 = key
  · simp [hkey, h]
  · simp [hkey]

end Modifiers

/-! ### Plans -/

namespace Plan

variable {m m' : Modifiers}

theorem leafOf_congr (hbinds : ∀ name, m'.binds name = m.binds name)
    (hlanguage : m'.language? = m.language?) (scope : Scope) (node : Node) (index : Nat)
    (key : String) (leaf : Prototype.Leaf) :
    leafOf m' scope node index key leaf = leafOf m scope node index key leaf := by
  simp only [leafOf, hbinds, hlanguage]

mutual

theorem fieldOf_congr (hbinds : ∀ name, m'.binds name = m.binds name)
    (hlanguage : m'.language? = m.language?) (scope : Scope) (node : Node) (index : Nat)
    (key : String) (shape : Shape Unit Prototype.Leaf) :
    fieldOf m' scope node index key shape = fieldOf m scope node index key shape := by
  cases shape with
  | constant value => rfl
  | leaf content => rw [fieldOf, fieldOf, leafOf_congr hbinds hlanguage]
  | node label fields => rw [fieldOf, fieldOf, fieldsOf_congr hbinds hlanguage]

theorem fieldsOf_congr (hbinds : ∀ name, m'.binds name = m.binds name)
    (hlanguage : m'.language? = m.language?) (scope : Scope) (node : Node) (index : Nat)
    (fields : Prototype.Checked) :
    fieldsOf m' scope node index fields = fieldsOf m scope node index fields := by
  cases fields with
  | nil => rfl
  | cons field rest =>
    obtain ⟨key, shape⟩ := field
    rw [fieldsOf, fieldsOf, fieldOf_congr hbinds hlanguage, fieldsOf_congr hbinds hlanguage]

end

/-- A plan depends on the inline values and the language of a document only. -/
theorem ofFields_congr (hbinds : ∀ name, m'.binds name = m.binds name)
    (hlanguage : m'.language? = m.language?) (fields : Prototype.Checked) :
    ofFields m' fields = ofFields m fields := by
  rw [ofFields, ofFields, fieldsOf_congr hbinds hlanguage]

end Plan

/-! ### Texts -/

namespace SelectQuery

/-- The query without its limits. -/
def unlimited (q : SelectQuery) : SelectQuery :=
  { q with modifiers := q.modifiers.inMode .library }

theorem intercalate_append_toList {lines : List String} (h : lines ≠ []) (line? : Option String) :
    "\n".intercalate (lines ++ line?.toList) =
      "\n".intercalate lines ++ line?.elim "" fun line => "\n" ++ line := by
  cases line? with
  | none => rw [Option.toList_none, List.append_nil, Option.elim_none, String.append_empty]
  | some line =>
    rw [Option.toList_some, String.intercalate_append_of_ne_nil h (List.cons_ne_nil _ _),
      String.intercalate_singleton, String.append_assoc, Option.elim_some]

theorem lines_eq_append (q : SelectQuery) (h : q.modifiers.limitMode = .query) :
    q.lines = q.unlimited.lines ++
      (q.modifiers.limit?.map fun n => "LIMIT " ++ toString n).toList ++
      (q.modifiers.offset?.map fun n => "OFFSET " ++ toString n).toList := by
  have hunlimited : q.unlimited.lines = q.bodyLines ++ (q.modifiers.solutionClauses ++ []) := rfl
  rw [hunlimited, lines, Modifiers.trailingClauses, Modifiers.limitClauses, h]
  simp only [List.append_assoc, List.append_nil]

/-- The limits of a query are the last lines of its text. -/
theorem text_eq_append (q : SelectQuery) (h : q.modifiers.limitMode = .query) :
    q.text = q.unlimited.text ++
      (q.modifiers.limit?.elim "" fun n => "\n" ++ ("LIMIT " ++ toString n)) ++
      q.modifiers.offset?.elim "" fun n => "\n" ++ ("OFFSET " ++ toString n) := by
  have hlines : q.unlimited.lines ≠ [] := by
    have hbrace : "\x7d" ∈ q.unlimited.lines := by simp [lines, bodyLines]
    exact List.ne_nil_of_mem hbrace
  rw [text, lines_eq_append q h,
    intercalate_append_toList (List.append_ne_nil_of_left_ne_nil hlines _),
    intercalate_append_toList hlines, Option.elim_map, Option.elim_map]
  rfl

end SelectQuery

/-! ### Entities that are apart -/

/-- No two entities are known to be the same. -/
def Apart (entities : List Entity) : Prop :=
  entities.Pairwise fun e e' => ∀ x x', e.anchorValue? = some x → e'.anchorValue? = some x' →
    x.same x' = false

theorem Entity.sameEntity_eq_false_iff {e e' : Entity} :
    e.sameEntity e' = false ↔
      ∀ x x', e.anchorValue? = some x → e'.anchorValue? = some x' → x.same x' = false := by
  unfold sameEntity Instance.sameEntity anchorValue?
  cases e.toInstance.anchorValue? <;> cases e'.toInstance.anchorValue? <;> simp

theorem Entity.addTo_eq_append {addition : Entity} {merged : List Entity}
    (h : ∀ entry ∈ merged, entry.sameEntity addition = false) :
    addition.addTo merged = merged ++ [addition] := by
  induction merged with
  | nil => rfl
  | cons entry rest ih =>
    rw [List.forall_mem_cons] at h
    rw [addTo, h.1, ih h.2]
    rfl

/-- Entities that are apart stay as they are. -/
theorem mergeEntities_of_apart {entities : List Entity} (h : Apart entities) :
    mergeEntities entities = entities := by
  induction entities using List.reverseRecOn with
  | nil => rfl
  | append_singleton before e ih =>
    obtain ⟨hbefore, -, hcross⟩ := List.pairwise_append.1 h
    have hlast : ∀ entry ∈ before, entry.sameEntity e = false := by
      intro entry hentry
      exact Entity.sameEntity_eq_false_iff.2 (hcross entry hentry e (List.mem_singleton_self e))
    rw [mergeEntities, List.foldl_append]
    change e.addTo (mergeEntities before) = _
    rw [ih hbefore, Entity.addTo_eq_append hlast]

theorem Apart.slice {entities : List Entity} (h : Apart entities) (limit? offset? : Option Nat) :
    Apart (QueryByExample.slice limit? offset? entities) :=
  h.sublist (slice_sublist limit? offset? entities)

/-! ### Answers -/

namespace CompiledQuery

/-- The answer that presents some entries, in the convention of the document. -/
def answer (compiled : CompiledQuery) (settings : Settings) (entries : List Json) : Json :=
  match compiled.form with
  | .graph context? =>
    .object [("@context", settings.context context?), ("@graph", .array entries)]
  | .plain => .array entries

theorem assemble_eq_answer (compiled : CompiledQuery) (settings : Settings)
    (results : ResultSet) :
    compiled.assemble settings results = compiled.answer settings
      ((compiled.page (compiled.entries settings results)).map Entity.toJson) := by
  unfold assemble answer
  cases compiled.form <;> rfl

/-- The objects of the rows of a result, before they are merged. -/
def decoded (compiled : CompiledQuery) (settings : Settings) (results : ResultSet) : List Entity :=
  results.rows.map (decodeRow (compiled.decodeOptions settings) compiled.template)

theorem entries_of_apart {compiled : CompiledQuery} {settings : Settings} {results : ResultSet}
    (h : Apart (compiled.decoded settings results)) :
    compiled.entries settings results = compiled.decoded settings results :=
  mergeEntities_of_apart h

end CompiledQuery

/-! ### The modes agree -/

theorem Modifiers.pagination?_query {m : Modifiers} (h : m.limitMode = .query) :
    m.pagination? = none := by
  rw [pagination?, h]
  exact if_neg nofun

theorem Modifiers.pagination?_library {m : Modifiers} (h : m.limit?.isSome ∨ m.offset?.isSome) :
    (m.inMode .library).pagination? = some ⟨m.limit?, m.offset?⟩ :=
  if_pos ⟨rfl, h⟩

namespace CompiledQuery

/-- The compiled form of the same document in library mode. -/
def paged (compiled : CompiledQuery) : CompiledQuery :=
  { compiled with
    query := compiled.query.unlimited
    pagination? := some ⟨compiled.query.modifiers.limit?, compiled.query.modifiers.offset?⟩ }

/-- The modifiers of the two documents differ in their limit mode, which no step before the last one
looks at. -/
theorem compile_paged {entries entries' : List (String × Json)} {compiled : CompiledQuery}
    (distinct : Fields.Distinct entries')
    (hothers : (entries'.filter fun entry => entry.1 != "$limitMode") =
      entries.filter fun entry => entry.1 != "$limitMode")
    (hmode : Fields.find? "$limitMode" entries' = some (.string "library"))
    (h : (compile (.object entries)).outcome = .ok compiled)
    (hlimits : compiled.query.modifiers.limit?.isSome ∨ compiled.query.modifiers.offset?.isSome) :
    (compile (.object entries')).outcome = .ok compiled.paged := by
  obtain ⟨_, m, form, node, fields, hentries, hm, hlocate, hcheck, rfl⟩ := compile_eq_ok_iff.1 h
  obtain rfl := Json.object.inj hentries
  have hread : Modifiers.Setting.read "$limitMode" (.string "library") =
      .ok (some (.limitMode .library)) := rfl
  have hm' := Modifiers.ofEntries_limitMode distinct hothers hmode hread hm
  have hkey : Modifiers.isKey "$limitMode" = true := rfl
  have hrest : Modifiers.otherEntries entries' = Modifiers.otherEntries entries := by
    rw [← Modifiers.otherEntries_filter entries' hkey, hothers,
      Modifiers.otherEntries_filter entries hkey]
  rw [← hrest] at hlocate
  refine compile_eq_ok_iff.2 ⟨entries', _, form, node, fields, rfl, hm', hlocate, hcheck, ?_⟩
  have hplan : Plan.ofFields (m.inMode .library) fields = Plan.ofFields m fields := by
    apply Plan.ofFields_congr
    · intro name
      rfl
    · rfl
  have hpage : (m.inMode .library).pagination? = some ⟨m.limit?, m.offset?⟩ :=
    Modifiers.pagination?_library hlimits
  rw [hplan, Plan.compiled.eq_def _ (m.inMode .library), hpage]
  rfl

/-- In library mode the entries of an answer are cut. -/
theorem assemble_paged {compiled : CompiledQuery} (h : compiled.pagination? = none)
    (settings : Settings) (results : ResultSet) :
    ∃ answers, compiled.assemble settings results = compiled.answer settings answers ∧
      compiled.paged.assemble settings results = compiled.answer settings
        (slice compiled.query.modifiers.limit? compiled.query.modifiers.offset? answers) := by
  refine ⟨(compiled.entries settings results).map Entity.toJson, ?_, ?_⟩
  · rw [assemble_eq_answer, map_page, h, Option.elim_none]
  · rw [assemble_eq_answer, map_page]
    exact congrArg (compiled.answer settings) (Pagination.apply_eq_slice _ _)

/-- If the rows of a result describe different entities, cutting the rows gives the same answer. -/
theorem assemble_paged_of_apart {compiled : CompiledQuery} (h : compiled.pagination? = none)
    {settings : Settings} {results : ResultSet}
    (apart : Apart (compiled.decoded settings results)) :
    compiled.paged.assemble settings results = compiled.assemble settings
      (results.cut compiled.query.modifiers.limit? compiled.query.modifiers.offset?) := by
  let limit? := compiled.query.modifiers.limit?
  let offset? := compiled.query.modifiers.offset?
  let cut := results.cut limit? offset?
  have hcut : compiled.decoded settings cut =
      slice limit? offset? (compiled.decoded settings results) := (slice_map _ _ _ _).symm
  have hapart : Apart (compiled.decoded settings cut) := by
    rw [hcut]
    exact apart.slice limit? offset?
  have hentries : compiled.page (compiled.entries settings cut) =
      slice limit? offset? (compiled.entries settings results) := by
    rw [page, h, entries_of_apart hapart, hcut, entries_of_apart apart]
  have hpaged : compiled.paged.page (compiled.paged.entries settings results) =
      slice limit? offset? (compiled.entries settings results) :=
    Pagination.apply_eq_slice _ _
  rw [assemble_eq_answer, assemble_eq_answer, hentries, hpaged]
  rfl

end CompiledQuery

/-- The two limit modes agree. A document in query mode that has a limit or an offset compiles in
library mode to the same form, whose text lacks the last lines with these limits. For all results
the entries of its answer are those of the document in query mode, cut by the limits, and if the rows
describe different entities, they are what query mode makes of the rows that are cut by them. -/
theorem compile_library_mode {entries entries' : List (String × Json)} {compiled : CompiledQuery}
    {limit? offset? : Option Nat} (distinct : Fields.Distinct entries')
    (hothers : (entries'.filter fun entry => entry.1 != "$limitMode") =
      entries.filter fun entry => entry.1 != "$limitMode")
    (hmode : Fields.find? "$limitMode" entries' = some (.string "library"))
    (h : (compile (.object entries)).outcome = .ok compiled)
    (hquery : compiled.query.modifiers.limitMode = .query)
    (hlimit : compiled.query.modifiers.limit? = limit?)
    (hoffset : compiled.query.modifiers.offset? = offset?)
    (hlimits : limit?.isSome ∨ offset?.isSome) :
    ∃ compiled', (compile (.object entries')).outcome = .ok compiled' ∧
      compiled'.query.projection = compiled.query.projection ∧
      compiled'.template = compiled.template ∧ compiled'.form = compiled.form ∧
      compiled'.tags? = compiled.tags? ∧
      compiled.text = compiled'.text ++
        (limit?.elim "" fun n => "\n" ++ ("LIMIT " ++ toString n)) ++
        (offset?.elim "" fun n => "\n" ++ ("OFFSET " ++ toString n)) ∧
      compiled.pagination? = none ∧ compiled'.pagination? = some ⟨limit?, offset?⟩ ∧
      ∀ settings results,
        (∃ answers, compiled.assemble settings results = compiled.answer settings answers ∧
          compiled'.assemble settings results =
            compiled.answer settings (slice limit? offset? answers)) ∧
        (Apart (compiled.decoded settings results) →
          compiled'.assemble settings results =
            compiled.assemble settings (results.cut limit? offset?)) := by
  subst hlimit hoffset
  have hpagination : compiled.pagination? = none := by
    obtain ⟨node, fields, form, -, hcompiled⟩ := exists_reads_of_compile h
    rw [hcompiled]
    exact Modifiers.pagination?_query hquery
  exact ⟨compiled.paged, CompiledQuery.compile_paged distinct hothers hmode h hlimits, rfl, rfl, rfl,
    rfl, compiled.query.text_eq_append hquery, hpagination, rfl,
    fun settings results => ⟨CompiledQuery.assemble_paged hpagination settings results,
      CompiledQuery.assemble_paged_of_apart hpagination⟩⟩

namespace Places

/-- The document with the second place only. -/
def limited : List (String × Json) :=
  [("$limit", .number (.integer 1)), ("$offset", .string "1"), ("proto", .object entries)]

/-- The same document in library mode. -/
def limitedLater : List (String × Json) := ("$limitMode", .string "library") :: limited

def limits : Modifiers := { limit? := some 1, offset? := some 1 }

def limitedForm : CompiledQuery := (Plan.ofFields limits checked).compiled limits .plain

theorem outcome_limited : (compile (.object limited)).outcome = .ok limitedForm := by
  have hmodifiers : (Modifiers.ofEntries limited).outcome = .ok limits := rfl
  have hcheck : (Prototype.check none (Prototype.ofEntries entries)).outcome = .ok checked := rfl
  exact compile_eq_ok_iff.2 ⟨limited, limits, .plain, entries, checked, rfl, hmodifiers, rfl,
    hcheck, rfl⟩

/-- Three rows about two places and one that is not known. -/
def apartRows : ResultSet :=
  ⟨[], [row none [("place", "harbour"), ("name", "old")], row none [("place", "square")],
    row none [("name", "nowhere")]]⟩

theorem apart_apartRows (settings : Settings) :
    Apart (limitedForm.decoded settings apartRows) := by
  have hsame : ∀ tags : TagDisplay,
      (apartRows.rows.map (decodeRow ⟨tags, .plain⟩ limitedForm.template)).Pairwise
        fun e e' => e.sameEntity e' = false := by
    intro tags
    cases tags <;> decide
  exact (hsame settings.tags).imp Entity.sameEntity_eq_false_iff.1

end Places

theorem compile_library_mode_places :
    (Fields.Distinct Places.limitedLater ∧
      (Places.limitedLater.filter fun entry => entry.1 != "$limitMode") =
        Places.limited.filter (fun entry => entry.1 != "$limitMode") ∧
      Fields.find? "$limitMode" Places.limitedLater = some (.string "library") ∧
      (compile (.object Places.limited)).outcome = .ok Places.limitedForm ∧
      Places.limitedForm.query.modifiers.limitMode = .query ∧
      Places.limitedForm.query.modifiers.limit? = some 1 ∧
      Places.limitedForm.query.modifiers.offset? = some 1) ∧
    ∃ compiled', (compile (.object Places.limitedLater)).outcome = .ok compiled' ∧
      Places.limitedForm.text = compiled'.text ++
        ("\n" ++ ("LIMIT " ++ toString 1)) ++ ("\n" ++ ("OFFSET " ++ toString 1)) ∧
      compiled'.pagination? = some ⟨some 1, some 1⟩ ∧
      ∀ settings, compiled'.assemble settings Places.apartRows =
        Places.limitedForm.assemble settings (Places.apartRows.cut (some 1) (some 1)) := by
  have hdistinct : Fields.Distinct Places.limitedLater := by
    unfold Fields.Distinct
    decide
  have hothers : (Places.limitedLater.filter fun entry => entry.1 != "$limitMode") =
      Places.limited.filter fun entry => entry.1 != "$limitMode" := rfl
  have hlimit : Places.limitedForm.query.modifiers.limit? = some 1 := rfl
  have hoffset : Places.limitedForm.query.modifiers.offset? = some 1 := rfl
  obtain ⟨compiled', hcompile, -, -, -, -, htext, -, hpagination, hassemble⟩ :=
    compile_library_mode hdistinct hothers rfl Places.outcome_limited rfl hlimit hoffset
      (Or.inl rfl)
  rw [Option.elim_some, Option.elim_some] at htext
  refine ⟨⟨hdistinct, hothers, rfl, Places.outcome_limited, rfl, hlimit, hoffset⟩, compiled',
    hcompile, htext, hpagination, ?_⟩
  intro settings
  exact (hassemble settings Places.apartRows).2 (Places.apart_apartRows settings)

end QueryByExample
