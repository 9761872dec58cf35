import QueryByExample.Proofs.Paging
/-!
# One value or a list of it

Most modifiers take a value or a list of values. A value means the same as the list that holds it
alone, unless it is one of the values that stand for none: those mean the same as the empty list.

## Main definitions

- `Modifiers.ListPlace`: the places of a document where a value or a list may stand.
- `Json.isVoid`: the values that stand for none.

## Main statements

- `Modifiers.texts_singleton`, `Modifiers.texts_void`: what is read in such a place.
- `compile_singleton`: documents with a value and with the list of it compile to the same query.
-/

namespace QueryByExample

/-- Null, false and the empty text stand for none. -/
def Json.isVoid : Json → Bool
  | .null | .bool false => true
  | .string s => s.isEmpty
  | _ => false

/-! ### Texts of numbers -/

theorem Decimal.intText_ne_empty (i : Int) : intText i ≠ "" := by
  have hdigits : toString i.natAbs ≠ "" := Nat.repr_ne_empty
  unfold intText
  split
  · simp
  · exact hdigits

theorem Decimal.positional_ne_empty (digits : List Char) (n : Int) : positional digits n ≠ "" := by
  unfold positional
  split
  · simp
  · split <;> simp

theorem Decimal.Layout.text_ne_empty {layout : Layout} (h : layout.exponentMark ≠ "")
    (d : Digits) : layout.text d ≠ "" := by
  simp only [text]
  split
  · exact positional_ne_empty _ _
  · simp [h]

theorem Json.Number.text_ne_empty (n : Number) : n.text ≠ "" := by
  cases n with
  | integer i => exact Decimal.intText_ne_empty i
  | double x =>
    have hmark : numberLayout.exponentMark ≠ "" := by decide
    change (if x.isFinite then numberLayout.doubleText x else "null") ≠ ""
    by_cases hfinite : x.isFinite = true
    · rw [if_pos hfinite, Decimal.Layout.doubleText]
      split <;> split <;> simp [Decimal.Layout.text_ne_empty hmark]
    · simp [hfinite]

namespace Modifiers

variable {value value' : Json}

/-! ### Reading a place -/

/-- Of a scalar that stands for something and of the list that holds it alone the same text is
read, and what is no scalar is no item of a list either. -/
theorem texts_singleton (key : String) (harray : ∀ items, value ≠ .array items)
    (hvoid : value.isVoid = false) :
    Setting.texts key (.array [value]) = Setting.texts key value := by
  cases value with
  | null => cases hvoid
  | bool b =>
    cases b with
    | false => cases hvoid
    | true => rfl
  | number n =>
    have htext : n.text.isEmpty = false := String.isEmpty_eq_false_iff.2 n.text_ne_empty
    change Except.ok [n.text] = Except.ok (if n.text.isEmpty then [] else [n.text])
    rw [htext]
    rfl
  | string s =>
    change Except.ok [s] = Except.ok (if s.isEmpty then [] else [s])
    rw [show s.isEmpty = false from hvoid]
    rfl
  | array items => exact absurd rfl (harray items)
  | object entries => rfl

theorem texts_void (key : String) (hvoid : value.isVoid = true) :
    Setting.texts key value = Setting.texts key (.array []) := by
  cases value with
  | bool b =>
    cases b with
    | false => rfl
    | true => cases hvoid
  | string s =>
    change Except.ok (if s.isEmpty then [] else [s]) = Except.ok []
    rw [show s.isEmpty = true from hvoid]
    rfl
  | null => rfl
  | number _ | array _ | object _ => cases hvoid

/-- The modifiers that take a text or a list of texts. -/
def textsKeys : List String := ["$where", "$filter", "$orderby", "$groupby", "$having", "$from"]

/-- A place of a document where a value or a list of values may stand: such a modifier, or one of
the variables that `$values` lists. -/
inductive ListPlace where
  | modifier (key : String) (h : key ∈ textsKeys)
  | values (before : List (String × Json)) (name : String) (after : List (String × Json))

namespace ListPlace

/-- The root key above the place. -/
def key : ListPlace → String
  | .modifier key _ => key
  | .values _ _ _ => "$values"

/-- The value of the root key, with a value in the place. -/
def fill : ListPlace → Json → Json
  | .modifier _ _, value => value
  | .values before name after, value => .object (before ++ (name, value) :: after)

/-- The document that has a value in the place, between other root entries. -/
def document (place : ListPlace) (before after : List (String × Json)) (value : Json) : Json :=
  .object (before ++ (place.key, place.fill value) :: after)

theorem isKey_key (place : ListPlace) : isKey place.key = true := by
  cases place with
  | modifier key h =>
    have hkeys : ∀ key ∈ textsKeys, isKey key = true := by decide
    exact hkeys key h
  | values before name after =>
    have hvalues : isKey "$values" = true := by decide
    exact hvalues

theorem read_congr (place : ListPlace)
    (h : ∀ key, Setting.texts key value = Setting.texts key value') :
    Setting.read place.key (place.fill value) = Setting.read place.key (place.fill value') := by
  cases place with
  | modifier key hkey =>
    simp only [textsKeys, List.mem_cons, List.not_mem_nil, or_false] at hkey
    rcases hkey with rfl | rfl | rfl | rfl | rfl | rfl <;>
      simp [ListPlace.key, fill, Setting.read, h]
  | values before name after =>
    simp [ListPlace.key, fill, Setting.read, Setting.entries, h]

end ListPlace

/-! ### Documents -/

variable {before after : List (String × Json)} {key : String}

theorem addEntries_congr (m : Modifiers)
    (h : Setting.read key value = Setting.read key value') :
    addEntries m (before ++ (key, value) :: after) =
      addEntries m (before ++ (key, value') :: after) := by
  induction before generalizing m with
  | nil => simp only [List.nil_append, addEntries, h]
  | cons entry rest ih =>
    obtain ⟨other, content⟩ := entry
    simp only [List.cons_append, addEntries, ih]

theorem otherEntries_append (hkey : isKey key = true) (value : Json) :
    otherEntries (before ++ (key, value) :: after) = otherEntries (before ++ after) := by
  simp [otherEntries, hkey]

theorem compile_congr (hkey : isKey key = true)
    (h : Setting.read key value = Setting.read key value') :
    compile (.object (before ++ (key, value) :: after)) =
      compile (.object (before ++ (key, value') :: after)) := by
  simp only [compile, ofEntries, addEntries_congr {} h, otherEntries_append hkey]

/-! ### Blank patterns -/

/-- The patterns of a document that reach its query. -/
def shownPatterns (patterns : List String) : List String :=
  (patterns.map Text.trim).filter fun text => !text.isEmpty

/-- The same modifiers, except perhaps for blank patterns. -/
def SameButBlanks (m m' : Modifiers) : Prop :=
  ∃ patterns, m' = { m with patterns } ∧ shownPatterns patterns = shownPatterns m.patterns

theorem SameButBlanks.applyEntry {m m' : Modifiers} (h : SameButBlanks m m')
    (entry : String × Json) : SameButBlanks (applyEntry m entry) (applyEntry m' entry) := by
  obtain ⟨patterns, rfl, hpatterns⟩ := h
  unfold Modifiers.applyEntry
  cases Setting.read entry.1 entry.2 with
  | error fault => exact ⟨patterns, rfl, hpatterns⟩
  | ok setting? =>
    cases setting? with
    | none => exact ⟨patterns, rfl, hpatterns⟩
    | some setting =>
      cases setting with
      | patterns texts => exact ⟨texts, rfl, rfl⟩
      | _ => exact ⟨patterns, rfl, hpatterns⟩

theorem SameButBlanks.foldl {m m' : Modifiers} (h : SameButBlanks m m')
    (entries : List (String × Json)) :
    SameButBlanks (entries.foldl Modifiers.applyEntry m)
      (entries.foldl Modifiers.applyEntry m') := by
  induction entries generalizing m m' with
  | nil => exact h
  | cons entry rest ih => exact ih (h.applyEntry entry)

theorem SameButBlanks.text_eq {m m' : Modifiers} (h : SameButBlanks m m')
    (projection : List Projection) (clauses : List Clause) :
    (SelectQuery.mk m' projection clauses).text = (SelectQuery.mk m projection clauses).text := by
  obtain ⟨patterns, rfl, hpatterns⟩ := h
  have hall : (SelectQuery.mk { m with patterns } projection clauses).patterns =
      (SelectQuery.mk m projection clauses).patterns :=
    congrArg (· ++ Clause.texts clauses) hpatterns
  have hlines : (SelectQuery.mk { m with patterns } projection clauses).patternLines =
      (SelectQuery.mk m projection clauses).patternLines := by
    rw [SelectQuery.patternLines, SelectQuery.patternLines, hall]
  simp only [SelectQuery.text, SelectQuery.lines, SelectQuery.bodyLines, hlines]
  rfl

/-- An empty pattern on its own is none, and in a list it is dropped from the query. -/
theorem sameButBlanks_of_where {m : Modifiers}
    (h : (ofEntries (before ++ ("$where", .string "") :: after)).outcome = .ok m) :
    ∃ m', (ofEntries (before ++ ("$where", .array [.string ""]) :: after)).outcome = .ok m' ∧
      SameButBlanks m m' := by
  obtain ⟨haccepts, rfl⟩ := ofEntries_eq_ok_iff.1 h
  refine ⟨_, ofEntries_eq_ok_iff.2 ⟨?_, rfl⟩, ?_⟩
  · intro entry hentry
    rcases List.mem_append.1 hentry with hentry | hentry
    · exact haccepts entry (List.mem_append_left _ hentry)
    · rcases List.mem_cons.1 hentry with rfl | hentry
      · rfl
      · exact haccepts entry (List.mem_append_right _ (List.mem_cons_of_mem _ hentry))
  · rw [List.foldl_append, List.foldl_append, List.foldl_cons, List.foldl_cons]
    apply SameButBlanks.foldl
    have hshown : shownPatterns [""] = shownPatterns [] := by decide
    exact ⟨[""], rfl, hshown⟩

end Modifiers

/-- A document with one value in a place for a value or a list compiles to the same query as the
document with the list of this value alone, unless the value stands for none; as a pattern, the
empty text is no exception. A value that stands for none means the same as the empty list. -/
theorem compile_singleton (before after : List (String × Json)) (place : Modifiers.ListPlace)
    {value : Json} (harray : ∀ items, value ≠ .array items) :
    (value.isVoid = true → compile (place.document before after value) =
      compile (place.document before after (.array []))) ∧
    (value.isVoid = false ∨ place.key = "$where" ∧ value = .string "" →
      ∀ compiled, (compile (place.document before after value)).outcome = .ok compiled →
      ∃ compiled',
        (compile (place.document before after (.array [value]))).outcome = .ok compiled' ∧
        compiled'.text = compiled.text ∧
        compiled'.query.projection = compiled.query.projection ∧
        compiled'.template = compiled.template ∧ compiled'.form = compiled.form ∧
        compiled'.tags? = compiled.tags? ∧ compiled'.pagination? = compiled.pagination?) := by
  constructor
  · intro hvoid
    exact Modifiers.compile_congr place.isKey_key
      (place.read_congr fun key => Modifiers.texts_void key hvoid)
  · rintro (hvoid | ⟨hkey, rfl⟩) compiled h
    · have hsame : compile (place.document before after (.array [value])) =
          compile (place.document before after value) :=
        Modifiers.compile_congr place.isKey_key
          (place.read_congr fun key => Modifiers.texts_singleton key harray hvoid)
      exact ⟨compiled, hsame ▸ h, rfl, rfl, rfl, rfl, rfl, rfl⟩
    · obtain ⟨_, m, form, node, fields, hentries, hm, hlocate, hcheck, rfl⟩ :=
        compile_eq_ok_iff.1 h
      obtain rfl := Json.object.inj hentries
      cases place with
      | values _ _ _ =>
        have hvalues : "$values" ≠ "$where" := by decide
        exact absurd hkey hvalues
      | modifier key hmem =>
        obtain rfl : key = "$where" := hkey
        obtain ⟨m', hm', hblanks⟩ := Modifiers.sameButBlanks_of_where hm
        have hisKey : Modifiers.isKey "$where" = true := by decide
        rw [Modifiers.ListPlace.key, Modifiers.otherEntries_append hisKey] at hlocate
        rw [← Modifiers.otherEntries_append hisKey (.array [.string ""])] at hlocate
        obtain ⟨patterns, rfl, -⟩ := id hblanks
        have hplan : Plan.ofFields { m with patterns } fields = Plan.ofFields m fields := by
          apply Plan.ofFields_congr
          · exact fun _ => rfl
          · rfl
        refine ⟨_, compile_eq_ok_iff.2 ⟨_, _, form, node, fields, rfl, hm', hlocate, hcheck, rfl⟩,
          ?_⟩
        rw [hplan]
        exact ⟨hblanks.text_eq _ _, rfl, rfl, rfl, rfl, rfl⟩

/-! ### Museums

Museums of some cities and kinds. -/

namespace Museums

def entries : List (String × Json) :=
  [("id", .string "?museum"), ("city", .string "?city"), ("kind", .string "$dbo:type$var:kind")]

def checked : Prototype.Checked :=
  [("id", .leaf ⟨⟨.variable "?museum", {}⟩, none⟩), ("city", .leaf ⟨⟨.variable "?city", {}⟩, none⟩),
    ("kind", .leaf ⟨⟨.path "dbo:type", { chosenVariable? := some "?kind" }⟩, none⟩)]

/-- A place among the inline values. -/
def city : Modifiers.ListPlace := .values [("kind", .array [.string "art"])] "city" []

/-- The place of the filters. -/
def filter : Modifiers.ListPlace := .modifier "$filter" (by decide)

def document (place : Modifiers.ListPlace) (value : Json) : Json :=
  place.document [("proto", .object entries)] [("$limit", .null)] value

def compiled (m : Modifiers) : CompiledQuery := (Plan.ofFields m checked).compiled m .plain

theorem outcome_check :
    (Prototype.check none (Prototype.ofEntries entries)).outcome = .ok checked := rfl

/-- The modifiers of a document about museums decide how it compiles. -/
theorem outcome_document {place : Modifiers.ListPlace} {value : Json} {m : Modifiers}
    (hm : (Modifiers.ofEntries [("proto", .object entries), (place.key, place.fill value),
      ("$limit", .null)]).outcome = .ok m) (hlanguage : m.language? = none) :
    (compile (document place value)).outcome = .ok (compiled m) := by
  have hlocate : Prototype.locate (Modifiers.otherEntries
      ([("proto", .object entries)] ++ (place.key, place.fill value) :: [("$limit", .null)])) =
      .ok (.plain, entries) := by
    rw [Modifiers.otherEntries_append place.isKey_key]
    rfl
  exact compile_eq_ok_iff.2 ⟨_, m, .plain, entries, checked, rfl, hm, hlocate,
    hlanguage ▸ outcome_check, rfl⟩

end Museums

theorem compile_singleton_museums :
    let m : Modifiers := { values := [("?kind", ["art"]), ("?city", ["dbr:Rome"])] }
    ((∀ items, Json.string "dbr:Rome" ≠ .array items) ∧
      (Json.string "dbr:Rome").isVoid = false ∧
      (compile (Museums.document Museums.city (.string "dbr:Rome"))).outcome =
        .ok (Museums.compiled m)) ∧
    ∃ compiled', (compile (Museums.document Museums.city
        (.array [.string "dbr:Rome"]))).outcome = .ok compiled' ∧
      compiled'.text = (Museums.compiled m).text ∧
      compiled'.query.projection = (Museums.compiled m).query.projection ∧
      compiled'.template = (Museums.compiled m).template ∧
      compiled'.form = (Museums.compiled m).form ∧
      compiled'.tags? = (Museums.compiled m).tags? ∧
      compiled'.pagination? = (Museums.compiled m).pagination? := by
  intro m
  have harray : ∀ items, Json.string "dbr:Rome" ≠ .array items := nofun
  have hvoid : (Json.string "dbr:Rome").isVoid = false := by decide
  have hcompile : (compile (Museums.document Museums.city (.string "dbr:Rome"))).outcome =
      .ok (Museums.compiled m) := Museums.outcome_document rfl rfl
  exact ⟨⟨harray, hvoid, hcompile⟩,
    (compile_singleton _ _ Museums.city harray).2 (Or.inl hvoid) _ hcompile⟩

/-- Values that stand for none are exceptions: in a list, false and the empty text are filters, and
null is a fault. -/
theorem compile_singleton_void_museums :
    (∃ compiled compiled',
      (compile (Museums.document Museums.filter (.bool false))).outcome = .ok compiled ∧
      (compile (Museums.document Museums.filter (.array [.bool false]))).outcome = .ok compiled' ∧
      compiled'.text ≠ compiled.text) ∧
    (∃ compiled compiled',
      (compile (Museums.document Museums.filter (.string ""))).outcome = .ok compiled ∧
      (compile (Museums.document Museums.filter (.array [.string ""]))).outcome = .ok compiled' ∧
      compiled'.text ≠ compiled.text) ∧
    ∃ compiled error,
      (compile (Museums.document Museums.filter .null)).outcome = .ok compiled ∧
      (compile (Museums.document Museums.filter (.array [.null]))).outcome = .error error := by
  refine ⟨⟨Museums.compiled {}, Museums.compiled { filters := ["false"] },
      Museums.outcome_document rfl rfl, Museums.outcome_document rfl rfl, by decide⟩,
    ⟨Museums.compiled {}, Museums.compiled { filters := [""] },
      Museums.outcome_document rfl rfl, Museums.outcome_document rfl rfl, by decide⟩,
    ⟨Museums.compiled {}, _, Museums.outcome_document rfl rfl, rfl⟩⟩

end QueryByExample
