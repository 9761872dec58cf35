import QueryByExample.Compile
import QueryByExample.Proofs.Fields
/-!
# Reading modifiers

Every modifier has a key and takes values of one form. The modifiers of a document are what its
root entries set one after the other, if all of them are accepted; otherwise the first entry that
is not accepted decides the error. Modifiers with different keys do not touch each other, so the
order of the entries has no influence on a success.

## Main definitions

- `Modifiers.forms`: the keys of all modifiers, each with the form of its values.
- `Modifiers.accepts`: the entries that are no modifiers or have a value of the right form.
- `Modifiers.Reads`: what a reader of one modifier does.
- `Modifiers.applyEntry`: what one root entry sets.

## Main statements

- `Modifiers.reads_read`: the accepted entries are those that are read.
- `Modifiers.failure?_addEntries`: the first entry that is not accepted decides the error.
- `Modifiers.ofEntries_eq_ok_iff`: the modifiers of a document.
- `Modifiers.foldl_applyEntry_perm`: the order of root entries has no influence.
- `Prototype.locate_otherEntries`: the prototype is found whether or not the modifiers are taken out.
-/

namespace QueryByExample

section Failure

variable {ε α β : Type} {outcome : Except ε α}

/-- The error of a computation that failed. -/
def failure? : Except ε α → Option ε
  | .ok _ => none
  | .error fault => some fault

theorem failure?_eq_some_iff {fault : ε} : failure? outcome = some fault ↔ outcome = .error fault := by
  cases outcome <;> simp [failure?]

theorem failure?_eq_none_iff : failure? outcome = none ↔ ∃ a, outcome = .ok a := by
  cases outcome <;> simp [failure?]

theorem exists_of_bind_pure {f : α → β} {b : β} (h : (outcome >>= fun a => pure (f a)) = .ok b) :
    ∃ a, f a = b := by
  cases outcome with
  | error fault => cases h
  | ok a => exact ⟨a, Except.ok.inj h⟩

end Failure

namespace Modifiers

/-! ### Values -/

/-- The forms of the values of modifiers. -/
inductive ValueForm where
  /-- A scalar or a list of scalars. -/
  | texts
  /-- An unsigned number of 64 bits, perhaps as text. -/
  | count
  | flag
  | text
  /-- One of the words of a closed choice. -/
  | word (words : List String)
  /-- An object of scalars. -/
  | scalarEntries
  /-- An object of scalars and lists of scalars. -/
  | textsEntries

def isScalar : Json → Bool
  | .string _ | .number _ | .bool _ => true
  | _ => false

def isTexts : Json → Bool
  | .null => true
  | .array items => items.all isScalar
  | value => isScalar value

def isCount : Json → Bool
  | .null => true
  | .number (.integer i) => Word.fitsUnsigned i
  | .string s =>
    let trimmed := Text.trimChars s.toList
    trimmed.isEmpty || (Decimal.readCount? trimmed).isSome
  | _ => false

def isFlag : Json → Bool
  | .null | .bool _ => true
  | _ => false

def isText : Json → Bool
  | .null | .string _ => true
  | _ => false

def isWord (words : List String) : Json → Bool
  | .null => true
  | .string s => s.isEmpty || words.contains s
  | _ => false

def isEntries (admits : Json → Bool) : Json → Bool
  | .object entries => entries.all fun entry => admits entry.2
  | _ => false

/-- The values of a form. Null stands for the default, except where entries are asked for. -/
def ValueForm.admits : ValueForm → Json → Bool
  | .texts => isTexts
  | .count => isCount
  | .flag => isFlag
  | .text => isText
  | .word words => isWord words
  | .scalarEntries => isEntries isScalar
  | .textsEntries => isEntries isTexts

/-- The keys of all modifiers, each with the form of its values. -/
def forms : List (String × ValueForm) :=
  [("$where", .texts), ("$filter", .texts), ("$limit", .count), ("$offset", .count),
    ("$distinct", .flag), ("$orderby", .texts), ("$groupby", .texts), ("$having", .texts),
    ("$prefixes", .scalarEntries), ("$values", .textsEntries), ("$from", .texts),
    ("$lang", .text), ("$langTag", .word ["show", "hide"]),
    ("$limitMode", .word ["query", "library"])]

/-- The keys of modifiers. -/
def keys : List String := Fields.names forms

/-- The value of a root entry has the form that its key asks for, if the key is a modifier. -/
def accepts (key : String) (value : Json) : Bool :=
  match Fields.find? key forms with
  | some form => form.admits value
  | none => true

theorem accepts_of_not_mem_keys {key : String} (h : key ∉ keys) (value : Json) :
    accepts key value = true := by
  rw [accepts, Fields.find?_eq_none_iff.2 h]

/-! ### Readers -/

/-- The modifier that an error is about. -/
def Error.key : Error → String
  | .wrongKind key _ _ | .badValue key _ => key

/-- A reader of the modifier `key` succeeds if the value is accepted. Otherwise its error names the
modifier. -/
inductive Reads (key : String) {α : Type} : Bool → Except Error α → Prop where
  | ok (a : α) : Reads key true (.ok a)
  | error {fault : Error} (h : fault.key = key) : Reads key false (.error fault)

section Readers

variable {α β : Type} {key : String} {accepted accepted' : Bool} {outcome : Except Error α}

theorem Reads.bind {next : α → Except Error β} (h : Reads key accepted outcome)
    (hnext : ∀ a, Reads key accepted' (next a)) :
    Reads key (accepted && accepted') (outcome >>= next) := by
  cases h with
  | ok a => exact hnext a
  | error h => exact .error h

theorem Reads.map (f : α → β) (h : Reads key accepted outcome) :
    Reads key accepted (outcome >>= fun a => pure (f a)) := by
  cases h with
  | ok a => exact .ok (f a)
  | error h => exact .error h

theorem Reads.isOk_iff (h : Reads key accepted outcome) :
    accepted = true ↔ failure? outcome = none := by
  cases h <;> simp [failure?]

theorem Reads.key_eq {fault : Error} (h : Reads key accepted (.error fault : Except Error α)) :
    fault.key = key := by
  cases h with
  | error h => exact h

theorem Reads.eq_false {fault : Error}
    (h : Reads key accepted (.error fault : Except Error α)) : accepted = false := by
  cases h with
  | error h => rfl

variable (key)

theorem reads_scalar (value : Json) : Reads key (isScalar value) (Setting.scalar key value) := by
  cases value with
  | string _ | number _ | bool _ => exact .ok _
  | null | array _ | object _ => exact .error rfl

theorem reads_scalars (items : List Json) :
    Reads key (items.all isScalar) (Setting.scalars key items) := by
  induction items with
  | nil => exact .ok []
  | cons item rest ih =>
    rw [Setting.scalars, List.all_cons]
    exact (reads_scalar key item).bind fun text => ih.map fun texts => text :: texts

theorem reads_texts (value : Json) : Reads key (isTexts value) (Setting.texts key value) := by
  cases value with
  | array items => exact reads_scalars key items
  | bool b => cases b <;> exact .ok _
  | null | string _ | number _ => exact .ok _
  | object _ => exact .error rfl

theorem reads_count (value : Json) : Reads key (isCount value) (Setting.count key value) := by
  cases value with
  | number n =>
    cases n with
    | integer i =>
      rw [Setting.count, isCount]
      cases Word.fitsUnsigned i with
      | true => exact .ok _
      | false => exact .error rfl
    | double x => exact .error rfl
  | string s =>
    rw [Setting.count, isCount]
    cases (Text.trimChars s.toList).isEmpty with
    | true => exact .ok none
    | false =>
      cases Decimal.readCount? (Text.trimChars s.toList) with
      | some n => exact .ok (some n)
      | none => exact .error rfl
  | null => exact .ok none
  | bool _ | array _ | object _ => exact .error rfl

theorem reads_flag (default : Bool) (value : Json) :
    Reads key (isFlag value) (Setting.flag key default value) := by
  cases value with
  | null | bool _ => exact .ok _
  | number _ | string _ | array _ | object _ => exact .error rfl

theorem reads_text? (value : Json) : Reads key (isText value) (Setting.text? key value) := by
  cases value with
  | null | string _ => exact .ok _
  | bool _ | number _ | array _ | object _ => exact .error rfl

theorem reads_word? {ofName : String → Except UnknownWord α} {words : List String}
    (h : ∀ word, (ofName word).isOk = words.contains word) (value : Json) :
    Reads key (isWord words value) (Setting.word? key ofName value) := by
  cases value with
  | string s =>
    rw [isWord, ← h s]
    cases hempty : s.isEmpty with
    | true =>
      have hword : Setting.word? key ofName (.string s) = .ok none := by
        simp [Setting.word?, Setting.text?, hempty, bind, Except.bind, pure, Except.pure]
      rw [hword]
      exact .ok none
    | false =>
      cases hname : ofName s with
      | ok choice =>
        have hword : Setting.word? key ofName (.string s) = .ok (some choice) := by
          simp [Setting.word?, Setting.text?, hempty, hname, bind, Except.bind, pure, Except.pure]
        rw [hword]
        exact .ok (some choice)
      | error fault =>
        have hword : Setting.word? key ofName (.string s) =
            .error (.badValue key ("unrecognised value `" ++ s ++ "`")) := by
          simp [Setting.word?, Setting.text?, hempty, hname, bind, Except.bind, throw, throwThe,
            MonadExceptOf.throw]
        rw [hword]
        exact .error rfl
  | null => exact .ok none
  | bool _ | number _ | array _ | object _ => exact .error rfl

theorem reads_entries {reading : Json → Except Error α} {admits : Json → Bool}
    (h : ∀ value, Reads key (admits value) (reading value)) (value : Json) :
    Reads key (isEntries admits value) (Setting.entries key reading value) := by
  cases value with
  | object entries =>
    rw [Setting.entries, isEntries]
    induction entries with
    | nil => exact .ok []
    | cons entry rest ih =>
      rw [List.all_cons, List.mapM_cons]
      exact ((h entry.2).map fun a => (entry.1, a)).bind fun field => ih.map fun fields =>
        field :: fields
  | null | bool _ | number _ | string _ | array _ => exact .error rfl

end Readers

theorem isOk_ofName_tags (word : String) :
    (TagDisplay.ofName word).isOk = ["show", "hide"].contains word := by
  by_cases hshow : word = "show"
  · subst hshow
    rfl
  · by_cases hhide : word = "hide"
    · subst hhide
      rfl
    · simp [TagDisplay.ofName, hshow, hhide, Except.isOk, Except.toBool]

theorem isOk_ofName_limitMode (word : String) :
    (LimitMode.ofName word).isOk = ["query", "library"].contains word := by
  by_cases hquery : word = "query"
  · subst hquery
    rfl
  · by_cases hlibrary : word = "library"
    · subst hlibrary
      rfl
    · simp [LimitMode.ofName, hquery, hlibrary, Except.isOk, Except.toBool]

/-- A root entry is read iff it is accepted, and an error names its key. -/
theorem reads_read (key : String) (value : Json) :
    Reads key (accepts key value) (Setting.read key value) := by
  unfold Setting.read
  -- one case for each key, in the order of `forms`
  split
  · exact (reads_texts _ value).map _
  · exact (reads_texts _ value).map _
  · exact (reads_count _ value).map _
  · exact (reads_count _ value).map _
  · exact (reads_flag _ true value).map _
  · exact (reads_texts _ value).map _
  · exact (reads_texts _ value).map _
  · exact (reads_texts _ value).map _
  · exact (reads_entries _ (reads_scalar _) value).map _
  · exact (reads_entries _ (reads_texts _) value).map _
  · exact (reads_texts _ value).map _
  · exact (reads_text? _ value).map _
  · exact (reads_word? _ isOk_ofName_tags value).map _
  · exact (reads_word? _ isOk_ofName_limitMode value).map _
  · have hkey : key ∉ keys := by
      simp only [keys, forms, Fields.names, List.map_cons, List.map_nil, List.mem_cons,
        List.not_mem_nil, or_false, not_or]
      and_intros <;> assumption
    rw [accepts_of_not_mem_keys hkey]
    exact .ok none

/-! ### Settings -/

/-- The key of the modifier that gives a setting. -/
def Setting.key : Setting → String
  | .patterns _ => "$where"
  | .filters _ => "$filter"
  | .limit _ => "$limit"
  | .offset _ => "$offset"
  | .distinct _ => "$distinct"
  | .orderBy _ => "$orderby"
  | .groupBy _ => "$groupby"
  | .having _ => "$having"
  | .namespaces _ => "$prefixes"
  | .values _ => "$values"
  | .graphs _ => "$from"
  | .language _ => "$lang"
  | .tags _ => "$langTag"
  | .limitMode _ => "$limitMode"

theorem key_of_read {key : String} {value : Json} {setting : Setting}
    (h : Setting.read key value = .ok (some setting)) : setting.key = key := by
  unfold Setting.read at h
  split at h
  case h_15 => cases h
  all_goals
    obtain ⟨_, hsetting⟩ := exists_of_bind_pure h
    obtain rfl := Option.some.inj hsetting
    rfl

theorem isKey_of_mem_keys {key : String} (h : key ∈ keys) : isKey key = true := by
  have hkeys : ∀ key ∈ keys, isKey key = true := by decide
  exact hkeys key h

theorem read_of_not_mem_keys {key : String} (h : key ∉ keys) (value : Json) :
    Setting.read key value = .ok none := by
  unfold Setting.read
  split
  case h_15 => rfl
  all_goals exact absurd (by decide) h

/-- An entry is read as no modifier iff its key is that of none. -/
theorem read_eq_ok_none_iff {key : String} {value : Json} :
    Setting.read key value = .ok none ↔ key ∉ keys := by
  constructor
  · intro h hmem
    unfold Setting.read at h
    split at h
    case h_15 => simp_all [keys, forms, Fields.names]
    all_goals
      obtain ⟨_, hnone⟩ := exists_of_bind_pure h
      cases hnone
  · intro h
    exact read_of_not_mem_keys h value

/-- Settings of different modifiers do not touch each other. -/
theorem apply_comm {s t : Setting} (h : s.key ≠ t.key) (m : Modifiers) :
    (m.apply s).apply t = (m.apply t).apply s := by
  cases s <;> cases t <;> first | rfl | exact absurd rfl h

/-! ### Root entries -/

/-- The modifiers after one more root entry, if it is accepted. -/
def applyEntry (m : Modifiers) (entry : String × Json) : Modifiers :=
  match Setting.read entry.1 entry.2 with
  | .ok (some setting) => m.apply setting
  | _ => m

theorem applyEntry_of_not_mem_keys {entry : String × Json} (h : entry.1 ∉ keys) (m : Modifiers) :
    applyEntry m entry = m := by
  rw [applyEntry, read_of_not_mem_keys h]

theorem applyEntry_comm {entry other : String × Json} (h : entry.1 ≠ other.1) (m : Modifiers) :
    applyEntry (applyEntry m entry) other = applyEntry (applyEntry m other) entry := by
  unfold applyEntry
  cases hread : Setting.read entry.1 entry.2 with
  | error fault => rfl
  | ok setting? =>
    cases setting? with
    | none => rfl
    | some setting =>
      cases hread' : Setting.read other.1 other.2 with
      | error fault => rfl
      | ok setting? =>
        cases setting? with
        | none => rfl
        | some setting' =>
          refine apply_comm ?_ m
          rwa [key_of_read hread, key_of_read hread']

/-- The order of root entries has no influence on what they set. -/
theorem foldl_applyEntry_perm {entries entries' : List (String × Json)}
    (distinct : Fields.Distinct entries) (h : entries.Perm entries') (m : Modifiers) :
    entries.foldl applyEntry m = entries'.foldl applyEntry m := by
  apply h.foldl_eq'
  intro entry hentry other hother m
  -- entries of the same key are the same entry, all others set different things
  by_cases hkey : entry.1 = other.1
  · have hvalue := distinct.find?_of_mem hother
    rw [← hkey, distinct.find?_of_mem hentry] at hvalue
    rw [Prod.ext hkey (Option.some.inj hvalue)]
  · exact applyEntry_comm hkey m

/-- What an entry sets may be set last. -/
theorem foldl_applyEntry_of_find? {entries : List (String × Json)} {key : String} {value : Json}
    (distinct : Fields.Distinct entries) (h : Fields.find? key entries = some value)
    (m : Modifiers) :
    entries.foldl applyEntry m =
      applyEntry ((entries.filter fun entry => entry.1 != key).foldl applyEntry m) (key, value) := by
  rw [foldl_applyEntry_perm distinct (Fields.perm_of_find? distinct h), List.foldl_append]
  rfl

theorem foldl_applyEntry_of_not_mem_keys {entries : List (String × Json)}
    (h : ∀ entry ∈ entries, entry.1 ∉ keys) (m : Modifiers) : entries.foldl applyEntry m = m := by
  induction entries with
  | nil => rfl
  | cons entry rest ih =>
    rw [List.foldl_cons, applyEntry_of_not_mem_keys (h entry List.mem_cons_self)]
    exact ih fun entry hentry => h entry (List.mem_cons_of_mem _ hentry)

theorem outcome_addEntries_cons (m : Modifiers) (entry : String × Json)
    (rest : List (String × Json)) :
    (addEntries m (entry :: rest)).outcome = (Setting.read entry.1 entry.2).bind fun _ =>
      (addEntries (applyEntry m entry) rest).outcome := by
  obtain ⟨key, value⟩ := entry
  rw [addEntries, applyEntry]
  by_cases hkey : isKey key = true
  · rw [if_pos hkey]
    cases Setting.read key value with
    | error fault => rfl
    | ok setting? =>
      cases setting? with
      | none => exact Traced.outcome_bind _ _
      | some setting => rfl
  · have hread : Setting.read key value = .ok none :=
      read_of_not_mem_keys (fun h => hkey (isKey_of_mem_keys h)) value
    rw [if_neg hkey, hread]
    rfl

/-- The first entry that is not accepted decides the error. -/
theorem failure?_addEntries (m : Modifiers) (entries : List (String × Json)) :
    failure? (addEntries m entries).outcome =
      entries.findSome? fun entry => failure? (Setting.read entry.1 entry.2) := by
  induction entries generalizing m with
  | nil => rfl
  | cons entry rest ih =>
    rw [outcome_addEntries_cons, List.findSome?_cons]
    cases Setting.read entry.1 entry.2 with
    | error fault => rfl
    | ok setting? => exact ih _

theorem eq_of_addEntries {m m' : Modifiers} {entries : List (String × Json)}
    (h : (addEntries m entries).outcome = .ok m') : m' = entries.foldl applyEntry m := by
  induction entries generalizing m with
  | nil => exact (Except.ok.inj h).symm
  | cons entry rest ih =>
    rw [outcome_addEntries_cons] at h
    cases hread : Setting.read entry.1 entry.2 with
    | error fault =>
      rw [hread] at h
      cases h
    | ok setting? =>
      rw [hread] at h
      exact ih h

/-- A document has modifiers iff all of its root entries are accepted, and they are what the entries
set. -/
theorem ofEntries_eq_ok_iff {entries : List (String × Json)} {m : Modifiers} :
    (ofEntries entries).outcome = .ok m ↔
      (∀ entry ∈ entries, accepts entry.1 entry.2 = true) ∧ m = entries.foldl applyEntry {} := by
  have hsucceeds : (∃ m, (ofEntries entries).outcome = .ok m) ↔
      ∀ entry ∈ entries, accepts entry.1 entry.2 = true := by
    rw [← failure?_eq_none_iff, ofEntries, failure?_addEntries, List.findSome?_eq_none_iff]
    exact forall₂_congr fun entry _ => (reads_read entry.1 entry.2).isOk_iff.symm
  constructor
  · intro h
    exact ⟨hsucceeds.1 ⟨m, h⟩, eq_of_addEntries h⟩
  · rintro ⟨h, rfl⟩
    obtain ⟨m, hm⟩ := hsucceeds.2 h
    rwa [eq_of_addEntries hm] at hm

/-! ### Parts of a document -/

theorem addEntries_filter (m : Modifiers) (entries : List (String × Json)) :
    addEntries m (entries.filter fun entry => isKey entry.1) = addEntries m entries := by
  induction entries generalizing m with
  | nil => rfl
  | cons entry rest ih =>
    obtain ⟨key, value⟩ := entry
    by_cases hkey : isKey key = true
    · simp only [List.filter_cons, hkey, if_true, addEntries, ih]
    · simp only [List.filter_cons, hkey, addEntries]
      exact ih m

theorem ofEntries_congr {entries entries' : List (String × Json)}
    (h : (entries.filter fun entry => isKey entry.1) =
      entries'.filter fun entry => isKey entry.1) : ofEntries entries = ofEntries entries' := by
  unfold ofEntries
  rw [← addEntries_filter, h, addEntries_filter]

theorem find?_otherEntries (entries : List (String × Json)) {name : String}
    (h : isKey name = false) :
    Fields.find? name (otherEntries entries) = Fields.find? name entries := by
  unfold otherEntries
  induction entries with
  | nil => rfl
  | cons entry rest ih =>
    obtain ⟨key, value⟩ := entry
    by_cases hkey : key = name
    · subst hkey
      simp [h, Fields.find?]
    · by_cases hmodifier : isKey key = true
      · simpa [hmodifier, hkey, Fields.find?] using ih
      · simpa [hmodifier, hkey, Fields.find?] using ih

end Modifiers

theorem Prototype.locate_otherEntries (entries : List (String × Json)) :
    locate (Modifiers.otherEntries entries) = locate entries := by
  have hfind := fun name => @Modifiers.find?_otherEntries entries name
  unfold locate
  simp only [hfind "@graph" rfl, hfind "proto" rfl, hfind "@context" rfl]

end QueryByExample
