import Mathlib.Data.List.TakeWhile
import QueryByExample.Text.Blank
/-!
# Nested brackets

A text is properly nested in braces and parentheses if every bracket is closed by one of its kind,
in the reverse order of their opening. A scan of the text keeps the open brackets on a stack;
properly nested texts are those that leave every stack as it was, so that texts can be put together
without looking inside of them.

## Main definitions

- `Text.Nested`, `Text.IsNested`: properly nested texts.
- `Text.scan`: the brackets that are open after a text.

## Main statements

- `Text.nested_iff`: a text is properly nested iff a scan of it opens and closes nothing.
- `Text.scan_intercalate`: a scan of joined texts is a scan of one text after the other.
-/

namespace QueryByExample.Text

/-- The kinds of brackets. -/
inductive BracketKind where
  | brace
  | paren
  deriving DecidableEq

namespace BracketKind

/-- The bracket that opens. -/
def opening : BracketKind → Char
  | brace => '\x7b'
  | paren => '('

/-- The bracket that closes. -/
def closing : BracketKind → Char
  | brace => '\x7d'
  | paren => ')'

/-- A character that is no bracket. -/
def IsPlain (c : Char) : Prop := ∀ b : BracketKind, c ≠ b.opening ∧ c ≠ b.closing

theorem isPlain_iff {c : Char} :
    IsPlain c ↔ c ≠ '\x7b' ∧ c ≠ '\x7d' ∧ c ≠ '(' ∧ c ≠ ')' := by
  constructor
  · intro h
    exact ⟨(h brace).1, (h brace).2, (h paren).1, (h paren).2⟩
  · rintro ⟨hopen, hclose, hopen', hclose'⟩ (_ | _)
    · exact ⟨hopen, hclose⟩
    · exact ⟨hopen', hclose'⟩

theorem cases_char (c : Char) :
    (∃ b : BracketKind, c = b.opening) ∨ (∃ b : BracketKind, c = b.closing) ∨ IsPlain c := by
  by_cases hopen : ∃ b : BracketKind, c = b.opening
  · exact .inl hopen
  by_cases hclose : ∃ b : BracketKind, c = b.closing
  · exact .inr (.inl hclose)
  · exact .inr (.inr fun b => ⟨fun h => hopen ⟨b, h⟩, fun h => hclose ⟨b, h⟩⟩)

end BracketKind

open BracketKind (IsPlain)

/-- Properly nested characters. -/
inductive Nested : List Char → Prop where
  | nil : Nested []
  | plain {c : Char} {rest : List Char} (hc : IsPlain c) (h : Nested rest) : Nested (c :: rest)
  | enclosed (b : BracketKind) {inner rest : List Char} (hinner : Nested inner)
      (hrest : Nested rest) : Nested (b.opening :: (inner ++ b.closing :: rest))

/-- Close the last open bracket. -/
def close (b : BracketKind) : List BracketKind → Option (List BracketKind)
  | [] => none
  | last :: others => if last = b then some others else none

/-- The open brackets after one more character. -/
def step (stack : List BracketKind) (c : Char) : Option (List BracketKind) :=
  if c = '\x7b' then some (.brace :: stack)
  else if c = '(' then some (.paren :: stack)
  else if c = '\x7d' then close .brace stack
  else if c = ')' then close .paren stack
  else some stack

/-- The open brackets after some characters, the last one first; none if a bracket is closed that is
not the last open one. -/
def run (stack : List BracketKind) (cs : List Char) : Option (List BracketKind) :=
  cs.foldlM step stack

variable {stack : List BracketKind} {b : BracketKind} {c : Char} {cs rest : List Char}

theorem step_opening : step stack b.opening = some (b :: stack) := by
  cases b <;> rfl

theorem step_closing : step stack b.closing = close b stack := by
  cases b <;> rfl

theorem step_plain (h : IsPlain c) : step stack c = some stack := by
  obtain ⟨hopen, hclose, hopen', hclose'⟩ := BracketKind.isPlain_iff.1 h
  simp [step, hopen, hclose, hopen', hclose']

theorem close_self : close b (b :: stack) = some stack := if_pos rfl

theorem run_cons : run stack (c :: cs) = (step stack c).bind (run · cs) := rfl

theorem run_append : run stack (cs ++ rest) = (run stack cs).bind (run · rest) := by
  rw [run, List.foldlM_append]
  rfl

/-- A properly nested text leaves every stack as it was. -/
theorem Nested.run_eq (h : Nested cs) (stack : List BracketKind) : run stack cs = some stack := by
  induction h generalizing stack with
  | nil => rfl
  | plain hc _ ih => rw [run_cons, step_plain hc, Option.bind_some, ih]
  | enclosed b _ _ ihinner ihrest =>
    rw [run_cons, step_opening, Option.bind_some, run_append, ihinner, Option.bind_some, run_cons,
      step_closing, close_self, Option.bind_some, ihrest]

/-- The bracket that closes the last open one stands behind a properly nested text. -/
theorem exists_closing_of_run {stack : List BracketKind} {b : BracketKind} {cs : List Char}
    (h : run (b :: stack) cs = some []) :
    ∃ inner rest, cs = inner ++ b.closing :: rest ∧ Nested inner ∧ run stack rest = some [] := by
  match cs with
  | [] => cases h
  | c :: tail =>
    rw [run_cons] at h
    rcases BracketKind.cases_char c with ⟨opened, rfl⟩ | ⟨closed, rfl⟩ | hplain
    · -- close the new bracket first, and then the one that was open
      rw [step_opening, Option.bind_some] at h
      obtain ⟨inner, middle, htail, hinner, hmiddle⟩ := exists_closing_of_run h
      have hlength : middle.length < tail.length := by
        rw [htail, List.length_append, List.length_cons]
        omega
      obtain ⟨inner', rest, rfl, hinner', hrest⟩ := exists_closing_of_run hmiddle
      exact ⟨opened.opening :: (inner ++ opened.closing :: inner'), rest, by simp [htail],
        .enclosed opened hinner hinner', hrest⟩
    · rw [step_closing, close] at h
      split at h
      · next heq =>
        subst heq
        exact ⟨[], tail, rfl, .nil, h⟩
      · cases h
    · rw [step_plain hplain, Option.bind_some] at h
      obtain ⟨inner, rest, rfl, hinner, hrest⟩ := exists_closing_of_run h
      exact ⟨c :: inner, rest, rfl, .plain hplain hinner, hrest⟩
termination_by cs.length
decreasing_by all_goals rw [List.length_cons]; omega

/-- A text that opens and closes nothing is properly nested. -/
theorem nested_of_run {cs : List Char} (h : run [] cs = some []) : Nested cs := by
  match cs with
  | [] => exact .nil
  | c :: tail =>
    rw [run_cons] at h
    rcases BracketKind.cases_char c with ⟨opened, rfl⟩ | ⟨closed, rfl⟩ | hplain
    · rw [step_opening, Option.bind_some] at h
      obtain ⟨inner, rest, htail, hinner, hrest⟩ := exists_closing_of_run h
      have hlength : rest.length < tail.length := by
        rw [htail, List.length_append, List.length_cons]
        omega
      rw [htail]
      exact .enclosed opened hinner (nested_of_run hrest)
    · rw [step_closing] at h
      cases h
    · rw [step_plain hplain, Option.bind_some] at h
      exact .plain hplain (nested_of_run h)
termination_by cs.length
decreasing_by all_goals rw [List.length_cons]; omega

theorem nested_iff : Nested cs ↔ run [] cs = some [] :=
  ⟨fun h => h.run_eq [], nested_of_run⟩

/-! ### Texts -/

/-- A text that is properly nested in braces and parentheses. -/
def IsNested (text : String) : Prop := Nested text.toList

instance (text : String) : Decidable (IsNested text) := decidable_of_iff _ nested_iff.symm

/-- The open brackets after a text, the last one first. -/
def scan (stack : List BracketKind) (text : String) : Option (List BracketKind) :=
  run stack text.toList

variable {text other separator : String} {texts : List String}

theorem isNested_iff : IsNested text ↔ scan [] text = some [] := nested_iff

theorem IsNested.scan_eq (h : IsNested text) (stack : List BracketKind) :
    scan stack text = some stack :=
  h.run_eq stack

theorem scan_append : scan stack (text ++ other) = (scan stack text).bind (scan · other) := by
  rw [scan, String.toList_append, run_append]
  rfl

theorem IsNested.append (h : IsNested text) (hother : IsNested other) :
    IsNested (text ++ other) := by
  rw [isNested_iff, scan_append, h.scan_eq, Option.bind_some, hother.scan_eq]

/-- A properly nested text between one that opens brackets and one that closes them. -/
theorem IsNested.between {before after : String} (h : IsNested text)
    (hopen : scan [] before = some stack) (hclose : scan stack after = some []) :
    IsNested (before ++ text ++ after) := by
  rw [isNested_iff, scan_append, scan_append, hopen, Option.bind_some, h.scan_eq, Option.bind_some,
    hclose]

/-- A scan of joined texts is a scan of one text after the other. -/
theorem scan_intercalate (hseparator : IsNested separator) (stack : List BracketKind)
    (texts : List String) : scan stack (separator.intercalate texts) = texts.foldlM scan stack := by
  induction texts generalizing stack with
  | nil => rfl
  | cons text rest ih =>
    cases rest with
    | nil =>
      rw [String.intercalate_singleton, List.foldlM_cons]
      exact (Option.bind_fun_some _).symm
    | cons next rest =>
      rw [String.intercalate_cons_cons, scan_append, scan_append, List.foldlM_cons,
        Option.bind_assoc]
      refine Option.bind_congr fun after _ => ?_
      rw [hseparator.scan_eq, Option.bind_some, ih]

theorem foldlM_scan_eq (h : ∀ text ∈ texts, IsNested text) (stack : List BracketKind) :
    texts.foldlM scan stack = some stack := by
  induction texts with
  | nil => rfl
  | cons text rest ih =>
    rw [List.foldlM_cons, (h text List.mem_cons_self).scan_eq]
    exact ih fun other hother => h other (List.mem_cons_of_mem _ hother)

theorem isNested_intercalate (hseparator : IsNested separator)
    (h : ∀ text ∈ texts, IsNested text) : IsNested (separator.intercalate texts) := by
  rw [isNested_iff, scan_intercalate hseparator, foldlM_scan_eq h]

theorem nested_of_plain (h : ∀ c ∈ cs, IsPlain c) : Nested cs := by
  induction cs with
  | nil => exact .nil
  | cons c rest ih =>
    exact .plain (h c List.mem_cons_self) (ih fun d hd => h d (List.mem_cons_of_mem _ hd))

/-- A character of a class without brackets is none. -/
theorem isPlain_of_mem {p : Char → Bool}
    (hbrackets : ∀ b : BracketKind, p b.opening = false ∧ p b.closing = false)
    (h : p c = true) : IsPlain c := by
  intro b
  obtain ⟨hopening, hclosing⟩ := hbrackets b
  constructor
  · rintro rfl
    exact Bool.false_ne_true (hopening.symm.trans h)
  · rintro rfl
    exact Bool.false_ne_true (hclosing.symm.trans h)

/-- Numerals have no brackets. -/
theorem isNested_toString (n : Nat) : IsNested (toString n) := by
  have hdigit : ∀ b : BracketKind, b.opening.isDigit = false ∧ b.closing.isDigit = false := by
    intro b
    cases b <;> decide
  refine nested_of_plain fun c hc => isPlain_of_mem hdigit ?_
  rw [Nat.toString_eq_repr, Nat.toList_repr] at hc
  exact Nat.isDigit_of_mem_toDigits (by omega) (by omega) hc

theorem run_of_blank (h : ∀ c ∈ cs, isBlank c = true) (stack : List BracketKind) :
    run stack cs = some stack := by
  have hblank : ∀ b : BracketKind, isBlank b.opening = false ∧ isBlank b.closing = false := by
    intro b
    cases b <;> decide
  exact (nested_of_plain fun c hc => isPlain_of_mem hblank (h c hc)).run_eq stack

/-- A text is what trimming leaves of it between blanks. -/
theorem exists_blank_append (cs : List Char) :
    ∃ before after, cs = before ++ trimChars cs ++ after ∧
      (∀ c ∈ before, isBlank c = true) ∧ ∀ c ∈ after, isBlank c = true := by
  refine ⟨cs.takeWhile isBlank, ((cs.dropWhile isBlank).reverse.takeWhile isBlank).reverse, ?_,
    fun c hc => List.mem_takeWhile_imp hc, fun c hc =>
      List.mem_takeWhile_imp (List.mem_reverse.1 hc)⟩
  rw [trimChars, trimEnd, List.append_assoc, ← List.reverse_append, List.takeWhile_append_dropWhile,
    List.reverse_reverse, List.takeWhile_append_dropWhile]

/-- Trimming takes no brackets away. -/
theorem IsNested.trim (h : IsNested text) : IsNested (Text.trim text) := by
  obtain ⟨before, after, htext, hbefore, hafter⟩ := exists_blank_append text.toList
  have hscan : run [] text.toList = run [] (trimChars text.toList) := by
    calc run [] text.toList
        = run [] (before ++ trimChars text.toList ++ after) := congrArg (run []) htext
      _ = run [] (trimChars text.toList) := by
        rw [run_append, run_append, run_of_blank hbefore, Option.bind_some]
        exact (Option.bind_congr fun stack _ => run_of_blank hafter stack).trans
          (Option.bind_fun_some _)
  rw [IsNested, toList_trim, nested_iff, ← hscan]
  exact nested_iff.1 h

end QueryByExample.Text
