import Mathlib.Data.List.Forall2
/-!
# Lexemes

The lexical rules of the query language, as far as inline values and conditions need them. A text is
scanned from left to right; what is read of it is known whenever a blank follows, so the lexemes of
texts that are joined with blanks are the lexemes of the texts, one after the other.

Comments are refused, and so are escapes of code points: they reach beyond the text they stand in.

## Main definitions

- `Lexeme`: what the scanner tells apart.
- `Lexeme.step`, `Lexeme.scan`: what one character does, and a run over all of them.
- `Lexeme.ofText?`: the lexemes of a text, unless it breaks off or breaks a rule.
- `Lexeme.size`: how many characters a lexeme takes at least.

## Main statements

- `Lexeme.step_append_blank`: no step looks beyond a blank.
- `Lexeme.scan_append_blank`: a blank closes what was read.
- `Lexeme.ofText?_intercalate`: the lexemes of joined texts.
- `Lexeme.totalSize_scan`: the lexemes of a text are not larger than the text.
-/

namespace QueryByExample

/-- What the scanner tells apart. -/
inductive Lexeme where
  /-- An IRI reference, without its brackets. -/
  | iri (text : String)
  /-- A string literal, by the string it denotes. -/
  | string (value : String)
  /-- A name, a variable, a number or a keyword. -/
  | word (text : String)
  /-- A character of an operator or of a list. -/
  | sign (c : Char)
  | not
  | and
  | or
  | opening
  | closing
  deriving DecidableEq

namespace Lexeme

/-! ### Characters -/

def isBlank (c : Char) : Bool := " \t\r\n".toList.contains c

/-- May the character stand in an IRI reference? -/
def isIriChar (c : Char) : Bool :=
  decide (' ' < c) && !("<>\"\x7b\x7d|^\x60\\".toList.contains c)

def isSign (c : Char) : Bool := "=<>!&|+*/,;".toList.contains c

/-- May the character follow a backslash in a name? -/
def isLocalEscape (c : Char) : Bool := "_~.-!$&'()*+,;=/?#@%".toList.contains c

/-- What a character that follows a backslash in a string denotes. -/
def escape? : Char → Option Char
  | 't' => some '\t'
  | 'b' => some '\x08'
  | 'n' => some '\n'
  | 'r' => some '\r'
  | 'f' => some '\x0c'
  | c => if "\\\"'".toList.contains c then some c else none

/-- Does the text go on with an IRI reference to its closing bracket? -/
def endsIri (rest : List Char) : Bool := (rest.dropWhile isIriChar).head? == some '>'

/-! ### The scanner -/

/-- The two marks that enclose strings. -/
inductive Mark where
  | single
  | double
  deriving DecidableEq

namespace Mark

def char : Mark → Char
  | single => '\''
  | double => '"'

def ofChar? (c : Char) : Option Mark :=
  if c = '\'' then some single else if c = '"' then some double else none

/-- Two further marks make a mark that of a long string. -/
def twice (mark : Mark) : List Char := [mark.char, mark.char]

end Mark

/-- Where the scanner stands, with what it has read of a lexeme that has begun. -/
inductive Mode where
  /-- Outside brackets and marks; the word that has begun may be empty. -/
  | outside (begun : List Char)
  /-- After a backslash in a word. -/
  | escaping (begun : List Char)
  | iri (text : List Char)
  /-- In a string; only a long one may hold line breaks. -/
  | quoted (long : Bool) (mark : Mark) (value : List Char)
  /-- After a backslash in a string. -/
  | quotedEscaping (long : Bool) (mark : Mark) (value : List Char)
  /-- At a character that was read with the one before it. -/
  | skipping (next : Mode)

/-- The lexeme of a word that has begun. -/
def ofBegun (begun : List Char) : List Lexeme :=
  if begun.isEmpty then [] else [.word (String.ofList begun)]

/-- What a character outside of brackets and marks does, with the text after it in view. -/
def stepOutside (begun : List Char) (c : Char) (rest : List Char) : Option (List Lexeme × Mode) :=
  if isBlank c then some (ofBegun begun, .outside [])
  else if c = '<' ∧ endsIri rest then some (ofBegun begun, .iri [])
  else match Mark.ofChar? c with
    | some mark =>
      some (ofBegun begun, if mark.twice.isPrefixOf rest
        then .skipping (.skipping (.quoted true mark [])) else .quoted false mark [])
    | none =>
      if c = '(' then some (ofBegun begun ++ [.opening], .outside [])
      else if c = ')' then some (ofBegun begun ++ [.closing], .outside [])
      else if c = '&' ∧ ['&'].isPrefixOf rest then
        some (ofBegun begun ++ [.and], .skipping (.outside []))
      else if c = '|' ∧ ['|'].isPrefixOf rest then
        some (ofBegun begun ++ [.or], .skipping (.outside []))
      else if c = '!' ∧ ¬ ['='].isPrefixOf rest then some (ofBegun begun ++ [.not], .outside [])
      else if isSign c then some (ofBegun begun ++ [.sign c], .outside [])
      else if c = '\\' then some ([], .escaping begun)
      else if c = '#' then none
      else some ([], .outside (begun ++ [c]))

/-- The lexemes that a character completes and the mode after it, unless it breaks a rule. -/
def step (mode : Mode) (c : Char) (rest : List Char) : Option (List Lexeme × Mode) :=
  match mode with
  | .outside begun => stepOutside begun c rest
  | .escaping begun =>
    if isLocalEscape c then some ([], .outside (begun ++ ['\\', c])) else none
  | .iri text =>
    if c = '>' then some ([.iri (String.ofList text)], .outside [])
    else some ([], .iri (text ++ [c]))
  | .quoted long mark value =>
    if c = mark.char ∧ (long → mark.twice.isPrefixOf rest) then
      some ([.string (String.ofList value)],
        if long then .skipping (.skipping (.outside [])) else .outside [])
    else if c = '\\' then some ([], .quotedEscaping long mark value)
    else if !long ∧ (c = '\n' ∨ c = '\r') then none
    else some ([], .quoted long mark (value ++ [c]))
  | .quotedEscaping long mark value =>
    (escape? c).map fun denoted => ([], .quoted long mark (value ++ [denoted]))
  | .skipping next => some ([], next)

/-- The lexemes that the end of the text completes; it must not break off inside of one. -/
def finish : Mode → Option (List Lexeme)
  | .outside begun => some (ofBegun begun)
  | _ => none

/-- The lexemes of the rest of a text. -/
def scan (mode : Mode) : List Char → Option (List Lexeme)
  | [] => finish mode
  | c :: rest =>
    match step mode c rest with
    | some (lexemes, next) => (scan next rest).map (lexemes ++ ·)
    | none => none

/-- The lexemes of a text. -/
def ofText? (text : String) : Option (List Lexeme) := scan (.outside []) text.toList

example : ofText? "COUNT(?x)>=2 && !(?y != \"a \\\"b\\\"\")" =
    some [.word "COUNT", .opening, .word "?x", .closing, .sign '>', .sign '=', .word "2", .and,
      .not, .opening, .word "?y", .sign '!', .sign '=', .string "a \"b\"", .closing] := by decide

/-- A text is read character by character. -/
theorem scan_cons_eq_some_iff {mode : Mode} {c : Char} {rest : List Char} {lexemes : List Lexeme} :
    scan mode (c :: rest) = some lexemes ↔ ∃ done next more, step mode c rest = some (done, next) ∧
      scan next rest = some more ∧ lexemes = done ++ more := by
  rw [scan]
  cases step mode c rest with
  | none => simp
  | some completed =>
    obtain ⟨done, next⟩ := completed
    constructor
    · intro h
      obtain ⟨more, hmore, rfl⟩ := Option.map_eq_some_iff.1 h
      exact ⟨done, next, more, rfl, hmore, rfl⟩
    · rintro ⟨_, _, more, ⟨⟩, hmore, rfl⟩
      exact Option.map_eq_some_iff.2 ⟨more, hmore, rfl⟩

/-! ### Blanks close what was read -/

theorem isPrefixOf_append_blank {cs : List Char} (hcs : ' ' ∉ cs) (rest after : List Char) :
    cs.isPrefixOf (rest ++ ' ' :: after) = cs.isPrefixOf rest := by
  induction cs generalizing rest with
  | nil => simp
  | cons c cs ih =>
    rw [List.mem_cons, not_or] at hcs
    cases rest with
    | nil => simp [List.isPrefixOf, Ne.symm hcs.1]
    | cons d rest => simp [List.isPrefixOf, ih hcs.2]

theorem Mark.blank_not_mem_twice (mark : Mark) : ' ' ∉ mark.twice := by
  cases mark <;> decide

theorem endsIri_append_blank (rest after : List Char) :
    endsIri (rest ++ ' ' :: after) = endsIri rest := by
  unfold endsIri
  induction rest with
  | nil => simp [show isIriChar ' ' = false by decide]
  | cons c rest ih =>
    rw [List.cons_append, List.dropWhile_cons, List.dropWhile_cons]
    split
    · exact ih
    · rfl

theorem stepOutside_append_blank (begun : List Char) (c : Char) (rest after : List Char) :
    stepOutside begun c (rest ++ ' ' :: after) = stepOutside begun c rest := by
  have hand : ' ' ∉ ['&'] := by decide
  have hor : ' ' ∉ ['|'] := by decide
  have heq : ' ' ∉ ['='] := by decide
  simp only [stepOutside, endsIri_append_blank, isPrefixOf_append_blank hand,
    isPrefixOf_append_blank hor, isPrefixOf_append_blank heq,
    isPrefixOf_append_blank (Mark.blank_not_mem_twice _)]

/-- No step looks beyond a blank. -/
theorem step_append_blank (mode : Mode) (c : Char) (rest after : List Char) :
    step mode c (rest ++ ' ' :: after) = step mode c rest := by
  cases mode with
  | outside begun => exact stepOutside_append_blank begun c rest after
  | quoted long mark value =>
    simp only [step, isPrefixOf_append_blank mark.blank_not_mem_twice]
  | escaping | iri | quotedEscaping | skipping => rfl

/-- A blank closes what was read. -/
theorem scan_append_blank {mode : Mode} {text : List Char} {lexemes : List Lexeme}
    (h : scan mode text = some lexemes) (after : List Char) :
    scan mode (text ++ ' ' :: after) = (scan (.outside []) after).map (lexemes ++ ·) := by
  induction text generalizing mode lexemes with
  | nil =>
    cases mode with
    | outside begun =>
      obtain rfl : ofBegun begun = lexemes := by
        rw [scan] at h
        exact Option.some.inj h
      have hstep : step (.outside begun) ' ' after = some (ofBegun begun, .outside []) := by
        simp [step, stepOutside, show isBlank ' ' = true by decide]
      rw [List.nil_append, scan, hstep]
    | escaping | iri | quoted | quotedEscaping | skipping => cases h
  | cons c rest ih =>
    obtain ⟨done, next, more, hstep, hmore, rfl⟩ := scan_cons_eq_some_iff.1 h
    rw [List.cons_append, scan, step_append_blank, hstep]
    simp only [ih hmore, Option.map_map]
    congr 1
    funext others
    exact (List.append_assoc _ _ _).symm

/-- Texts are joined by a blank and perhaps a separator of their own; their lexemes are joined by
those of the separator. -/
theorem scan_intercalate {separator : List Char} {between : List Lexeme}
    (hseparator : ∀ after, scan (.outside []) (separator ++ after) =
      (scan (.outside []) after).map (between ++ ·))
    {texts : List (List Char)} {lexemes : List (List Lexeme)}
    (h : List.Forall₂ (fun text read => scan (.outside []) text = some read) texts lexemes) :
    scan (.outside []) (List.intercalate (' ' :: separator) texts) =
      some (List.intercalate between lexemes) := by
  induction h with
  | nil => simp [scan, finish, ofBegun]
  | @cons text read texts lexemes hread htail ih =>
    cases htail with
    | nil => simpa using hread
    | cons hnext htail =>
      rw [List.intercalate_cons_cons, List.intercalate_cons_cons, List.append_assoc,
        List.cons_append, scan_append_blank hread, hseparator, ih]
      simp

/-- The lexemes of joined texts. -/
theorem ofText?_intercalate (separator : String) (between : List Lexeme)
    (hseparator : ∀ after, scan (.outside []) (separator.toList ++ after) =
      (scan (.outside []) after).map (between ++ ·))
    {texts : List String} {lexemes : List (List Lexeme)}
    (h : List.Forall₂ (fun text read => ofText? text = some read) texts lexemes) :
    ofText? ((" " ++ separator).intercalate texts) = some (List.intercalate between lexemes) := by
  have hblank : (" " ++ separator).toList = ' ' :: separator.toList := by
    rw [String.toList_append]
    rfl
  rw [ofText?, String.toList_intercalate, hblank]
  exact scan_intercalate hseparator (List.forall₂_map_left_iff.2 h)

/-! ### Lexemes fit into their text -/

/-- How many characters a lexeme takes at least. Brackets and marks are counted, escapes are not. -/
def size : Lexeme → Nat
  | .iri text | .string text => text.length + 2
  | .word text => text.length
  | .and | .or => 2
  | .sign _ | .not | .opening | .closing => 1

/-- How many characters some lexemes take at least. -/
def totalSize : List Lexeme → Nat
  | [] => 0
  | lexeme :: rest => lexeme.size + totalSize rest

theorem totalSize_append (lexemes others : List Lexeme) :
    totalSize (lexemes ++ others) = totalSize lexemes + totalSize others := by
  induction lexemes with
  | nil => simp [totalSize]
  | cons lexeme rest ih => simp [totalSize, ih, Nat.add_assoc]

theorem totalSize_singleton (lexeme : Lexeme) : totalSize [lexeme] = lexeme.size := rfl

theorem totalSize_ofBegun (begun : List Char) : totalSize (ofBegun begun) = begun.length := by
  cases begun with
  | nil => rfl
  | cons c rest => exact String.length_ofList

/-- What of the lexeme that has begun counts. The characters that are skipped count before they are
reached. -/
def Mode.size : Mode → Int
  | .outside begun => begun.length
  | .escaping begun => begun.length + 1
  | .iri text => text.length + 1
  | .quoted _ _ value | .quotedEscaping _ _ value => value.length + 1
  | .skipping next => next.size - 1

theorem size_stepOutside {begun : List Char} {c : Char} {rest : List Char}
    {lexemes : List Lexeme} {next : Mode}
    (h : stepOutside begun c rest = some (lexemes, next)) :
    totalSize lexemes + next.size ≤ begun.length + 1 := by
  revert h
  fun_cases stepOutside begun c rest
  all_goals rintro ⟨⟩
  all_goals simp only [totalSize_append, totalSize_ofBegun, totalSize, size, apply_ite Mode.size,
    Mode.size, List.length_append, List.length_cons, List.length_nil]
  all_goals omega

/-- One character adds at most one to what counts. -/
theorem size_step {mode next : Mode} {c : Char} {rest : List Char} {lexemes : List Lexeme}
    (h : step mode c rest = some (lexemes, next)) :
    totalSize lexemes + next.size ≤ mode.size + 1 := by
  cases mode with
  | outside begun => exact size_stepOutside h
  | quotedEscaping long mark value =>
    obtain ⟨denoted, -, hnext⟩ := Option.map_eq_some_iff.1 h
    cases hnext
    simp only [totalSize, Mode.size, List.length_append, List.length_cons, List.length_nil]
    omega
  | escaping | iri | quoted | skipping =>
    rw [step] at h
    repeat' split at h
    all_goals cases h
    all_goals simp only [totalSize, size, Mode.size, String.length_ofList, List.length_append,
      List.length_cons, List.length_nil]
    all_goals omega

/-- The lexemes of a text are not larger than the text. -/
theorem totalSize_scan {mode : Mode} {text : List Char} {lexemes : List Lexeme}
    (h : scan mode text = some lexemes) : totalSize lexemes ≤ mode.size + text.length := by
  induction text generalizing mode lexemes with
  | nil =>
    cases mode with
    | outside begun =>
      cases h
      simp only [totalSize_ofBegun, Mode.size]
      omega
    | escaping | iri | quoted | quotedEscaping | skipping => cases h
  | cons c rest ih =>
    obtain ⟨done, next, more, hstep, hmore, rfl⟩ := scan_cons_eq_some_iff.1 h
    have hdone := size_step hstep
    have hrest := ih hmore
    rw [totalSize_append, List.length_cons]
    push_cast
    omega

end Lexeme

end QueryByExample
