import Mathlib.Data.List.TakeWhile
import QueryByExample.Modifiers.Clauses
import QueryByExample.Proofs.Syntax.Lexeme
import QueryByExample.Text.CharacterSet
/-!
# Inline values

An inline value should become one term: an IRI or a prefixed name stands for a resource, and any
other text for a string. The form of a value is chosen by its start and by whether it has a colon.
It gives the term exactly for the values that it suits, and the text between the braces has one term
for each of them.

The form does not suit a text with a colon that is no prefixed name, a text that starts like an IRI
and is no resource, and a string with a character that ends or escapes the literal.

## Main definitions

- `InlineValue.isPrefixedName`: the names of the grammar, with a namespace and a local part.
- `InlineValue.isIri`: the references of the grammar that start with a scheme.
- `InlineValue.Denotes`: the terms of a value.
- `InlineValue.isSuited`: does the form of a value suit it?
- `InlineValue.term`: the term as which a value is written in a form that suits it.

## Main statements

- `InlineValue.ofText?_of_isPrefixedName`: a prefixed name is one word.
- `InlineValue.isSuited_iff`: what is written for a value is a term of it iff the form suits it.
- `Modifiers.lexemes_valuesClauses`: the values of a variable are written one after the other.
-/

namespace QueryByExample

namespace InlineValue

/-! ### Prefixed names -/

/-- The letters with which names start. -/
def letters : Text.CharacterSet :=
  ⟨[(0x41, 0x5a), (0x61, 0x7a), (0xc0, 0xd6), (0xd8, 0xf6), (0xf8, 0x2ff), (0x370, 0x37d),
    (0x37f, 0x1fff), (0x200c, 0x200d), (0x2070, 0x218f), (0x2c00, 0x2fef), (0x3001, 0xd7ff),
    (0xf900, 0xfdcf), (0xfdf0, 0xfffd), (0x10000, 0xeffff)]⟩

/-- Digits and marks, which may follow. -/
def trailers : Text.CharacterSet :=
  ⟨[(0x2d, 0x2d), (0x30, 0x39), (0xb7, 0xb7), (0x300, 0x36f), (0x203f, 0x2040)]⟩

def isNameChar (c : Char) : Bool := letters.contains c || c == '_' || trailers.contains c

/-- Is this the part of a prefixed name before its colon? A dot may stand inside. -/
def isNamespace : List Char → Bool
  | [] => true
  | c :: rest => letters.contains c && rest.all (fun d => isNameChar d || d == '.') &&
    rest.getLast? != some '.'

/-- Does a local name go on like this to its end? -/
def isLocalRest : List Char → Bool
  | [] => true
  | c :: rest =>
    if c = '%' then
      match rest with
      | a :: b :: rest =>
        (Text.hexDigitValue? a).isSome && (Text.hexDigitValue? b).isSome && isLocalRest rest
      | _ => false
    else if c = '\\' then
      match rest with
      | d :: rest => Lexeme.isLocalEscape d && isLocalRest rest
      | [] => false
    else (isNameChar c || c == ':' || (c == '.' && !rest.isEmpty)) && isLocalRest rest

/-- Is this the part of a prefixed name after its colon? -/
def isLocal : List Char → Bool
  | [] => true
  | c :: rest => (letters.contains c || "_:%\\".toList.contains c || c.isDigit) &&
    isLocalRest (c :: rest)

def isPrefixedName (text : String) : Bool :=
  match Text.cutAtFirst ':' text.toList with
  | (before, some after) => isNamespace before && isLocal after
  | (_, none) => false

example : ["dbr:Milan", "dbr:", ":a.b:c", "dbr:Washington\\,_D.C\\.", "dbr:D.C.", "Alien: Covenant",
      "_:b"].map isPrefixedName = [true, true, true, true, false, false, false] := by
  decide +kernel

/-! ### IRIs -/

/-- Is this the part of an IRI before its first colon? -/
def isScheme : List Char → Bool
  | [] => false
  | c :: rest => c.isAlpha && rest.all fun d => d.isAlphanum || "+-.".toList.contains d

/-- Is this an IRI, without the brackets of a reference to it? -/
def isIri (text : String) : Bool :=
  match Text.cutAtFirst ':' text.toList with
  | (scheme, some _) => isScheme scheme && text.toList.all Lexeme.isIriChar
  | (_, none) => false

/-- Does the text name a resource? -/
def isResource (text : String) : Bool := isIri text || isPrefixedName text

example : ["http://dbpedia.org/resource/Rome", "urn:isbn:1", "httpd", "http://a b"].map isIri =
    [true, true, false, false] := by
  decide +kernel

theorem isResource_of_isPrefixedName {text : String} (h : isPrefixedName text = true) :
    isResource text = true := by
  rw [isResource, h, Bool.or_true]

/-! ### A prefixed name is one word -/

/-- The characters that end a word or stand for something else in it. -/
def wordEnds : List Char := " \t\r\n'\"()=<>!&|+*/,;\\#".toList

theorem not_mem_wordEnds {p : Char → Bool} (hends : wordEnds.all (fun d => !p d) = true)
    {c : Char} (h : p c = true) : c ∉ wordEnds := by
  intro hmem
  simpa [h] using List.all_eq_true.1 hends c hmem

theorem not_mem_wordEnds_of_isNameChar {c : Char} (h : isNameChar c = true) : c ∉ wordEnds :=
  not_mem_wordEnds (by decide +kernel) h

theorem not_mem_wordEnds_of_hexDigit {c : Char} (h : (Text.hexDigitValue? c).isSome = true) :
    c ∉ wordEnds :=
  not_mem_wordEnds (p := fun c => (Text.hexDigitValue? c).isSome) (by decide +kernel) h

theorem stepOutside_of_not_mem_wordEnds {c : Char} (h : c ∉ wordEnds) (begun rest : List Char) :
    Lexeme.stepOutside begun c rest = some ([], .outside (begun ++ [c])) := by
  unfold wordEnds at h
  simp_all [Lexeme.stepOutside, Lexeme.isBlank, Lexeme.Mark.ofChar?, Lexeme.isSign]

theorem scan_of_not_mem_wordEnds {c : Char} (h : c ∉ wordEnds) (begun rest : List Char) :
    Lexeme.scan (.outside begun) (c :: rest) = Lexeme.scan (.outside (begun ++ [c])) rest := by
  rw [Lexeme.scan, Lexeme.step, stepOutside_of_not_mem_wordEnds h]
  simp

theorem scan_word {cs : List Char} (h : ∀ c ∈ cs, c ∉ wordEnds) (begun rest : List Char) :
    Lexeme.scan (.outside begun) (cs ++ rest) = Lexeme.scan (.outside (begun ++ cs)) rest := by
  induction cs generalizing begun with
  | nil => simp
  | cons c cs ih =>
    rw [List.forall_mem_cons] at h
    rw [List.cons_append, scan_of_not_mem_wordEnds h.1, ih h.2]
    simp

theorem scan_escape {d : Char} (h : Lexeme.isLocalEscape d = true) (begun rest : List Char) :
    Lexeme.scan (.outside begun) ('\\' :: d :: rest) =
      Lexeme.scan (.outside (begun ++ ['\\', d])) rest := by
  have hbackslash : Lexeme.stepOutside begun '\\' (d :: rest) = some ([], .escaping begun) := by
    simp [Lexeme.stepOutside, Lexeme.isBlank, Lexeme.Mark.ofChar?, Lexeme.isSign]
  have hescaped : Lexeme.step (.escaping begun) d rest =
      some ([], .outside (begun ++ ['\\', d])) := if_pos h
  simp only [Lexeme.scan, Lexeme.step, hbackslash]
  simp only [Lexeme.step] at hescaped
  simp [hescaped]

/-- The rest of a local name goes on with a word to the end of the text. -/
theorem scan_localRest {cs : List Char} (h : isLocalRest cs = true) (begun : List Char) :
    Lexeme.scan (.outside begun) cs = some (Lexeme.ofBegun (begun ++ cs)) := by
  fun_induction isLocalRest cs generalizing begun with
  | case1 => simp [Lexeme.scan, Lexeme.finish]
  | case2 a b rest ih =>
    simp only [Bool.and_eq_true] at h
    obtain ⟨⟨ha, hb⟩, hrest⟩ := h
    have hpercent : '%' ∉ wordEnds := by decide
    rw [scan_of_not_mem_wordEnds hpercent,
      scan_of_not_mem_wordEnds (not_mem_wordEnds_of_hexDigit ha),
      scan_of_not_mem_wordEnds (not_mem_wordEnds_of_hexDigit hb), ih hrest]
    simp
  | case3 => cases h
  | case4 hslash d rest ih =>
    simp only [Bool.and_eq_true] at h
    rw [scan_escape h.1, ih h.2]
    simp
  | case5 => cases h
  | case6 c rest hpercent hslash ih =>
    simp only [Bool.and_eq_true, Bool.or_eq_true, beq_iff_eq] at h
    obtain ⟨hc, hrest⟩ := h
    have hword : c ∉ wordEnds := by
      rcases hc with (hc | rfl) | ⟨rfl, -⟩
      · exact not_mem_wordEnds_of_isNameChar hc
      · decide
      · decide
    rw [scan_of_not_mem_wordEnds hword, ih hrest]
    simp

theorem eq_of_cutAtFirst {separator : Char} {cs before after : List Char}
    (h : Text.cutAtFirst separator cs = (before, some after)) :
    cs = before ++ separator :: after := by
  induction cs generalizing before with
  | nil => cases h
  | cons c rest ih =>
    rw [Text.cutAtFirst] at h
    split at h
    · next heq =>
      cases h
      rw [heq, List.nil_append]
    · obtain ⟨rfl, hafter⟩ := Prod.mk.inj h
      rw [List.cons_append, ← ih (Prod.ext rfl hafter)]

theorem exists_of_isPrefixedName {text : String} (h : isPrefixedName text = true) :
    ∃ before after, text.toList = before ++ ':' :: after ∧ isNamespace before = true ∧
      isLocal after = true := by
  unfold isPrefixedName at h
  split at h
  · next before after hcut =>
    obtain ⟨hbefore, hafter⟩ := Bool.and_eq_true_iff.1 h
    exact ⟨before, after, eq_of_cutAtFirst hcut, hbefore, hafter⟩
  · cases h

theorem not_mem_wordEnds_of_isNamespace {cs : List Char} (h : isNamespace cs = true) :
    ∀ c ∈ cs, c ∉ wordEnds := by
  cases cs with
  | nil => nofun
  | cons c rest =>
    simp only [isNamespace, Bool.and_eq_true, List.all_eq_true, Bool.or_eq_true, beq_iff_eq] at h
    obtain ⟨⟨hletter, hrest⟩, -⟩ := h
    rw [List.forall_mem_cons]
    refine ⟨not_mem_wordEnds_of_isNameChar (by simp [isNameChar, hletter]), ?_⟩
    intro d hd
    rcases hrest d hd with hname | rfl
    · exact not_mem_wordEnds_of_isNameChar hname
    · decide

theorem isLocalRest_of_isLocal {cs : List Char} (h : isLocal cs = true) :
    isLocalRest cs = true := by
  cases cs with
  | nil => rfl
  | cons c rest => exact (Bool.and_eq_true_iff.1 h).2

/-- A prefixed name is one word. -/
theorem ofText?_of_isPrefixedName {text : String} (h : isPrefixedName text = true) :
    Lexeme.ofText? text = some [.word text] := by
  obtain ⟨before, after, htext, hbefore, hafter⟩ := exists_of_isPrefixedName h
  have hcolon : ':' ∉ wordEnds := by decide
  have hnonempty : text.toList.isEmpty = false := by simp [htext]
  calc Lexeme.ofText? text
    _ = Lexeme.scan (.outside []) (before ++ ':' :: after) := by rw [Lexeme.ofText?, htext]
    _ = Lexeme.scan (.outside (before ++ [':'])) after := by
      rw [scan_word (not_mem_wordEnds_of_isNamespace hbefore), scan_of_not_mem_wordEnds hcolon,
        List.nil_append]
    _ = some (Lexeme.ofBegun (before ++ [':'] ++ after)) :=
      scan_localRest (isLocalRest_of_isLocal hafter) _
    _ = some (Lexeme.ofBegun text.toList) := by
      rw [List.append_assoc, List.singleton_append, htext]
    _ = some [.word text] := by
      rw [Lexeme.ofBegun, hnonempty, String.ofList_toList]
      rfl

/-! ### The terms of a value -/

/-- The terms of a value. A resource has its reference and its name, and any other text is a
string. -/
inductive Denotes (value : String) : Lexeme → Prop where
  | iri (resource : isResource value = true) : Denotes value (.iri value)
  | name (prefixed : isPrefixedName value = true) : Denotes value (.word value)
  | string (resource : isResource value = false) : Denotes value (.string value)

/-- A written text is read as one term of a value. -/
def Conveys (written value : String) : Prop :=
  ∃ term, Denotes value term ∧ Lexeme.ofText? written = some [term]

variable {value : String}

theorem colon_mem_of_isResource (h : isResource value = true) : ':' ∈ value.toList := by
  have hcut : ∃ before after, Text.cutAtFirst ':' value.toList = (before, some after) := by
    rcases Bool.or_eq_true_iff.1 h with hiri | hname
    · unfold isIri at hiri
      split at hiri
      · next before after hcut => exact ⟨before, after, hcut⟩
      · cases hiri
    · unfold isPrefixedName at hname
      split at hname
      · next before after hcut => exact ⟨before, after, hcut⟩
      · cases hname
  obtain ⟨before, after, hcut⟩ := hcut
  simp [eq_of_cutAtFirst hcut]

theorem eq_of_denotes_iri {text : String} (h : Denotes value (.iri text)) :
    text = value ∧ isResource value = true := by
  cases h with
  | iri resource => exact ⟨rfl, resource⟩

/-! ### References -/

theorem endsIri_iff {cs : List Char} : Lexeme.endsIri cs = true ↔
    ∃ text after, cs = text ++ '>' :: after ∧ ∀ c ∈ text, Lexeme.isIriChar c = true := by
  have hbracket : Lexeme.isIriChar '>' = false := by decide
  rw [Lexeme.endsIri, beq_iff_eq]
  constructor
  · intro h
    obtain ⟨after, hafter⟩ := List.head?_eq_some_iff.1 h
    refine ⟨cs.takeWhile Lexeme.isIriChar, after, ?_, fun c hc => List.mem_takeWhile_imp hc⟩
    rw [← hafter, List.takeWhile_append_dropWhile]
  · rintro ⟨text, after, rfl, h⟩
    rw [List.dropWhile_append_of_pos h, List.dropWhile_cons_of_neg (by simp [hbracket])]
    rfl

theorem stepOutside_bracket (rest : List Char) :
    Lexeme.stepOutside [] '<' rest =
      if Lexeme.endsIri rest then some ([], .iri []) else some ([.sign '<'], .outside []) := by
  simp [Lexeme.stepOutside, Lexeme.isBlank, Lexeme.Mark.ofChar?, Lexeme.isSign, Lexeme.ofBegun]

/-- A reference ends at the first closing bracket. -/
theorem scan_iri {text : List Char} (h : ∀ c ∈ text, Lexeme.isIriChar c = true)
    (begun after : List Char) :
    Lexeme.scan (.iri begun) (text ++ '>' :: after) =
      (Lexeme.scan (.outside []) after).map (.iri (String.ofList (begun ++ text)) :: ·) := by
  induction text generalizing begun with
  | nil => simp [Lexeme.scan, Lexeme.step]
  | cons c cs ih =>
    rw [List.forall_mem_cons] at h
    have hc : c ≠ '>' := by
      rintro rfl
      exact absurd h.1 (by decide)
    simp [Lexeme.scan, Lexeme.step, hc, ih h.2, Function.comp_def]

theorem ofText?_bracketed (value : String) :
    Lexeme.ofText? ("<" ++ value ++ ">") =
      if Lexeme.endsIri (value.toList ++ ['>']) then
        Lexeme.scan (.iri []) (value.toList ++ ['>'])
      else (Lexeme.scan (.outside []) (value.toList ++ ['>'])).map (.sign '<' :: ·) := by
  have hlist : ("<" ++ value ++ ">").toList = '<' :: (value.toList ++ ['>']) := by simp
  rw [Lexeme.ofText?, hlist, Lexeme.scan, Lexeme.step, stepOutside_bracket]
  by_cases hends : Lexeme.endsIri (value.toList ++ ['>']) = true
  · rw [if_pos hends, if_pos hends]
    exact Option.map_id'
  · rw [if_neg hends, if_neg hends]
    rfl

theorem ofText?_iri (h : ∀ c ∈ value.toList, Lexeme.isIriChar c = true) :
    Lexeme.ofText? ("<" ++ value ++ ">") = some [.iri value] := by
  rw [ofText?_bracketed, if_pos (endsIri_iff.2 ⟨_, [], rfl, h⟩), scan_iri h]
  simp [Lexeme.scan, Lexeme.finish, Lexeme.ofBegun]

/-- A value in angle brackets is a term of it iff it is a resource and may be a reference. -/
theorem conveys_iri_iff : Conveys ("<" ++ value ++ ">") value ↔
    isResource value = true ∧ ∀ c ∈ value.toList, Lexeme.isIriChar c = true := by
  constructor
  · rintro ⟨term, hterm, hread⟩
    rw [ofText?_bracketed] at hread
    split at hread
    · next hends =>
      obtain ⟨text, after, htext, hchars⟩ := endsIri_iff.1 hends
      rw [htext, scan_iri hchars] at hread
      obtain ⟨more, -, hmore⟩ := Option.map_eq_some_iff.1 hread
      obtain rfl : Lexeme.iri (String.ofList text) = term := (List.cons.inj hmore).1
      -- what was read is the value only if no bracket ends it early
      obtain ⟨rfl, hresource⟩ := eq_of_denotes_iri hterm
      rw [String.toList_ofList]
      exact ⟨hresource, hchars⟩
    · obtain ⟨more, -, hmore⟩ := Option.map_eq_some_iff.1 hread
      cases hmore
      cases hterm
  · rintro ⟨hresource, hchars⟩
    exact ⟨.iri value, .iri hresource, ofText?_iri hchars⟩

/-! ### Names -/

/-- A value as it is is a term of it iff it is a prefixed name. -/
theorem conveys_self_iff : Conveys value value ↔ isPrefixedName value = true := by
  constructor
  · rintro ⟨term, hterm, hread⟩
    have hsize := Lexeme.totalSize_scan hread
    cases hterm with
    | name prefixed => exact prefixed
    | iri | string =>
      simp only [Lexeme.totalSize_singleton, Lexeme.size, Lexeme.Mode.size, List.length_nil,
        String.length_toList] at hsize
      omega
  · intro h
    exact ⟨.word value, .name h, ofText?_of_isPrefixedName h⟩

/-! ### Literals -/

/-- May the character stand in a literal as it is? -/
def isPlain (c : Char) : Bool := !"\"\\\n\r".toList.contains c

theorem step_quoted {c : Char} (h : isPlain c = true) (begun rest : List Char) :
    Lexeme.step (.quoted false .double begun) c rest =
      some ([], .quoted false .double (begun ++ [c])) := by
  have hc : c ≠ '"' ∧ c ≠ '\\' ∧ c ≠ '\n' ∧ c ≠ '\r' := by simpa [isPlain] using h
  simp [Lexeme.step, Lexeme.Mark.char, hc]

theorem scan_quoted {text : List Char} (h : ∀ c ∈ text, isPlain c = true) (begun : List Char) :
    Lexeme.scan (.quoted false .double begun) (text ++ ['"']) =
      some [.string (String.ofList (begun ++ text))] := by
  induction text generalizing begun with
  | nil => simp [Lexeme.scan, Lexeme.step, Lexeme.Mark.char, Lexeme.finish, Lexeme.ofBegun]
  | cons c cs ih =>
    rw [List.forall_mem_cons] at h
    simp [Lexeme.scan, step_quoted h.1, ih h.2]

/-- A literal that denotes what is written in it has no escapes and ends where it should. -/
theorem isPlain_of_scan_quoted {text : List Char} (begun : List Char)
    (h : Lexeme.scan (.quoted false .double begun) (text ++ ['"']) =
      some [.string (String.ofList (begun ++ text))]) : ∀ c ∈ text, isPlain c = true := by
  induction text generalizing begun with
  | nil => nofun
  | cons c cs ih =>
    rw [List.cons_append, Lexeme.scan] at h
    by_cases hplain : isPlain c = true
    · rw [List.forall_mem_cons]
      refine ⟨hplain, ih (begun ++ [c]) ?_⟩
      rw [step_quoted hplain] at h
      simpa using h
    · exfalso
      have hc : c = '"' ∨ c = '\\' ∨ c = '\n' ∨ c = '\r' := by
        by_contra hnone
        exact hplain (by simpa [isPlain] using hnone)
      rcases hc with rfl | rfl | rfl | rfl
      · -- the literal ends too early
        obtain ⟨more, -, hmore⟩ := Option.map_eq_some_iff.1 h
        have hvalue := congrArg List.length
          (String.ofList_injective (Lexeme.string.inj (List.cons.inj hmore).1))
        simp at hvalue
      · -- an escape is longer than what it denotes
        obtain ⟨more, hscan, rfl⟩ := Option.map_eq_some_iff.1 h
        have hsize := Lexeme.totalSize_scan hscan
        simp only [Lexeme.totalSize_singleton, Lexeme.size, Lexeme.Mode.size, String.length_ofList,
          List.length_append, List.length_cons, List.length_nil] at hsize
        omega
      · cases h
      · cases h

theorem stepOutside_quote (rest : List Char) :
    Lexeme.stepOutside [] '"' rest =
      some ([], if Lexeme.Mark.double.twice.isPrefixOf rest
        then .skipping (.skipping (.quoted true .double [])) else .quoted false .double []) := by
  simp [Lexeme.stepOutside, Lexeme.isBlank, Lexeme.Mark.ofChar?, Lexeme.ofBegun]

theorem ofText?_enclosed (value : String) :
    Lexeme.ofText? ("\"" ++ value ++ "\"") =
      Lexeme.scan (if Lexeme.Mark.double.twice.isPrefixOf (value.toList ++ ['"'])
        then .skipping (.skipping (.quoted true .double [])) else .quoted false .double [])
        (value.toList ++ ['"']) := by
  have hlist : ("\"" ++ value ++ "\"").toList = '"' :: (value.toList ++ ['"']) := by simp
  rw [Lexeme.ofText?, hlist, Lexeme.scan, Lexeme.step, stepOutside_quote]
  simp

theorem ofText?_quoted (h : ∀ c ∈ value.toList, isPlain c = true) :
    Lexeme.ofText? ("\"" ++ value ++ "\"") = some [.string value] := by
  have hshort : Lexeme.Mark.double.twice.isPrefixOf (value.toList ++ ['"']) = false := by
    cases hvalue : value.toList with
    | nil => rfl
    | cons c cs =>
      have hc : c ≠ '"' := by
        rintro rfl
        exact absurd (h '"' (hvalue ▸ List.mem_cons_self)) (by decide)
      simp [Lexeme.Mark.twice, Lexeme.Mark.char, List.isPrefixOf, hc.symm]
  rw [ofText?_enclosed, hshort, if_neg Bool.false_ne_true, scan_quoted h, List.nil_append,
    String.ofList_toList]

/-- A value in quotes that has no colon is a term of it iff all of its characters are plain. -/
theorem conveys_quoted_iff (hcolon : ':' ∉ value.toList) :
    Conveys ("\"" ++ value ++ "\"") value ↔ ∀ c ∈ value.toList, isPlain c = true := by
  have hresource : isResource value = false :=
    Bool.eq_false_iff.2 (mt colon_mem_of_isResource hcolon)
  constructor
  · rintro ⟨term, hterm, hread⟩
    rw [ofText?_enclosed] at hread
    cases hterm with
    | iri hiri => cases hresource.symm.trans hiri
    | name hname => cases hresource.symm.trans (isResource_of_isPrefixedName hname)
    | string =>
      split at hread
      · -- the marks of a long literal leave too little room
        have hsize := Lexeme.totalSize_scan hread
        simp only [Lexeme.totalSize_singleton, Lexeme.size, Lexeme.Mode.size, List.length_append,
          List.length_cons, List.length_nil, String.length_toList] at hsize
        omega
      · refine isPlain_of_scan_quoted [] ?_
        rw [hread, List.nil_append, String.ofList_toList]
  · intro h
    exact ⟨.string value, .string hresource, ofText?_quoted h⟩

/-! ### What is written for a value -/

/-- Does the form in which a value is written suit it? -/
def isSuited (value : String) : Bool :=
  if Modifiers.startsWith "http" value then isResource value && value.toList.all Lexeme.isIriChar
  else if value.toList.contains ':' then isPrefixedName value
  else value.toList.all isPlain

/-- What is written for a value is a term of it iff the form suits it. -/
theorem isSuited_iff : isSuited value = true ↔ Conveys (Modifiers.valueTerm value) value := by
  unfold isSuited Modifiers.valueTerm
  by_cases hstart : Modifiers.startsWith "http" value = true
  · rw [if_pos hstart, if_pos hstart, conveys_iri_iff, Bool.and_eq_true, List.all_eq_true]
  · rw [if_neg hstart, if_neg hstart]
    by_cases hcolon : value.toList.contains ':' = true
    · rw [if_pos hcolon, if_pos hcolon, conveys_self_iff]
    · rw [if_neg hcolon, if_neg hcolon, conveys_quoted_iff (by simpa using hcolon),
        List.all_eq_true]

/-- The term as which a value is written in a form that suits it. -/
def term (value : String) : Lexeme :=
  if Modifiers.startsWith "http" value then .iri value
  else if isPrefixedName value then .word value
  else .string value

theorem reads_term (h : isSuited value = true) :
    Denotes value (term value) ∧
      Lexeme.ofText? (Modifiers.valueTerm value) = some [term value] := by
  unfold isSuited at h
  unfold term Modifiers.valueTerm
  by_cases hstart : Modifiers.startsWith "http" value = true
  · rw [if_pos hstart, Bool.and_eq_true, List.all_eq_true] at h
    rw [if_pos hstart, if_pos hstart]
    exact ⟨.iri h.1, ofText?_iri h.2⟩
  · rw [if_neg hstart] at h
    rw [if_neg hstart, if_neg hstart]
    by_cases hcolon : value.toList.contains ':' = true
    · rw [if_pos hcolon] at h
      rw [if_pos hcolon, if_pos h]
      exact ⟨.name h, ofText?_of_isPrefixedName h⟩
    · rw [if_neg hcolon, List.all_eq_true] at h
      have hresource : ¬ isResource value = true :=
        mt colon_mem_of_isResource (by simpa using hcolon)
      rw [if_neg hcolon, if_neg (mt isResource_of_isPrefixedName hresource)]
      exact ⟨.string (Bool.eq_false_iff.2 hresource), ofText?_quoted h⟩

theorem nil_intercalate (lists : List (List Lexeme)) :
    List.intercalate [] lists = lists.flatten := by
  induction lists with
  | nil => rfl
  | cons first rest ih =>
    cases rest with
    | nil => simp
    | cons second rest =>
      rw [List.intercalate_cons_cons, ih, List.append_nil]
      rfl

/-- Values whose forms suit them are written as their terms. -/
theorem ofText?_intercalate_valueTerm {values : List String}
    (h : ∀ value ∈ values, isSuited value = true) :
    Lexeme.ofText? (" ".intercalate (values.map Modifiers.valueTerm)) =
      some (values.map term) := by
  have hwritten : List.Forall₂ (fun text read => Lexeme.ofText? text = some read)
      (values.map Modifiers.valueTerm) (values.map fun value => [term value]) := by
    rw [List.forall₂_map_left_iff, List.forall₂_map_right_iff, List.forall₂_same]
    exact fun value hvalue => (reads_term (h value hvalue)).2
  have hjoined := Lexeme.ofText?_intercalate "" [] (by simp) hwritten
  rw [String.append_empty, nil_intercalate, ← List.flatMap_def, ← List.map_eq_flatMap] at hjoined
  exact hjoined

end InlineValue

/-- Between the braces stands one term of each value of a variable, in their order, if their forms
suit them. What is written for a value whose form does not suit it is no term of it. -/
theorem Modifiers.lexemes_valuesClauses (m : Modifiers) :
    List.Forall₂ (fun entry clause =>
        ∃ inside, clause = "VALUES " ++ entry.1 ++ " \x7b" ++ inside ++ "\x7d" ∧
          ((∀ value ∈ entry.2, InlineValue.isSuited value = true) →
            (∀ value ∈ entry.2, InlineValue.Denotes value (InlineValue.term value)) ∧
              Lexeme.ofText? inside = some (entry.2.map InlineValue.term)))
      m.values m.valuesClauses ∧
    ∀ value, InlineValue.isSuited value = true ↔
      InlineValue.Conveys (valueTerm value) value := by
  refine ⟨?_, fun value => InlineValue.isSuited_iff⟩
  rw [valuesClauses, List.forall₂_map_right_iff, List.forall₂_same]
  intro entry _
  refine ⟨_, rfl, fun hsuited => ⟨?_, InlineValue.ofText?_intercalate_valueTerm hsuited⟩⟩
  exact fun value hvalue => (InlineValue.reads_term (hsuited value hvalue)).1

/-- An IRI, a prefixed name and a string. -/
def Cities.places : List String := ["http://dbpedia.org/resource/Rome", "dbr:Milan", "New York"]

theorem Modifiers.lexemes_valuesClauses_cities :
    (∀ value ∈ Cities.places, InlineValue.isSuited value = true) ∧
    ∃ inside, ({ values := [("?city", Cities.places)] } : Modifiers).valuesClauses =
        ["VALUES ?city \x7b" ++ inside ++ "\x7d"] ∧
      Lexeme.ofText? inside = some [.iri "http://dbpedia.org/resource/Rome", .word "dbr:Milan",
        .string "New York"] := by
  have hsuited : ∀ value ∈ Cities.places, InlineValue.isSuited value = true :=
    List.all_eq_true.1 (by decide +kernel)
  have hterms : Cities.places.map InlineValue.term =
      [.iri "http://dbpedia.org/resource/Rome", .word "dbr:Milan", .string "New York"] := by
    decide +kernel
  refine ⟨hsuited, ?_⟩
  obtain ⟨hclauses, -⟩ :=
    Modifiers.lexemes_valuesClauses { values := [("?city", Cities.places)] }
  cases hclauses with
  | cons hclause _ =>
    obtain ⟨inside, hinside, hread⟩ := hclause
    refine ⟨inside, congrArg (fun clause => [clause]) hinside, ?_⟩
    rw [(hread hsuited).2, hterms]

/-- A title with a colon names no resource, so it should become a string. It is written as it is,
and two words are read. -/
theorem Modifiers.lexemes_title :
    InlineValue.isResource "Alien: Covenant" = false ∧
    ({ values := [("?film", ["Alien: Covenant"])] } : Modifiers).valuesClauses =
        ["VALUES ?film \x7b" ++ "Alien: Covenant" ++ "\x7d"] ∧
      Lexeme.ofText? "Alien: Covenant" = some [.word "Alien:", .word "Covenant"] :=
  ⟨by decide +kernel, by decide, by decide +kernel⟩

end QueryByExample
