import Mathlib.Data.List.TakeWhile
import QueryByExample.Answer.Literal
/-!
# Blanks around typed values

Coercion by a datatype looks at a text without the blanks around it, so padding a text changes no
number and no truth value, with one exception: the word `false` is false only as it stands. With
blanks around it, it is neither blank nor a number, and so it is true.

## Main definitions

- `Literal.Alike`: two texts give the same truth value or number, or each stays as it is.

## Main statements

- `Text.trimChars_padded`: trimming removes what a text is padded with.
- `alike_padded_iff`: a padded binding is read like the binding, unless that spells `false`.
-/

namespace QueryByExample

namespace Text

variable {before after cs : List Char}

/-- Trimming removes what a text is padded with. -/
theorem trimChars_padded (hbefore : ∀ c ∈ before, isBlank c = true)
    (hafter : ∀ c ∈ after, isBlank c = true) (cs : List Char) :
    trimChars (before ++ cs ++ after) = trimChars cs := by
  rw [trimChars, trimChars, List.append_assoc, List.dropWhile_append_of_pos hbefore,
    List.dropWhile_append]
  split
  · next hblank =>
    have hrest : after.dropWhile isBlank = [] := List.dropWhile_eq_nil_iff.2 hafter
    rw [hrest, List.isEmpty_iff.1 hblank]
  · have hend : ∀ c ∈ after.reverse, isBlank c = true := fun c hc =>
      hafter c (List.mem_reverse.1 hc)
    rw [trimEnd, trimEnd, List.reverse_append, List.dropWhile_append_of_pos hend]

/-- A padded text is a word without blanks only if nothing was added to the word. -/
theorem padded_eq_iff {word : List Char} (hword : ∀ c ∈ word, isBlank c = false)
    (hbefore : ∀ c ∈ before, isBlank c = true) (hafter : ∀ c ∈ after, isBlank c = true) :
    before ++ cs ++ after = word ↔ before = [] ∧ after = [] ∧ cs = word := by
  constructor
  · rintro rfl
    have hnil : ∀ padding : List Char, (∀ c ∈ padding, isBlank c = true) →
        padding ⊆ before ++ cs ++ after → padding = [] := by
      intro padding hpadding hsub
      refine List.eq_nil_iff_forall_not_mem.2 fun c hc => ?_
      exact Bool.false_ne_true ((hword c (hsub hc)).symm.trans (hpadding c hc))
    obtain rfl := hnil before hbefore fun c hc => by simp [hc]
    obtain rfl := hnil after hafter fun c hc => by simp [hc]
    simp
  · rintro ⟨rfl, rfl, rfl⟩
    simp

end Text

namespace Literal

/-- Two texts are read alike: as the same truth value or number, or each as the text that it is. -/
def Alike (raw other : String) (a b : Literal) : Prop :=
  (a = b ∧ a.kind ≠ .string) ∨ (a = .text raw ∧ b = .text other)

variable {raw other : String}

theorem alike_ofInteger (h : Text.trimChars raw.toList = Text.trimChars other.toList) :
    Alike raw other (ofInteger raw) (ofInteger other) := by
  unfold ofInteger
  rw [h]
  obtain ⟨negative, digits⟩ := leadingInteger (Text.trimChars other.toList)
  dsimp only
  generalize (if negative then -(digitsValue digits : Int) else digitsValue digits) = i
  cases digits with
  | nil => exact Or.inr ⟨rfl, rfl⟩
  | cons c rest =>
    refine Or.inl ⟨rfl, ?_⟩
    rw [List.isEmpty_cons, if_neg Bool.false_ne_true]
    split <;> simp [kind]

theorem alike_ofDecimal (h : Text.trimChars raw.toList = Text.trimChars other.toList) :
    Alike raw other (ofDecimal raw) (ofDecimal other) := by
  unfold ofDecimal
  rw [h]
  split
  · exact Or.inl ⟨rfl, by simp [kind]⟩
  · exact Or.inr ⟨rfl, rfl⟩

/-! ### Truth values -/

theorem alike_boolean_iff {b c : Bool} : Alike raw other (boolean b) (boolean c) ↔ b = c := by
  simp [Alike, kind]

/-- A trimmed text is empty or spells a zero. -/
def isVoid (trimmed : List Char) : Bool :=
  trimmed.isEmpty ||
    (match Decimal.readDouble? trimmed with
      | some x => x.isZero
      | none => false)

/-- The word `false` is the only text that is looked at with the blanks around it. -/
theorem isFalse_eq (raw : String) :
    isFalse raw = (raw == "false" || isVoid (Text.trimChars raw.toList)) :=
  Bool.or_assoc _ _ _

theorem isVoid_false : isVoid (Text.trimChars "false".toList) = false := by decide

/-- Texts that are equal when they are trimmed have the same truth value unless one of them, but
not the other, is the word `false`. -/
theorem isFalse_eq_isFalse_iff (h : Text.trimChars raw.toList = Text.trimChars other.toList) :
    isFalse raw = isFalse other ↔ (raw = "false" ↔ other = "false") := by
  have hvoid : ∀ text : String, text = "false" →
      isVoid (Text.trimChars text.toList) = false := by
    rintro text rfl
    exact isVoid_false
  have hraw := hvoid raw
  have hother := hvoid other
  rw [isFalse_eq, isFalse_eq, Bool.eq_iff_iff, Bool.or_eq_true, Bool.or_eq_true, beq_iff_eq,
    beq_iff_eq]
  rw [h] at hraw ⊢
  cases hcase : isVoid (Text.trimChars other.toList) with
  | true =>
    have hraw' : raw ≠ "false" := fun heq => Bool.false_ne_true ((hraw heq).symm.trans hcase)
    have hother' : other ≠ "false" := fun heq =>
      Bool.false_ne_true ((hother heq).symm.trans hcase)
    simp only [hraw', hother']
  | false => simp only [Bool.false_eq_true, or_false]

end Literal

/-- A binding with some text before and after its value. -/
def Binding.padded (binding : Binding) (before after : String) : Binding :=
  { binding with value := before ++ binding.value ++ after }

/-- Blanks around the value of a binding do not matter unless the value is the word `false`, the
datatype that of truth values, and there is at least one blank. -/
theorem alike_padded_iff (binding : Binding) {before after : String}
    (hbefore : ∀ c ∈ before.toList, Text.isBlank c = true)
    (hafter : ∀ c ∈ after.toList, Text.isBlank c = true) :
    let padded := binding.padded before after
    Literal.Alike padded.value binding.value (Literal.ofBinding padded)
        (Literal.ofBinding binding) ↔
      ¬ (binding.datatype?.bind Literal.family? = some .boolean ∧ binding.value = "false" ∧
        ¬ (before = "" ∧ after = "")) := by
  intro padded
  have htrim : Text.trimChars padded.value.toList = Text.trimChars binding.value.toList := by
    rw [← Text.trimChars_padded hbefore hafter binding.value.toList]
    simp [padded, Binding.padded]
  have hfamily : padded.datatype? = binding.datatype? := rfl
  rw [Literal.ofBinding, Literal.ofBinding, hfamily]
  cases binding.datatype?.bind Literal.family? with
  | none => simp [Literal.Alike]
  | some family =>
    cases family with
    | integer => simpa using Literal.alike_ofInteger htrim
    | decimal => simpa using Literal.alike_ofDecimal htrim
    | boolean =>
      have hword : padded.value = "false" ↔
          before = "" ∧ after = "" ∧ binding.value = "false" := by
        have hblanks : ∀ c ∈ "false".toList, Text.isBlank c = false := by simp [Text.isBlank]
        have hchars := @Text.padded_eq_iff _ _ binding.value.toList _ hblanks hbefore hafter
        simpa only [padded, Binding.padded, ← String.toList_inj, String.toList_append,
          String.toList_empty] using hchars
      rw [Literal.alike_boolean_iff, Bool.not_inj_iff, Literal.isFalse_eq_isFalse_iff htrim, hword]
      by_cases hvalue : binding.value = "false"
      · simp only [hvalue, and_true, iff_true, true_and, not_not]
      · simp only [hvalue, and_false, false_and, not_false_eq_true]

theorem alike_padded_iff_short :
    let binding : Binding := ⟨"literal", "-12.9", some "xsd:short", none⟩
    let padded := binding.padded "\u00a0\t" "\n "
    ((∀ c ∈ "\u00a0\t".toList, Text.isBlank c = true) ∧
      ∀ c ∈ "\n ".toList, Text.isBlank c = true) ∧
    (Literal.Alike padded.value binding.value (Literal.ofBinding padded)
        (Literal.ofBinding binding) ↔
      ¬ (binding.datatype?.bind Literal.family? = some .boolean ∧ binding.value = "false" ∧
        ¬ ("\u00a0\t" = "" ∧ "\n " = ""))) := by
  intro binding padded
  have hbefore : ∀ c ∈ "\u00a0\t".toList, Text.isBlank c = true := by simp [Text.isBlank]
  have hafter : ∀ c ∈ "\n ".toList, Text.isBlank c = true := by simp [Text.isBlank]
  exact ⟨⟨hbefore, hafter⟩, alike_padded_iff binding hbefore hafter⟩

/-- The word `false` is false, but with blanks around it, it is true. -/
theorem not_alike_padded_false :
    let binding : Binding :=
      ⟨"literal", "false", some "http://www.w3.org/2001/XMLSchema#boolean", none⟩
    let padded := binding.padded " " " "
    (∀ c ∈ " ".toList, Text.isBlank c = true) ∧
      Literal.ofBinding binding = .boolean false ∧ Literal.ofBinding padded = .boolean true ∧
      ¬ Literal.Alike padded.value binding.value (Literal.ofBinding padded)
        (Literal.ofBinding binding) := by
  intro binding padded
  have hplain : Literal.ofBinding binding = .boolean false := by decide
  have hpadded : Literal.ofBinding padded = .boolean true := by decide
  refine ⟨by simp [Text.isBlank], hplain, hpadded, ?_⟩
  rw [hplain, hpadded, Literal.alike_boolean_iff]
  exact Bool.false_ne_true ∘ Eq.symm

end QueryByExample
