import QueryByExample.Proofs.Directive.Grammar
/-!
# Declared variables

The variable that a directive fixes is chosen by an option or is its head. An option loses all marks
in front of its name and is refused if nothing is left. A head is only refused if it is empty and
keeps its marks, so a head of marks alone, or with two marks or more, makes a variable that is
empty or still has a mark behind its first one.

## Main definitions

- `Variable.MarkedOnce`: a mark and a name that starts with none.

## Main statements

- `Variable.MarkedOnce.marked_bare`: such a variable is given back by its bare name.
- `Directive.declared_markedOnce_iff`: a directive declares one, unless its head is to blame.
-/

namespace QueryByExample

namespace Variable

/-- One mark and a name that is not empty and starts with no mark. -/
def MarkedOnce (variableName : String) : Prop :=
  ∃ name, variableName = "?" ++ name ∧ name ≠ "" ∧ name.toList.head? ≠ some '?'

variable {name : String}

theorem toList_mark_append (name : String) : ("?" ++ name).toList = '?' :: name.toList := by
  rw [String.toList_append]
  rfl

theorem bare_mark_append (name : String) : bare ("?" ++ name) = name := by
  simp only [bare, toList_mark_append, String.ofList_toList]

theorem marked_of_head?_ne (h : name.toList.head? ≠ some '?') : marked name = "?" ++ name := by
  unfold marked
  split
  · next rest hname =>
    rw [hname] at h
    exact absurd rfl h
  · rfl

/-- The bare name of a variable with one mark is not empty and gives the variable back. -/
theorem MarkedOnce.marked_bare (h : MarkedOnce name) :
    bare name ≠ "" ∧ marked (bare name) = name := by
  obtain ⟨name, rfl, hne, hhead⟩ := h
  rw [bare_mark_append]
  exact ⟨hne, marked_of_head?_ne hhead⟩

theorem markedOnce_mark_append_iff :
    MarkedOnce ("?" ++ name) ↔ name ≠ "" ∧ name.toList.head? ≠ some '?' := by
  constructor
  · rintro ⟨other, hname, hne, hhead⟩
    have heq : name = other := by rw [← bare_mark_append name, hname, bare_mark_append]
    exact heq ▸ ⟨hne, hhead⟩
  · rintro ⟨hne, hhead⟩
    exact ⟨name, rfl, hne, hhead⟩

end Variable

namespace Directive

variable {text head name : String} {tokens : List String} {token : String} {d : Directive}

theorem head?_unmarked (argument : String) :
    (Token.unmarked argument).toList.head? ≠ some '?' := by
  rw [Token.unmarked, String.toList_ofList]
  intro h
  have hnot := List.head?_dropWhile_not (· == '?') argument.toList
  rw [h] at hnot
  simp at hnot

/-- A token for a variable, unless it is faulty, names one behind its marks. -/
theorem unmarked_ne_empty {argument : String} (hfine : ∀ fault, ¬ Token.Fault token fault)
    (htopic : Token.topic? token = some .chosenVariable)
    (hargument : Token.argument? token = some argument) : Token.unmarked argument ≠ "" := by
  rcases Token.read_cases token with ⟨setting, -, hmeans⟩ | ⟨fault, -, hfault⟩
  · rw [Token.topic?_of_means hmeans] at htopic
    cases hmeans with
    | chosenVariable _ hfound hbare => rwa [Option.some.inj (hargument.symm.trans hfound)]
    | flag flag _ =>
      rw [Flag.topic?_setting] at htopic
      cases htopic
    | _ => cases htopic
  · exact absurd hfault (hfine fault)

/-- A variable that an option chooses has one mark. -/
theorem markedOnce_of_chosenVariable {options : Options}
    (hfine : ∀ token ∈ tokens, ∀ fault, ¬ Token.Fault token fault)
    (hsaid : options.SaidBy tokens) (hname : options.chosenVariable? = some name) :
    Variable.MarkedOnce name := by
  rw [hsaid.chosenVariable] at hname
  obtain ⟨token, hlast, htoken⟩ := Option.bind_eq_some_iff.1 hname
  obtain ⟨argument, hargument, rfl⟩ := Option.map_eq_some_iff.1 htoken
  obtain ⟨hmem, htopic⟩ := List.mem_filter.1 (List.mem_of_getLast? hlast)
  simp only [Bool.and_eq_true, beq_iff_eq] at htopic
  exact Variable.markedOnce_mark_append_iff.2
    ⟨unmarked_ne_empty (hfine token hmem) htopic.2 hargument, head?_unmarked argument⟩

theorem exists_eq_mark_append {text : String} (h : text.toList.head? = some '?') :
    ∃ rest, text = "?" ++ rest := by
  obtain ⟨cs, hcs⟩ := List.head?_eq_some_iff.1 h
  refine ⟨String.ofList cs, String.toList_inj.1 ?_⟩
  rw [hcs, Variable.toList_mark_append, String.toList_ofList]

/-- A head makes a variable with one mark, unless it is one mark alone or starts with two. -/
theorem markedOnce_marked_iff (hne : head ≠ "") :
    Variable.MarkedOnce (Variable.marked head) ↔
      ¬ (head = "?" ∨ ∃ rest, head = "??" ++ rest) := by
  by_cases hmark : head.toList.head? = some '?'
  · obtain ⟨name, rfl⟩ := exists_eq_mark_append hmark
    have hmarked : Variable.marked ("?" ++ name) = "?" ++ name := by
      simp only [Variable.marked, Variable.toList_mark_append]
    have halone : "?" ++ name = "?" ↔ name = "" := by
      rw [← String.toList_inj, Variable.toList_mark_append, ← String.toList_eq_nil_iff]
      simp
    have htwice : (∃ rest, "?" ++ name = "??" ++ rest) ↔ name.toList.head? = some '?' := by
      constructor
      · rintro ⟨rest, h⟩
        have hrest : name = "?" ++ rest := by
          rw [← Variable.bare_mark_append name, h]
          exact Variable.bare_mark_append ("?" ++ rest)
        rw [hrest, Variable.toList_mark_append, List.head?_cons]
      · intro h
        obtain ⟨rest, rfl⟩ := exists_eq_mark_append h
        exact ⟨rest, by rw [← String.append_assoc]; rfl⟩
    rw [hmarked, Variable.markedOnce_mark_append_iff, halone, htwice, not_or]
  · rw [Variable.marked_of_head?_ne hmark, Variable.markedOnce_mark_append_iff]
    refine iff_of_true ⟨hne, hmark⟩ ?_
    rintro (rfl | ⟨rest, rfl⟩)
    · exact hmark rfl
    · exact hmark (by simp)

/-- The variable that a directive declares has one mark and a name behind it, unless no option
chooses it and its head is one mark alone or starts with two marks. One that has is given back by
its bare name. -/
theorem declared_markedOnce_iff {variableName : String} (hparse : parse text = .ok (some d))
    (hdeclared : d.declaredVariable? = some variableName) :
    (Variable.MarkedOnce variableName ↔
      ¬ (d.options.chosenVariable? = none ∧ ∃ head tokens, Written .binding head tokens text ∧
        (head = "?" ∨ ∃ rest, head = "??" ++ rest))) ∧
    (Variable.MarkedOnce variableName → Variable.bare variableName ≠ "" ∧
      Variable.marked (Variable.bare variableName) = variableName) := by
  refine ⟨?_, Variable.MarkedOnce.marked_bare⟩
  obtain ⟨sigil, head, tokens, hwritten⟩ := exists_written_of_parse hparse
  obtain ⟨hno, hhead, hsaid⟩ := (parse_eq_ok_iff hwritten).1 hparse
  obtain ⟨hfine, hheads⟩ := not_refused_iff.1 hno
  cases hchosen : d.options.chosenVariable? with
  | some chosen =>
    rw [declaredVariable?, hchosen] at hdeclared
    obtain rfl := Option.some.inj hdeclared
    exact iff_of_true (markedOnce_of_chosenVariable hfine hsaid hchosen) (nomatch ·.1)
  | none =>
    rw [declaredVariable?, hchosen, hhead] at hdeclared
    cases sigil with
    | path => cases hdeclared
    | binding =>
      obtain rfl := Option.some.inj hdeclared
      have hne : head ≠ "" := fun hempty => hheads _ (headFault_binding_iff.2 ⟨hempty, rfl⟩)
      rw [markedOnce_marked_iff hne]
      refine not_congr ⟨fun h => ⟨rfl, head, tokens, hwritten, h⟩, ?_⟩
      rintro ⟨-, head', tokens', hwritten', h⟩
      rwa [(hwritten.unique hwritten').1]

/-- An option replaces a head that is marks alone. -/
theorem declared_markedOnce_iff_mayors :
    (parse "???$var:??mayor$list").map (Option.bind · declaredVariable?) = .ok (some "?mayor") ∧
      Variable.MarkedOnce "?mayor" ∧ Variable.marked (Variable.bare "?mayor") = "?mayor" := by
  have hparse : parse "???$var:??mayor$list" = .ok (some {
      head := .variable "??"
      options := {
        chosenVariable? := some "?mayor"
        list := true } }) := by decide
  obtain ⟨hiff, hbare⟩ := declared_markedOnce_iff hparse (Eq.refl (some "?mayor"))
  have hmarked : Variable.MarkedOnce "?mayor" := hiff.2 fun h => nomatch h.1
  exact ⟨by rw [hparse]; rfl, hmarked, (hbare hmarked).2⟩

/-- A head that is one mark declares a variable without a name. -/
theorem not_markedOnce_mark :
    parse "??" = .ok (some ⟨.variable "?", {}⟩) ∧
      declaredVariable? ⟨.variable "?", {}⟩ = some "?" ∧ ¬ Variable.MarkedOnce "?" := by
  refine ⟨by decide, rfl, ?_⟩
  exact fun h => h.marked_bare.1 rfl

end Directive

end QueryByExample
