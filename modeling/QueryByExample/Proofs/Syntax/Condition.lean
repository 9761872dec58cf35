import QueryByExample.Modifiers.Clauses
import QueryByExample.Proofs.Syntax.Lexeme
/-!
# Conditions

Conditions are read from their lexemes by the precedence of the query language: a negation binds
tighter than `&&`, and `&&` tighter than `||`. What stands between connectives and is neither a
negation nor in brackets is an atom, whatever it consists of; its truth is left open.

The conditions on groups are joined with `&&` as they are written. Joined in this way they mean
that all of them hold, unless one of several has a `||` outside of brackets: then only the parts of
it that stand next to the joints are bound by them.

## Main definitions

- `Condition`, `Condition.holds`: conditions over atoms and their truth.
- `Condition.Reads`: how lexemes are read as a condition.

## Main statements

- `Condition.Reads.unique`: lexemes are read in one way.
- `Condition.Reads.exists_and`: conditions joined with `&&`.
- `Modifiers.having_holds`: the joined conditions hold exactly if all of them do.
-/

namespace QueryByExample

/-- A condition over atoms, which are known by their lexemes. -/
inductive Condition where
  | atom (lexemes : List Lexeme)
  | negation (c : Condition)
  | conjunction (a b : Condition)
  | disjunction (a b : Condition)
  deriving DecidableEq

namespace Condition

/-- Does the condition hold, given which atoms do? -/
def holds (truth : List Lexeme → Bool) : Condition → Bool
  | atom lexemes => truth lexemes
  | negation c => !c.holds truth
  | conjunction a b => a.holds truth && b.holds truth
  | disjunction a b => a.holds truth || b.holds truth

/-! ### Brackets -/

/-- The number of open brackets after one more lexeme. -/
def turn (depth : Nat) : Lexeme → Option Nat
  | .opening => some (depth + 1)
  | .closing => if depth = 0 then none else some (depth - 1)
  | _ => some depth

/-- The number of open brackets after some lexemes, unless one closes that was not open. -/
def depth? (depth : Nat) (xs : List Lexeme) : Option Nat := xs.foldlM turn depth

/-- All brackets are closed in the end. -/
def Balanced (xs : List Lexeme) : Prop := depth? 0 xs = some 0

/-- Some `x` stands outside of brackets. -/
def Exposes (x : Lexeme) (xs : List Lexeme) : Prop :=
  ∃ before after, xs = before ++ x :: after ∧ Balanced before

theorem depth?_append (depth : Nat) (xs ys : List Lexeme) :
    depth? depth (xs ++ ys) = (depth? depth xs).bind fun d => depth? d ys :=
  List.foldlM_append

theorem depth?_cons (depth : Nat) (x : Lexeme) (xs : List Lexeme) :
    depth? depth (x :: xs) = (turn depth x).bind fun d => depth? d xs :=
  List.foldlM_cons

theorem turn_add {depth after : Nat} {x : Lexeme} (h : turn depth x = some after) (more : Nat) :
    turn (depth + more) x = some (after + more) := by
  cases x with
  | opening =>
    obtain rfl : depth + 1 = after := Option.some.inj h
    exact congrArg some (by omega)
  | closing =>
    simp only [turn] at h ⊢
    split at h
    · cases h
    · obtain rfl : depth - 1 = after := Option.some.inj h
      rw [if_neg (by omega)]
      exact congrArg some (by omega)
  | iri | string | word | sign | not | and | or =>
    obtain rfl : depth = after := Option.some.inj h
    rfl

/-- Brackets that are open outside stay open. -/
theorem depth?_add {depth after : Nat} {xs : List Lexeme} (h : depth? depth xs = some after)
    (more : Nat) : depth? (depth + more) xs = some (after + more) := by
  induction xs generalizing depth with
  | nil =>
    obtain rfl : depth = after := Option.some.inj h
    rfl
  | cons x xs ih =>
    rw [depth?_cons] at h ⊢
    obtain ⟨next, hturn, hrest⟩ := Option.bind_eq_some_iff.1 h
    rw [turn_add hturn more]
    exact ih hrest

theorem Balanced.append {xs ys : List Lexeme} (hxs : Balanced xs) (hys : Balanced ys) :
    Balanced (xs ++ ys) := by
  rw [Balanced, depth?_append, hxs]
  exact hys

theorem Balanced.of_append {xs ys : List Lexeme} (hxs : Balanced xs) (h : Balanced (xs ++ ys)) :
    Balanced ys := by
  rwa [Balanced, depth?_append, hxs] at h

theorem Balanced.bracketed {xs : List Lexeme} (h : Balanced xs) :
    Balanced (.opening :: xs ++ [Lexeme.closing]) := by
  have hinside : depth? 1 xs = some 1 := depth?_add h 1
  rw [List.cons_append, Balanced, depth?_cons]
  change depth? 1 (xs ++ [Lexeme.closing]) = some 0
  rw [depth?_append, hinside]
  rfl

/-- Nothing inside of brackets is exposed. -/
theorem not_exposes_bracketed {x : Lexeme} {xs : List Lexeme} (hxs : Balanced xs)
    (hopening : x ≠ .opening) :
    ¬ Exposes x (.opening :: xs ++ [Lexeme.closing]) := by
  rintro ⟨before, after, heq, hbefore⟩
  cases before with
  | nil => exact hopening (List.cons.inj heq).1.symm
  | cons y before =>
    obtain ⟨rfl, hinside⟩ := List.cons.inj heq
    -- the lexemes before are at the start of the inside, where the bracket is open
    have hprefix : ∃ rest, xs = before ++ rest := by
      rcases List.append_eq_append_iff.1 hinside with ⟨rest, hrest, hlast⟩ | ⟨rest, hrest, -⟩
      · cases rest with
        | nil => exact ⟨[], by simpa using hrest.symm⟩
        | cons z rest =>
          obtain ⟨-, hnil⟩ := List.cons.inj hlast
          exact absurd hnil (by simp)
      · exact ⟨rest, hrest⟩
    obtain ⟨rest, rfl⟩ := hprefix
    rw [Balanced, depth?_append] at hxs
    obtain ⟨depth, hdepth, -⟩ := Option.bind_eq_some_iff.1 hxs
    have hmore : depth? (0 + 1) before = some (depth + 1) := depth?_add hdepth 1
    have hnone : depth? (0 + 1) before = some 0 := hbefore
    rw [hmore] at hnone
    cases hnone

/-- What is exposed next to another lexeme is exposed on one of its sides. -/
theorem Exposes.of_append_cons {x y : Lexeme} (hne : x ≠ y) (xs : List Lexeme) {ys : List Lexeme}
    (hxs : Balanced (xs ++ [y])) (h : Exposes x (xs ++ y :: ys)) : Exposes x xs ∨ Exposes x ys := by
  obtain ⟨before, after, heq, hbefore⟩ := h
  rcases List.append_eq_append_iff.1 heq with ⟨mid, hmid, hrest⟩ | ⟨mid, hmid, hrest⟩
  · cases mid with
    | nil => exact absurd (List.cons.inj hrest).1.symm hne
    | cons z mid =>
      obtain ⟨rfl, hys⟩ := List.cons.inj hrest
      -- what stands between the two lexemes is balanced
      have hmidBalanced : Balanced mid := by
        rw [hmid] at hbefore
        exact hxs.of_append (by simpa using hbefore)
      exact .inr ⟨mid, after, hys, hmidBalanced⟩
  · cases mid with
    | nil => exact absurd (List.cons.inj hrest).1 hne
    | cons z mid =>
      obtain ⟨rfl, -⟩ := List.cons.inj hrest
      exact .inl ⟨before, mid, hmid, hbefore⟩

theorem not_exposes_nil (x : Lexeme) : ¬ Exposes x [] := by
  rintro ⟨before, after, heq, -⟩
  cases before <;> cases heq

theorem not_exposes_not {x : Lexeme} {xs : List Lexeme} (hx : x ≠ .not) (h : ¬ Exposes x xs) :
    ¬ Exposes x (.not :: xs) := by
  intro hnot
  rcases hnot.of_append_cons hx [] rfl with hnil | hxs
  · exact not_exposes_nil x hnil
  · exact h hxs

/-- The last connective of a kind outside of brackets is in one place. -/
theorem eq_of_append_cons_eq {x : Lexeme} {xs ys xs' ys' : List Lexeme}
    (hx : ∀ depth, turn depth x = some depth) (heq : xs ++ x :: ys = xs' ++ x :: ys')
    (hxs : Balanced xs) (hxs' : Balanced xs') (hys : ¬ Exposes x ys) (hys' : ¬ Exposes x ys') :
    xs = xs' ∧ ys = ys' := by
  have hpart {rest : List Lexeme} (hrest : Balanced (x :: rest)) : Balanced rest := by
    rwa [Balanced, depth?_cons, hx] at hrest
  rcases List.append_eq_append_iff.1 heq with ⟨mid, hmid, hrest⟩ | ⟨mid, hmid, hrest⟩
  · cases mid with
    | nil => exact ⟨by simpa using hmid.symm, (List.cons.inj hrest).2⟩
    | cons y mid =>
      obtain ⟨rfl, rfl⟩ := List.cons.inj hrest
      subst hmid
      exact absurd ⟨mid, ys', rfl, hpart (hxs.of_append hxs')⟩ hys
  · cases mid with
    | nil => exact ⟨by simpa using hmid, (List.cons.inj hrest).2.symm⟩
    | cons y mid =>
      obtain ⟨rfl, rfl⟩ := List.cons.inj hrest
      subst hmid
      exact absurd ⟨mid, ys, rfl, hpart (hxs'.of_append hxs)⟩ hys'

/-! ### The grammar -/

/-- A literal, a name or a variable. -/
def IsPlain : Lexeme → Prop
  | .iri _ | .string _ | .word _ => True
  | _ => False

/-- What a negation binds: one plain lexeme, brackets, a call, or such a thing negated. -/
inductive IsSimple : List Lexeme → Prop where
  | plain {x : Lexeme} (h : IsPlain x) : IsSimple [x]
  | bracketed {xs : List Lexeme} (h : Balanced xs) : IsSimple (.opening :: xs ++ [Lexeme.closing])
  | call {x : Lexeme} {xs : List Lexeme} (hx : IsPlain x) (hxs : Balanced xs) :
      IsSimple (x :: .opening :: xs ++ [Lexeme.closing])
  | negation {xs : List Lexeme} (h : IsSimple xs) : IsSimple (.not :: xs)

/-- What has no connective, negation or brackets of its own. -/
structure IsAtom (xs : List Lexeme) : Prop where
  nonempty : xs ≠ []
  balanced : Balanced xs
  not_exposes_and : ¬ Exposes .and xs
  not_exposes_or : ¬ Exposes .or xs
  not_bracketed : ∀ ys, Balanced ys → xs ≠ .opening :: ys ++ [Lexeme.closing]
  not_negation : ∀ ys, IsSimple ys → xs ≠ .not :: ys

/-- The levels of precedence, the tightest first. -/
inductive Level where
  | unary
  | conjunctive
  | disjunctive

/-- How lexemes are read. -/
inductive Reads : Level → List Lexeme → Condition → Prop where
  | atom {xs : List Lexeme} (h : IsAtom xs) : Reads .unary xs (.atom xs)
  | bracketed {xs : List Lexeme} {c : Condition} (h : Reads .disjunctive xs c) :
      Reads .unary (.opening :: xs ++ [Lexeme.closing]) c
  | negation {xs : List Lexeme} {c : Condition} (simple : IsSimple xs) (h : Reads .unary xs c) :
      Reads .unary (.not :: xs) (.negation c)
  | ofUnary {xs : List Lexeme} {c : Condition} (h : Reads .unary xs c) : Reads .conjunctive xs c
  | conjunction {xs ys : List Lexeme} {a b : Condition} (ha : Reads .conjunctive xs a)
      (hb : Reads .unary ys b) : Reads .conjunctive (xs ++ .and :: ys) (.conjunction a b)
  | ofConjunctive {xs : List Lexeme} {c : Condition} (h : Reads .conjunctive xs c) :
      Reads .disjunctive xs c
  | disjunction {xs ys : List Lexeme} {a b : Condition} (ha : Reads .disjunctive xs a)
      (hb : Reads .conjunctive ys b) : Reads .disjunctive (xs ++ .or :: ys) (.disjunction a b)

namespace Reads

/-- The brackets of what is read are closed. -/
theorem balanced {level : Level} {xs : List Lexeme} {c : Condition} (h : Reads level xs c) :
    Balanced xs := by
  induction h with
  | atom h => exact h.balanced
  | bracketed _ ih => exact ih.bracketed
  | negation _ _ ih => exact ih
  | ofUnary _ ih | ofConjunctive _ ih => exact ih
  | conjunction _ _ iha ihb | disjunction _ _ iha ihb => exact iha.append ihb

theorem not_exposes_of_unary {xs : List Lexeme} {c : Condition} (h : Reads .unary xs c) :
    ¬ Exposes .and xs ∧ ¬ Exposes .or xs := by
  generalize hlevel : Level.unary = level at h
  induction h with
  | atom h => exact ⟨h.not_exposes_and, h.not_exposes_or⟩
  | bracketed h _ =>
    exact ⟨not_exposes_bracketed h.balanced nofun, not_exposes_bracketed h.balanced nofun⟩
  | negation _ _ ih =>
    obtain ⟨hand, hor⟩ := ih rfl
    exact ⟨not_exposes_not nofun hand, not_exposes_not nofun hor⟩
  | ofUnary | conjunction | ofConjunctive | disjunction => cases hlevel

/-- A condition that is read below `&&` has no `||` outside of brackets. -/
theorem not_exposes_or {xs : List Lexeme} {c : Condition} (h : Reads .conjunctive xs c) :
    ¬ Exposes .or xs := by
  generalize hlevel : Level.conjunctive = level at h
  induction h with
  | ofUnary h _ => exact h.not_exposes_of_unary.2
  | @conjunction xs ys a b ha hb iha _ =>
    have hne : Lexeme.or ≠ .and := nofun
    have hxs : Balanced (xs ++ [.and]) := ha.balanced.append rfl
    intro hor
    rcases hor.of_append_cons hne xs hxs with hxs | hys
    · exact iha rfl hxs
    · exact hb.not_exposes_of_unary.2 hys
  | atom | bracketed | negation | ofConjunctive | disjunction => cases hlevel

/-! #### Inversion -/

theorem unary_cases {xs : List Lexeme} {c : Condition} (h : Reads .unary xs c) :
    (IsAtom xs ∧ c = .atom xs) ∨
      (∃ ys, xs = .opening :: ys ++ [Lexeme.closing] ∧ Reads .disjunctive ys c) ∨
      ∃ ys d, xs = .not :: ys ∧ IsSimple ys ∧ Reads .unary ys d ∧ c = .negation d := by
  cases h with
  | atom h => exact .inl ⟨h, rfl⟩
  | bracketed h => exact .inr (.inl ⟨_, rfl, h⟩)
  | negation simple h => exact .inr (.inr ⟨_, _, rfl, simple, h, rfl⟩)

theorem conjunctive_cases {xs : List Lexeme} {c : Condition} (h : Reads .conjunctive xs c) :
    Reads .unary xs c ∨
      ∃ ys zs a b, xs = ys ++ .and :: zs ∧ Reads .conjunctive ys a ∧ Reads .unary zs b ∧
        c = .conjunction a b := by
  cases h with
  | ofUnary h => exact .inl h
  | conjunction ha hb => exact .inr ⟨_, _, _, _, rfl, ha, hb, rfl⟩

theorem disjunctive_cases {xs : List Lexeme} {c : Condition} (h : Reads .disjunctive xs c) :
    Reads .conjunctive xs c ∨
      ∃ ys zs a b, xs = ys ++ .or :: zs ∧ Reads .disjunctive ys a ∧ Reads .conjunctive zs b ∧
        c = .disjunction a b := by
  cases h with
  | ofConjunctive h => exact .inl h
  | disjunction ha hb => exact .inr ⟨_, _, _, _, rfl, ha, hb, rfl⟩

/-! #### Lexemes are read in one way -/

theorem unique {level : Level} {xs : List Lexeme} {c d : Condition} (hc : Reads level xs c)
    (hd : Reads level xs d) : c = d := by
  induction hc generalizing d with
  | atom h =>
    obtain ⟨-, rfl⟩ | ⟨ys, rfl, hys⟩ | ⟨ys, _, rfl, hsimple, -⟩ := hd.unary_cases
    · rfl
    · exact absurd rfl (h.not_bracketed ys hys.balanced)
    · exact absurd rfl (h.not_negation ys hsimple)
  | @bracketed xs c h ih =>
    obtain ⟨hatom, -⟩ | ⟨ys, heq, hys⟩ | ⟨ys, _, heq, -⟩ := hd.unary_cases
    · exact absurd rfl (hatom.not_bracketed xs h.balanced)
    · obtain rfl : xs = ys := by simpa using heq
      exact ih hys
    · exact absurd (List.cons.inj heq).1 nofun
  | @negation xs c simple h ih =>
    obtain ⟨hatom, -⟩ | ⟨ys, heq, -⟩ | ⟨ys, e, heq, -, hys, rfl⟩ := hd.unary_cases
    · exact absurd rfl (hatom.not_negation xs simple)
    · exact absurd (List.cons.inj heq).1 nofun
    · obtain ⟨-, rfl⟩ := List.cons.inj heq
      rw [ih hys]
  | ofUnary h ih =>
    obtain hd | ⟨ys, zs, _, _, rfl, hys, -, -⟩ := hd.conjunctive_cases
    · exact ih hd
    · exact absurd ⟨ys, zs, rfl, hys.balanced⟩ h.not_exposes_of_unary.1
  | @conjunction xs ys a b ha hb iha ihb =>
    obtain hd | ⟨xs', ys', a', b', heq, hxs, hys, rfl⟩ := hd.conjunctive_cases
    · exact absurd ⟨xs, ys, rfl, ha.balanced⟩ hd.not_exposes_of_unary.1
    · obtain ⟨rfl, rfl⟩ := eq_of_append_cons_eq (fun _ => rfl) heq ha.balanced hxs.balanced
        hb.not_exposes_of_unary.1 hys.not_exposes_of_unary.1
      rw [iha hxs, ihb hys]
  | ofConjunctive h ih =>
    obtain hd | ⟨ys, zs, _, _, rfl, hys, -, -⟩ := hd.disjunctive_cases
    · exact ih hd
    · exact absurd ⟨ys, zs, rfl, hys.balanced⟩ h.not_exposes_or
  | @disjunction xs ys a b ha hb iha ihb =>
    obtain hd | ⟨xs', ys', a', b', heq, hxs, hys, rfl⟩ := hd.disjunctive_cases
    · exact absurd ⟨xs, ys, rfl, ha.balanced⟩ hd.not_exposes_or
    · obtain ⟨rfl, rfl⟩ := eq_of_append_cons_eq (fun _ => rfl) heq ha.balanced hxs.balanced
        hb.not_exposes_or hys.not_exposes_or
      rw [iha hxs, ihb hys]

/-! ### Conditions joined with `&&` -/

/-- Without an `||` outside of brackets a condition is read tightly enough to be joined. -/
theorem conjunctive_of_not_exposes_or {xs : List Lexeme} {c : Condition}
    (h : Reads .disjunctive xs c) (hor : ¬ Exposes .or xs) : Reads .conjunctive xs c := by
  obtain h | ⟨ys, zs, _, _, rfl, hys, -, -⟩ := h.disjunctive_cases
  · exact h
  · exact absurd ⟨ys, zs, rfl, hys.balanced⟩ hor

theorem exists_and {xs ys : List Lexeme} {a b : Condition} (ha : Reads .conjunctive xs a)
    (hb : Reads .conjunctive ys b) :
    ∃ c, Reads .conjunctive (xs ++ .and :: ys) c ∧
      ∀ truth, c.holds truth = (a.holds truth && b.holds truth) := by
  generalize hlevel : Level.conjunctive = level at hb
  induction hb with
  | ofUnary hb _ => exact ⟨.conjunction a _, .conjunction ha hb, fun _ => rfl⟩
  | @conjunction ys zs b d hb hd ihb _ =>
    -- the joint moves to the left of the conjunction on the right
    obtain ⟨c, hc, hholds⟩ := ihb rfl
    refine ⟨.conjunction c d, ?_, ?_⟩
    · have hjoined := Reads.conjunction hc hd
      rwa [List.append_assoc, List.cons_append] at hjoined
    · intro truth
      rw [holds, holds, hholds, Bool.and_assoc]
  | atom | bracketed | negation | ofConjunctive | disjunction => cases hlevel

theorem exists_intercalate {lexemes : List (List Lexeme)} {conditions : List Condition}
    (hne : lexemes ≠ []) (h : List.Forall₂ (Reads .conjunctive) lexemes conditions) :
    ∃ c, Reads .conjunctive (List.intercalate [.and] lexemes) c ∧
      ∀ truth, c.holds truth = conditions.all (·.holds truth) := by
  induction h with
  | nil => exact absurd rfl hne
  | @cons xs a lexemes conditions ha hrest ih =>
    cases hrest with
    | nil => exact ⟨a, by simpa using ha, fun truth => by simp⟩
    | cons hnext hrest =>
      obtain ⟨b, hb, hholds⟩ := ih (List.cons_ne_nil _ _)
      obtain ⟨c, hc, hboth⟩ := exists_and ha hb
      refine ⟨c, ?_, ?_⟩
      · rw [List.intercalate_cons_cons, List.append_assoc]
        exact hc
      · intro truth
        rw [hboth, hholds]
        rfl

/-- A single condition stays as it is; several are joined if none has an `||` outside of
brackets. -/
theorem exists_joined {lexemes : List (List Lexeme)} {conditions : List Condition}
    (hne : lexemes ≠ []) (h : List.Forall₂ (Reads .disjunctive) lexemes conditions)
    (hsafe : lexemes.length = 1 ∨ ∀ read ∈ lexemes, ¬ Exposes .or read) :
    ∃ c, Reads .disjunctive (List.intercalate [.and] lexemes) c ∧
      ∀ truth, c.holds truth = conditions.all (·.holds truth) := by
  rcases hsafe with hone | hnone
  · obtain ⟨read, rfl⟩ := List.length_eq_one_iff.1 hone
    cases h with
    | @cons _ c _ _ hread hrest =>
      cases hrest
      exact ⟨c, by simpa using hread, fun truth => by simp⟩
  · have hconjunctive : List.Forall₂ (Reads .conjunctive) lexemes conditions :=
      ((List.forall₂_and_left _ _).2 ⟨hnone, h⟩).imp fun _ _ hread =>
        hread.2.conjunctive_of_not_exposes_or hread.1
    obtain ⟨c, hc, hholds⟩ := exists_intercalate hne hconjunctive
    exact ⟨c, .ofConjunctive hc, hholds⟩

end Reads

/-- What starts with neither brackets nor a negation and has no connective is an atom. -/
theorem isAtom_cons {x : Lexeme} {xs : List Lexeme} (hopening : x ≠ .opening) (hnot : x ≠ .not)
    (hbalanced : Balanced (x :: xs)) (hand : .and ∉ x :: xs) (hor : .or ∉ x :: xs) :
    IsAtom (x :: xs) where
  nonempty := List.cons_ne_nil x xs
  balanced := hbalanced
  not_exposes_and := fun ⟨before, after, heq, _⟩ => hand (heq ▸ by simp)
  not_exposes_or := fun ⟨before, after, heq, _⟩ => hor (heq ▸ by simp)
  not_bracketed := fun _ _ heq => hopening (List.cons.inj heq).1
  not_negation := fun _ _ heq => hnot (List.cons.inj heq).1

end Condition

/-- The conditions on groups are joined in one clause. If each of them can be read, and either there
is only one or none has an `||` outside of brackets, then what stands in the clause is read in one
way, and it holds exactly if all of them do. -/
theorem Modifiers.having_holds {m : Modifiers} (hne : m.having ≠ []) :
    ∃ before inside after,
      m.trailingClauses = before ++ ("HAVING (" ++ inside ++ ")") :: after ∧
      ∀ (lexemes : List (List Lexeme)) (conditions : List Condition),
        List.Forall₂ (fun text read => Lexeme.ofText? text = some read) m.having lexemes →
        List.Forall₂ (Condition.Reads .disjunctive) lexemes conditions →
        (m.having.length = 1 ∨ ∀ read ∈ lexemes, ¬ Condition.Exposes .or read) →
        ∃ read c, Lexeme.ofText? inside = some read ∧ Condition.Reads .disjunctive read c ∧
          (∀ d, Condition.Reads .disjunctive read d → d = c) ∧
          ∀ truth, c.holds truth = conditions.all (·.holds truth) := by
  refine ⟨if m.groupBy.isEmpty then [] else ["GROUP BY " ++ " ".intercalate m.groupBy],
    " && ".intercalate m.having,
    (if m.orderBy.isEmpty then [] else ["ORDER BY " ++ " ".intercalate m.orderBy]) ++
      m.limitClauses, ?_, ?_⟩
  · have hempty : m.having.isEmpty = false := by simpa using hne
    rw [trailingClauses, solutionClauses, hempty]
    simp only [Bool.false_eq_true, if_false, List.append_assoc, List.cons_append, List.nil_append]
  · intro lexemes conditions hlexemes hconditions hsafe
    have hlist : "&& ".toList = ['&', '&', ' '] := rfl
    have hseparator (after : List Char) : Lexeme.scan (.outside []) ("&& ".toList ++ after) =
        (Lexeme.scan (.outside []) after).map ([.and] ++ ·) := by
      simp [hlist, Lexeme.scan, Lexeme.step, Lexeme.stepOutside, Lexeme.isBlank,
        Lexeme.Mark.ofChar?, Lexeme.ofBegun]
    have hinside : Lexeme.ofText? (" && ".intercalate m.having) =
        some (List.intercalate [.and] lexemes) :=
      Lexeme.ofText?_intercalate "&& " [.and] hseparator hlexemes
    have hlength : m.having.length = lexemes.length := hlexemes.length_eq
    have hlexemesNe : lexemes ≠ [] := by
      rintro rfl
      exact hne (List.length_eq_zero_iff.1 hlength)
    rw [hlength] at hsafe
    obtain ⟨c, hc, hholds⟩ := Condition.Reads.exists_joined hlexemesNe hconditions hsafe
    exact ⟨_, c, hinside, hc, fun d hd => hd.unique hc, hholds⟩

/-- Two conditions on groups, the second a negation of brackets. -/
def Bands.groups : List String := ["COUNT(?band) > 1", "!(?a || ?b)"]

/-- The lexemes of the conditions. -/
def Bands.groupLexemes : List (List Lexeme) :=
  [[.word "COUNT", .opening, .word "?band", .closing, .sign '>', .word "1"],
    [.not, .opening, .word "?a", .or, .word "?b", .closing]]

/-- The conditions as they are read. -/
def Bands.groupConditions : List Condition :=
  [.atom [.word "COUNT", .opening, .word "?band", .closing, .sign '>', .word "1"],
    .negation (.disjunction (.atom [.word "?a"]) (.atom [.word "?b"]))]

theorem Condition.reads_variable (name : String) :
    Reads .unary [.word name] (.atom [.word name]) :=
  .atom (isAtom_cons nofun nofun rfl (by simp) (by simp))

theorem Modifiers.having_holds_bands :
    let m : Modifiers := { having := Bands.groups }
    (m.having ≠ [] ∧
      List.Forall₂ (fun text read => Lexeme.ofText? text = some read) m.having
        Bands.groupLexemes ∧
      List.Forall₂ (Condition.Reads .disjunctive) Bands.groupLexemes Bands.groupConditions ∧
      ∀ read ∈ Bands.groupLexemes, ¬ Condition.Exposes .or read) ∧
    ∃ before inside after,
      m.trailingClauses = before ++ ("HAVING (" ++ inside ++ ")") :: after ∧
      ∃ read c, Lexeme.ofText? inside = some read ∧ Condition.Reads .disjunctive read c ∧
        (∀ d, Condition.Reads .disjunctive read d → d = c) ∧
        ∀ truth, c.holds truth = Bands.groupConditions.all (·.holds truth) := by
  intro m
  have hne : m.having ≠ [] := List.cons_ne_nil _ _
  have hlexemes : List.Forall₂ (fun text read => Lexeme.ofText? text = some read) m.having
      Bands.groupLexemes := .cons (by decide) (.cons (by decide) .nil)
  have hcount : Condition.Reads .unary
      [.word "COUNT", .opening, .word "?band", .closing, .sign '>', .word "1"]
      (.atom [.word "COUNT", .opening, .word "?band", .closing, .sign '>', .word "1"]) :=
    .atom (Condition.isAtom_cons nofun nofun rfl (by simp) (by simp))
  have heither := Condition.Reads.disjunction
    (.ofConjunctive (.ofUnary (Condition.reads_variable "?a")))
    (.ofUnary (Condition.reads_variable "?b"))
  have hneither : Condition.Reads .unary [.not, .opening, .word "?a", .or, .word "?b", .closing]
      (.negation (.disjunction (.atom [.word "?a"]) (.atom [.word "?b"]))) :=
    .negation (.bracketed heither.balanced) (.bracketed heither)
  have hconditions : List.Forall₂ (Condition.Reads .disjunctive) Bands.groupLexemes
      Bands.groupConditions :=
    .cons (.ofConjunctive (.ofUnary hcount))
      (.cons (.ofConjunctive (.ofUnary hneither)) .nil)
  have hsafe : ∀ read ∈ Bands.groupLexemes, ¬ Condition.Exposes .or read := by
    refine List.forall_mem_cons.2 ⟨hcount.not_exposes_of_unary.2, ?_⟩
    exact List.forall_mem_singleton.2 hneither.not_exposes_of_unary.2
  refine ⟨⟨hne, hlexemes, hconditions, hsafe⟩, ?_⟩
  obtain ⟨before, inside, after, hclause, hjoined⟩ := Modifiers.having_holds hne
  exact ⟨before, inside, after, hclause, hjoined _ _ hlexemes hconditions (.inr hsafe)⟩

/-- The first of these conditions has an `||` outside of brackets. Joined with the second it holds
where the second does not. -/
theorem Modifiers.having_disjunction :
    let m : Modifiers := { having := ["?a || ?b", "?c"] }
    let a := Condition.atom [.word "?a"]
    let b := Condition.atom [.word "?b"]
    let c := Condition.atom [.word "?c"]
    m.trailingClauses = ["HAVING (" ++ "?a || ?b && ?c" ++ ")"] ∧
      (∃ read, Lexeme.ofText? "?a || ?b" = some read ∧
        Condition.Reads .disjunctive read (.disjunction a b)) ∧
      (∃ read, Lexeme.ofText? "?c" = some read ∧ Condition.Reads .disjunctive read c) ∧
      ∃ read whole, Lexeme.ofText? "?a || ?b && ?c" = some read ∧
        Condition.Reads .disjunctive read whole ∧
        (∀ d, Condition.Reads .disjunctive read d → d = whole) ∧
        ∃ truth, whole.holds truth = true ∧ c.holds truth = false := by
  intro m a b c
  have ha := Condition.reads_variable "?a"
  have hb := Condition.reads_variable "?b"
  have hc := Condition.reads_variable "?c"
  have hentry := Condition.Reads.disjunction (.ofConjunctive (.ofUnary ha)) (.ofUnary hb)
  have hwhole := Condition.Reads.disjunction (.ofConjunctive (.ofUnary ha))
    (.conjunction (.ofUnary hb) hc)
  have hclauses : m.trailingClauses = ["HAVING (" ++ "?a || ?b && ?c" ++ ")"] := rfl
  have hentryLexemes : Lexeme.ofText? "?a || ?b" = some [.word "?a", .or, .word "?b"] := by decide
  have hcLexemes : Lexeme.ofText? "?c" = some [.word "?c"] := by decide
  have hwholeLexemes : Lexeme.ofText? "?a || ?b && ?c" =
      some [.word "?a", .or, .word "?b", .and, .word "?c"] := by decide
  refine ⟨hclauses, ⟨_, hentryLexemes, hentry⟩, ⟨_, hcLexemes, .ofConjunctive (.ofUnary hc)⟩,
    _, _, hwholeLexemes, hwhole, fun d hd => hd.unique hwhole, ?_⟩
  -- only the first atom holds
  exact ⟨fun read => read == [.word "?a"], by decide, by decide⟩

end QueryByExample
