import Mathlib.Data.List.TakeWhile
import QueryByExample.Directive.Grammar
/-!
# Tokens of directives

A token has a name and, behind its first colon, perhaps an argument. Name and argument say which
option the token is for, what it sets, and whether it is faulty; tokens that are for no option are
kept as they are.

## Main definitions

- `Directive.Flag`, `Directive.Topic`: the options that tokens may be for.
- `Directive.Token.name`, `Directive.Token.argument?`: the parts of a token.
- `Directive.Token.topic?`: the option that a token is for.
- `Directive.Token.Fault`: tokens that cannot be read, with their errors.
- `Directive.Token.Means`: what a token sets.

## Main statements

- `Directive.Token.read_eq_error_iff`: a token is refused if and only if it is faulty.
- `Directive.Token.means_of_read`: every other token is read as what it means.
- `Directive.Token.topic?_of_means`: what a token sets is the option that it is for.
-/

namespace QueryByExample

namespace Text

theorem segments_eq_splitOn (separator : Char) (cs : List Char) :
    segments separator cs = cs.splitOn separator := by
  induction cs with
  | nil => rfl
  | cons c rest ih =>
    rw [segments, ih, List.splitOn_cons_eq_if_modifyHead]
    by_cases hc : c = separator
    · rw [if_pos hc, if_pos (beq_iff_eq.2 hc)]
    · rw [if_neg hc, if_neg (mt beq_iff_eq.1 hc)]
      cases hsegments : rest.splitOn separator with
      | nil => exact absurd hsegments (List.splitOn_ne_nil separator rest)
      | cons first others => rfl

theorem cutAtFirst_eq (separator : Char) (cs : List Char) :
    cutAtFirst separator cs =
      (cs.takeWhile (· != separator), (cs.dropWhile (· != separator)).tail?) := by
  induction cs with
  | nil => rfl
  | cons c rest ih =>
    by_cases hc : c = separator
    · simp [cutAtFirst, hc]
    · simp [cutAtFirst, hc, ih]

end Text

/-! ### Words of closed choices -/

/-- The names of a closed choice are read as its members, and any other word is refused. -/
structure UnknownWord.Guards {α : Type} (ofName : String → Except UnknownWord α)
    (name : α → String) (expected : String) : Prop where
  ok : ∀ a, ofName (name a) = .ok a
  error : ∀ word, (∀ a, word ≠ name a) → ofName word = .error ⟨expected, word⟩

namespace UnknownWord.Guards

variable {α : Type} {ofName : String → Except UnknownWord α} {name : α → String}
  {expected word : String}

theorem eq_ok_iff (h : Guards ofName name expected) {a : α} :
    ofName word = .ok a ↔ word = name a := by
  constructor
  · intro hok
    by_cases hknown : ∃ b, word = name b
    · obtain ⟨b, rfl⟩ := hknown
      rw [h.ok] at hok
      exact congrArg name (Except.ok.inj hok)
    · rw [h.error word (not_exists.1 hknown)] at hok
      cases hok
  · rintro rfl
    exact h.ok a

theorem eq_error_iff (h : Guards ofName name expected) {fault : UnknownWord} :
    ofName word = .error fault ↔ (∀ a, word ≠ name a) ∧ fault = ⟨expected, word⟩ := by
  constructor
  · intro herror
    have hunknown : ∀ a, word ≠ name a := by
      rintro a rfl
      rw [h.ok] at herror
      cases herror
    rw [h.error word hunknown] at herror
    exact ⟨hunknown, (Except.error.inj herror).symm⟩
  · rintro ⟨hunknown, rfl⟩
    exact h.error word hunknown

theorem injective (h : Guards ofName name expected) : Function.Injective name := by
  intro a b hname
  have hok := h.ok a
  rw [hname, h.ok] at hok
  exact (Except.ok.inj hok).symm

end UnknownWord.Guards

theorem TagDisplay.guards_ofName : UnknownWord.Guards ofName name "`show` or `hide`" where
  ok display := by cases display <;> rfl
  error word h := by
    have hshown := h .shown
    have hhidden := h .hidden
    simp only [name] at hshown hhidden
    simp [ofName, hshown, hhidden]

theorem ValueKind.guards_ofName :
    UnknownWord.Guards ofName name "`string`, `number` or `boolean`" where
  ok kind := by cases kind <;> rfl
  error word h := by
    have hstring := h .string
    have hnumber := h .number
    have hboolean := h .boolean
    simp only [name] at hstring hnumber hboolean
    simp [ofName, hstring, hnumber, hboolean]

theorem Aggregate.ofName?_eq_some_iff {word : String} {a : Aggregate} :
    ofName? word = some a ↔ word = a.name := by
  constructor
  · intro h
    have hname := List.find?_some (p := fun a : Aggregate => a.name == word) h
    exact (beq_iff_eq.1 hname).symm
  · rintro rfl
    cases a <;> decide

theorem Aggregate.name_injective : Function.Injective name := by
  intro a b hname
  have hfound := ofName?_eq_some_iff.2 hname
  rw [ofName?_eq_some_iff.2 rfl] at hfound
  exact Option.some.inj hfound

/-! ### Topics -/

namespace Directive

/-- The options that their bare names set. -/
inductive Flag where
  | required
  | distinct
  | list
  | fromParent
  | reverse
  | anchor
  deriving DecidableEq

namespace Flag

/-- The name in directives. -/
def name : Flag → String
  | required => "required"
  | distinct => "distinct"
  | list => "list"
  | fromParent => "prevRoot"
  | reverse => "reverse"
  | anchor => "anchor"

/-- All flags. -/
def all : List Flag := [required, distinct, list, fromParent, reverse, anchor]

/-- The setting of a flag. -/
def setting : Flag → Setting
  | required => .required
  | distinct => .distinct
  | list => .list
  | fromParent => .fromParent
  | reverse => .reverse
  | anchor => .anchor

/-- The flag of a name. -/
def ofName? (name : String) : Option Flag := all.find? (·.name == name)

theorem ofName?_eq_some_iff {word : String} {flag : Flag} :
    ofName? word = some flag ↔ word = flag.name := by
  constructor
  · intro h
    have hname := List.find?_some (p := fun flag : Flag => flag.name == word) h
    exact (beq_iff_eq.1 hname).symm
  · rintro rfl
    cases flag <;> decide

end Flag

/-- The options that a token may be for. -/
inductive Topic where
  | flag (flag : Flag)
  | aggregate
  | chosenVariable
  | language
  | bestLanguage
  | tags
  | accept
  deriving DecidableEq

/-- The option that a setting is for. -/
def Setting.topic? : Setting → Option Topic
  | .required => some (.flag .required)
  | .distinct => some (.flag .distinct)
  | .list => some (.flag .list)
  | .fromParent => some (.flag .fromParent)
  | .reverse => some (.flag .reverse)
  | .anchor => some (.flag .anchor)
  | .variable _ => some .chosenVariable
  | .aggregate _ => some .aggregate
  | .language _ => some .language
  | .bestLanguage _ => some .bestLanguage
  | .tags _ => some .tags
  | .accept _ => some .accept
  | .unknown _ => none

theorem Flag.topic?_setting (flag : Flag) : flag.setting.topic? = some (.flag flag) := by
  cases flag <;> rfl

/-- A word without an argument is a flag, an aggregate, or no option. -/
theorem Setting.ofName_eq (word : String) :
    ofName word =
      match Flag.ofName? word, Aggregate.ofName? word with
      | some flag, _ => flag.setting
      | none, some a => .aggregate a
      | none, none => .unknown word := by
  cases hflag : Flag.ofName? word with
  | some flag =>
    obtain rfl := Flag.ofName?_eq_some_iff.1 hflag
    cases flag <;> rfl
  | none =>
    have hne : ∀ flag : Flag, word ≠ flag.name := by
      intro flag h
      rw [Flag.ofName?_eq_some_iff.2 h] at hflag
      cases hflag
    have hrequired := hne .required
    have hdistinct := hne .distinct
    have hlist := hne .list
    have hparent := hne .fromParent
    have hreverse := hne .reverse
    have hanchor := hne .anchor
    simp only [Flag.name] at hrequired hdistinct hlist hparent hreverse hanchor
    simp only [Setting.ofName, hrequired, hdistinct, hlist, hparent, hreverse, hanchor, if_false]
    cases Aggregate.ofName? word <;> rfl

/-! ### The parts of a token -/

namespace Token

variable {token argument : String} {setting : Setting} {fault : Error}

/-- What stands in front of the first colon of a token. -/
def name (token : String) : String := String.ofList (token.toList.takeWhile (· != ':'))

/-- What follows the first colon, if there is one. -/
def argument? (token : String) : Option String :=
  (token.toList.dropWhile (· != ':')).tail?.map String.ofList

/-- The language code of a token; an empty one counts as none. -/
def code? (token : String) : Option String := (argument? token).filter (· != "")

/-- A text without the marks in front of it. -/
def unmarked (text : String) : String := String.ofList (text.toList.dropWhile (· == '?'))

/-- The option that a token is for, if it is understood. -/
def topic? (token : String) : Option Topic :=
  match Flag.ofName? token, Aggregate.ofName? token with
  | some flag, _ => some (.flag flag)
  | none, some _ => some .aggregate
  | none, none =>
    if name token = "lang" then some .language
    else if name token = "bestlang" then some .bestLanguage
    else if (argument? token).isNone then none
    else if name token = "var" then some .chosenVariable
    else if name token = "langTag" then some .tags
    else if name token = "accept" then some .accept
    else none

/-- A token that cannot be read, with its error. -/
inductive Fault (token : String) : Error → Prop where
  | chosenVariable {argument : String} (hname : name token = "var")
      (hargument : argument? token = some argument) (hmarks : ∀ c ∈ argument.toList, c = '?') :
      Fault token .emptyVariable
  | tags {argument : String} (hname : name token = "langTag")
      (hargument : argument? token = some argument)
      (hunknown : ∀ display : TagDisplay, argument ≠ display.name) :
      Fault token (.invalidOption token ⟨"`show` or `hide`", argument⟩)
  | accept {argument : String} (hname : name token = "accept")
      (hargument : argument? token = some argument)
      (hunknown : ∀ kind : ValueKind, argument ≠ kind.name) :
      Fault token (.invalidOption token ⟨"`string`, `number` or `boolean`", argument⟩)

/-- What a token sets. -/
inductive Means (token : String) : Setting → Prop where
  | flag (flag : Flag) (h : token = flag.name) : Means token flag.setting
  | aggregate (a : Aggregate) (h : token = a.name) : Means token (.aggregate a)
  | language (hname : name token = "lang") : Means token (.language (code? token))
  | bestLanguage (hname : name token = "bestlang") : Means token (.bestLanguage (code? token))
  | chosenVariable {argument : String} (hname : name token = "var")
      (hargument : argument? token = some argument) (hbare : unmarked argument ≠ "") :
      Means token (.variable ("?" ++ unmarked argument))
  | tags {display : TagDisplay} (hname : name token = "langTag")
      (hargument : argument? token = some display.name) : Means token (.tags display)
  | accept {kind : ValueKind} (hname : name token = "accept")
      (hargument : argument? token = some kind.name) : Means token (.accept kind)
  | unknown (h : topic? token = none) : Means token (.unknown token)

/-- A token without an argument is its name. -/
theorem name_eq_self (h : argument? token = none) : name token = token := by
  have hrest : token.toList.dropWhile (· != ':') = [] := by
    cases hrest : token.toList.dropWhile (· != ':') with
    | nil => rfl
    | cons c rest => simp [argument?, hrest] at h
  have htoken := List.takeWhile_append_dropWhile (p := (· != ':')) (l := token.toList)
  rw [hrest, List.append_nil] at htoken
  rw [name, htoken, String.ofList_toList]

theorem argument?_flag (flag : Flag) : argument? flag.name = none := by
  cases flag <;> rfl

theorem argument?_aggregate (a : Aggregate) : argument? a.name = none := by
  cases a <;> rfl

theorem ofName?_eq_none_of_argument? (h : argument? token = some argument) :
    Flag.ofName? token = none ∧ Aggregate.ofName? token = none := by
  constructor
  · cases hflag : Flag.ofName? token with
    | none => rfl
    | some flag =>
      rw [Flag.ofName?_eq_some_iff.1 hflag, argument?_flag] at h
      cases h
  · cases haggregate : Aggregate.ofName? token with
    | none => rfl
    | some a =>
      rw [Aggregate.ofName?_eq_some_iff.1 haggregate, argument?_aggregate] at h
      cases h

theorem unmarked_eq_empty_iff {text : String} :
    unmarked text = "" ↔ ∀ c ∈ text.toList, c = '?' := by
  simp [unmarked, List.dropWhile_eq_nil_iff]

theorem code?_eq (token : String) :
    Setting.code? ((token.toList.dropWhile (· != ':')).tail?) = code? token := by
  rw [code?, argument?]
  cases (token.toList.dropWhile (· != ':')).tail? with
  | none => rfl
  | some code =>
    cases code with
    | nil => rfl
    | cons c rest => simp [Setting.code?, Option.filter]

/-! ### The option of a token -/

theorem topic?_of_argument? (h : argument? token = some argument) :
    topic? token =
      if name token = "lang" then some .language
      else if name token = "bestlang" then some .bestLanguage
      else if name token = "var" then some .chosenVariable
      else if name token = "langTag" then some .tags
      else if name token = "accept" then some .accept
      else none := by
  obtain ⟨hflag, haggregate⟩ := ofName?_eq_none_of_argument? h
  simp [topic?, hflag, haggregate, h]

theorem topic?_of_name_eq_lang (h : name token = "lang") : topic? token = some .language := by
  cases hargument : argument? token with
  | none =>
    rw [name_eq_self hargument] at h
    subst h
    rfl
  | some argument => rw [topic?_of_argument? hargument, if_pos h]

theorem topic?_of_name_eq_bestlang (h : name token = "bestlang") :
    topic? token = some .bestLanguage := by
  cases hargument : argument? token with
  | none =>
    rw [name_eq_self hargument] at h
    subst h
    rfl
  | some argument =>
    rw [topic?_of_argument? hargument, h]
    rfl

/-- What a token sets is the option that it is for. -/
theorem topic?_of_means (h : Means token setting) : topic? token = setting.topic? := by
  cases h with
  | flag flag h =>
    subst h
    cases flag <;> rfl
  | aggregate a h =>
    subst h
    cases a <;> rfl
  | language hname => exact topic?_of_name_eq_lang hname
  | bestLanguage hname => exact topic?_of_name_eq_bestlang hname
  | chosenVariable hname hargument =>
    rw [topic?_of_argument? hargument, hname]
    rfl
  | tags hname hargument =>
    rw [topic?_of_argument? hargument, hname]
    rfl
  | accept hname hargument =>
    rw [topic?_of_argument? hargument, hname]
    rfl
  | unknown h => exact h

/-! ### Reading a token -/

/-- Reading a token, said by its parts. -/
theorem read_eq (token : String) :
    Setting.read token.toList =
      if name token = "lang" then .ok (.language (code? token))
      else if name token = "bestlang" then .ok (.bestLanguage (code? token))
      else match argument? token with
        | none => .ok (Setting.ofName token)
        | some argument =>
          if name token = "var" then
            if unmarked argument = "" then .error .emptyVariable
            else .ok (.variable ("?" ++ unmarked argument))
          else if name token = "langTag" then
            ((TagDisplay.ofName argument).map .tags).mapError (.invalidOption token)
          else if name token = "accept" then
            ((ValueKind.ofName argument).map .accept).mapError (.invalidOption token)
          else .ok (.unknown token) := by
  unfold Setting.read
  rw [Text.cutAtFirst_eq]
  dsimp only
  rw [String.ofList_toList, code?_eq, ← name, argument?]
  cases hrest : (token.toList.dropWhile (· != ':')).tail? with
  | none => rw [Option.map_none, name_eq_self (by rw [argument?, hrest, Option.map_none])]
  | some argument =>
    have hbare : unmarked (String.ofList argument) =
        String.ofList (argument.dropWhile (· == '?')) := by
      rw [unmarked, String.toList_ofList]
    rw [Option.map_some]
    dsimp only
    rw [hbare]
    congr 3
    · cases argument.dropWhile (· == '?') with
      | nil => rfl
      | cons c rest =>
        have hmark : "?" ++ String.ofList (c :: rest) = String.ofList ('?' :: c :: rest) :=
          String.toList_inj.1 (by simp)
        rw [if_neg (by simp), hmark]
    · congr 1
      · cases TagDisplay.ofName (String.ofList argument) <;> rfl
      · congr 1
        cases ValueKind.ofName (String.ofList argument) <;> rfl

/-- A token is read as what it means, or it is faulty. -/
theorem read_cases (token : String) :
    (∃ setting, Setting.read token.toList = .ok setting ∧ Means token setting) ∨
      ∃ fault, Setting.read token.toList = .error fault ∧ Fault token fault := by
  rw [read_eq]
  split
  · next hlang => exact .inl ⟨_, rfl, .language hlang⟩
  split
  · next hbest => exact .inl ⟨_, rfl, .bestLanguage hbest⟩
  next hlang hbest =>
  cases hargument : argument? token with
  | none =>
    refine .inl ⟨_, rfl, ?_⟩
    rw [Setting.ofName_eq]
    cases hflag : Flag.ofName? token with
    | some flag => exact .flag flag (Flag.ofName?_eq_some_iff.1 hflag)
    | none =>
      cases haggregate : Aggregate.ofName? token with
      | some a => exact .aggregate a (Aggregate.ofName?_eq_some_iff.1 haggregate)
      | none => exact .unknown (by simp [topic?, hflag, haggregate, hlang, hbest, hargument])
  | some argument =>
    dsimp only
    split
    · next hvariable =>
      split
      · next hmarks =>
        exact .inr ⟨_, rfl, .chosenVariable hvariable hargument (unmarked_eq_empty_iff.1 hmarks)⟩
      · next hbare => exact .inl ⟨_, rfl, .chosenVariable hvariable hargument hbare⟩
    next hvariable =>
    split
    · next htags =>
      cases hdisplay : TagDisplay.ofName argument with
      | ok display =>
        rw [TagDisplay.guards_ofName.eq_ok_iff.1 hdisplay] at hargument
        exact .inl ⟨_, rfl, .tags htags hargument⟩
      | error fault =>
        obtain ⟨hunknown, rfl⟩ := TagDisplay.guards_ofName.eq_error_iff.1 hdisplay
        exact .inr ⟨_, rfl, .tags htags hargument hunknown⟩
    next htags =>
    split
    · next haccept =>
      cases hkind : ValueKind.ofName argument with
      | ok kind =>
        rw [ValueKind.guards_ofName.eq_ok_iff.1 hkind] at hargument
        exact .inl ⟨_, rfl, .accept haccept hargument⟩
      | error fault =>
        obtain ⟨hunknown, rfl⟩ := ValueKind.guards_ofName.eq_error_iff.1 hkind
        exact .inr ⟨_, rfl, .accept haccept hargument hunknown⟩
    · next haccept =>
      refine .inl ⟨_, rfl, .unknown ?_⟩
      rw [topic?_of_argument? hargument]
      simp only [hlang, hbest, hvariable, htags, haccept, if_false]

/-- Every token that is not refused is read as what it means. -/
theorem means_of_read (h : Setting.read token.toList = .ok setting) : Means token setting := by
  rcases read_cases token with ⟨found, hfound, hmeans⟩ | ⟨fault, hfault, -⟩
  · rwa [Except.ok.inj (h.symm.trans hfound)]
  · cases h.symm.trans hfault

/-- A token is refused if and only if it is faulty. -/
theorem read_eq_error_iff : Setting.read token.toList = .error fault ↔ Fault token fault := by
  constructor
  · intro h
    rcases read_cases token with ⟨setting, hsetting, -⟩ | ⟨found, hfound, hfault⟩
    · cases h.symm.trans hsetting
    · rwa [Except.error.inj (h.symm.trans hfound)]
  · intro h
    rw [read_eq]
    cases h with
    | chosenVariable hname hargument hmarks =>
      rw [hname, hargument]
      simp [unmarked_eq_empty_iff.2 hmarks]
    | tags hname hargument hunknown =>
      rw [hname, hargument]
      simp [TagDisplay.guards_ofName.error _ hunknown, Except.map, Except.mapError]
    | accept hname hargument hunknown =>
      rw [hname, hargument]
      simp [ValueKind.guards_ofName.error _ hunknown, Except.map, Except.mapError]

end Token

end Directive

end QueryByExample
