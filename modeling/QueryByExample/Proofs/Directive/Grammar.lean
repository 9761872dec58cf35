import QueryByExample.Proofs.Directive.Token
/-!
# The grammar of directives

A directive is a mark, a head and tokens, each token behind a dollar sign. Its options are said by
its tokens alone: an option that a token sets stands or falls with the tokens for it, so tokens
for different options may change places. The first faulty token decides the error, and only
where no token is faulty the head does.

## Main definitions

- `Directive.Sigil`, `Directive.Written`: the parts of a text that starts with a mark.
- `Directive.tokensFor`: the tokens for one option.
- `Directive.Options.SaidBy`: options that are as the tokens say.
- `Directive.Refused`: texts that are no directive although they start with a mark.

## Main statements

- `Directive.Options.SaidBy.concat`, `Directive.Options.saidBy_of_ofTokens`: reading one token keeps
  the options as the tokens say, and so does reading all of them.
- `Directive.outcome_parse`: the directive of a text, or its error, is what its parts say.
-/

namespace QueryByExample

namespace Text

theorem not_mem_of_mem_segments {separator : Char} {cs segment : List Char}
    (h : segment ∈ segments separator cs) : separator ∉ segment := by
  induction cs generalizing segment with
  | nil =>
    rw [segments, List.mem_singleton] at h
    simp [h]
  | cons c rest ih =>
    rw [segments] at h
    by_cases hc : c = separator
    · rw [if_pos hc] at h
      rcases List.mem_cons.1 h with rfl | h
      · simp
      · exact ih h
    · rw [if_neg hc] at h
      cases hrest : segments separator rest with
      | nil => exact absurd hrest (segments_ne_nil separator rest)
      | cons first others =>
        rw [hrest] at h ih
        rcases List.mem_cons.1 h with rfl | h
        · have hfirst := ih List.mem_cons_self
          simp [Ne.symm hc, hfirst]
        · exact ih (List.mem_cons_of_mem _ h)

/-- The segments of a text are those that the separators join to it. -/
theorem segments_eq_iff {separator : Char} {cs : List Char} {parts : List (List Char)} :
    segments separator cs = parts ↔
      parts ≠ [] ∧ (∀ part ∈ parts, separator ∉ part) ∧ [separator].intercalate parts = cs := by
  constructor
  · rintro rfl
    refine ⟨segments_ne_nil separator cs, fun part => not_mem_of_mem_segments, ?_⟩
    rw [segments_eq_splitOn, List.intercalate_splitOn]
  · rintro ⟨hne, hnot, rfl⟩
    rw [segments_eq_splitOn, List.splitOn_intercalate separator hnot hne]

theorem trimChars_eq_nil_iff {cs : List Char} :
    trimChars cs = [] ↔ ∀ c ∈ cs, isBlank c = true := by
  constructor
  · intro h c hc
    rw [trimChars, trimEnd, List.reverse_eq_nil_iff, List.dropWhile_eq_nil_iff] at h
    rcases List.mem_append.1 (List.takeWhile_append_dropWhile (p := isBlank) (l := cs) ▸ hc) with
      hstart | hrest
    · exact List.mem_takeWhile_imp hstart
    · exact h c (List.mem_reverse.2 hrest)
  · intro h
    rw [trimChars, List.dropWhile_eq_nil_iff.2 h]
    rfl

end Text

namespace Directive

/-! ### The parts of a directive -/

/-- The ways in which a directive starts. -/
inductive Sigil where
  | path
  | binding
  deriving DecidableEq

namespace Sigil

/-- The first character of a directive. -/
def mark : Sigil → String
  | path => "$"
  | binding => "?"

/-- The head that is written behind the mark. -/
def head : Sigil → String → Head
  | path, written => .path (Text.trim written)
  | binding, written => .variable (Variable.marked written)

/-- A text starts with a mark. -/
def Opens (sigil : Sigil) (text : String) : Prop := ∃ rest, text = sigil.mark ++ rest

theorem opens_iff {sigil : Sigil} {text : String} :
    sigil.Opens text ↔ ∃ rest, text.toList = sigil.mark.toList ++ rest := by
  constructor
  · rintro ⟨rest, rfl⟩
    exact ⟨rest.toList, String.toList_append⟩
  · rintro ⟨rest, h⟩
    refine ⟨String.ofList rest, String.toList_inj.1 ?_⟩
    rw [h, String.toList_append, String.toList_ofList]

end Sigil

/-- A text is a mark, a head and tokens, each token behind a dollar sign. -/
structure Written (sigil : Sigil) (head : String) (tokens : List String) (text : String) :
    Prop where
  text_eq : text = sigil.mark ++ "$".intercalate (head :: tokens)
  not_mem : ∀ part ∈ head :: tokens, '$' ∉ part.toList

/-- What the parts of a text are read from. -/
theorem parts_eq_iff {cs : List Char} {head : String} {tokens : List String} :
    parts cs = (head.toList, tokens.map String.toList) ↔
      cs = ("$".intercalate (head :: tokens)).toList ∧
        ∀ part ∈ head :: tokens, '$' ∉ part.toList := by
  have hparts : parts cs = (head.toList, tokens.map String.toList) ↔
      Text.segments '$' cs = (head :: tokens).map String.toList := by
    rw [parts]
    cases hsegments : Text.segments '$' cs with
    | nil => exact absurd hsegments (Text.segments_ne_nil '$' cs)
    | cons first others => simp
  rw [hparts, Text.segments_eq_iff, String.toList_intercalate]
  constructor
  · rintro ⟨-, hnot, hjoin⟩
    exact ⟨hjoin.symm, fun part hpart => hnot _ (List.mem_map_of_mem hpart)⟩
  · rintro ⟨hjoin, hnot⟩
    refine ⟨by simp, ?_, hjoin.symm⟩
    intro chars hchars
    obtain ⟨part, hpart, rfl⟩ := List.mem_map.1 hchars
    exact hnot part hpart

/-- A text that starts with a mark has parts. -/
theorem exists_written {sigil : Sigil} {text : String} (h : sigil.Opens text) :
    ∃ head tokens, Written sigil head tokens text := by
  obtain ⟨rest, rfl⟩ := h
  rcases hparts : parts rest.toList with ⟨first, others⟩
  have hwritten : parts rest.toList =
      ((String.ofList first).toList, (others.map String.ofList).map String.toList) := by
    have hid : String.toList ∘ String.ofList = id := funext fun _ => String.toList_ofList
    rw [hparts, String.toList_ofList, List.map_map, hid, List.map_id]
  obtain ⟨hjoin, hnot⟩ := parts_eq_iff.1 hwritten
  exact ⟨_, _, congrArg (sigil.mark ++ ·) (String.toList_inj.1 hjoin), hnot⟩

theorem Written.toList_eq {sigil : Sigil} {head text : String} {tokens : List String}
    (h : Written sigil head tokens text) :
    text.toList = sigil.mark.toList ++ ("$".intercalate (head :: tokens)).toList := by
  rw [h.text_eq, String.toList_append]

/-- A text has parts in one way only. -/
theorem Written.unique {sigil : Sigil} {head head' text : String} {tokens tokens' : List String}
    (h : Written sigil head tokens text) (h' : Written sigil head' tokens' text) :
    head = head' ∧ tokens = tokens' := by
  have hjoin : "$".intercalate (head :: tokens) = "$".intercalate (head' :: tokens') := by
    have htext := h.toList_eq.symm.trans h'.toList_eq
    exact String.toList_inj.1 (List.append_cancel_left htext)
  have hparts := parts_eq_iff.2 ⟨rfl, h.not_mem⟩
  rw [hjoin, parts_eq_iff.2 ⟨rfl, h'.not_mem⟩] at hparts
  obtain ⟨hhead, htokens⟩ := Prod.mk.inj hparts
  exact ⟨String.toList_inj.1 hhead.symm,
    (List.map_inj_right fun _ _ => String.toList_inj.1).1 htokens.symm⟩

/-! ### The tokens for an option -/

/-- The tokens for an option, or for none, in their order. Empty tokens mean nothing. -/
def tokensFor (topic? : Option Topic) (tokens : List String) : List String :=
  tokens.filter fun token => token != "" && Token.topic? token == topic?

/-- Whether a flag is set. -/
def Options.flag (options : Options) : Flag → Bool
  | .required => options.required
  | .distinct => options.distinct
  | .list => options.list
  | .fromParent => options.fromParent
  | .reverse => options.reverse
  | .anchor => options.anchor

/-- The options are as the tokens say: a flag is set where its name stands among them, the first
aggregate counts, the last token for any other option does, and tokens for no option are kept. -/
structure Options.SaidBy (tokens : List String) (options : Options) : Prop where
  flag : ∀ flag, options.flag flag = true ↔ flag.name ∈ tokens
  chosenVariable : options.chosenVariable? =
    (tokensFor (some .chosenVariable) tokens).getLast?.bind fun token =>
      (Token.argument? token).map fun argument => "?" ++ Token.unmarked argument
  aggregate : options.aggregate?.map Aggregate.name = (tokensFor (some .aggregate) tokens).head?
  language : options.language? = (tokensFor (some .language) tokens).getLast?.map Token.code?
  bestLanguage :
    options.bestLanguage? = (tokensFor (some .bestLanguage) tokens).getLast?.map Token.code?
  tags : options.tags?.map TagDisplay.name =
    (tokensFor (some .tags) tokens).getLast?.bind Token.argument?
  accept : options.accept?.map ValueKind.name =
    (tokensFor (some .accept) tokens).getLast?.bind Token.argument?
  unknown : options.unknown = tokensFor none tokens

variable {tokens others seen rest : List String} {token : String} {topic? : Option Topic}
  {options result : Options} {setting : Setting} {fault : Error}

theorem tokensFor_concat (hne : token ≠ "") :
    tokensFor topic? (tokens ++ [token]) =
      tokensFor topic? tokens ++ if Token.topic? token = topic? then [token] else [] := by
  rw [tokensFor, tokensFor, List.filter_append]
  congr 1
  by_cases h : Token.topic? token = topic? <;> simp [hne, h]

theorem tokensFor_concat_empty : tokensFor topic? (tokens ++ [""]) = tokensFor topic? tokens := by
  rw [tokensFor, tokensFor, List.filter_append]
  exact List.append_nil _

theorem topic?_flag (flag : Flag) : Token.topic? flag.name = some (.flag flag) := by
  cases flag <;> rfl

theorem topic?_eq_flag_iff {flag : Flag} :
    Token.topic? token = some (.flag flag) ↔ token = flag.name := by
  constructor
  · intro h
    unfold Token.topic? at h
    split at h
    · next found hfound =>
      cases h
      exact Flag.ofName?_eq_some_iff.1 hfound
    · cases h
    · repeat' split at h
      all_goals cases h
  · rintro rfl
    exact topic?_flag flag

theorem flag_ne_empty (flag : Flag) : flag.name ≠ "" := by
  cases flag <;> decide

theorem mem_iff_mem_tokensFor {flag : Flag} :
    flag.name ∈ tokens ↔ flag.name ∈ tokensFor (some (.flag flag)) tokens := by
  simp [tokensFor, topic?_flag, flag_ne_empty]

/-! ### Reading all tokens -/

theorem flag_apply (options : Options) (setting : Setting) (flag : Flag) :
    (options.apply setting).flag flag =
      (options.flag flag || decide (setting.topic? = some (.flag flag))) := by
  cases setting <;> cases flag <;> simp [Options.apply, Options.flag, Setting.topic?]

namespace Options.SaidBy

/-- Without tokens no option is set. -/
theorem nil : SaidBy [] {} where
  flag flag := by cases flag <;> simp [Options.flag]
  chosenVariable := rfl
  aggregate := rfl
  language := rfl
  bestLanguage := rfl
  tags := rfl
  accept := rfl
  unknown := rfl

/-- An empty token says nothing. -/
theorem concat_empty (h : SaidBy tokens options) : SaidBy (tokens ++ [""]) options where
  flag flag := by simp [h.flag, flag_ne_empty]
  chosenVariable := by rw [tokensFor_concat_empty, h.chosenVariable]
  aggregate := by rw [tokensFor_concat_empty, h.aggregate]
  language := by rw [tokensFor_concat_empty, h.language]
  bestLanguage := by rw [tokensFor_concat_empty, h.bestLanguage]
  tags := by rw [tokensFor_concat_empty, h.tags]
  accept := by rw [tokensFor_concat_empty, h.accept]
  unknown := by rw [tokensFor_concat_empty, h.unknown]

/-- An option for which the last token counts, after one more token. -/
theorem last_concat {β : Type} (field : Options → Option β) {read : String → Option β}
    {topic : Topic} (h : field options = (tokensFor (some topic) tokens).getLast?.bind read)
    (hne : token ≠ "")
    (hset : field (options.apply setting) =
      if Token.topic? token = some topic then read token else field options) :
    field (options.apply setting) =
      (tokensFor (some topic) (tokens ++ [token])).getLast?.bind read := by
  rw [hset, tokensFor_concat hne]
  by_cases htopic : Token.topic? token = some topic
  · rw [if_pos htopic, if_pos htopic, List.getLast?_concat, Option.bind_some]
  · rw [if_neg htopic, if_neg htopic, List.append_nil, h]

/-- What one more token means is what it adds to the options. -/
theorem concat (h : SaidBy tokens options) (hne : token ≠ "") (hmeans : Token.Means token setting) :
    SaidBy (tokens ++ [token]) (options.apply setting) := by
  have htopic := Token.topic?_of_means hmeans
  constructor
  case flag =>
    intro flag
    rw [flag_apply, Bool.or_eq_true, decide_eq_true_iff, h.flag, ← htopic, topic?_eq_flag_iff,
      List.mem_append, List.mem_singleton, eq_comm (a := token)]
  case chosenVariable =>
    refine last_concat Options.chosenVariable? h.chosenVariable hne ?_
    rw [htopic]
    cases hmeans with
    | chosenVariable _ hargument _ => simp [Options.apply, Setting.topic?, hargument]
    | flag flag _ => cases flag <;> simp [Options.apply, Setting.topic?, Flag.setting]
    | _ => simp [Options.apply, Setting.topic?]
  case language =>
    have hlast := h.language
    rw [Option.map_eq_bind] at hlast ⊢
    refine last_concat Options.language? hlast hne ?_
    rw [htopic]
    cases hmeans with
    | flag flag _ => cases flag <;> simp [Options.apply, Setting.topic?, Flag.setting]
    | _ => simp [Options.apply, Setting.topic?]
  case bestLanguage =>
    have hlast := h.bestLanguage
    rw [Option.map_eq_bind] at hlast ⊢
    refine last_concat Options.bestLanguage? hlast hne ?_
    rw [htopic]
    cases hmeans with
    | flag flag _ => cases flag <;> simp [Options.apply, Setting.topic?, Flag.setting]
    | _ => simp [Options.apply, Setting.topic?]
  case tags =>
    refine last_concat (fun options => options.tags?.map TagDisplay.name) h.tags hne ?_
    rw [htopic]
    cases hmeans with
    | tags _ hargument => simp [Options.apply, Setting.topic?, hargument]
    | flag flag _ => cases flag <;> simp [Options.apply, Setting.topic?, Flag.setting]
    | _ => simp [Options.apply, Setting.topic?]
  case accept =>
    refine last_concat (fun options => options.accept?.map ValueKind.name) h.accept hne ?_
    rw [htopic]
    cases hmeans with
    | accept _ hargument => simp [Options.apply, Setting.topic?, hargument]
    | flag flag _ => cases flag <;> simp [Options.apply, Setting.topic?, Flag.setting]
    | _ => simp [Options.apply, Setting.topic?]
  case aggregate =>
    rw [tokensFor_concat hne, htopic, List.head?_append, ← h.aggregate]
    cases hmeans with
    | aggregate a htoken =>
      cases hfirst : options.aggregate? <;> simp [Options.apply, Setting.topic?, htoken, hfirst]
    | flag flag _ => cases flag <;> simp [Options.apply, Setting.topic?, Flag.setting]
    | _ => simp [Options.apply, Setting.topic?]
  case unknown =>
    rw [tokensFor_concat hne, htopic, ← h.unknown]
    cases hmeans with
    | flag flag _ => cases flag <;> simp [Options.apply, Setting.topic?, Flag.setting]
    | _ => simp [Options.apply, Setting.topic?]

/-- Tokens for different options may change places. -/
theorem congr (h : ∀ topic?, tokensFor topic? tokens = tokensFor topic? others)
    (hsaid : SaidBy tokens options) : SaidBy others options where
  flag flag := by
    rw [hsaid.flag, mem_iff_mem_tokensFor, h, ← mem_iff_mem_tokensFor]
  chosenVariable := h _ ▸ hsaid.chosenVariable
  aggregate := h _ ▸ hsaid.aggregate
  language := h _ ▸ hsaid.language
  bestLanguage := h _ ▸ hsaid.bestLanguage
  tags := h _ ▸ hsaid.tags
  accept := h _ ▸ hsaid.accept
  unknown := h _ ▸ hsaid.unknown

/-- The tokens say all about the options. -/
theorem unique (h : SaidBy tokens options) (hresult : SaidBy tokens result) :
    options = result := by
  have hflag : ∀ flag, options.flag flag = result.flag flag := fun flag =>
    Bool.eq_iff_iff.2 ((h.flag flag).trans (hresult.flag flag).symm)
  have haggregate := Option.map_injective Aggregate.name_injective
    (h.aggregate.trans hresult.aggregate.symm)
  have htags := Option.map_injective TagDisplay.guards_ofName.injective
    (h.tags.trans hresult.tags.symm)
  have haccept := Option.map_injective ValueKind.guards_ofName.injective
    (h.accept.trans hresult.accept.symm)
  cases options
  cases result
  rw [Options.mk.injEq]
  exact ⟨hflag .required, h.chosenVariable.trans hresult.chosenVariable.symm, haggregate,
    hflag .distinct, hflag .list, h.language.trans hresult.language.symm, htags, haccept,
    h.bestLanguage.trans hresult.bestLanguage.symm, hflag .fromParent, hflag .reverse,
    hflag .anchor, h.unknown.trans hresult.unknown.symm⟩

end Options.SaidBy

/-- The error of the first faulty token. -/
inductive FirstFault : List String → Error → Prop where
  | here {token : String} {rest : List String} {fault : Error} (h : Token.Fault token fault) :
      FirstFault (token :: rest) fault
  | there {token : String} {rest : List String} {fault : Error}
      (hfine : ∀ found, ¬ Token.Fault token found) (h : FirstFault rest fault) :
      FirstFault (token :: rest) fault

theorem not_fault_empty : ¬ Token.Fault "" fault := by
  intro h
  cases h with
  | chosenVariable hname => exact absurd hname (by decide)
  | tags hname => exact absurd hname (by decide)
  | accept hname => exact absurd hname (by decide)

theorem FirstFault.exists_mem (h : FirstFault tokens fault) :
    ∃ token ∈ tokens, Token.Fault token fault := by
  induction h with
  | here h => exact ⟨_, List.mem_cons_self, h⟩
  | there _ _ ih =>
    obtain ⟨token, htoken, h⟩ := ih
    exact ⟨token, List.mem_cons_of_mem _ htoken, h⟩

theorem ofTokens_cons (options : Options) (token : String) (rest : List (List Char)) :
    Options.ofTokens options (token.toList :: rest) =
      if token = "" then Options.ofTokens options rest
      else match Setting.read token.toList with
        | .ok setting => Options.ofTokens (options.apply setting) rest
        | .error fault => .error fault := by
  by_cases htoken : token = ""
  · rw [if_pos htoken, htoken]
    rfl
  · rw [if_neg htoken]
    cases hchars : token.toList with
    | nil => exact absurd (String.toList_eq_nil_iff.1 hchars) htoken
    | cons c cs => rfl

/-- Reading all tokens stops at the first faulty one, or it sets what they say. -/
theorem saidBy_of_ofTokens (tokens : List String) (hseen : Options.SaidBy seen options) :
    (∃ result, Options.ofTokens options (tokens.map String.toList) = .ok result ∧
      (∀ token ∈ tokens, ∀ fault, ¬ Token.Fault token fault) ∧
      Options.SaidBy (seen ++ tokens) result) ∨
    ∃ fault, Options.ofTokens options (tokens.map String.toList) = .error fault ∧
      FirstFault tokens fault := by
  induction tokens generalizing seen options with
  | nil => exact .inl ⟨options, rfl, by simp, by rwa [List.append_nil]⟩
  | cons token rest ih =>
    -- what the rest gives, once the token has been read without a fault
    have hrest : ∀ {next : Options}, Options.SaidBy (seen ++ [token]) next →
        (∀ fault, ¬ Token.Fault token fault) →
        (∃ result, Options.ofTokens next (rest.map String.toList) = .ok result ∧
          (∀ other ∈ token :: rest, ∀ fault, ¬ Token.Fault other fault) ∧
          Options.SaidBy (seen ++ token :: rest) result) ∨
        ∃ fault, Options.ofTokens next (rest.map String.toList) = .error fault ∧
          FirstFault (token :: rest) fault := by
      intro next hnext hfine
      rcases ih hnext with ⟨result, hresult, hfines, hsaid⟩ | ⟨fault, hresult, hfirst⟩
      · rw [List.append_assoc] at hsaid
        exact .inl ⟨result, hresult, List.forall_mem_cons.2 ⟨hfine, hfines⟩, hsaid⟩
      · exact .inr ⟨fault, hresult, .there hfine hfirst⟩
    rw [List.map_cons, ofTokens_cons]
    by_cases hempty : token = ""
    · subst hempty
      rw [if_pos rfl]
      exact hrest hseen.concat_empty fun fault => not_fault_empty
    · rw [if_neg hempty]
      cases hread : Setting.read token.toList with
      | ok setting =>
        have hfine : ∀ fault, ¬ Token.Fault token fault := fun fault h =>
          nomatch hread.symm.trans (Token.read_eq_error_iff.2 h)
        exact hrest (hseen.concat hempty (Token.means_of_read hread)) hfine
      | error fault => exact .inr ⟨fault, rfl, .here (Token.read_eq_error_iff.1 hread)⟩

/-! ### The whole text -/

/-- A head that cannot be read, with its error. -/
inductive Sigil.HeadFault (text : String) : Sigil → String → Error → Prop where
  | path {head : String} (hblank : ∀ c ∈ head.toList, Text.isBlank c = true) :
      HeadFault text .path head (.emptyPath text)
  | binding : HeadFault text .binding "" .emptyVariable

/-- The error of a text with these parts. -/
inductive Refused (sigil : Sigil) (head : String) (tokens : List String) (text : String) :
    Error → Prop where
  | token {fault : Error} (h : FirstFault tokens fault) : Refused sigil head tokens text fault
  | head {fault : Error} (hfine : ∀ token ∈ tokens, ∀ found, ¬ Token.Fault token found)
      (h : sigil.HeadFault text head fault) : Refused sigil head tokens text fault

variable {sigil : Sigil} {head text : String} {d : Directive}

/-- The head is judged once the options are read. -/
theorem parse_eq (h : Written sigil head tokens text) :
    parse text = (Options.ofTokens {} (tokens.map String.toList)).bind fun options =>
      match sigil with
      | .path => if (Text.trimChars head.toList).isEmpty then .error (.emptyPath text)
        else .ok (some ⟨Sigil.head .path head, options⟩)
      | .binding => if head.toList.isEmpty then .error .emptyVariable
        else .ok (some ⟨Sigil.head .binding head, options⟩) := by
  have hparts := parts_eq_iff.2 ⟨rfl, h.not_mem⟩
  unfold parse
  cases sigil with
  | path =>
    have htext : text.toList = '$' :: ("$".intercalate (head :: tokens)).toList := h.toList_eq
    simp only [htext, hparts]
    cases Options.ofTokens {} (tokens.map String.toList) with
    | error fault => rfl
    | ok options => cases (Text.trimChars head.toList).isEmpty <;> rfl
  | binding =>
    have htext : text.toList = '?' :: ("$".intercalate (head :: tokens)).toList := h.toList_eq
    simp only [htext, hparts, String.ofList_toList]
    cases Options.ofTokens {} (tokens.map String.toList) with
    | error fault => rfl
    | ok options => cases head.toList.isEmpty <;> rfl

theorem headFault_path_iff :
    Sigil.HeadFault text .path head fault ↔
      Text.trimChars head.toList = [] ∧ fault = .emptyPath text := by
  rw [Text.trimChars_eq_nil_iff]
  constructor
  · rintro ⟨hblank⟩
    exact ⟨hblank, rfl⟩
  · rintro ⟨hblank, rfl⟩
    exact .path hblank

theorem headFault_binding_iff :
    Sigil.HeadFault text .binding head fault ↔ head = "" ∧ fault = .emptyVariable := by
  constructor
  · rintro ⟨⟩
    exact ⟨rfl, rfl⟩
  · rintro ⟨rfl, rfl⟩
    exact .binding

/-- A text whose tokens are read without a fault is a directive, or its head is faulty. -/
theorem parse_of_ofTokens_ok (h : Written sigil head tokens text)
    (htokens : Options.ofTokens {} (tokens.map String.toList) = .ok options) :
    (parse text = .ok (some ⟨sigil.head head, options⟩) ∧
      ∀ fault, ¬ sigil.HeadFault text head fault) ∨
    ∃ fault, parse text = .error fault ∧ sigil.HeadFault text head fault := by
  rw [parse_eq h, htokens]
  cases sigil with
  | path =>
    cases hblank : (Text.trimChars head.toList).isEmpty with
    | true =>
      exact .inr ⟨_, rfl, headFault_path_iff.2 ⟨List.isEmpty_iff.1 hblank, rfl⟩⟩
    | false =>
      refine .inl ⟨rfl, fun fault hfault => ?_⟩
      rw [(headFault_path_iff.1 hfault).1] at hblank
      cases hblank
  | binding =>
    cases hempty : head.toList.isEmpty with
    | true =>
      exact .inr ⟨_, rfl, headFault_binding_iff.2 ⟨by simpa using hempty, rfl⟩⟩
    | false =>
      refine .inl ⟨rfl, fun fault hfault => ?_⟩
      rw [(headFault_binding_iff.1 hfault).1] at hempty
      cases hempty

theorem FirstFault.unique {found : Error} (h : FirstFault tokens fault)
    (hfound : FirstFault tokens found) : fault = found := by
  induction h with
  | here h =>
    cases hfound with
    | here hfound =>
      exact Except.error.inj
        ((Token.read_eq_error_iff.2 h).symm.trans (Token.read_eq_error_iff.2 hfound))
    | there hfine _ => exact absurd h (hfine _)
  | there hfine _ ih =>
    cases hfound with
    | here hfound => exact absurd hfound (hfine _)
    | there _ hfound => exact ih hfound

theorem Refused.unique {found : Error} (h : Refused sigil head tokens text fault)
    (hfound : Refused sigil head tokens text found) : fault = found := by
  cases h with
  | token h =>
    cases hfound with
    | token hfound => exact h.unique hfound
    | head hfine _ =>
      obtain ⟨token, hmem, htoken⟩ := h.exists_mem
      exact absurd htoken (hfine token hmem fault)
  | head hfine h =>
    cases hfound with
    | token hfound =>
      obtain ⟨token, hmem, htoken⟩ := hfound.exists_mem
      exact absurd htoken (hfine token hmem found)
    | head _ hfound => cases h <;> cases hfound <;> rfl

theorem not_refused_iff :
    (∀ fault, ¬ Refused sigil head tokens text fault) ↔
      (∀ token ∈ tokens, ∀ fault, ¬ Token.Fault token fault) ∧
        ∀ fault, ¬ sigil.HeadFault text head fault := by
  constructor
  · intro hno
    rcases saidBy_of_ofTokens tokens Options.SaidBy.nil with
      ⟨-, -, hfine, -⟩ | ⟨fault, -, hfirst⟩
    · exact ⟨hfine, fun fault hhead => hno fault (.head hfine hhead)⟩
    · exact absurd (.token hfirst) (hno fault)
  · rintro ⟨hfine, hhead⟩ fault hrefused
    cases hrefused with
    | token hfirst =>
      obtain ⟨token, hmem, htoken⟩ := hfirst.exists_mem
      exact hfine token hmem fault htoken
    | head _ hfault => exact hhead fault hfault

/-- A text that starts with a mark is refused, or it is a directive. -/
theorem parse_cases (h : Written sigil head tokens text) :
    (∃ fault, parse text = .error fault ∧ Refused sigil head tokens text fault) ∨
    ∃ options, parse text = .ok (some ⟨sigil.head head, options⟩) ∧
      Options.SaidBy tokens options ∧ ∀ fault, ¬ Refused sigil head tokens text fault := by
  rcases saidBy_of_ofTokens tokens Options.SaidBy.nil with
    ⟨options, htokens, hfine, hsaid⟩ | ⟨fault, htokens, hfirst⟩
  · rcases parse_of_ofTokens_ok h htokens with ⟨hparse, hhead⟩ | ⟨fault, hparse, hhead⟩
    · exact .inr ⟨options, hparse, hsaid, not_refused_iff.2 ⟨hfine, hhead⟩⟩
    · exact .inl ⟨fault, hparse, .head hfine hhead⟩
  · refine .inl ⟨fault, ?_, .token hfirst⟩
    rw [parse_eq h, htokens]
    rfl

theorem parse_eq_error_iff (h : Written sigil head tokens text) :
    parse text = .error fault ↔ Refused sigil head tokens text fault := by
  rcases parse_cases h with ⟨found, hparse, hfound⟩ | ⟨options, hparse, -, hno⟩
  · rw [hparse, Except.error.injEq]
    exact ⟨fun heq => heq ▸ hfound, hfound.unique⟩
  · rw [hparse]
    exact iff_of_false nofun (hno fault)

theorem parse_eq_ok_iff (h : Written sigil head tokens text) :
    parse text = .ok (some d) ↔ (∀ fault, ¬ Refused sigil head tokens text fault) ∧
      d.head = sigil.head head ∧ d.options.SaidBy tokens := by
  rcases parse_cases h with ⟨fault, hparse, hfault⟩ | ⟨options, hparse, hsaid, hno⟩
  · rw [hparse]
    exact iff_of_false nofun fun hd => hd.1 fault hfault
  · rw [hparse, Except.ok.injEq, Option.some.injEq]
    constructor
    · rintro rfl
      exact ⟨hno, rfl, hsaid⟩
    · rintro ⟨-, hhead, hoptions⟩
      cases d
      rw [Directive.mk.injEq]
      exact ⟨hhead.symm, hsaid.unique hoptions⟩

theorem parse_eq_none_iff_not_opens :
    parse text = .ok none ↔ ∀ sigil : Sigil, ¬ sigil.Opens text := by
  constructor
  · intro hnone sigil hopens
    obtain ⟨head, tokens, hwritten⟩ := exists_written hopens
    rcases parse_cases hwritten with ⟨fault, hparse, -⟩ | ⟨options, hparse, -⟩ <;>
      cases hnone.symm.trans hparse
  · intro hno
    unfold parse
    split
    · next rest htext => exact absurd (Sigil.opens_iff.2 ⟨rest, htext⟩) (hno .path)
    · next rest htext => exact absurd (Sigil.opens_iff.2 ⟨rest, htext⟩) (hno .binding)
    · rfl

/-- The text of a directive has parts. -/
theorem exists_written_of_parse (h : parse text = .ok (some d)) :
    ∃ sigil head tokens, Written sigil head tokens text := by
  have hopens : ∃ sigil : Sigil, sigil.Opens text := by
    by_contra hno
    cases h.symm.trans (parse_eq_none_iff_not_opens.2 (not_exists.1 hno))
  obtain ⟨sigil, hopens⟩ := hopens
  exact ⟨sigil, exists_written hopens⟩

/-- A directive is the same one when tokens for different options change places. -/
theorem parse_permuted {other : String} (h : Written sigil head tokens text)
    (hother : Written sigil head others other)
    (htokens : ∀ topic?, tokensFor topic? tokens = tokensFor topic? others)
    (hparse : parse text = .ok (some d)) : parse other = .ok (some d) := by
  obtain ⟨hno, hhead, hsaid⟩ := (parse_eq_ok_iff h).1 hparse
  obtain ⟨hfine, hheads⟩ := not_refused_iff.1 hno
  refine (parse_eq_ok_iff hother).2 ⟨not_refused_iff.2 ⟨?_, ?_⟩, hhead, hsaid.congr htokens⟩
  · -- a faulty token is not empty, so it is for some option and stands in both texts
    intro token hmem fault hfault
    have hempty : token ≠ "" := by
      rintro rfl
      exact not_fault_empty hfault
    have htoken : token ∈ tokensFor (Token.topic? token) others :=
      List.mem_filter.2 ⟨hmem, by simp [hempty]⟩
    rw [← htokens] at htoken
    exact hfine token (List.mem_filter.1 htoken).1 fault hfault
  · intro fault hfault
    cases hfault with
    | path hblank => exact hheads _ (.path hblank)
    | binding => exact hheads _ .binding

/-- The directive of a text is what its parts say. A text that starts with no mark is none; any
other is a mark, a head and tokens. It is refused for its first faulty token, and for its head if no
token is faulty; otherwise its head is the written one and its options are as the tokens say, in
whatever order the tokens for different options stand. -/
theorem outcome_parse (text : String) :
    (parse text = .ok none ↔ ∀ sigil : Sigil, ¬ sigil.Opens text) ∧
    (∀ sigil : Sigil, sigil.Opens text → ∃ head tokens, Written sigil head tokens text) ∧
    ∀ sigil head tokens, Written sigil head tokens text →
      (∀ fault, parse text = .error fault ↔ Refused sigil head tokens text fault) ∧
      (∀ d, parse text = .ok (some d) ↔ (∀ fault, ¬ Refused sigil head tokens text fault) ∧
        d.head = sigil.head head ∧ d.options.SaidBy tokens) ∧
      ∀ others text', Written sigil head others text' →
        (∀ topic?, tokensFor topic? others = tokensFor topic? tokens) →
        ∀ d, parse text' = .ok (some d) ↔ parse text = .ok (some d) := by
  refine ⟨parse_eq_none_iff_not_opens, fun sigil => exists_written, ?_⟩
  intro sigil head tokens hwritten
  refine ⟨fun fault => parse_eq_error_iff hwritten, fun d => parse_eq_ok_iff hwritten, ?_⟩
  intro others text' hother htokens d
  exact ⟨parse_permuted hother hwritten htokens,
    parse_permuted hwritten hother fun topic? => (htokens topic?).symm⟩

/-- Tokens of all kinds in two orders, and a text whose second token decides its error. -/
theorem outcome_parse_mayors :
    Written .path " dbo:mayor "
        ["lang:de", "", "count", "x:y", "var:??mayor", "list", "min", "lang"]
        "$ dbo:mayor $lang:de$$count$x:y$var:??mayor$list$min$lang" ∧
      Options.SaidBy ["lang:de", "", "count", "x:y", "var:??mayor", "list", "min", "lang"]
        { chosenVariable? := some "?mayor", aggregate? := some .count, list := true,
          language? := some none, unknown := ["x:y"] } ∧
      parse "$ dbo:mayor $list$x:y$count$min$lang:de$lang$var:??mayor" =
        parse "$ dbo:mayor $lang:de$$count$x:y$var:??mayor$list$min$lang" ∧
      parse "?$list$accept:date$var:?" =
        .error (.invalidOption "accept:date" ⟨"`string`, `number` or `boolean`", "date"⟩) := by
  have hwritten : Written .path " dbo:mayor "
      ["lang:de", "", "count", "x:y", "var:??mayor", "list", "min", "lang"]
      "$ dbo:mayor $lang:de$$count$x:y$var:??mayor$list$min$lang" := ⟨by decide, by decide⟩
  have hother : Written .path " dbo:mayor "
      ["list", "x:y", "count", "min", "lang:de", "lang", "var:??mayor"]
      "$ dbo:mayor $list$x:y$count$min$lang:de$lang$var:??mayor" := ⟨by decide, by decide⟩
  have hfaulty : Written .binding "" ["list", "accept:date", "var:?"] "?$list$accept:date$var:?" :=
    ⟨by decide, by decide⟩
  have hparse : parse "$ dbo:mayor $lang:de$$count$x:y$var:??mayor$list$min$lang" =
      .ok (some {
        head := .path "dbo:mayor"
        options := {
          chosenVariable? := some "?mayor"
          aggregate? := some .count
          list := true
          language? := some none
          unknown := ["x:y"] } }) := by decide
  have hfine : ∀ fault, ¬ Token.Fault "list" fault := fun fault h =>
    nomatch (Token.read_eq_error_iff.2 h)
  obtain ⟨-, -, hparts⟩ := outcome_parse "$ dbo:mayor $lang:de$$count$x:y$var:??mayor$list$min$lang"
  obtain ⟨-, hok, hpermuted⟩ := hparts .path _ _ hwritten
  refine ⟨hwritten, ((hok _).1 hparse).2.2, ?_, ?_⟩
  · rw [hparse]
    refine (hpermuted _ _ hother ?_ _).2 hparse
    rintro (_ | ⟨flag⟩ | _)
    case some.flag => cases flag <;> decide
    all_goals decide
  · obtain ⟨-, -, hparts⟩ := outcome_parse "?$list$accept:date$var:?"
    refine ((hparts .binding _ _ hfaulty).1 _).2 (.token (.there hfine (.here ?_)))
    exact .accept rfl rfl (by rintro ⟨⟩ <;> decide)

end Directive

end QueryByExample
