import Mathlib.Data.List.Forall2
import Mathlib.Data.List.Perm.Subperm
import QueryByExample.Fields
/-!
# Looking up fields

Laws of `Fields.find?`. With distinct names, a list of fields is a finite map that remembers an
order: what is found under a name is what stands there, and two lists of the same length agree as
maps as soon as every field of the first is found among the second.
-/

namespace QueryByExample.Fields

variable {α β : Type} {name : String}

theorem mem_of_find? {value : α} {fields : List (String × α)} (h : find? name fields = some value) :
    (name, value) ∈ fields := by
  induction fields with
  | nil => simp [find?] at h
  | cons field rest ih =>
    obtain ⟨key, old⟩ := field
    by_cases hk : key = name
    · subst hk
      simp only [find?, if_true, Option.some.injEq] at h
      subst h
      exact List.mem_cons_self
    · simp only [find?, hk, if_false] at h
      exact List.mem_cons_of_mem _ (ih h)

theorem mem_names_of_find? {value : α} {fields : List (String × α)}
    (h : find? name fields = some value) : name ∈ names fields :=
  List.mem_map_of_mem (mem_of_find? h)

theorem find?_eq_none_iff {fields : List (String × α)} :
    find? name fields = none ↔ name ∉ names fields := by
  induction fields with
  | nil => simp [find?, names]
  | cons field rest ih =>
    obtain ⟨key, old⟩ := field
    by_cases hk : key = name
    · subst hk
      simp [find?, names]
    · simp only [names] at ih
      simp [find?, names, hk, ih, Ne.symm hk]

theorem exists_find?_of_mem_names {fields : List (String × α)} (h : name ∈ names fields) :
    ∃ value, find? name fields = some value := by
  cases hf : find? name fields with
  | some value => exact ⟨value, rfl⟩
  | none => exact absurd h (find?_eq_none_iff.1 hf)

theorem mem_names_iff {fields : List (String × α)} :
    name ∈ names fields ↔ ∃ value, find? name fields = some value :=
  ⟨exists_find?_of_mem_names, fun ⟨_, h⟩ => mem_names_of_find? h⟩

theorem distinct_cons {value : α} {fields : List (String × α)} :
    Distinct ((name, value) :: fields) ↔ name ∉ names fields ∧ Distinct fields := by
  simp [Distinct, names]

/-- With distinct names, a field is found where it stands. -/
theorem Distinct.find?_of_mem {value : α} {fields : List (String × α)} (h : Distinct fields)
    (hm : (name, value) ∈ fields) : find? name fields = some value := by
  induction fields with
  | nil => simp at hm
  | cons field rest ih =>
    obtain ⟨key, old⟩ := field
    obtain ⟨hkey, hrest⟩ := distinct_cons.1 h
    rcases List.mem_cons.1 hm with heq | hm
    · obtain ⟨rfl, rfl⟩ := Prod.mk.inj heq
      simp [find?]
    · have hne : key ≠ name := fun hk => hkey (hk ▸ List.mem_map_of_mem hm)
      simp only [find?, hne, if_false]
      exact ih hrest hm

/-- Changing the value of a field to itself changes nothing. -/
theorem alter_eq_self {value : α} {change : Option α → α} {fields : List (String × α)}
    (h : find? name fields = some value) (hc : change (some value) = value) :
    alter name change fields = fields := by
  induction fields with
  | nil => simp [find?] at h
  | cons field rest ih =>
    obtain ⟨key, old⟩ := field
    by_cases hk : key = name
    · simp only [find?, hk, if_true, Option.some.injEq] at h
      simp [alter, hk, h, hc]
    · simp only [find?, hk, if_false] at h
      simp [alter, hk, ih h]

/-- A new name goes to the end. -/
theorem put_of_not_mem {value : α} {fields : List (String × α)} (h : name ∉ names fields) :
    put name value fields = fields ++ [(name, value)] := by
  induction fields with
  | nil => rfl
  | cons field rest ih =>
    obtain ⟨key, old⟩ := field
    simp only [names, List.map_cons, List.mem_cons, not_or] at h
    have hrest : put name value rest = rest ++ [(name, value)] := ih h.2
    simp only [put] at hrest
    simp [put, alter, Ne.symm h.1, hrest]

/-- Fields with distinct names are what results from setting them in turn. -/
theorem ofList_eq_self {fields : List (String × α)} (h : Distinct fields) :
    ofList fields = fields := by
  suffices hfold : ∀ made : List (String × α), Distinct (made ++ fields) →
      fields.foldl (fun made field => put field.1 field.2 made) made = made ++ fields from
    hfold [] h
  induction fields with
  | nil => simp
  | cons field rest ih =>
    intro made hmade
    obtain ⟨key, value⟩ := field
    have hnew : key ∉ names made := by
      intro hmem
      simp only [Distinct, names, List.map_append, List.map_cons] at hmade
      exact (List.nodup_append.1 hmade).2.2 key hmem key List.mem_cons_self rfl
    rw [List.foldl_cons, put_of_not_mem hnew]
    have hsplit : made ++ (key, value) :: rest = (made ++ [(key, value)]) ++ rest := by simp
    rw [hsplit] at hmade ⊢
    exact ih (distinct_cons.1 h).2 _ hmade

theorem mem_put_cases {value : α} {fields : List (String × α)} {field : String × α}
    (h : field ∈ put name value fields) : field ∈ fields ∨ field.2 = value := by
  induction fields with
  | nil => exact Or.inr (List.mem_singleton.1 h ▸ rfl)
  | cons first rest ih =>
    obtain ⟨key, old⟩ := first
    rw [put, alter] at h
    split at h
    · rcases List.mem_cons.1 h with rfl | h
      · exact Or.inr rfl
      · exact Or.inl (List.mem_cons_of_mem _ h)
    · rcases List.mem_cons.1 h with rfl | h
      · exact Or.inl List.mem_cons_self
      · exact (ih h).imp_left (List.mem_cons_of_mem _)

/-- What holds of all values still does after repeated names were settled. -/
theorem forall_mem_ofList {P : α → Prop} {fields : List (String × α)}
    (h : ∀ field ∈ fields, P field.2) : ∀ field ∈ ofList fields, P field.2 := by
  suffices hfold : ∀ made : List (String × α), (∀ field ∈ made, P field.2) →
      ∀ field ∈ fields.foldl (fun made field => put field.1 field.2 made) made, P field.2 from
    hfold [] (by simp)
  induction fields with
  | nil => exact fun _ hmade => hmade
  | cons first rest ih =>
    intro made hmade
    refine ih (fun field hmem => h field (List.mem_cons_of_mem _ hmem)) _ fun field hmem => ?_
    rcases mem_put_cases hmem with hmem | heq
    · exact hmade field hmem
    · exact heq ▸ h first List.mem_cons_self

theorem find?_append {fields others : List (String × α)} :
    find? name (fields ++ others) = (find? name fields).or (find? name others) := by
  induction fields with
  | nil => rfl
  | cons field rest ih =>
    obtain ⟨key, value⟩ := field
    by_cases hkey : key = name
    · simp [find?, hkey]
    · simp [find?, hkey, ih]

/-- With distinct names, the order of fields does not matter for what is found. -/
theorem find?_perm {fields others : List (String × α)} (distinct : Distinct others)
    (h : fields.Perm others) : find? name fields = find? name others := by
  cases hfind : find? name fields with
  | none =>
    rw [find?_eq_none_iff] at hfind
    symm
    rw [find?_eq_none_iff]
    intro hmem
    exact hfind ((h.map Prod.fst).mem_iff.2 hmem)
  | some value => exact (distinct.find?_of_mem (h.mem_iff.1 (mem_of_find? hfind))).symm

/-- With distinct names, a field that is found may be taken to the end. -/
theorem perm_of_find? {value : α} {fields : List (String × α)} (distinct : Distinct fields)
    (h : find? name fields = some value) :
    fields.Perm (fields.filter (fun field => field.1 != name) ++ [(name, value)]) := by
  induction fields with
  | nil => cases h
  | cons field rest ih =>
    obtain ⟨key, first⟩ := field
    obtain ⟨hkey, hrest⟩ := distinct_cons.1 distinct
    rw [find?] at h
    by_cases hname : key = name
    · subst hname
      rw [if_pos rfl] at h
      obtain rfl := Option.some.inj h
      have hfilter : rest.filter (fun field => field.1 != key) = rest := by
        rw [List.filter_eq_self]
        intro field hfield
        have hne : field.1 ≠ key := fun heq => hkey (heq ▸ List.mem_map_of_mem hfield)
        exact bne_iff_ne.2 hne
      simpa [hfilter] using (List.perm_append_singleton (key, first) rest).symm
    · rw [if_neg hname] at h
      simpa [hname] using ih hrest h

/-! ### Agreement

Two finite maps agree if under every name both have values that are related, or both have none. The
positions of a list are names in the same sense. -/

section Agreement

variable {γ : Type} {R : α → β → Prop}

theorem rel_swap {S : β → α → Prop} {a? : Option α} {b? : Option β} (h : Option.Rel R a? b?)
    (hs : ∀ a b, a? = some a → b? = some b → R a b → S b a) : Option.Rel S b? a? := by
  cases h with
  | none => exact .none
  | some hab => exact .some (hs _ _ rfl rfl hab)

theorem rel_imp {S : α → β → Prop} {a? : Option α} {b? : Option β} (h : Option.Rel R a? b?)
    (hi : ∀ a b, a? = some a → b? = some b → R a b → S a b) : Option.Rel S a? b? := by
  cases h with
  | none => exact .none
  | some hab => exact .some (hi _ _ rfl rfl hab)

theorem rel_trans {S : β → γ → Prop} {T : α → γ → Prop} {a? : Option α} {b? : Option β}
    {c? : Option γ} (hab : Option.Rel R a? b?) (hbc : Option.Rel S b? c?)
    (ht : ∀ a b c, a? = some a → b? = some b → c? = some c → R a b → S b c → T a c) :
    Option.Rel T a? c? := by
  cases hab with
  | none =>
    cases hbc
    exact .none
  | some hab =>
    cases hbc with
    | some hbc => exact .some (ht _ _ _ rfl rfl rfl hab hbc)

/-- A relation between optional values carries over to other ones if it does for their values. -/
theorem rel_congr {δ : Type} {P : α → γ → Prop} {Q : β → δ → Prop} {S : α → β → Prop}
    {T : γ → δ → Prop} {a? : Option α} {b? : Option β} {c? : Option γ} {d? : Option δ}
    (hac : Option.Rel P a? c?) (hbd : Option.Rel Q b? d?)
    (h : ∀ a c b d, a? = some a → c? = some c → b? = some b → d? = some d → P a c → Q b d →
      (S a b ↔ T c d)) : Option.Rel S a? b? ↔ Option.Rel T c? d? := by
  cases hac with
  | none =>
    cases hbd with
    | none => exact iff_of_true .none .none
    | some => exact iff_of_false nofun nofun
  | some hac =>
    cases hbd with
    | none => exact iff_of_false nofun nofun
    | some hbd =>
      rw [Option.rel_some_some, Option.rel_some_some]
      exact h _ _ _ _ rfl rfl rfl rfl hac hbd

theorem rel_self {S : α → α → Prop} {a? : Option α} (h : ∀ a, a? = some a → S a a) :
    Option.Rel S a? a? := by
  cases a? with
  | none => exact .none
  | some a => exact .some (h a rfl)

theorem exists_of_rel_some {a? : Option α} {b : β} (h : Option.Rel R a? (some b)) :
    ∃ a, a? = some a ∧ R a b := by
  cases h with
  | some hab => exact ⟨_, rfl, hab⟩

/-- Lists of one length agree at a position if the items there are related. -/
theorem rel_getElem?_of_length_eq {as : List α} {bs : List β} {i : Nat}
    (length : as.length = bs.length) (items : ∀ a b, as[i]? = some a → bs[i]? = some b → R a b) :
    Option.Rel R as[i]? bs[i]? := by
  by_cases hi : i < as.length
  · have hi' : i < bs.length := length ▸ hi
    have hab := items _ _ (List.getElem?_eq_getElem hi) (List.getElem?_eq_getElem hi')
    rw [List.getElem?_eq_getElem hi, List.getElem?_eq_getElem hi']
    exact .some hab
  · have hi' : ¬ i < bs.length := length ▸ hi
    rw [List.getElem?_eq_none (Nat.not_lt.1 hi), List.getElem?_eq_none (Nat.not_lt.1 hi')]
    exact .none

/-- Lists are related item by item iff they agree at every position. -/
theorem forall₂_iff_rel {as : List α} {bs : List β} :
    List.Forall₂ R as bs ↔ ∀ i : Nat, Option.Rel R as[i]? bs[i]? := by
  constructor
  · intro h i
    induction h generalizing i with
    | nil => exact .none
    | cons hab _ ih =>
      cases i with
      | zero => exact .some hab
      | succ i => simpa using ih i
  · intro h
    induction as generalizing bs with
    | nil =>
      cases bs with
      | nil => exact .nil
      | cons b bs => cases h 0
    | cons a as ih =>
      cases bs with
      | nil => cases h 0
      | cons b bs =>
        have hhead : Option.Rel R (some a) (some b) := h 0
        cases hhead with
        | some hab => exact .cons hab (ih fun i => by simpa using h (i + 1))

variable {as : List (String × α)} {bs : List (String × β)}

/-- Names found in a list that is no longer are all names of that list. -/
private theorem mem_names_of_length_eq (ha : Distinct as) (hlen : as.length = bs.length)
    (hsub : names as ⊆ names bs) (h : name ∈ names bs) : name ∈ names as := by
  have hle : (names bs).length ≤ (names as).length := by simp [names, hlen]
  exact ((List.subperm_of_subset ha hsub).perm_of_length_le hle).mem_iff.2 h

/-- Lists that agree under a name both have it or both lack it. -/
theorem mem_names_iff_of_rel (h : Option.Rel R (find? name as) (find? name bs)) :
    name ∈ names as ↔ name ∈ names bs := by
  rw [mem_names_iff, mem_names_iff]
  generalize find? name as = a? at h
  generalize find? name bs = b? at h
  cases h with
  | some hab => simp
  | none => simp

/-- Fields with the same names in any order agree under a name if the values there are related. -/
theorem rel_find?_of_names_perm (perm : (names as).Perm (names bs))
    (values : ∀ a b, find? name as = some a → find? name bs = some b → R a b) :
    Option.Rel R (find? name as) (find? name bs) := by
  cases ha : find? name as with
  | none =>
    have hname : name ∉ names bs := fun hmem => find?_eq_none_iff.1 ha (perm.mem_iff.2 hmem)
    rw [find?_eq_none_iff.2 hname]
    exact .none
  | some a =>
    obtain ⟨b, hb⟩ := exists_find?_of_mem_names (perm.mem_iff.1 (mem_names_of_find? ha))
    rw [hb]
    exact .some (values a b ha hb)

/-- Two lists of fields agree as maps iff they have the same length and every field of the first is
found among the second. -/
theorem agree_iff (ha : Distinct as) (hb : Distinct bs) :
    (as.length = bs.length ∧ ∀ field ∈ as, ∃ b, find? field.1 bs = some b ∧ R field.2 b) ↔
      ∀ name, Option.Rel R (find? name as) (find? name bs) := by
  constructor
  · rintro ⟨hlen, hall⟩ name
    have hsub : names as ⊆ names bs := by
      intro key hkey
      obtain ⟨field, hfield, rfl⟩ := List.mem_map.1 hkey
      obtain ⟨b, hb, -⟩ := hall field hfield
      exact mem_names_of_find? hb
    cases hfa : find? name as with
    | some a =>
      obtain ⟨b, hfb, hab⟩ := hall _ (mem_of_find? hfa)
      rw [hfb]
      exact .some hab
    | none =>
      have hnot : name ∉ names bs := fun hmem =>
        find?_eq_none_iff.1 hfa (mem_names_of_length_eq ha hlen hsub hmem)
      rw [find?_eq_none_iff.2 hnot]
      exact .none
  · intro hrel
    refine ⟨?_, fun field hfield => ?_⟩
    · have hperm : (names as).Perm (names bs) :=
        (List.perm_ext_iff_of_nodup ha hb).2 fun name => mem_names_iff_of_rel (hrel name)
      simpa [names] using hperm.length_eq
    · have h := hrel field.1
      rw [ha.find?_of_mem hfield] at h
      generalize find? field.1 bs = b? at h
      cases h with
      | some hab => exact ⟨_, rfl, hab⟩

/-- Fields that are related one by one, with the same names, are related under every name. -/
theorem rel_find?_of_forall₂ {S : String → α → β → Prop}
    (h : List.Forall₂ (fun a b => a.1 = b.1 ∧ S a.1 a.2 b.2) as bs) (name : String) :
    Option.Rel (S name) (find? name as) (find? name bs) := by
  induction h with
  | nil => exact .none
  | @cons a b _ _ hab _ ih =>
    obtain ⟨key, value⟩ := a
    obtain ⟨key', value'⟩ := b
    obtain ⟨rfl, hab⟩ : key = key' ∧ S key value value' := hab
    by_cases hk : key = name
    · subst hk
      simpa [find?] using hab
    · simpa [find?, hk] using ih

theorem names_eq_of_forall₂ (h : List.Forall₂ (fun a b => a.1 = b.1) as bs) :
    names as = names bs := by
  induction h with
  | nil => rfl
  | cons hab _ ih =>
    simp only [names] at ih
    simp [names, hab, ih]

/-- Fields with the same distinct names that are related under every name are related one by one. -/
theorem forall₂_of_rel_find? {S : String → α → β → Prop} (ha : Distinct as)
    (hnames : names as = names bs)
    (h : ∀ name, Option.Rel (S name) (find? name as) (find? name bs)) :
    List.Forall₂ (fun a b => a.1 = b.1 ∧ S a.1 a.2 b.2) as bs := by
  have hb : Distinct bs := by rwa [Distinct, ← hnames]
  have hlength : as.length = bs.length := by simpa [names] using congrArg List.length hnames
  refine List.forall₂_iff_get.2 ⟨hlength, fun i hi hi' => ?_⟩
  have hname : (as.get ⟨i, hi⟩).1 = (bs.get ⟨i, hi'⟩).1 := by
    have hposition := congrArg (·[i]?) hnames
    simpa [names, hi, hi'] using hposition
  have hrel := h (as.get ⟨i, hi⟩).1
  rw [ha.find?_of_mem (List.get_mem as ⟨i, hi⟩), hname,
    hb.find?_of_mem (List.get_mem bs ⟨i, hi'⟩)] at hrel
  cases hrel with
  | some hab => exact ⟨hname, hname ▸ hab⟩

end Agreement

end QueryByExample.Fields
