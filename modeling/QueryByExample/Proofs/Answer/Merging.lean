import Mathlib.Data.List.Induction
import QueryByExample.Answer.Merge
import QueryByExample.Proofs.Answer.Conformance
import QueryByExample.Proofs.Position
/-!
# What merging does

Merging is described here by what it does to the items of a field. An item joins the first item with
its identity, which takes up its fields, or goes to the end; an item that is equal to one that is
there is not added. Every other module argues about the steps that are listed here.

## Main definitions

- `Instance.takeUp`: an object with the fields of another merged into it.
- `Instance.join`, `Instance.enlist`: an item added to items, without and with a check for an equal
  one.
- `Instance.Joined`, `Instance.Enlisted`: everything that such a step can do.

## Main statements

- `Instance.find?_mergeFields_of_some`: merged fields, key by key.
- `Instance.items_mergeValue`: a field takes a value by enlisting its item.
- `mergeEntities_toInstance`: merging objects is joining them in turn.
-/

namespace QueryByExample

namespace Instance

variable {base additions : List (String × Instance)} {name : String} {v w x y : Instance}
  {items : List Instance}

/-! ### Fields -/

theorem find?_mergeFields_of_none (h : Fields.find? name additions = none) :
    Fields.find? name (mergeFields base additions) = Fields.find? name base := by
  induction additions generalizing base with
  | nil => rfl
  | cons field rest ih =>
    obtain ⟨key, addition⟩ := field
    by_cases hk : key = name
    · simp [Fields.find?, hk] at h
    · simp only [Fields.find?, hk, if_false] at h
      rw [mergeFields, ih h, Fields.find?_alter, if_neg hk]

/-- A key of the additions holds the addition, merged into what was there. -/
theorem find?_mergeFields_of_some (hadditions : Fields.Distinct additions)
    (h : Fields.find? name additions = some w) :
    Fields.find? name (mergeFields base additions) =
      some ((Fields.find? name base).elim w fun v => mergeValue v w) := by
  induction additions generalizing base with
  | nil => cases h
  | cons field rest ih =>
    obtain ⟨key, addition⟩ := field
    obtain ⟨hkey, hrest⟩ := Fields.distinct_cons.1 hadditions
    by_cases hk : key = name
    · subst hk
      simp only [Fields.find?, if_true, Option.some.injEq] at h
      subst h
      rw [mergeFields, find?_mergeFields_of_none (Fields.find?_eq_none_iff.2 hkey),
        Fields.find?_alter, if_pos rfl]
      cases Fields.find? key base <;> rfl
    · simp only [Fields.find?, hk, if_false] at h
      rw [mergeFields, ih hrest h, Fields.find?_alter, if_neg hk]

/-- Merged fields, key by key. -/
theorem find?_mergeFields (hadditions : Fields.Distinct additions) :
    Fields.find? name (mergeFields base additions) =
      (Fields.find? name additions).elim (Fields.find? name base) fun w =>
        some ((Fields.find? name base).elim w fun v => mergeValue v w) := by
  cases hw : Fields.find? name additions with
  | none => exact find?_mergeFields_of_none hw
  | some w => exact find?_mergeFields_of_some hadditions hw

/-- Which keys merged fields have, and in which order, depends on the keys of both sides alone. -/
theorem names_mergeFields_congr {base' additions' : List (String × Instance)}
    (hbase : Fields.names base = Fields.names base')
    (hadditions : Fields.names additions = Fields.names additions') :
    Fields.names (mergeFields base additions) = Fields.names (mergeFields base' additions') := by
  induction additions generalizing base base' additions' with
  | nil =>
    obtain rfl : additions' = [] := by simpa [Fields.names] using hadditions.symm
    exact hbase
  | cons field rest ih =>
    cases additions' with
    | nil => simp [Fields.names] at hadditions
    | cons field' rest' =>
      obtain ⟨key, addition⟩ := field
      obtain ⟨key', addition'⟩ := field'
      obtain ⟨rfl, hrest⟩ : key = key' ∧ Fields.names rest = Fields.names rest' := by
        simpa [Fields.names] using hadditions
      rw [mergeFields, mergeFields]
      exact ih (by rw [Fields.names_alter, Fields.names_alter, hbase]) hrest

/-- A field of merged fields is an old field, a new one, or an old one that took a value. -/
theorem find?_mergeFields_cases (hadditions : Fields.Distinct additions)
    (h : Fields.find? name (mergeFields base additions) = some x) :
    Fields.find? name base = some x ∧ Fields.find? name additions = none ∨
      Fields.find? name base = none ∧ Fields.find? name additions = some x ∨
      ∃ v w, Fields.find? name base = some v ∧ Fields.find? name additions = some w ∧
        x = mergeValue v w := by
  cases hw : Fields.find? name additions with
  | none => exact Or.inl ⟨(find?_mergeFields_of_none hw).symm.trans h, rfl⟩
  | some w =>
    rw [find?_mergeFields_of_some hadditions hw] at h
    obtain rfl := Option.some.inj h
    cases hv : Fields.find? name base with
    | none => exact Or.inr (Or.inl ⟨rfl, rfl⟩)
    | some v => exact Or.inr (Or.inr ⟨v, w, rfl, rfl, rfl⟩)

theorem distinct_mergeFields (hbase : Fields.Distinct base) :
    Fields.Distinct (mergeFields base additions) := by
  induction additions generalizing base with
  | nil => exact hbase
  | cons field rest ih => exact ih (hbase.alter _ _)

/-- Merging changes nothing iff every addition finds its key and changes nothing there. -/
theorem mergeFields_eq_self_iff (hadditions : Fields.Distinct additions) :
    mergeFields base additions = base ↔
      ∀ key w, Fields.find? key additions = some w →
        ∃ v, Fields.find? key base = some v ∧ mergeValue v w = v := by
  constructor
  · intro h key w hw
    have hfound : Fields.find? key (mergeFields base additions) =
        some ((Fields.find? key base).elim w fun v => mergeValue v w) :=
      find?_mergeFields_of_some hadditions hw
    rw [h] at hfound
    cases hv : Fields.find? key base with
    | none => rw [hv] at hfound; cases hfound
    | some v =>
      rw [hv] at hfound
      exact ⟨v, rfl, (Option.some.inj hfound).symm⟩
  · intro h
    induction additions with
    | nil => rfl
    | cons field rest ih =>
      obtain ⟨key, addition⟩ := field
      obtain ⟨hkey, hrest⟩ := Fields.distinct_cons.1 hadditions
      obtain ⟨v, hv, hmerge⟩ := h key addition (by simp [Fields.find?])
      rw [mergeFields, Fields.alter_eq_self hv hmerge]
      refine ih hrest fun key' w hw => h key' w ?_
      have hne : key ≠ key' := fun heq => hkey (heq ▸ Fields.mem_names_of_find? hw)
      simpa [Fields.find?, hne] using hw

/-! ### Items -/

/-- The object with the fields of another merged into it. -/
def takeUp (x y : Instance) : Instance := x.mapObject fun fields => mergeFields fields y.fields

@[simp] theorem takeUp_object {a? b? : Option String} :
    (object a? base).takeUp (.object b? additions) = .object a? (mergeFields base additions) := rfl

/-- Add an item to the first one with its identity, else at the end. -/
def join (y : Instance) (items : List Instance) : List Instance :=
  match items.findIdx? (·.sameEntity y) with
  | some index => items.modify index (·.takeUp y)
  | none => items ++ [y]

/-- Add an item to the items of a field. -/
def enlist (y : Instance) (items : List Instance) : List Instance :=
  addItem (fun fields => mergeFields fields y.fields) y items

/-- What joining can do. -/
inductive Joined (y : Instance) (items : List Instance) : List Instance → Prop where
  | merged {index : Nat} {x : Instance} (first : items.findIdx? (·.sameEntity y) = some index)
      (found : items[index]? = some x) (same : x.sameEntity y = true) :
      Joined y items (items.modify index (·.takeUp y))
  | added (new : items.findIdx? (·.sameEntity y) = none) : Joined y items (items ++ [y])

/-- What enlisting can do. -/
inductive Enlisted (y : Instance) (items : List Instance) : List Instance → Prop where
  | joined {merged : List Instance} (h : Joined y items merged)
      (new : items.findIdx? (·.sameEntity y) = none → ∀ x ∈ items, x.same y = false) :
      Enlisted y items merged
  | kept {x : Instance} (new : items.findIdx? (·.sameEntity y) = none) (found : x ∈ items)
      (same : x.same y = true) : Enlisted y items items

theorem joined (y : Instance) (items : List Instance) : Joined y items (join y items) := by
  unfold join
  split
  · next index first =>
    obtain ⟨x, found, same⟩ := Position.exists_of_findIdx? first
    exact .merged first found same
  · next new => exact .added new

theorem enlist_eq_join
    (h : items.findIdx? (·.sameEntity y) = none → ∀ x ∈ items, x.same y = false) :
    enlist y items = join y items := by
  unfold enlist join addItem
  cases hfind : items.findIdx? (·.sameEntity y) with
  | some index => rfl
  | none =>
    have hany : ¬ items.any (·.same y) = true := by
      rw [List.any_eq_true]
      rintro ⟨x, hx, hsame⟩
      rw [h hfind x hx] at hsame
      cases hsame
    exact if_neg hany

theorem enlist_eq_self (new : items.findIdx? (·.sameEntity y) = none) (found : x ∈ items)
    (same : x.same y = true) : enlist y items = items := by
  unfold enlist addItem
  rw [new]
  exact if_pos (List.any_eq_true.2 ⟨x, found, same⟩)

theorem enlisted (y : Instance) (items : List Instance) : Enlisted y items (enlist y items) := by
  by_cases h : items.findIdx? (·.sameEntity y) = none ∧ ∃ x ∈ items, x.same y = true
  · obtain ⟨new, x, found, same⟩ := h
    rw [enlist_eq_self new found same]
    exact .kept new found same
  · have hnew : items.findIdx? (·.sameEntity y) = none → ∀ x ∈ items, x.same y = false :=
      fun new x hx => Bool.eq_false_iff.2 fun hsame => h ⟨new, x, hx, hsame⟩
    rw [enlist_eq_join hnew]
    exact .joined (joined y items) hnew

/-- An item after a step is an old one, the new one, or an old one that took up the new one. -/
theorem Joined.mem_cases {next : List Instance} (h : Joined y items next) (hx : x ∈ next) :
    x ∈ items ∨ x = y ∨ ∃ z ∈ items, z.sameEntity y = true ∧ x = z.takeUp y := by
  cases h with
  | merged first found same =>
    rcases Position.mem_or_of_mem_modify hx with hx | ⟨z, hz, rfl⟩
    · exact Or.inl hx
    · obtain rfl := Option.some.inj (found.symm.trans hz)
      exact Or.inr (Or.inr ⟨_, List.mem_of_getElem? hz, same, rfl⟩)
  | added new =>
    rcases List.mem_append.1 hx with hx | hx
    · exact Or.inl hx
    · exact Or.inr (Or.inl (List.mem_singleton.1 hx))

theorem Enlisted.mem_cases {next : List Instance} (h : Enlisted y items next) (hx : x ∈ next) :
    x ∈ items ∨ x = y ∨ ∃ z ∈ items, z.sameEntity y = true ∧ x = z.takeUp y := by
  cases h with
  | joined h => exact h.mem_cases hx
  | kept => exact Or.inl hx

theorem Joined.length_le {next : List Instance} (h : Joined y items next) :
    items.length ≤ next.length := by
  cases h <;> simp

theorem Enlisted.length_le {next : List Instance} (h : Enlisted y items next) :
    items.length ≤ next.length := by
  cases h with
  | joined h => exact h.length_le
  | kept => exact le_rfl

/-! ### Values -/

/-- Merging the value of a field is absorbing its item. -/
theorem mergeValue_listed {flag : Bool} (hy : y.isList = false) :
    mergeValue v (listed flag y) = absorb (fun fields => mergeFields fields y.fields) v y := by
  cases flag with
  | false =>
    cases y with
    | list => cases hy
    | _ => rfl
  | true =>
    cases y with
    | list => cases hy
    | _ => rfl

theorem mergeValue_list {flag : Bool} (hy : y.isList = false) :
    mergeValue (.list items) (listed flag y) = .list (enlist y items) :=
  mergeValue_listed hy

/-- A single value is kept, takes the new one up, or makes room for it in a list. -/
theorem mergeValue_single {flag : Bool} (hv : v.isList = false) (hy : y.isList = false) :
    mergeValue v (listed flag y) =
      if v.same y then v else if v.sameEntity y then v.takeUp y else .list [v, y] := by
  rw [mergeValue_listed hy]
  cases v with
  | list => cases hv
  | _ => rfl

/-- A value that is there already is not added. -/
theorem mergeValue_eq_self_of_same (hv : v.isList = false) (hw : w.isList = false)
    (h : v.same w = true) : mergeValue v w = v := by
  have hmerge : mergeValue v (listed false w) = _ := mergeValue_single hv hw
  exact hmerge.trans (if_pos h)

theorem isList_takeUp (hx : x.isList = false) : (x.takeUp y).isList = false := by
  cases x with
  | list => cases hx
  | _ => rfl

/-- A single value becomes a list only of two items. -/
theorem two_le_of_isList_mergeValue {flag : Bool} (hv : v.isList = false) (hy : y.isList = false)
    (h : (mergeValue v (listed flag y)).isList = true) :
    2 ≤ (mergeValue v (listed flag y)).items.length := by
  rw [mergeValue_single hv hy] at h ⊢
  split at h
  · rw [hv] at h; cases h
  · split at h
    · rw [isList_takeUp hv] at h; cases h
    · simp_all

/-- A field takes a value by enlisting its item, if an item that is equal to the new one and has its
identity takes nothing up. -/
theorem items_mergeValue {flag : Bool} (hy : y.isList = false)
    (h : ∀ x ∈ v.items, x.same y = true → x.sameEntity y = true → x.takeUp y = x) :
    (mergeValue v (listed flag y)).items = enlist y v.items := by
  cases hv : v.isList with
  | true =>
    cases v with
    | list => rw [mergeValue_list hy]; rfl
    | _ => cases hv
  | false =>
    -- a single value looks for equality first, and a list for identity
    have hitems := items_of_isList_eq_false hv
    rw [mergeValue_single hv hy, hitems]
    cases hsame : v.sameEntity y with
    | true =>
      have hone : enlist y [v] = [v.takeUp y] := by
        simp [enlist, addItem, List.findIdx?_cons, hsame, takeUp]
      rw [hone]
      split
      · next heq => rw [h v (by simp [hitems]) heq hsame, hitems]
      · exact items_of_isList_eq_false (isList_takeUp hv)
    | false =>
      cases heq : v.same y with
      | true => simp [enlist, addItem, hsame, heq, hitems]
      | false => simp [enlist, addItem, hsame, heq]

/-- Objects joined in turn. -/
def joinAll (items : List Instance) : List Instance :=
  items.foldl (fun merged item => join item merged) []

@[simp] theorem joinAll_concat : joinAll (items ++ [y]) = join y (joinAll items) := by
  simp [joinAll]

end Instance

namespace Entity

theorem toInstance_injective : Function.Injective toInstance := by
  intro a b h
  obtain ⟨hanchor, hfields⟩ := Instance.object.inj h
  cases a
  cases b
  exact congr (congrArg Entity.mk hanchor) hfields

@[simp] theorem merge_toInstance (base addition : Entity) :
    (base.merge addition).toInstance = base.toInstance.takeUp addition.toInstance := rfl

theorem addTo_toInstance (addition : Entity) (entities : List Entity) :
    (addition.addTo entities).map toInstance =
      Instance.join addition.toInstance (entities.map toInstance) := by
  induction entities with
  | nil => rfl
  | cons entry rest ih =>
    cases hsame : entry.sameEntity addition with
    | true =>
      have hfirst : entry.toInstance.sameEntity addition.toInstance = true := hsame
      simp [addTo, hsame, Instance.join, List.findIdx?_cons, hfirst]
    | false =>
      have hfirst : entry.toInstance.sameEntity addition.toInstance = false := hsame
      simp only [addTo, hsame, List.map_cons, Instance.join, List.findIdx?_cons, hfirst]
      rw [Instance.join] at ih
      cases hfind : (rest.map toInstance).findIdx? (·.sameEntity addition.toInstance) with
      | some index => simpa [hfind] using ih
      | none => simpa [hfind] using ih

end Entity

/-- Merging objects is joining them in turn. -/
theorem mergeEntities_toInstance (entities : List Entity) :
    (mergeEntities entities).map Entity.toInstance =
      Instance.joinAll (entities.map Entity.toInstance) := by
  induction entities using List.reverseRecOn with
  | nil => rfl
  | append_singleton entities addition ih =>
    rw [List.map_append, List.map_singleton, Instance.joinAll_concat, ← ih,
      ← Entity.addTo_toInstance]
    simp [mergeEntities]

end QueryByExample
