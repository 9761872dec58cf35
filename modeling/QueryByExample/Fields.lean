/-!
# Ordered fields

Associations from names to values in the order in which the names first appeared, as lists of
pairs. `find?` reads the first value of a name; `put` overwrites it where it stands and appends a
name that is new, so a list built by `put` never holds a name twice.
-/

namespace QueryByExample.Fields

variable {α β : Type}

/-- The value of the first field called `name`. -/
def find? (name : String) : List (String × α) → Option α
  | [] => none
  | (key, value) :: rest => if key = name then some value else find? name rest

/-- The names in order. -/
def names (fields : List (String × α)) : List String :=
  fields.map Prod.fst

/-- Change the value of the first field called `name`, or append the field with the value that
`change` gives to an absent one. -/
def alter (name : String) (change : Option α → α) : List (String × α) → List (String × α)
  | [] => [(name, change none)]
  | (key, value) :: rest =>
    if key = name then (key, change (some value)) :: rest
    else (key, value) :: alter name change rest

/-- Set the value of a field: in place if the name is there, else at the end. -/
def put (name : String) (value : α) (fields : List (String × α)) : List (String × α) :=
  alter name (fun _ => value) fields

/-- The fields that result from setting the given ones in turn: a repeated name keeps its first
place and takes its last value. -/
def ofList (fields : List (String × α)) : List (String × α) :=
  fields.foldl (fun made field => put field.1 field.2 made) []

/-- No name occurs twice. -/
def Distinct (fields : List (String × α)) : Prop :=
  (names fields).Nodup

theorem find?_alter (name other : String) (change : Option α → α) (fields : List (String × α)) :
    find? other (alter name change fields) =
      if name = other then some (change (find? name fields)) else find? other fields := by
  induction fields with
  | nil => by_cases h : name = other <;> simp [find?, alter, h]
  | cons field rest ih =>
    obtain ⟨key, value⟩ := field
    by_cases hk : key = name
    · subst hk
      by_cases h : key = other <;> simp [find?, alter, h]
    · by_cases h : name = other
      · subst h
        simp only [if_true] at ih
        simp [find?, alter, hk, ih]
      · simp only [h, if_false] at ih
        by_cases ho : key = other
        · subst ho
          simp [find?, alter, hk, h]
        · simp [find?, alter, hk, h, ho, ih]

theorem names_alter (name : String) (change : Option α → α) (fields : List (String × α)) :
    names (alter name change fields) =
      if name ∈ names fields then names fields else names fields ++ [name] := by
  induction fields with
  | nil => simp [names, alter]
  | cons field rest ih =>
    obtain ⟨key, value⟩ := field
    by_cases h : key = name
    · subst h; simp [names, alter]
    · simp only [names] at ih
      by_cases hm : name ∈ rest.map Prod.fst
      · simp only [hm, if_true] at ih
        simp [names, alter, h, ih, hm]
      · simp only [hm, if_false] at ih
        simp [names, alter, h, ih, hm, Ne.symm h]

theorem Distinct.alter {fields : List (String × α)} (h : Distinct fields) (name : String)
    (change : Option α → α) : Distinct (alter name change fields) := by
  unfold Distinct at h ⊢
  rw [names_alter]
  split
  · exact h
  · next hm =>
    rw [List.nodup_append]
    exact ⟨h, by simp, fun a ha b hb => by
      simp only [List.mem_singleton] at hb
      subst hb
      exact fun hab => hm (hab ▸ ha)⟩

/-- Setting fields in turn never leaves a name twice. -/
theorem distinct_ofList (fields : List (String × α)) : Distinct (ofList fields) := by
  suffices h : ∀ (made : List (String × α)), Distinct made →
      Distinct (fields.foldl (fun made field => put field.1 field.2 made) made) from
    h [] (by simp [Distinct, names])
  induction fields with
  | nil => exact fun _ h => h
  | cons field rest ih => exact fun made h => ih _ (h.alter _ _)

end QueryByExample.Fields
