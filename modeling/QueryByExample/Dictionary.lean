/-!
# Dictionaries

Associations from names to values in ascending order of the names, which is the order of their
characters by code point. The order is part of the type, so a dictionary holds no name twice.

## Main definitions

- `Dictionary`: the associations.
- `Dictionary.insert`, `Dictionary.erase`, `Dictionary.find?`: set, remove and look up a name.
- `Dictionary.override`: the entries of two dictionaries; where both hold a name, the second counts.
-/

namespace QueryByExample

/-- Names with values, in ascending order of the names. -/
structure Dictionary (α : Type) where
  entries : List (String × α)
  ascending : entries.Pairwise fun a b => a.1 < b.1

namespace Dictionary

variable {α : Type}

/-- The dictionary without names. -/
def empty : Dictionary α := ⟨[], .nil⟩

/-- The value of a name. -/
def find? (name : String) (d : Dictionary α) : Option α :=
  (d.entries.find? fun entry => entry.1 == name).map Prod.snd

/-- Put a name at its place in an ascending list. -/
def insertEntry (name : String) (value : α) : List (String × α) → List (String × α)
  | [] => [(name, value)]
  | (key, old) :: rest =>
    if name < key then (name, value) :: (key, old) :: rest
    else if name = key then (name, value) :: rest
    else (key, old) :: insertEntry name value rest

theorem mem_insertEntry {name : String} {value : α} {entries : List (String × α)}
    {entry : String × α} (h : entry ∈ insertEntry name value entries) :
    entry = (name, value) ∨ entry ∈ entries := by
  induction entries with
  | nil => simpa [insertEntry] using h
  | cons first rest ih =>
    obtain ⟨key, old⟩ := first
    simp only [insertEntry] at h
    split at h
    · simpa using h
    · split at h
      · simp only [List.mem_cons] at h ⊢
        exact h.imp_right Or.inr
      · simp only [List.mem_cons] at h ⊢
        rcases h with h | h
        · exact Or.inr (Or.inl h)
        · exact (ih h).imp_right Or.inr

theorem ascending_insertEntry {name : String} {value : α} {entries : List (String × α)}
    (h : entries.Pairwise fun a b => a.1 < b.1) :
    (insertEntry name value entries).Pairwise fun a b => a.1 < b.1 := by
  induction entries with
  | nil => simp [insertEntry]
  | cons first rest ih =>
    obtain ⟨key, old⟩ := first
    obtain ⟨hfirst, hrest⟩ := List.pairwise_cons.1 h
    simp only [insertEntry]
    split
    · next hlt =>
      refine List.pairwise_cons.2 ⟨fun entry hmem => ?_, h⟩
      rcases List.mem_cons.1 hmem with rfl | hmem
      · exact hlt
      · exact String.lt_trans hlt (hfirst entry hmem)
    · split
      · next heq =>
        subst heq
        exact List.pairwise_cons.2 ⟨hfirst, hrest⟩
      · next hlt hne =>
        refine List.pairwise_cons.2 ⟨fun entry hmem => ?_, ih hrest⟩
        rcases mem_insertEntry hmem with rfl | hmem
        · exact Std.lt_of_le_of_ne (String.not_lt.1 hlt) (Ne.symm hne)
        · exact hfirst entry hmem

/-- Set the value of a name. -/
def insert (name : String) (value : α) (d : Dictionary α) : Dictionary α :=
  ⟨insertEntry name value d.entries, ascending_insertEntry d.ascending⟩

/-- Remove a name. -/
def erase (name : String) (d : Dictionary α) : Dictionary α :=
  ⟨d.entries.filter fun entry => entry.1 != name, d.ascending.filter _⟩

/-- Set the values of some names in turn: the last value of a name stands. -/
def insertAll (entries : List (String × α)) (d : Dictionary α) : Dictionary α :=
  entries.foldl (fun made entry => made.insert entry.1 entry.2) d

/-- The dictionary of some entries: the last value of a name stands. -/
def ofList (entries : List (String × α)) : Dictionary α := empty.insertAll entries

/-- The entries of both dictionaries. Where both hold a name, the second one counts. -/
def override (d other : Dictionary α) : Dictionary α := d.insertAll other.entries

end Dictionary

end QueryByExample
