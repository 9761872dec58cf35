import QueryByExample.Dictionary
import QueryByExample.Proofs.Fields
/-!
# Looking up names

Laws of `Dictionary.find?`. A dictionary is a finite map whose entries stand in ascending order: an
entry stands in it iff it is found there, so an operation is known by what is found after it.

## Main statements

- `Dictionary.mem_entries_iff`: what is found under a name is what stands there.
- `Dictionary.find?_insertAll`: of several values of a name, the last one stands.
- `Dictionary.find?_override`, `Dictionary.mem_override_iff`: where two dictionaries hold a name, the
  second one counts.
-/

namespace QueryByExample.Dictionary

variable {α : Type} {name other : String} {value : α} {d e : Dictionary α}

/-- No name stands twice in a dictionary. -/
theorem distinct_entries (d : Dictionary α) : Fields.Distinct d.entries := by
  unfold Fields.Distinct Fields.names List.Nodup
  rw [List.pairwise_map]
  refine d.ascending.imp ?_
  intro entry later hlt heq
  rw [heq] at hlt
  exact String.lt_irrefl _ hlt

/-- Names are looked up among the entries. -/
theorem find?_eq (name : String) (d : Dictionary α) : d.find? name = Fields.find? name d.entries := by
  unfold find?
  induction d.entries with
  | nil => rfl
  | cons entry rest ih =>
    obtain ⟨key, value⟩ := entry
    by_cases hkey : key = name
    · simp [Fields.find?, hkey]
    · simp [Fields.find?, hkey, ih]

theorem mem_entries_iff : (name, value) ∈ d.entries ↔ d.find? name = some value := by
  rw [find?_eq]
  exact ⟨d.distinct_entries.find?_of_mem, Fields.mem_of_find?⟩

theorem find?_eq_none_iff : d.find? name = none ↔ name ∉ Fields.names d.entries := by
  rw [find?_eq, Fields.find?_eq_none_iff]

/-- Putting a name at its place changes what is found under it and nothing else. -/
theorem find?_insertEntry (entries : List (String × α)) :
    Fields.find? other (insertEntry name value entries) =
      if name = other then some value else Fields.find? other entries := by
  induction entries with
  | nil => rfl
  | cons entry rest ih =>
    obtain ⟨key, old⟩ := entry
    rw [insertEntry]
    split
    · rfl
    · split
      · next hkey =>
        subst hkey
        by_cases hname : name = other <;> simp [Fields.find?, hname]
      · next hkey =>
        by_cases hother : key = other
        · have hname : name ≠ other := fun h => hkey (h.trans hother.symm)
          simp [Fields.find?, hother, hname]
        · simp [Fields.find?, hother, ih]

theorem find?_insert (d : Dictionary α) :
    (d.insert name value).find? other = if name = other then some value else d.find? other := by
  rw [find?_eq, find?_eq]
  exact find?_insertEntry d.entries

/-- Of several values of a name, the last one stands. -/
theorem find?_insertAll (entries : List (String × α)) (d : Dictionary α) :
    (d.insertAll entries).find? name = (Fields.find? name entries.reverse).or (d.find? name) := by
  induction entries generalizing d with
  | nil => rfl
  | cons entry rest ih =>
    obtain ⟨key, value⟩ := entry
    rw [insertAll, List.foldl_cons, ← insertAll, ih, find?_insert, List.reverse_cons,
      Fields.find?_append, Option.or_assoc]
    by_cases hkey : key = name <;> simp [Fields.find?, hkey]

/-- Where two dictionaries hold a name, the second one counts. -/
theorem find?_override (d e : Dictionary α) :
    (d.override e).find? name = (e.find? name).or (d.find? name) := by
  rw [override, find?_insertAll, find?_eq name e,
    Fields.find?_perm e.distinct_entries (List.reverse_perm e.entries)]

/-- An override holds the entries of the second dictionary, and those of the first one whose names
the second one does not hold. -/
theorem mem_override_iff :
    (name, value) ∈ (d.override e).entries ↔
      (name, value) ∈ e.entries ∨ name ∉ Fields.names e.entries ∧ (name, value) ∈ d.entries := by
  rw [mem_entries_iff, find?_override, Option.or_eq_some_iff, mem_entries_iff, mem_entries_iff,
    find?_eq_none_iff]

theorem mem_erase_iff {entry : String × α} :
    entry ∈ (d.erase name).entries ↔ entry.1 ≠ name ∧ entry ∈ d.entries := by
  rw [erase, List.mem_filter, and_comm, bne_iff_ne]

end QueryByExample.Dictionary
