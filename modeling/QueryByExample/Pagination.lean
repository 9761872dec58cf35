/-!
# Pagination

Slices of a list by an offset and a limit.
-/

namespace QueryByExample

/-- How many entries are skipped, and how many are given at most. -/
structure Pagination where
  limit? : Option Nat
  offset? : Option Nat
  deriving DecidableEq

namespace Pagination

variable {α : Type}

/-- At most `limit` items. -/
def truncate (limit? : Option Nat) (items : List α) : List α :=
  match limit? with
  | some limit => items.take limit
  | none => items

/-- The page of a list: without an offset it starts at the first item, without a limit it goes to
the last one. -/
def apply (page : Pagination) (items : List α) : List α :=
  truncate page.limit? (items.drop (page.offset?.getD 0))

end Pagination

end QueryByExample
