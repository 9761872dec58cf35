import QueryByExample.Event
import QueryByExample.Json.Basic
/-!
# Shapes

Trees of named fields with constants, leaves and inner nodes. A prototype, its plan and the template
for its answers are shapes that differ only in what their leaves and nodes carry.

## Main definitions

- `Shape`: the trees.
- `Shape.mapFields`: change what leaves and nodes carry.
- `Shape.leavesOf`: the leaves with their names, depth first.
- `Shape.settleFields`: replace every leaf by the result of a computation, in the same order.
-/

namespace QueryByExample

/-- A tree of named fields. Nodes carry a `ν`, leaves an `α`, and constants a JSON value. -/
inductive Shape (ν α : Type) where
  | constant (value : Json)
  | leaf (content : α)
  | node (label : ν) (fields : List (String × Shape ν α))

namespace Shape

variable {ν μ α β ε : Type}

mutual

/-- Change what nodes and leaves carry. -/
def map (f : ν → μ) (g : α → β) : Shape ν α → Shape μ β
  | .constant value => .constant value
  | .leaf content => .leaf (g content)
  | .node label fields => .node (f label) (mapFields f g fields)

/-- Change what nodes and leaves under some fields carry. -/
def mapFields (f : ν → μ) (g : α → β) : List (String × Shape ν α) → List (String × Shape μ β)
  | [] => []
  | (name, shape) :: rest => (name, map f g shape) :: mapFields f g rest

end

mutual

/-- The leaves of the field `name`, each with its own name. -/
def leaves (name : String) : Shape ν α → List (String × α)
  | .constant _ => []
  | .leaf content => [(name, content)]
  | .node _ fields => leavesOf fields

/-- The leaves of some fields with their names, depth first. -/
def leavesOf : List (String × Shape ν α) → List (String × α)
  | [] => []
  | (name, shape) :: rest => leaves name shape ++ leavesOf rest

end

mutual

/-- Replace the leaves of the field `name` by the results of `f`, depth first. -/
def settle (f : String → α → Traced ε β) (name : String) :
    Shape ν α → Traced ε (Shape ν β)
  | .constant value => return .constant value
  | .leaf content => return .leaf (← f name content)
  | .node label fields => return .node label (← settleFields f fields)

/-- Replace every leaf of some fields by the result of `f`, depth first. The first leaf without a
result ends the computation. -/
def settleFields (f : String → α → Traced ε β) :
    List (String × Shape ν α) → Traced ε (List (String × Shape ν β))
  | [] => return []
  | (name, shape) :: rest => do
    let settled ← settle f name shape
    let others ← settleFields f rest
    return (name, settled) :: others

end

mutual

theorem leaves_map (f : ν → μ) (g : α → β) (name : String) (shape : Shape ν α) :
    leaves name (map f g shape) = (leaves name shape).map fun leaf => (leaf.1, g leaf.2) := by
  cases shape with
  | constant value => simp [map, leaves]
  | leaf content => simp [map, leaves]
  | node label fields => simpa [map, leaves] using leavesOf_mapFields f g fields

/-- Changing what a shape carries changes its leaves one by one. -/
theorem leavesOf_mapFields (f : ν → μ) (g : α → β) (fields : List (String × Shape ν α)) :
    leavesOf (mapFields f g fields) = (leavesOf fields).map fun leaf => (leaf.1, g leaf.2) := by
  cases fields with
  | nil => simp [mapFields, leavesOf]
  | cons field rest =>
    obtain ⟨name, shape⟩ := field
    simp [mapFields, leavesOf, leaves_map f g name shape, leavesOf_mapFields f g rest]

end

/-- Changing what a shape carries keeps the names of its fields. -/
theorem names_mapFields (f : ν → μ) (g : α → β) (fields : List (String × Shape ν α)) :
    Fields.names (mapFields f g fields) = Fields.names fields := by
  induction fields with
  | nil => simp [mapFields, Fields.names]
  | cons field rest ih =>
    obtain ⟨name, shape⟩ := field
    simpa [mapFields, Fields.names] using ih

end Shape

end QueryByExample
