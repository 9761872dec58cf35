import QueryByExample.Prototype.Basic
/-!
# Plans

The plan of a prototype gives every node its root, the variable that stands for its entity, and
every leaf its variable and its place in the query.

A node has the root that its anchor names or that is made up for it; without an anchor it shares the
root of the enclosing node. Names that are made up are spelled from the positions of the fields on
the way to a leaf, so that no two of them are equal.

## Main definitions

- `Plan.Node`, `Plan.Leaf`: what nodes and leaves of a plan carry.
- `Plan.anchorOf?`: the field that identifies a node.
- `Plan.ofFields`: the plan of a node.
-/

namespace QueryByExample

/-- A node of a plan. -/
structure Plan.Node where
  /-- The field that identifies the node. -/
  anchor? : Option String
  /-- The variable of the entity that the node describes. -/
  root : String
  /-- The patterns of the node must match. -/
  required : Bool
  /-- The answer gives the node as a list. -/
  list : Bool
  deriving DecidableEq

/-- A leaf of a plan. -/
structure Plan.Leaf where
  directive : Directive
  /-- The variable that holds the value of the leaf. -/
  name : String
  /-- Where its path starts. -/
  subject : String
  isAnchor : Bool
  /-- Its pattern must match. -/
  required : Bool
  /-- The language to which its literals are restricted. -/
  language? : Option String
  /-- The language of which the best match is projected. -/
  bestLanguage? : Option String
  deriving DecidableEq

/-- A node and the plans of its fields. -/
structure Plan where
  node : Plan.Node
  fields : List (String × Shape Plan.Node Plan.Leaf)

namespace Plan

/-- The variable of the entity that a document describes, unless its prototype names another. -/
def defaultRoot : String := "?id"

/-- The keys that identify a node when no field is marked as its anchor, in order of
preference. -/
def identityKeys : List String := ["@id", "id"]

/-- Where a node stands: the stem of the names made up for it, and the root of the enclosing
node. -/
structure Scope where
  stem : String
  parent? : Option String

namespace Scope

/-- The scope of the outermost node. -/
def outermost : Scope := ⟨"v", none⟩

/-- The scope of a node that is the field at `index`. -/
def inner (scope : Scope) (index : Nat) (root : String) : Scope :=
  ⟨scope.stem ++ toString index ++ "_", some root⟩

/-- The name made up for the field at `index`. -/
def fieldName (scope : Scope) (index : Nat) : String := "?" ++ scope.stem ++ toString index

/-- The name made up for the root. -/
def rootName (scope : Scope) : String := "?" ++ scope.stem ++ "r"

end Scope

/-- The directive of a field, if it is a leaf. -/
def directive? : Shape Unit Prototype.Leaf → Option Directive
  | .leaf content => some content.directive
  | _ => none

/-- The first field that is marked as an anchor. -/
def markedAnchor? : Prototype.Checked → Option (String × Directive)
  | [] => none
  | (key, shape) :: rest =>
    match directive? shape with
    | some directive =>
      if directive.options.anchor then some (key, directive) else markedAnchor? rest
    | none => markedAnchor? rest

/-- The field `key`, if it is a directive. -/
def anchorAt? (fields : Prototype.Checked) (key : String) : Option (String × Directive) :=
  ((Fields.find? key fields).bind directive?).map fun directive => (key, directive)

/-- The field that identifies a node: the first that is marked, else the first identity key that
holds a directive. -/
def anchorOf? (fields : Prototype.Checked) : Option (String × Directive) :=
  (markedAnchor? fields).or (identityKeys.findSome? (anchorAt? fields))

/-- A node with the given fields. The pattern of an anchor is mandatory if it is a variable or if it
says so. -/
def nodeOf (scope : Scope) (fields : Prototype.Checked) : Node :=
  match anchorOf? fields with
  | some (key, directive) =>
    { anchor? := some key
      root := directive.declaredVariable?.getD scope.rootName
      required := directive.options.required || directive.path?.isNone
      list := directive.options.list }
  | none =>
    { anchor? := none, root := scope.parent?.getD defaultRoot, required := false, list := false }

/-- Where the path of a leaf starts. The pattern of the root leads to it from the enclosing node; so
does a leaf that says so. -/
def subjectOf (scope : Scope) (node : Node) (name : String) (fromParent : Bool) : String :=
  match scope.parent? with
  | some parent => if name = node.root ∨ fromParent then parent else node.root
  | none => if name = node.root then defaultRoot else node.root

/-- The plan of a leaf, the field at `index` of its node. -/
def leafOf (m : Modifiers) (scope : Scope) (node : Node) (index : Nat) (key : String)
    (leaf : Prototype.Leaf) : Leaf :=
  let options := leaf.directive.options
  let isAnchor := node.anchor? == some key
  let name := leaf.directive.declaredVariable?.getD
    (if isAnchor then node.root else scope.fieldName index)
  let subject := subjectOf scope node name options.fromParent
  { directive := leaf.directive
    name, subject, isAnchor
    required := options.required || isAnchor || identityKeys.contains key || m.binds name ||
      m.binds key || (options.aggregate?.isSome && subject == node.root)
    language? :=
      if m.binds name then none else options.language?.bind fun code? => code?.or m.language?
    bestLanguage? := leaf.bestLanguage? }

mutual

/-- The plan of the field `key` at `index`. -/
def fieldOf (m : Modifiers) (scope : Scope) (node : Node) (index : Nat) (key : String) :
    Shape Unit Prototype.Leaf → Shape Node Leaf
  | .constant value => .constant value
  | .leaf content => .leaf (leafOf m scope node index key content)
  | .node _ fields =>
    let inner := scope.inner index node.root
    let child := nodeOf inner fields
    .node child (fieldsOf m inner child 0 fields)

/-- The plans of fields, the first of which is at `index`. -/
def fieldsOf (m : Modifiers) (scope : Scope) (node : Node) (index : Nat) :
    Prototype.Checked → List (String × Shape Node Leaf)
  | [] => []
  | (key, shape) :: rest =>
    (key, fieldOf m scope node index key shape) :: fieldsOf m scope node (index + 1) rest

end

/-- The plan of a prototype. -/
def ofFields (m : Modifiers) (fields : Prototype.Checked) : Plan :=
  let node := nodeOf .outermost fields
  ⟨node, fieldsOf m .outermost node 0 fields⟩

/-- The leaves of a plan with their keys, depth first. -/
def leaves (plan : Plan) : List (String × Leaf) := Shape.leavesOf plan.fields

end Plan

end QueryByExample
