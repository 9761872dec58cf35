/-!
# Events

What is reported while a document is compiled and run, beside the answer itself.

## Main definitions

- `Event`: the events, with `level`, `message` and `fields`.
- `Traced`: the outcome of a computation together with the events it reported, also when it failed.
-/

namespace QueryByExample

/-- Something worth reporting. -/
inductive Event where
  /-- A root key starts with `$` and is no modifier. -/
  | unknownModifier (key : String)
  /-- A token of a directive is no option. -/
  | unknownOption (property token : String)
  /-- An aggregate is projected, and the document has no grouping. -/
  | ungroupedAggregate
  /-- A document was compiled; announced if compiled queries are asked for. -/
  | compiled (announced : Bool) (query : String)
  /-- A query was answered with some rows. -/
  | executed (rows : Nat)
  /-- Rows were merged into entries. -/
  | merged (rows entries : Nat)
  deriving DecidableEq

namespace Event

/-- How important an event is. -/
inductive Level where
  | debug
  | info
  | warn
  deriving DecidableEq

/-- The value of a field of an event. -/
inductive Field where
  | text (s : String)
  | count (n : Nat)
  deriving DecidableEq

/-- The level of an event. -/
def level : Event → Level
  | unknownModifier _ | unknownOption _ _ => .warn
  | compiled true _ => .info
  | ungroupedAggregate | compiled false _ | executed _ | merged _ _ => .debug

/-- The text of an event. -/
def message : Event → String
  | unknownModifier _ => "ignoring unknown query modifier"
  | unknownOption _ _ => "ignoring unknown directive option"
  | ungroupedAggregate => "aggregate projected without `$groupby`; grouping keys are not inferred"
  | compiled _ _ => "compiled query"
  | executed _ => "query executed"
  | merged _ _ => "merged result rows"

/-- The named details of an event. -/
def fields : Event → List (String × Field)
  | unknownModifier key => [("modifier", .text key)]
  | unknownOption property token => [("property", .text property), ("option", .text token)]
  | ungroupedAggregate => []
  | compiled _ query => [("query", .text query)]
  | executed rows => [("rows", .count rows)]
  | merged rows entries => [("rows", .count rows), ("entries", .count entries)]

end Event

/-- An outcome and the events that led to it, in order. -/
structure Traced (ε α : Type) where
  events : List Event
  outcome : Except ε α

namespace Traced

variable {ε ε' α β : Type}

/-- An outcome without events. -/
def ofExcept (outcome : Except ε α) : Traced ε α := ⟨[], outcome⟩

/-- Report events and go on. -/
def report (events : List Event) : Traced ε Unit := ⟨events, .ok ()⟩

/-- Go on with the value of a computation, if it has one; what was reported stays. -/
def andThen (t : Traced ε α) (next : α → Traced ε β) : Traced ε β :=
  match t.outcome with
  | .ok a => ⟨t.events ++ (next a).events, (next a).outcome⟩
  | .error e => ⟨t.events, .error e⟩

/-- The same computation with its error put differently. -/
def mapError (f : ε → ε') (t : Traced ε α) : Traced ε' α := ⟨t.events, t.outcome.mapError f⟩

instance : Monad (Traced ε) where
  pure a := ⟨[], .ok a⟩
  bind := andThen

@[simp] theorem events_pure (a : α) : (pure a : Traced ε α).events = [] := rfl

@[simp] theorem outcome_pure (a : α) : (pure a : Traced ε α).outcome = .ok a := rfl

@[simp] theorem outcome_ofExcept (outcome : Except ε α) :
    (ofExcept outcome).outcome = outcome := rfl

@[simp] theorem events_ofExcept (outcome : Except ε α) : (ofExcept outcome).events = [] := rfl

@[simp] theorem outcome_report (events : List Event) :
    (report events : Traced ε Unit).outcome = .ok () := rfl

@[simp] theorem events_report (events : List Event) :
    (report events : Traced ε Unit).events = events := rfl

/-- The outcome of a chain is that of the chained outcomes. -/
@[simp] theorem outcome_bind (t : Traced ε α) (next : α → Traced ε β) :
    (t >>= next).outcome = t.outcome.bind fun a => (next a).outcome := by
  change (andThen t next).outcome = _
  unfold andThen
  cases t.outcome <;> rfl

/-- After a success, the events of a chain are those of its parts in order. -/
theorem events_bind_of_ok {t : Traced ε α} {a : α} (h : t.outcome = .ok a)
    (next : α → Traced ε β) : (t >>= next).events = t.events ++ (next a).events := by
  change (andThen t next).events = _
  simp [andThen, h]

end Traced

end QueryByExample
