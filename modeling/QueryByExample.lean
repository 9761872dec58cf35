import QueryByExample.Json.Printer
import QueryByExample.Session
import QueryByExample.Main
import QueryByExample.Proofs.Fields
import QueryByExample.Proofs.Position
import QueryByExample.Proofs.Number.Rounding
import QueryByExample.Proofs.Json.Equality
import QueryByExample.Proofs.Json.Reading
import QueryByExample.Proofs.Compile
import QueryByExample.Proofs.Template
import QueryByExample.Proofs.Answer.Equality
import QueryByExample.Proofs.Answer.Conformance
import QueryByExample.Proofs.Answer.Merging
import QueryByExample.Proofs.Answer.Invariant
import QueryByExample.Proofs.Answer.Replay
import QueryByExample.Proofs.Answer.Provenance
import QueryByExample.Proofs.Answer.Order
import QueryByExample.Proofs.Answer.Grouping
import QueryByExample.Proofs.Answer.Vocabulary
import QueryByExample.Proofs.Modifiers
import QueryByExample.Proofs.Root
import QueryByExample.Proofs.Refusal
import QueryByExample.Proofs.Convention
import QueryByExample.Proofs.Paging
import QueryByExample.Proofs.Rewriting.Query
import QueryByExample.Proofs.Query.Site
import QueryByExample.Proofs.Query.Pattern
import QueryByExample.Proofs.Query.Connection
import QueryByExample.Proofs.Plan
import QueryByExample.Proofs.Query.Naming
import QueryByExample.Proofs.Query.Linking
import QueryByExample.Proofs.Answer.Decoding
import QueryByExample.Proofs.Query.Selection
import QueryByExample.Proofs.Answer.Equivalence
import QueryByExample.Proofs.Answer.Coercion
import QueryByExample.Proofs.Answer.LeadingInteger
import QueryByExample.Proofs.Answer.Padding
import QueryByExample.Proofs.Answer.Hiding
import QueryByExample.Proofs.Session
import QueryByExample.Proofs.Modifiers.Singleton
import QueryByExample.Proofs.Query.Sharing
import QueryByExample.Proofs.Syntax.Values
import QueryByExample.Proofs.Syntax.Condition
import QueryByExample.Proofs.Directive.Declared
import QueryByExample.Proofs.Answer.Mirroring
import QueryByExample.Proofs.Query.Nesting
import QueryByExample.Proofs.Warning
import QueryByExample.Proofs.Form
