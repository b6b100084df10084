import EntityGate.Config.Document
import EntityGate.Config.Entity
import EntityGate.Config.Query
import EntityGate.Event
import EntityGate.Fault
import EntityGate.Filter.Build
import EntityGate.Filter.Condition
import EntityGate.Filter.Expr
import EntityGate.Filter.Operator
import EntityGate.Gate.Basic
import EntityGate.Gate.Mutate
import EntityGate.Gate.Read
import EntityGate.Json.Basic
import EntityGate.Json.Compact
import EntityGate.Json.Reader
import EntityGate.Json.Record
import EntityGate.Mutation.Batch
import EntityGate.Mutation.Bind
import EntityGate.Mutation.Cache
import EntityGate.Mutation.Chain
import EntityGate.Mutation.Checks
import EntityGate.Mutation.Entry
import EntityGate.Mutation.Hooks
import EntityGate.Mutation.References
import EntityGate.Mutation.Verify
import EntityGate.Number.Binary64
import EntityGate.Number.Layout
import EntityGate.Number.Literal
import EntityGate.Number.Shortest
import EntityGate.Permission.Basic
import EntityGate.Permission.Check
import EntityGate.Permission.Document
import EntityGate.Proofs.Abreast
import EntityGate.Proofs.Acceptance
import EntityGate.Proofs.Authority
import EntityGate.Proofs.Binding
import EntityGate.Proofs.Building
import EntityGate.Proofs.Canonical
import EntityGate.Proofs.Chains
import EntityGate.Proofs.Chronicle
import EntityGate.Proofs.Coherence
import EntityGate.Proofs.Compilation
import EntityGate.Proofs.Course
import EntityGate.Proofs.Decision
import EntityGate.Proofs.Dependence
import EntityGate.Proofs.Enforcement
import EntityGate.Proofs.Evaluation
import EntityGate.Proofs.Exposure
import EntityGate.Proofs.Fields
import EntityGate.Proofs.Gathering
import EntityGate.Proofs.Grants
import EntityGate.Proofs.Identity
import EntityGate.Proofs.Journal
import EntityGate.Proofs.Keys
import EntityGate.Proofs.LifeCycle
import EntityGate.Proofs.Lookups
import EntityGate.Proofs.Meaning
import EntityGate.Proofs.Narrowing
import EntityGate.Proofs.Numbering
import EntityGate.Proofs.Paging
import EntityGate.Proofs.Pairing
import EntityGate.Proofs.Plan
import EntityGate.Proofs.Prefetching
import EntityGate.Proofs.Protocol
import EntityGate.Proofs.Refusal
import EntityGate.Proofs.Reload
import EntityGate.Proofs.Rollback
import EntityGate.Proofs.Rows
import EntityGate.Proofs.Sequence
import EntityGate.Proofs.Settlement
import EntityGate.Proofs.Simulation
import EntityGate.Proofs.Steps
import EntityGate.Proofs.Tables
import EntityGate.Proofs.Tasks
import EntityGate.Proofs.Tightening
import EntityGate.Proofs.Triple
import EntityGate.Proofs.Unread
import EntityGate.Proofs.Untouched
import EntityGate.Proofs.Upkeep
import EntityGate.Proofs.Verified
import EntityGate.Proofs.Writeback
import EntityGate.Query.Base
import EntityGate.Query.Compile
import EntityGate.Query.FrontEnd
import EntityGate.Query.Page
import EntityGate.Query.Spec
import EntityGate.Rehearsal.Script
import EntityGate.Rehearsal.Stage
import EntityGate.Request.Form
import EntityGate.Request.GetParams
import EntityGate.Request.Simplified
import EntityGate.Setting.Basic
import EntityGate.Setting.Callable
import EntityGate.Setting.Context
import EntityGate.Setting.Resolve
import EntityGate.Store.Changes
import EntityGate.Store.Evaluate
import EntityGate.Store.Memory
import EntityGate.Store.Persistence
import EntityGate.Store.Predicate
import EntityGate.Store.Record
import EntityGate.Table
import EntityGate.Text.Case
import EntityGate.Text.CaseTable
import EntityGate.Text.CasedTable
import EntityGate.Text.CharClass
import EntityGate.Text.WordTable
import EntityGate.Validate.Calendar
import EntityGate.Validate.Date
import EntityGate.Validate.Rule
import EntityGate.Proofs.Layering
import EntityGate.Proofs.Grammar
import EntityGate.Proofs.Mirroring
import EntityGate.Proofs.Supply
import EntityGate.Proofs.Collapsing
import EntityGate.Proofs.Unfolding
import EntityGate.Proofs.Placing
import EntityGate.Proofs.Conservation
import EntityGate.Proofs.Reading
import EntityGate.Proofs.Encoding
import EntityGate.Proofs.Decoding
import EntityGate.Proofs.Sorting
import EntityGate.Proofs.Attachment
import EntityGate.Proofs.Finding
import EntityGate.Proofs.Mentions
import EntityGate.Proofs.Stock
import EntityGate.Proofs.Foresight
import EntityGate.Proofs.Wildcards
import EntityGate.Proofs.Rounding
import EntityGate.Proofs.Precision
import EntityGate.Proofs.Showing
import EntityGate.Proofs.Watching
import EntityGate.Proofs.Descent
import EntityGate.Proofs.Scouting
