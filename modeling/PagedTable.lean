/-
  PagedTable — paged table requests compiled to document queries, and a store to run them on.
-/
import PagedTable.Table.Run
import PagedTable.Store.Memory
import PagedTable.Request.Wire
import PagedTable.Proofs.Filter.Meaning
import PagedTable.Proofs.Store.Pipeline
import PagedTable.Proofs.Query.PathEquivalence
import PagedTable.Proofs.Table.MemoryRun
import PagedTable.Proofs.Table.PlainAnswer
import PagedTable.Proofs.Json.Path
import PagedTable.Proofs.Json.FanOut
import PagedTable.Proofs.Query.Freshness
import PagedTable.Proofs.Query.JoinFrame
import PagedTable.Proofs.Query.ReferenceRows
import PagedTable.Proofs.Filter.Faults
import PagedTable.Proofs.Filter.Reading
import PagedTable.Proofs.Filter.Rendering
import PagedTable.Proofs.Pattern.Literal
import PagedTable.Proofs.Query.PlainSearch
import PagedTable.Proofs.Query.FreeNames
import PagedTable.Proofs.Query.Compilation
import PagedTable.Proofs.Query.JoinFailures
import PagedTable.Proofs.Binary64.Rounding
import PagedTable.Proofs.Json.Comparison
import PagedTable.Proofs.Json.Equality
import PagedTable.Proofs.Query.Sorting
import PagedTable.Proofs.Query.RenderedSort
import PagedTable.Proofs.Table.Recording
import PagedTable.Proofs.Table.Endings
import PagedTable.Proofs.Table.Account
import PagedTable.Proofs.Table.CriteriaGuard
import PagedTable.Proofs.Table.Pages
import PagedTable.Proofs.Table.FailureCauses
import PagedTable.Proofs.Json.Members
import PagedTable.Proofs.Query.Scoping
import PagedTable.Proofs.Query.GeneratedNames
import PagedTable.Proofs.Query.JoinedColumns
import PagedTable.Proofs.Json.Integers
import PagedTable.Proofs.Json.Scanning
import PagedTable.Proofs.Json.Spelling
import PagedTable.Proofs.Json.Syntax
import PagedTable.Proofs.Json.RoundTrip
import PagedTable.Proofs.Json.Records
import PagedTable.Proofs.Json.Presentation
import PagedTable.Proofs.Json.Writing
import PagedTable.Proofs.Json.Printable
import PagedTable.Proofs.Request.RoundTrip
import PagedTable.Proofs.Request.Presentation
import PagedTable.Proofs.Log.Lines
import PagedTable.Proofs.Table.QueryLog
