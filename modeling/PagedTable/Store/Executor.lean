/-
  PagedTable.Store.Executor — what a table query asks of a store.

  A store is used through three operations.  They may change a world of any type, which is how a
  store that fails now and then, or answers differently each time, is an executor as well.

  Main interface: `Executor`.
-/
import PagedTable.Query.Stage
import PagedTable.Store.Error

namespace PagedTable

/-- A store as seen by a query.  Every operation takes the world as it is and leaves the world as
it is afterwards. -/
structure Executor (World : Type) where
  /-- The number of documents that satisfy a filter; all for none. -/
  count : Option Filter → World → Except StoreError Nat × World
  /-- The page of a find. -/
  find : FindQuery → World → Except StoreError (List Json) × World
  /-- The documents that come out of a pipeline. -/
  aggregate : List Stage → World → Except StoreError (List Json) × World

end PagedTable
