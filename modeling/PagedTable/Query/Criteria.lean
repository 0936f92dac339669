/-
  PagedTable.Query.Criteria — conditions that the caller adds to a request.

  The additional condition restricts the rows and their count; the pre-filter restricts the total
  count as well.
-/
import PagedTable.Filter.Basic

namespace PagedTable

/-- The caller's conditions, either of which may be absent. -/
structure Criteria where
  additional : Option Filter := none
  preFilter : Option Filter := none
  deriving Repr, Inhabited

namespace Criteria

/-- The conditions that are there, the additional one first. -/
def fragments (c : Criteria) : List Filter := c.additional.toList ++ c.preFilter.toList

/-- Are both conditions absent? -/
def isEmpty (c : Criteria) : Bool := c.additional.isNone && c.preFilter.isNone

end Criteria
end PagedTable
