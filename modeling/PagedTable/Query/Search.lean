/-
  PagedTable.Query.Search — search terms as filters, sort directives as keys.

  A plain term is trimmed and found anywhere in a string, in either case; a pattern is taken as it
  is.  In a column's own search the words "true" and "false" stand for the booleans.  Sort
  directives for columns that are not there or cannot be sorted have no effect.

  Main interface: `Search.fragment`, `Search.columnFragment`, `Request.sortKeys`.
-/
import PagedTable.Filter.Basic
import PagedTable.Pattern.Escape
import PagedTable.Query.Sort

namespace PagedTable

namespace Search

/-- The condition that a path has a string with the search term in it. -/
def fragment (path : String) (s : Search) : Filter :=
  if s.regex then .regex path s.value false
  else .regex path (Pattern.escape (trim s.value)) true

/-- The boolean that a text names, blanks and the case of ASCII letters aside. -/
def boolean? (text : String) : Option Bool :=
  let word := lowerAscii (trim text)
  if word = "true" then some true else if word = "false" then some false else none

/-- The condition of a column's own search. -/
def columnFragment (path : String) (s : Search) : Filter :=
  match boolean? s.value with
  | some b => .eq path (.bool b)
  | none => s.fragment path

end Search

namespace Request

/-- The column that a sort directive refers to, if it is there and can be sorted. -/
def sortedColumn? (r : Request) (o : Order) : Option Column :=
  (r.columns[o.column.toNat]?).filter (·.sortable)

/-- The sort keys of the directives; `target` gives the field that a column sorts on. -/
def sortKeys (r : Request) (target : Column → Option String) : List SortKey :=
  r.order.filterMap fun o =>
    ((r.sortedColumn? o).bind target).map fun field => ⟨field, o.direction⟩

/-- The sort directives that refer to no column that can be sorted. -/
def skippedOrders (r : Request) : List Order := r.order.filter fun o => (r.sortedColumn? o).isNone

end Request
end PagedTable
