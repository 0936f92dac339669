/-
  PagedTable.Store.Error — why a store cannot answer.
-/

namespace PagedTable

/-- What is wrong with the input of a stage: it is computed from a value of another kind. -/
inductive StageFault where
  | notAnObject (path : String)
  | notAnArray (path : String)
  deriving DecidableEq, Repr

/-- The text of a fault. -/
def StageFault.message : StageFault → String
  | notAnObject path => s!"$objectToArray requires a document input at '{path}'"
  | notAnArray path => s!"$arrayElemAt requires an array at '{path}'"

/-- Why a store gives no result. -/
inductive StoreError where
  /-- A text given as a pattern is none. -/
  | invalidPattern (pattern reason : String)
  /-- A stage has no result for some document. -/
  | stage (fault : StageFault)
  /-- The store failed for a reason of its own. -/
  | failed (reason : String)
  deriving DecidableEq, Repr

namespace StoreError

/-- The code of an error. -/
def code : StoreError → String
  | invalidPattern _ _ => "STORE_INVALID_PATTERN"
  | stage _ | failed _ => "STORE_EXECUTION_FAILED"

/-- The text of an error. -/
def message : StoreError → String
  | invalidPattern pattern reason => s!"Invalid pattern '{pattern}': {reason}"
  | stage fault => fault.message
  | failed reason => reason

/-- The code and the message. -/
def display (e : StoreError) : String := e.code ++ ": " ++ e.message

end StoreError
end PagedTable
