/-
  PagedTable.Filter.Matcher — filters made ready to test documents.

  Making a filter ready reads its patterns; the first text that is no pattern, from left to
  right, is an error even if other clauses would decide every test.  A leaf then looks at the
  values that its path offers: the value reached and, for an array, its elements.  Values of
  different kinds never compare, and a missing value counts as null for equality only.

  Main interface: `Filter.prepare`, `Matcher.accepts`.
-/
import PagedTable.Filter.Basic
import PagedTable.Json.Order
import PagedTable.Json.Path
import PagedTable.Pattern.Size
import PagedTable.Store.Error

namespace PagedTable

/-- A filter with its patterns read.  A leaf is a comparison or a pattern, never a text that would
still have to be read as one; so the test of such a leaf, which would never succeed, is no case
here. -/
inductive Matcher where
  | compare (path : String) (comparison : Comparison)
  | pattern (path : String) (pattern : Pattern)
  | and (clauses : List Matcher)
  | or (clauses : List Matcher)
  deriving Repr, Inhabited

/-! ## §1. Reading the patterns -/

namespace Filter

mutual

/-- Reads the patterns of a filter. -/
def prepare : Filter → Except StoreError Matcher
  | .field path (.compare comparison) => .ok (.compare path comparison)
  | .field path (.regex pattern ignoreCase) =>
    match Pattern.ofText pattern ignoreCase with
    | .ok p => .ok (.pattern path p)
    | .error fault => .error (.invalidPattern pattern fault.message)
  | .and clauses => (prepareAll clauses).map .and
  | .or clauses => (prepareAll clauses).map .or

/-- Reads the patterns of several filters, from left to right. -/
def prepareAll : List Filter → Except StoreError (List Matcher)
  | [] => .ok []
  | clause :: rest =>
    match prepare clause with
    | .error e => .error e
    | .ok matcher => (prepareAll rest).map (matcher :: ·)

end

end Filter

/-! ## §2. Testing documents -/

namespace Comparison

/-- Is one of the values equal to the operand?  No value at all equals null. -/
def equalsAny (values : List Json) (operand : Json) : Bool :=
  (operand == .null && values.isEmpty) || values.any (·.equalTo operand)

/-- Does one of the values of the operand's kind compare in an accepted way? -/
def comparesAny (values : List Json) (operand : Json) (accept : Ordering → Bool) : Bool :=
  values.any fun value => value.kind == operand.kind && accept (value.compare operand)

/-- The test of a comparison on the values that a path offers. -/
def accepts (values : List Json) : Comparison → Bool
  | eq operand => equalsAny values operand
  | ne operand => !equalsAny values operand
  | gt operand => comparesAny values operand Ordering.isGT
  | gte operand => comparesAny values operand Ordering.isGE
  | lt operand => comparesAny values operand Ordering.isLT
  | lte operand => comparesAny values operand Ordering.isLE
  | oneOf operands => operands.any (equalsAny values)

end Comparison

namespace Matcher

/-- Is one of the values a string with a match? -/
def foundInAny (values : List Json) (p : Pattern) : Bool :=
  values.any fun value => value.str?.any p.foundIn

mutual

/-- Does a document satisfy the filter? -/
def accepts (document : Json) : Matcher → Bool
  | .compare path comparison => comparison.accepts (document.candidates path)
  | .pattern path p => foundInAny (document.candidates path) p
  | .and clauses => acceptsAll document clauses
  | .or clauses => acceptsAny document clauses

/-- Does a document satisfy all of the filters? -/
def acceptsAll (document : Json) : List Matcher → Bool
  | [] => true
  | clause :: rest => accepts document clause && acceptsAll document rest

/-- Does a document satisfy at least one of the filters? -/
def acceptsAny (document : Json) : List Matcher → Bool
  | [] => false
  | clause :: rest => accepts document clause || acceptsAny document rest

end

end Matcher
end PagedTable
