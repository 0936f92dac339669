/-
  PagedTable.Json.Order — the order in which rows are sorted and values compared.

  Values of different kinds are ordered null < boolean < number < string < array < object.
  Within a kind booleans, numbers and strings have their natural order; any two arrays tie, and
  so do any two objects.  Two numbers that both fit a signed 64-bit integer compare exactly;
  otherwise each is first rounded to a 64-bit float.

  Main interface: `Json.kind`, `Json.compare`, `Json.equalTo` (the equality used by operands and
  joins).
-/
import PagedTable.Json.Basic

namespace PagedTable

/-! ## §1. Numbers -/

namespace Number

/-- Does an integer fit in 64 bits with a sign? -/
def fitsWord (n : Int) : Bool := -(twoTo 63 : Int) ≤ n && n < twoTo 63

/-- The value as a 64-bit float, counted in units of `2 ^ -1074`. -/
def units : Number → Int
  | .int n => roundIntTo53Bits n * twoTo 1074
  | .float x => x.units

/-- Exact between integers of word size, otherwise between the nearest floats. -/
protected def compare : Number → Number → Ordering
  | .int m, .int n =>
    if fitsWord m && fitsWord n then Ord.compare m n
    else Ord.compare (units (.int m)) (units (.int n))
  | x, y => Ord.compare x.units y.units

end Number

namespace Json

/-! ## §2. Values -/

/-- The kind of a value; operands compare only with values of their own kind. -/
inductive Kind where
  | null
  | boolean
  | number
  | string
  | array
  | object
  deriving DecidableEq, Repr

/-- The place of a kind in the order of values. -/
def Kind.rank : Kind → Nat
  | .null => 0
  | .boolean => 1
  | .number => 2
  | .string => 3
  | .array => 4
  | .object => 5

/-- The kind of a value. -/
def kind : Json → Kind
  | .null => .null
  | .bool _ => .boolean
  | .num _ => .number
  | .str _ => .string
  | .arr _ => .array
  | .obj _ => .object

/-- The order of values. -/
protected def compare : Json → Json → Ordering
  | .bool a, .bool b => Ord.compare a b
  | .num m, .num n => m.compare n
  | .str s, .str t => Ord.compare s t
  | a, b => Ord.compare a.kind.rank b.kind.rank

/-- Equality of a document's value and an operand: numbers by value, all else as `same`. -/
def equalTo : Json → Json → Bool
  | .num m, .num n => m.compare n == .eq
  | a, b => same a b

end Json
end PagedTable
