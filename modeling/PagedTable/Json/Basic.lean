/-
  PagedTable.Json.Basic — JSON values: documents, operands and rows are all of this type.

  An object is the list of its members in the order in which they were first given.  Looking a
  name up finds its first member; inserting replaces the value in place or appends a member.

  Main interface: `Json.lookup`, `Json.insert`, `Json.same` (equality of values, in which the
  order of members does not count), and structural `DecidableEq`.
-/
import PagedTable.Binary64

namespace PagedTable

/-! ## §1. Values -/

/-- A number is an integer or a finite 64-bit float; `1` and `1.0` are different numbers. -/
inductive Number where
  | int (value : Int)
  | float (value : Binary64)
  deriving DecidableEq, Repr

/-- A JSON value; the members of an object are in order. -/
inductive Json where
  | null
  | bool (value : Bool)
  | num (value : Number)
  | str (value : String)
  | arr (items : List Json)
  | obj (members : List (String × Json))
  deriving Repr, Inhabited

namespace Json

/-- The integer as a JSON number. -/
def int (n : Int) : Json := .num (.int n)

/-- An array of strings. -/
def texts (items : List String) : Json := .arr (items.map .str)

/-- A string, or `null` for none. -/
def textOrNull (text : Option String) : Json := text.elim .null .str

/-- The natural number a value is, if it is one. -/
def nat? : Json → Option Nat
  | .num (.int (.ofNat n)) => some n
  | _ => none

/-- The text a value is, if it is one. -/
def str? : Json → Option String
  | .str s => some s
  | _ => none

/-- The truth value a value is, if it is one. -/
def bool? : Json → Option Bool
  | .bool b => some b
  | _ => none

/-- The items of an array; every other value has none. -/
def items : Json → List Json
  | .arr items => items
  | _ => []

/-- The members of an object; every other value has none. -/
def members : Json → List (String × Json)
  | .obj members => members
  | _ => []

/-! ## §2. Members -/

/-- The value of the first member with the name. -/
def lookup (name : String) : List (String × Json) → Option Json
  | [] => none
  | (key, value) :: rest => if key = name then some value else lookup name rest

/-- Gives the name the value: in the place of its first member, or as a new last member. -/
def insert (name : String) (value : Json) : List (String × Json) → List (String × Json)
  | [] => [(name, value)]
  | (key, old) :: rest =>
    if key = name then (key, value) :: rest else (key, old) :: insert name value rest

/-- The object that results from inserting the members one after the other. -/
def ofMembers (members : List (String × Json)) : Json :=
  .obj (members.foldl (fun acc (name, value) => insert name value acc) [])

/-- The member of an object; every other value has none. -/
def get? (value : Json) (name : String) : Option Json := lookup name value.members

/-- An empty list of members has no value under any name. -/
@[simp] theorem lookup_nil (name : String) : lookup name [] = none := rfl

/-- An inserted value is found under its name. -/
theorem lookup_insert_self (name : String) (value : Json) (members : List (String × Json)) :
    lookup name (insert name value members) = some value := by
  induction members with
  | nil => simp [insert, lookup]
  | cons head rest ih =>
    obtain ⟨key, old⟩ := head
    by_cases h : key = name <;> simp [insert, lookup, h, ih]

/-- Inserting a value leaves the values under all other names alone. -/
theorem lookup_insert_of_ne {name other : String} (h : other ≠ name) (value : Json)
    (members : List (String × Json)) :
    lookup other (insert name value members) = lookup other members := by
  induction members with
  | nil => simp [insert, lookup, h.symm]
  | cons head rest ih =>
    obtain ⟨key, old⟩ := head
    by_cases hk : key = name
    · simp [insert, lookup, hk, h.symm]
    · simp [insert, lookup, hk, ih]

/-! ## §3. Equality of values -/

/-- Equality of numbers of one kind; an integer never equals a float. -/
def sameNumber : Number → Number → Bool
  | .int m, .int n => m == n
  | .float x, .float y => x.same y
  | _, _ => false

mutual

/-- Equality of values.  Objects are equal as maps: they have equally many members, and each
member of the one is equal to the other's member of that name. -/
def same : Json → Json → Bool
  | .null, .null => true
  | .bool a, .bool b => a == b
  | .num m, .num n => sameNumber m n
  | .str s, .str t => s == t
  | .arr as, .arr bs => sameItems as bs
  | .obj as, .obj bs => as.length == bs.length && sameMembers as bs
  | _, _ => false

/-- Arrays are equal when they have equally many items, equal in turn. -/
def sameItems : List Json → List Json → Bool
  | [], [] => true
  | a :: as, b :: bs => same a b && sameItems as bs
  | _, _ => false

/-- Every member of the first list has an equal partner of its name in the second. -/
def sameMembers : List (String × Json) → List (String × Json) → Bool
  | [], _ => true
  | (name, value) :: rest, others =>
    (match lookup name others with
      | some other => same value other
      | none => false) && sameMembers rest others

end

/-! ## §4. Structural equality is decidable -/

mutual

/-- Compares two values. -/
private def eqDecision : (a b : Json) → Decidable (a = b)
  | .null, .null => isTrue rfl
  | .bool a, .bool b => decidable_of_iff (a = b) (by simp)
  | .num a, .num b => decidable_of_iff (a = b) (by simp)
  | .str a, .str b => decidable_of_iff (a = b) (by simp)
  | .arr as, .arr bs =>
    have := itemsDecision as bs
    decidable_of_iff (as = bs) (by simp)
  | .obj as, .obj bs =>
    have := membersDecision as bs
    decidable_of_iff (as = bs) (by simp)
  | .null, .bool _ | .null, .num _ | .null, .str _ | .null, .arr _ | .null, .obj _
  | .bool _, .null | .bool _, .num _ | .bool _, .str _ | .bool _, .arr _ | .bool _, .obj _
  | .num _, .null | .num _, .bool _ | .num _, .str _ | .num _, .arr _ | .num _, .obj _
  | .str _, .null | .str _, .bool _ | .str _, .num _ | .str _, .arr _ | .str _, .obj _
  | .arr _, .null | .arr _, .bool _ | .arr _, .num _ | .arr _, .str _ | .arr _, .obj _
  | .obj _, .null | .obj _, .bool _ | .obj _, .num _ | .obj _, .str _ | .obj _, .arr _ =>
    isFalse nofun

/-- Compares two lists of items. -/
private def itemsDecision : (as bs : List Json) → Decidable (as = bs)
  | [], [] => isTrue rfl
  | a :: as, b :: bs =>
    have := eqDecision a b
    have := itemsDecision as bs
    decidable_of_iff (a = b ∧ as = bs) (by simp)
  | [], _ :: _ | _ :: _, [] => isFalse nofun

/-- Compares two lists of members, their order included. -/
private def membersDecision : (as bs : List (String × Json)) → Decidable (as = bs)
  | [], [] => isTrue rfl
  | (m, a) :: as, (n, b) :: bs =>
    have := eqDecision a b
    have := membersDecision as bs
    decidable_of_iff (m = n ∧ a = b ∧ as = bs) (by simp [and_assoc])
  | [], _ :: _ | _ :: _, [] => isFalse nofun

end

instance : DecidableEq Json := eqDecision

end Json
end PagedTable
