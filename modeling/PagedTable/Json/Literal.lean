/-
  PagedTable.Json.Literal — JSON as it was written, before members are merged.

  A literal keeps what a value forgets: repeated member names, and strings and numbers that
  denote nothing.  It is built from tokens by a stack machine that reads one token at a time.
  `toJson?` merges repeated names (the last value, in the place of the first) and fails if
  anything denotes nothing.

  Main interface: `Literal.parse?`, `Literal.toJson?`, `Literal.ofJson`, `Json.parse?`.
-/
import PagedTable.Json.Token

namespace PagedTable

/-- A JSON text as a tree; `none` stands for a string or number that denotes nothing. -/
inductive Literal where
  | null
  | bool (value : Bool)
  | num (value : Option Number)
  | str (value : Option String)
  | arr (items : List Literal)
  | obj (members : List (Option String × Literal))
  deriving Repr, Inhabited

namespace Literal

/-! ## §1. From tokens to a tree -/

/-- A container that waits for a value inside it.  What it holds so far is in reverse. -/
inductive Frame where
  | arr (items : List Literal)
  | obj (members : List (Option String × Literal)) (name : Option String)
  deriving Repr

/-- What may come next, and the containers around it, innermost first. -/
inductive State where
  /-- A value; in a bracket just opened, also its end. -/
  | atValue (stack : List Frame) (orEnd : Bool)
  /-- A member name; in a brace just opened, also its end. -/
  | atName (stack : List Frame) (members : List (Option String × Literal)) (orEnd : Bool)
  /-- The colon after a member name. -/
  | atColon (stack : List Frame) (members : List (Option String × Literal)) (name : Option String)
  /-- A comma or the end of an array. -/
  | afterItem (stack : List Frame) (items : List Literal)
  /-- A comma or the end of an object. -/
  | afterMember (stack : List Frame) (members : List (Option String × Literal))
  /-- Nothing: the tree is complete. -/
  | done (tree : Literal)
  deriving Repr

/-- Puts a finished value where it belongs. -/
def State.complete (value : Literal) : List Frame → State
  | [] => .done value
  | .arr items :: rest => .afterItem rest (value :: items)
  | .obj members name :: rest => .afterMember rest ((name, value) :: members)

/-- Reads one token. -/
def State.feed? : State → Token → Option State
  | .atValue stack _, .null => some (complete .null stack)
  | .atValue stack _, .bool b => some (complete (.bool b) stack)
  | .atValue stack _, .num n => some (complete (.num n) stack)
  | .atValue stack _, .str s => some (complete (.str s) stack)
  | .atValue stack _, .openBracket => some (.atValue (.arr [] :: stack) true)
  | .atValue stack _, .openBrace => some (.atName stack [] true)
  | .atValue (.arr [] :: stack) true, .closeBracket => some (complete (.arr []) stack)
  | .atName stack members _, .str name => some (.atColon stack members name)
  | .atName stack [] true, .closeBrace => some (complete (.obj []) stack)
  | .atColon stack members name, .colon => some (.atValue (.obj members name :: stack) false)
  | .afterItem stack items, .comma => some (.atValue (.arr items :: stack) false)
  | .afterItem stack items, .closeBracket => some (complete (.arr items.reverse) stack)
  | .afterMember stack members, .comma => some (.atName stack members false)
  | .afterMember stack members, .closeBrace => some (complete (.obj members.reverse) stack)
  | _, _ => none

/-- Reads further tokens. -/
def State.feedAll? (s : State) : List Token → Option State
  | [] => some s
  | t :: rest => (s.feed? t).bind (·.feedAll? rest)

/-- The tree of a sequence of tokens. -/
def ofTokens? (tokens : List Token) : Option Literal :=
  match State.feedAll? (.atValue [] false) tokens with
  | some (.done tree) => some tree
  | _ => none

/-- The tree of a text: one value with blanks around it. -/
def parse? (text : String) : Option Literal := (Token.scan? text.toList).bind ofTokens?

/-! ## §2. Literals and values -/

mutual

/-- The value that a literal denotes. -/
def toJson? : Literal → Option Json
  | .null => some .null
  | .bool b => some (.bool b)
  | .num n => n.map .num
  | .str s => s.map .str
  | .arr items => (itemsToJson? items).map .arr
  | .obj members => (membersToJson? members).map Json.ofMembers

/-- The values of several literals, if all denote one. -/
def itemsToJson? : List Literal → Option (List Json)
  | [] => some []
  | item :: rest => (toJson? item).bind fun v => (itemsToJson? rest).map (v :: ·)

/-- The named values of several members, if all names and literals denote one. -/
def membersToJson? : List (Option String × Literal) → Option (List (String × Json))
  | [] => some []
  | (name, value) :: rest =>
    name.bind fun k => (toJson? value).bind fun v => (membersToJson? rest).map ((k, v) :: ·)

end

mutual

/-- A value as a literal. -/
def ofJson : Json → Literal
  | .null => .null
  | .bool b => .bool b
  | .num n => .num (some n)
  | .str s => .str (some s)
  | .arr items => .arr (ofItems items)
  | .obj members => .obj (ofMembers members)

/-- Values as literals. -/
def ofItems : List Json → List Literal
  | [] => []
  | item :: rest => ofJson item :: ofItems rest

/-- Members as written members. -/
def ofMembers : List (String × Json) → List (Option String × Literal)
  | [] => []
  | (name, value) :: rest => (some name, ofJson value) :: ofMembers rest

end

end Literal

/-- The value of a JSON text. -/
def Json.parse? (text : String) : Option Json := (Literal.parse? text).bind Literal.toJson?

end PagedTable
