/-
  PagedTable.Json.Path — dotted paths into documents.

  A path is a list of member names, written with dots between them.  `getAt` walks objects only.
  `setAt` creates the objects that are missing on the way and replaces what is not an object.
  `candidates` fans out: where the walk meets an array it goes on in every element that is an
  object, and an array that is reached contributes itself and its elements.

  Main interface: `segments`, `Json.getAt`, `Json.setAt`, `Json.candidates`.
-/
import PagedTable.Json.Basic

namespace PagedTable

/-! ## §1. Segments -/

/-- The pieces between the dots; there is always at least one, possibly empty. -/
def splitDots : List Char → List (List Char)
  | [] => [[]]
  | c :: rest =>
    if c = '.' then [] :: splitDots rest
    else
      match splitDots rest with
      | piece :: pieces => (c :: piece) :: pieces
      | [] => [[c]]

/-- The member names of a dotted path. -/
def segments (path : String) : List String := (splitDots path.toList).map String.ofList

/-- The part of a path before its first dot. -/
def baseField (path : String) : String := String.ofList (path.toList.takeWhile (· != '.'))

namespace Json

/-! ## §2. Reading and writing along a path -/

/-- The value under nested objects. -/
def getAt : List String → Json → Option Json
  | [], value => some value
  | name :: rest, value => (value.get? name).bind (getAt rest)

/-- Puts a value under nested objects. -/
def setAt (value : Json) : List String → Json → Json
  | [], _ => value
  | name :: rest, target =>
    .obj (insert name (setAt value rest ((target.get? name).getD .null)) target.members)

/-- The value at a dotted path. -/
def getPath? (document : Json) (path : String) : Option Json := getAt (segments path) document

/-- The document with a value at a dotted path. -/
def setPath (document : Json) (path : String) (value : Json) : Json :=
  setAt value (segments path) document

/-! ## §3. Fanning out over arrays -/

/-- The values one step further: the member of an object, or of each object in an array. -/
def stepInto (name : String) : Json → List Json
  | .arr items => items.flatMap fun item => (item.get? name).toList
  | value => (value.get? name).toList

/-- All values that a list of names reaches. -/
def reached : List String → Json → List Json
  | [], value => [value]
  | name :: rest, value => (stepInto name value).flatMap (reached rest)

/-- A value and, if it is an array, its elements. -/
def withItems (value : Json) : List Json := value :: value.items

/-- The values a path offers to a comparison, in document order. -/
def candidates (document : Json) (path : String) : List Json :=
  (reached (segments path) document).flatMap withItems

end Json
end PagedTable
