/-
  PagedTable.Store.Memory — collections of documents in memory.

  A store is a list of named collections, a collection the list of its documents in the order of
  insertion; a collection that is not there is empty.  Finds and pipelines are evaluated directly:
  a stage is a function on lists of documents.

  Main interface: `Store`, `Store.insert`, `Store.find`, `Store.aggregate`, `Store.executor`.
-/
import PagedTable.Filter.Matcher
import PagedTable.Store.Executor

namespace PagedTable

/-! ## §1. Collections -/

/-- Named collections of documents, in the order of their first insertion. -/
structure Store where
  collections : List (String × List Json) := []
  deriving Repr, Inhabited

namespace Store

/-- The documents of a collection. -/
def documents (s : Store) (collection : String) : List Json :=
  (s.collections.lookup collection).getD []

/-- Appends a document to the collection of a name, or to a new one. -/
def insertInto (collection : String) (document : Json) :
    List (String × List Json) → List (String × List Json)
  | [] => [(collection, [document])]
  | (name, documents) :: rest =>
    if name = collection then (name, documents ++ [document]) :: rest
    else (name, documents) :: insertInto collection document rest

/-- The store with one more document. -/
def insert (s : Store) (collection : String) (document : Json) : Store :=
  ⟨insertInto collection document s.collections⟩

/-- The store with more documents. -/
def insertMany (s : Store) (collection : String) (documents : List Json) : Store :=
  documents.foldl (·.insert collection ·) s

/-- The documents of a collection that satisfy a filter; all for none. -/
def matching (s : Store) (collection : String) :
    Option Filter → Except StoreError (List Json)
  | none => .ok (s.documents collection)
  | some filter => filter.prepare.map fun matcher =>
      (s.documents collection).filter matcher.accepts

end Store

/-! ## §2. Computed fields -/

/-- An element of a list; negative positions count from the end. -/
def elementAt? (items : List Json) : Int → Option Json
  | .ofNat n => items[n]?
  | .negSucc n => if n < items.length then items[items.length - 1 - n]? else none

/-- A member as an object of its name and its value. -/
def pairOf (member : String × Json) : Json := .obj [("k", .str member.1), ("v", member.2)]

/-- The value of an expression on a document; `none` leaves the field unset. -/
def Expression.eval (document : Json) : Expression → Except StoreError (Option Json)
  | field path => .ok (document.getPath? path)
  | objectToArray path =>
    match document.getPath? path with
    | none | some .null => .ok (some .null)
    | some (.obj members) => .ok (some (.arr (members.map pairOf)))
    | some _ => .error (.stage (.notAnObject path))
  | elementAt path position =>
    match document.getPath? path with
    | none | some .null => .ok (some .null)
    | some (.arr items) => .ok (elementAt? items position)
    | some _ => .error (.stage (.notAnArray path))

namespace Projection

/-- Copies the value at a path, if there is one. -/
def copy (document target : Json) (path : String) : Json :=
  match document.getPath? path with
  | some value => target.setPath path value
  | none => target

/-- The projection of one document. -/
def apply (p : Projection) (document : Json) : Except StoreError Json :=
  let kept := ("_id" :: p.kept).foldl (copy document) (.obj [])
  (p.expression.eval document).map fun
    | some value => kept.setPath p.field value
    | none => kept

end Projection

/-! ## §3. Stages -/

/-- Applies a function that may fail to every document; the first failure counts. -/
def mapRows (f : Json → Except StoreError Json) : List Json → Except StoreError (List Json)
  | [] => .ok []
  | row :: rest =>
    match f row with
    | .error e => .error e
    | .ok result => (mapRows f rest).map (result :: ·)

/-- The document that carries a number of rows; none if there are no rows. -/
def countRow (field : String) (rows : List Json) : List Json :=
  if rows.isEmpty then [] else [.obj [(field, .int rows.length)]]

namespace Store

/-- The documents that a lookup joins to a document.  A value that is not there counts as null. -/
def joined (s : Store) (l : Lookup) (document : Json) : List Json :=
  let key := (document.getPath? l.localField).getD .null
  (s.documents l.collection).filter fun foreign =>
    ((foreign.getPath? l.foreignField).getD .null).equalTo key

/-- A document with what a lookup joins to it, in an array that may be empty. -/
def lookup (s : Store) (l : Lookup) (document : Json) : Json :=
  document.setPath l.target (.arr (s.joined l document))

/-- The result of one stage. -/
def runStage (s : Store) (rows : List Json) : Stage → Except StoreError (List Json)
  | .filter f => f.prepare.map fun matcher => rows.filter matcher.accepts
  | .project p => mapRows p.apply rows
  | .lookup l => .ok (rows.map (s.lookup l))
  | .sort keys => .ok (SortKey.sort keys rows)
  | .skip n => .ok (rows.drop n)
  | .limit n => .ok (rows.take n)
  | .count field => .ok (countRow field rows)

/-- The result of stages one after the other; the first failure counts. -/
def runStages (s : Store) (rows : List Json) : List Stage → Except StoreError (List Json)
  | [] => .ok rows
  | stage :: rest =>
    match s.runStage rows stage with
    | .error e => .error e
    | .ok rows => runStages s rows rest

/-! ## §4. Queries -/

/-- The number of documents of a collection that satisfy a filter. -/
def count (s : Store) (collection : String) (filter : Option Filter) : Except StoreError Nat :=
  (s.matching collection filter).map List.length

/-- Rows without the first ones, cut to a number if one is given. -/
def window (skip : Nat) (limit : Option Nat) (rows : List Json) : List Json :=
  limit.elim (rows.drop skip) (rows.drop skip).take

/-- The page of a find. -/
def find (s : Store) (collection : String) (q : FindQuery) : Except StoreError (List Json) :=
  (s.matching collection q.filter).map fun rows =>
    window q.skip q.limit (SortKey.sort q.sort rows)

/-- The result of a pipeline on a collection. -/
def aggregate (s : Store) (collection : String) (stages : List Stage) :
    Except StoreError (List Json) :=
  s.runStages (s.documents collection) stages

/-- One collection as an executor.  It reads the store and leaves the world alone. -/
def executor (s : Store) (collection : String) (World : Type) : Executor World where
  count filter world := (s.count collection filter, world)
  find query world := (s.find collection query, world)
  aggregate stages world := (s.aggregate collection stages, world)

end Store
end PagedTable
