/-
  PagedTable.Proofs.Request.Presentation — reading a request does not depend on how it is presented.

  The schemas of searches, sort directives, columns and requests list their fields with the names
  that these go by.  Each reader looks at the values of the fields only, so its schema describes it,
  from the inner records outward.  Blanks are no part of the tokens of a text, so two texts that
  spell restatements of one literal are the same request, or are refused for the same reason, and
  no text is a request that gives a field twice:

      Search.describes, Order.describes, Column.describes, Request.describes  — record by record
      Request.parse_restated                                                  — two texts
-/
import PagedTable.Request.Wire
import PagedTable.Proofs.Json.Presentation
import PagedTable.Proofs.Json.Syntax

namespace PagedTable

open Literal

/-! ## §1. Schemas -/

/-- The fields of a search term. -/
def Search.schema : Schema := .record [(["value"], .plain), (["regex"], .plain)]

/-- The fields of a sort directive. -/
def Order.schema : Schema := .record [(["column"], .plain), (["dir"], .plain)]

/-- The fields of a column. -/
def Column.schema : Schema := .record
  [ (["data"], .plain), (["name"], .plain), (["searchable"], .plain), (["orderable"], .plain)
  , (["search"], Search.schema), (["reference"], .plain), (["referenceCollection"], .plain)
  , (["referenceFields", "referenceColumns"], .plain)
  , (["referenceOrderField", "referenceOrderColumn"], .plain) ]

/-- The fields of a request. -/
def Request.schema : Schema := .record
  [ (["draw"], .plain), (["start"], .plain), (["length"], .plain), (["search"], Search.schema)
  , (["order"], .list Order.schema), (["columns"], .list Column.schema) ]

/-! ## §2. Readers -/

/-- Search terms are described by their schema. -/
theorem Search.describes : Describes schema ofLiteral? := by
  refine describes_record (rfl : _ = [["value"], ["regex"]]) (by simp [List.Disjoint]) ?_ ?_ ?_
  · intro l failed
    rw [ofLiteral?, failed]
  · rintro l m _ _ hl hm (_ | ⟨value, _ | ⟨regex, _ | _⟩⟩)
    rw [ofLiteral?, ofLiteral?, hl, hm]
    simp only [(describes_plain _).withDefault _ value, (describes_plain _).withDefault _ regex]
  · rintro l _ _ (_ | ⟨value, _ | ⟨regex, _ | _⟩⟩) spoiled
    simp at spoiled

/-- Sort directives are described by their schema. -/
theorem Order.describes : Describes schema ofLiteral? := by
  refine describes_record (rfl : _ = [["column"], ["dir"]]) (by simp [List.Disjoint]) ?_ ?_ ?_
  · intro l failed
    rw [ofLiteral?, failed]
  · rintro l m _ _ hl hm (_ | ⟨column, _ | ⟨direction, _ | _⟩⟩)
    rw [ofLiteral?, ofLiteral?, hl, hm]
    simp only [(describes_plain _).required column, (describes_plain _).required direction]
  · rintro l _ _ (_ | ⟨column, _ | ⟨direction, _ | _⟩⟩) spoiled
    simp at spoiled

/-- Columns are described by their schema. -/
theorem Column.describes : Describes schema ofLiteral? := by
  refine describes_record (rfl : _ = fieldNames) (by simp [fieldNames, List.Disjoint]) ?_ ?_ ?_
  · intro l failed
    rw [ofLiteral?, failed]
  · rintro l m _ _ hl hm (_ | ⟨path, _ | ⟨name, _ | ⟨searchable, _ | ⟨orderable, _ | ⟨search,
      _ | ⟨reference, _ | ⟨collection, _ | ⟨searchFields, _ | ⟨orderField, _ | _⟩⟩⟩⟩⟩⟩⟩⟩⟩)
    rw [ofLiteral?, ofLiteral?, hl, hm]
    simp only [(describes_plain _).required path, (describes_plain _).withDefault _ name,
      (describes_plain _).withDefault _ searchable, (describes_plain _).withDefault _ orderable,
      Search.describes.withDefault _ search, (describes_plain _).withDefault _ reference,
      (describes_plain _).withDefault _ collection, (describes_plain _).withDefault _ searchFields,
      (describes_plain _).withDefault _ orderField]
  · rintro l _ values (_ | ⟨path, _ | ⟨name, _ | ⟨searchable, _ | ⟨orderable, _ | ⟨search,
      _ | ⟨reference, _ | ⟨collection, _ | ⟨searchFields, _ | ⟨orderField, _ | _⟩⟩⟩⟩⟩⟩⟩⟩⟩) spoiled
    -- Only the search of a column is a record.
    simp only [spoiled_cons, not_doubled_plain, not_spoiled_nil, and_false, exists_false,
      false_or, or_false] at spoiled
    obtain ⟨search, rfl, doubled⟩ := spoiled
    have refused := Search.describes.refuses doubled
    simp [ofLiteral?, values, withDefault, refused]

/-- Requests are described by their schema. -/
theorem Request.describes : Describes schema ofLiteral? := by
  refine describes_record
    (rfl : _ = [["draw"], ["start"], ["length"], ["search"], ["order"], ["columns"]])
    (by simp [List.Disjoint]) ?_ ?_ ?_
  · intro l failed
    rw [ofLiteral?, failed]
  · rintro l m _ _ hl hm (_ | ⟨draw, _ | ⟨start, _ | ⟨length, _ | ⟨search, _ | ⟨order,
      _ | ⟨columns, _ | _⟩⟩⟩⟩⟩⟩)
    rw [ofLiteral?, ofLiteral?, hl, hm]
    simp only [(describes_plain _).withDefault _ draw, (describes_plain _).withDefault _ start,
      (describes_plain _).withDefault _ length, Search.describes.withDefault _ search,
      Order.describes.list.withDefault _ order, Column.describes.list.required columns]
  · rintro l _ values (_ | ⟨draw, _ | ⟨start, _ | ⟨length, _ | ⟨search, _ | ⟨order,
      _ | ⟨columns, _ | _⟩⟩⟩⟩⟩⟩) spoiled
    simp only [spoiled_cons, not_doubled_plain, not_spoiled_nil, and_false, exists_false,
      false_or, or_false] at spoiled
    rcases spoiled with ⟨search, rfl, doubled⟩ | ⟨order, rfl, doubled⟩ | ⟨columns, rfl, doubled⟩
    · have refused := Search.describes.refuses doubled
      simp [ofLiteral?, values, withDefault, refused]
    · have refused := Order.describes.list.refuses doubled
      simp [ofLiteral?, values, withDefault, refused]
    · have refused := Column.describes.list.refuses doubled
      simp [ofLiteral?, values, required, refused]

/-! ## §3. Texts -/

namespace Request

/-- A text that is not of a request is refused. -/
theorem parse_of_not_read {text : String}
    (h : (Literal.parse? text).bind ofLiteral? = none) : parse text = .error .malformed := by
  rw [parse, h]

/-- **Reading a request does not depend on how it is presented.**  Of two texts that spell
restatements of one literal, with any blanks, both are read as the same request or both are refused
for the same reason; where a field is given twice, at whatever depth, both are malformed. -/
theorem parse_restated {text other : String} {l m : Literal}
    (spelled : Token.Spells text.toList l.tokens) (respelled : Token.Spells other.toList m.tokens)
    (restated : Restated schema l m) :
    parse text = parse other ∧
    (Doubled schema l → parse text = .error .malformed ∧ parse other = .error .malformed) := by
  have first : (Literal.parse? text).bind ofLiteral? = ofLiteral? l := by
    rw [parse?_eq_some_iff.2 spelled, Option.bind_some]
  have second : (Literal.parse? other).bind ofLiteral? = ofLiteral? l := by
    rw [parse?_eq_some_iff.2 respelled, Option.bind_some, describes.same restated]
  have agree : parse text = parse other := by
    unfold parse
    rw [first, second]
  refine ⟨agree, fun doubled => ?_⟩
  have refused : parse text = .error .malformed :=
    parse_of_not_read (first.trans (describes.refuses doubled))
  exact ⟨refused, agree.symm.trans refused⟩

end Request

/-- A request for one column. -/
def oneColumn : Literal :=
  .obj
    [ (some "columns", .arr [.obj
        [(some "data", .str (some "user")), (some "referenceFields", .arr [.str (some "name")])]])
    , (some "draw", .num (some (.int 2))) ]

/-- The same request in another order, with another name of a field, and with a note. -/
def notedColumn : Literal :=
  .obj
    [ (some "note", .obj [(none, .num none)])
    , (some "draw", .num (some (.int 2)))
    , (some "columns", .arr [.obj
        [(some "referenceColumns", .arr [.str (some "name")]), (some "data", .str (some "user"))]])]

/-- A request for one column that gives a field twice, under one name and the other. -/
def unclearColumn : Literal :=
  .obj
    [(some "columns", .arr [.obj
      [ (some "referenceFields", .arr []), (some "data", .str (some "user"))
      , (some "referenceColumns", .arr [])]])]

/-- The request with the note is the one without, restated. -/
theorem restated_notedColumn : Restated Request.schema oneColumn notedColumn := by
  have column : Restated Column.schema
      (.obj
        [(some "data", .str (some "user")), (some "referenceFields", .arr [.str (some "name")])])
      (.obj
        [(some "referenceColumns", .arr [.str (some "name")]), (some "data", .str (some "user"))]) :=
    .trans (.reorder (.swap _ _ _))
      (.rename (List.mem_of_getElem? (i := 7) rfl) (by decide) (by decide) _ _)
  refine .trans (.member (List.mem_of_getElem? (i := 5) rfl) (by decide) (.item [] [] column) _) ?_
  refine .trans (.reorder (.swap _ _ _)) (.unknown ?_ _ _)
  simp

/-- In the unclear request a field is given twice. -/
theorem doubled_unclearColumn : Doubled Request.schema unclearColumn := by
  have column : Doubled Column.schema
      (.obj [(some "referenceFields", .arr []), (some "data", .str (some "user")),
        (some "referenceColumns", .arr [])]) :=
    .here (List.mem_of_getElem? (i := 7) rfl) (by decide) (by decide)
      (.cons_cons _ (.cons _ (.cons_cons _ .slnil)))
  exact .member (List.mem_of_getElem? (i := 5) rfl) (by decide) List.mem_cons_self
    (.item List.mem_cons_self column)

/-- The request for one column, without blanks. -/
def oneColumnText : String :=
  "\x7b\"columns\":[\x7b\"data\":\"user\",\"referenceFields\":[\"name\"]\x7d],\"draw\":2\x7d"

/-- The request with the note, which holds half of a surrogate pair and a number beyond all. -/
def notedColumnText : String :=
  "\x7b \"note\": \x7b\"\\ud800\": 1e999\x7d,\n  \"draw\": 2,\n  \"columns\": " ++
    "[\x7b\"referenceColumns\": [\"name\"], \"data\": \"user\"\x7d] \x7d\n"

/-- The unclear request, without blanks. -/
def unclearColumnText : String :=
  "\x7b\"columns\":[\x7b\"referenceFields\":[],\"data\":\"user\",\"referenceColumns\":[]\x7d]\x7d"

/-- The request is accepted and read the same with the note and blanks as without; the unclear one
is refused with blanks and without. -/
theorem oneColumn_parse_restated :
    (Request.parse oneColumnText).map (·.draw) = .ok 2 ∧
    Request.parse oneColumnText = Request.parse notedColumnText ∧
    Request.parse unclearColumnText = .error .malformed ∧
    Request.parse ("\n" ++ unclearColumnText ++ " ") = .error .malformed := by
  have one : Token.Spells oneColumnText.toList oneColumn.tokens :=
    Token.spells_of_scan? (by decide +kernel)
  have noted : Token.Spells notedColumnText.toList notedColumn.tokens :=
    Token.spells_of_scan? (by decide +kernel)
  have unclear : Token.Spells unclearColumnText.toList unclearColumn.tokens :=
    Token.spells_of_scan? (by decide +kernel)
  have blanks : Token.Spells ("\n" ++ unclearColumnText ++ " ").toList unclearColumn.tokens :=
    Token.spells_of_scan? (by decide +kernel)
  refine ⟨by decide +kernel, (Request.parse_restated one noted restated_notedColumn).1, ?_⟩
  exact (Request.parse_restated unclear blanks (.refl _ _)).2 doubled_unclearColumn

end PagedTable
