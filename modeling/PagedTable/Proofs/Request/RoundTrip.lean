/-
  PagedTable.Proofs.Request.RoundTrip — requests and settings survive being written and read.

  Each record is written as one member for each field, under the field's own name, and each field
  is read by a reader that inverts its writer, so the record is read as it was.  All numbers of a
  request and of settings are integers of at most 64 bits, so this holds of the text, too: what
  is parsed is what was rendered, and validation alone decides whether it is accepted.

      Column.inverts, Request.inverts, Settings.inverts  — reading undoes writing, record by record
      Request.integral_toJson, Settings.integral_toJson  — no number is rounded on the way
      wire_roundTrip                                     — parsing undoes rendering
-/
import PagedTable.Request.Wire
import PagedTable.Settings
import PagedTable.Proofs.Json.Records
import PagedTable.Proofs.Json.RoundTrip

namespace PagedTable

open Literal

/-! ## §1. Sets of names -/

namespace NameSet

/-- A name above all others is placed last. -/
theorem place_of_forall_lt {name : String} {names : List String} (h : ∀ n ∈ names, n < name) :
    place name names = names ++ [name] := by
  induction names with
  | nil => rfl
  | cons head rest ih =>
      have below : head < name := h head List.mem_cons_self
      have not_above : ¬ name < head := fun above => String.lt_irrefl _ (String.lt_trans below above)
      have ne : name ≠ head := by
        rintro rfl
        exact String.lt_irrefl _ below
      rw [place, if_neg not_above, if_neg ne, ih fun n mem => h n (List.mem_cons_of_mem head mem)]
      rfl

/-- Ascending names are inserted one behind the other. -/
theorem names_foldl_insert (set : NameSet) {names : List String}
    (h : (set.names ++ names).Pairwise (· < ·)) :
    (names.foldl insert set).names = set.names ++ names := by
  induction names generalizing set with
  | nil => rw [List.foldl_nil, List.append_nil]
  | cons name rest ih =>
      have last : (set.insert name).names = set.names ++ [name] :=
        place_of_forall_lt fun n mem => (List.pairwise_append.1 h).2.2 n mem name List.mem_cons_self
      rw [List.foldl_cons, ih, last, List.append_assoc]
      · rfl
      · rwa [last, List.append_assoc]

/-- Sets of the same names are equal. -/
theorem eq_of_names_eq {a b : NameSet} (h : a.names = b.names) : a = b := by
  cases a
  cases b
  cases h
  rfl

/-- A set is the set of its names. -/
theorem ofList_names (set : NameSet) : ofList set.names = set :=
  eq_of_names_eq (names_foldl_insert empty set.ascending)

end NameSet

/-! ## §2. Records -/

/-- Directions are read back. -/
theorem Direction.inverts : Inverts Direction.ofLiteral? Direction.toJson :=
  inverts_oneOf fun d => by cases d <;> rfl

/-- Severities are read back. -/
theorem Severity.inverts : Inverts Severity.ofLiteral? Severity.toJson :=
  inverts_oneOf fun s => by cases s <;> rfl

/-- Search terms are read back. -/
theorem Search.inverts : Inverts Search.ofLiteral? Search.toJson := by
  intro s
  rw [ofLiteral?, toJson, fieldValues?_ofJson_obj]
  · rfl
  · simp
  · simp [List.Disjoint]

/-- Sort directives are read back. -/
theorem Order.inverts : Inverts Order.ofLiteral? Order.toJson := by
  intro o
  rw [ofLiteral?, toJson, fieldValues?_ofJson_obj]
  · simp only [List.map_cons, List.map_nil, inverts_word64.required, Direction.inverts.required]
    rfl
  · simp
  · simp [List.Disjoint]

/-- Columns are read back. -/
theorem Column.inverts : Inverts Column.ofLiteral? Column.toJson := by
  intro c
  rw [ofLiteral?, toJson, fieldValues?_ofJson_obj]
  · simp only [List.map_cons, List.map_nil, inverts_text.required, inverts_textOrNull.withDefault,
      inverts_flag.withDefault, Search.inverts.withDefault, Json.texts,
      inverts_text.list.withDefault]
    -- The fields are a list in the text and a set in the column.
    have names := NameSet.ofList_names c.searchFields
    exact congrArg (fun searchFields => some { c with searchFields }) names
  · simp [fieldNames]
  · simp [fieldNames, List.Disjoint]

/-- Requests are read back. -/
theorem Request.inverts : Inverts Request.ofLiteral? Request.toJson := by
  intro r
  rw [ofLiteral?, toJson, fieldValues?_ofJson_obj]
  · simp only [List.map_cons, List.map_nil, inverts_word32.withDefault, inverts_word64.withDefault,
      inverts_signed64.withDefault, Search.inverts.withDefault, Order.inverts.list.withDefault,
      Column.inverts.list.required]
    rfl
  · simp
  · simp [List.Disjoint]

/-- Settings are read back. -/
theorem Settings.inverts : Inverts Settings.ofLiteral? Settings.toJson := by
  intro s
  rw [ofLiteral?, toJson, fieldValues?_ofJson_obj]
  · simp only [List.map_cons, List.map_nil, inverts_signed64.withDefault,
      inverts_text.withDefault, inverts_flag.withDefault, Severity.inverts.withDefault]
    rfl
  · simp [fieldNames]
  · simp [fieldNames, List.Disjoint]

/-! ## §3. Numbers -/

/-- A number below 2⁶⁴ is an integer of 64 bits. -/
theorem isWord_of_lt {n : Nat} (h : n < twoTo 64) : IsWord n := by
  have low : (0 : Int) ≤ twoTo 63 := Int.natCast_nonneg _
  exact ⟨by omega, Int.ofNat_lt.2 h⟩

/-- An integer of 64 bits with a sign is one. -/
theorem isWord_toInt (n : Int64) : IsWord n.toInt := by
  have low : -(twoTo 63 : Int) ≤ n.toInt := n.le_toInt
  have high : n.toInt < twoTo 63 := n.toInt_lt
  have half : twoTo 63 < twoTo 64 := by decide
  exact ⟨low, by omega⟩

/-- The items of a list are integral when each item is. -/
theorem Json.integralItems_map {write : α → Json} (h : ∀ x, (write x).Integral) (xs : List α) :
    IntegralItems (xs.map write) := by
  induction xs with
  | nil => exact True.intro
  | cons x rest ih => exact ⟨h x, ih⟩

/-- A text or `null` holds no number. -/
theorem Json.integral_textOrNull (text : Option String) : (textOrNull text).Integral := by
  cases text with
  | none => exact True.intro
  | some s => exact True.intro

/-- A search term holds no number. -/
theorem Search.integral_toJson (s : Search) : s.toJson.Integral :=
  ⟨True.intro, True.intro, True.intro⟩

/-- The position in a sort directive has no sign. -/
theorem Order.integral_toJson (o : Order) : o.toJson.Integral :=
  ⟨isWord_of_lt o.column.toNat_lt, True.intro, True.intro⟩

/-- A column holds no number. -/
theorem Column.integral_toJson (c : Column) : c.toJson.Integral := by
  have text (s : String) : (Json.str s).Integral := True.intro
  have searchFields : (Json.texts c.searchFields.names).Integral :=
    Json.integralItems_map text c.searchFields.names
  exact ⟨True.intro, Json.integral_textOrNull c.name, True.intro, True.intro,
    c.search.integral_toJson, True.intro, Json.integral_textOrNull c.collection, searchFields,
    Json.integral_textOrNull c.orderField, True.intro⟩

/-- The draw and the start have no sign, the length has one. -/
theorem Request.integral_toJson (r : Request) : r.toJson.Integral := by
  have draw : r.draw.toNat < twoTo 64 := Nat.lt_trans r.draw.toNat_lt (by decide)
  exact ⟨isWord_of_lt draw, isWord_of_lt r.start.toNat_lt, isWord_toInt r.length,
    r.search.integral_toJson, Json.integralItems_map Order.integral_toJson r.order,
    Json.integralItems_map Column.integral_toJson r.columns, True.intro⟩

/-- The only number of settings has a sign. -/
theorem Settings.integral_toJson (s : Settings) : s.toJson.Integral :=
  ⟨isWord_toInt s.idPosition, True.intro, True.intro, True.intro, True.intro, True.intro⟩

/-! ## §4. Texts -/

/-- When a text is of a request, validation decides whether the request is accepted. -/
theorem Request.parse_of_read {text : String} {r : Request}
    (read : (Literal.parse? text).bind ofLiteral? = some r) :
    parse text = (r.validate.mapError Refusal.invalid).map fun _ => r := by
  simp only [parse, read]
  cases r.validate with
  | ok => rfl
  | error fault => rfl

/-- When a text is of settings, validation decides whether the settings are accepted. -/
theorem Settings.parse_of_read {text : String} {s : Settings}
    (read : (Literal.parse? text).bind ofLiteral? = some s) :
    parse text = (s.validate.mapError Refusal.invalid).map fun _ => s := by
  simp only [parse, read]
  cases s.validate with
  | ok => rfl
  | error fault => rfl

/-- **Parsing undoes rendering, and validation alone decides.**  A rendered request is parsed to
itself if it is valid and is otherwise refused with the fault that validation finds, and so are
rendered settings: no text, number or choice is lost or changed on the way, and no rendered text
is malformed. -/
theorem wire_roundTrip (r : Request) (s : Settings) :
    Request.parse r.render = (r.validate.mapError Request.Refusal.invalid).map (fun _ => r) ∧
    Settings.parse s.render = (s.validate.mapError Settings.Refusal.invalid).map (fun _ => s) := by
  have request : (Literal.parse? r.render).bind Request.ofLiteral? = some r := by
    rw [Request.render, parse?_render r.integral_toJson, Option.bind_some, Request.inverts]
  have settings : (Literal.parse? s.render).bind Settings.ofLiteral? = some s := by
    rw [Settings.render, parse?_render s.integral_toJson, Option.bind_some, Settings.inverts]
  exact ⟨Request.parse_of_read request, Settings.parse_of_read settings⟩

end PagedTable
