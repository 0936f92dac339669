/-
  PagedTable.Proofs.Log.Lines — a log line is one line, and says what the event says.

  Texts from requests and errors flow into the fields of events.  Whatever is in them, the line of
  an event is the text of one object, so it has no line feed and no forged member: when the names
  of the fields are distinct and none of them is `event` or `severity`, nothing is replaced while
  the object is put together, and reading the line gives the event back.  The fields are in the
  order of their names, so how they were listed does not show.

      sortFields_eq_of_perm — fields of distinct names are sorted alike however they were listed
      parse?_line           — reading the line of an event gives its object
      severityOf?_line      — the severity can be read off the line
      written_faithful      — the text written for an event
-/
import PagedTable.Log
import PagedTable.Proofs.Json.Members
import PagedTable.Proofs.Json.Printable
import PagedTable.Proofs.Json.RoundTrip

namespace PagedTable

namespace Event

/-! ## §1. Fields in the order of their names -/

/-- Placing a field adds this field. -/
theorem perm_placeField (field : String × String) (sorted : List (String × String)) :
    (placeField field sorted).Perm (field :: sorted) := by
  induction sorted with
  | nil => exact .refl _
  | cons head rest ih =>
      rw [placeField]
      by_cases behind : head.1 ≤ field.1
      · rw [if_pos behind]
        exact (ih.cons head).trans (.swap field head rest)
      · rw [if_neg behind]

/-- Placing a field keeps the names in order. -/
theorem pairwise_placeField (field : String × String) {sorted : List (String × String)}
    (h : sorted.Pairwise (·.1 ≤ ·.1)) : (placeField field sorted).Pairwise (·.1 ≤ ·.1) := by
  induction sorted with
  | nil => exact List.pairwise_singleton _ _
  | cons head rest ih =>
      obtain ⟨first, others⟩ := List.pairwise_cons.1 h
      rw [placeField]
      by_cases behind : head.1 ≤ field.1
      · rw [if_pos behind]
        refine List.pairwise_cons.2 ⟨fun other mem => ?_, ih others⟩
        rcases List.mem_cons.1 ((perm_placeField field rest).mem_iff.1 mem) with rfl | mem
        · exact behind
        · exact first other mem
      · rw [if_neg behind]
        have before : field.1 ≤ head.1 := (String.le_total head.1 field.1).resolve_left behind
        refine List.pairwise_cons.2 ⟨fun other mem => ?_, h⟩
        rcases List.mem_cons.1 mem with rfl | mem
        · exact before
        · exact String.le_trans before (first other mem)

/-- Fields placed one after the other come to those already there, in order. -/
theorem foldl_placeField (fields : List (String × String)) {sorted : List (String × String)}
    (h : sorted.Pairwise (·.1 ≤ ·.1)) :
    (fields.foldl (fun sorted field => placeField field sorted) sorted).Perm (fields ++ sorted)
      ∧ (fields.foldl (fun sorted field => placeField field sorted) sorted).Pairwise
          (·.1 ≤ ·.1) := by
  induction fields generalizing sorted with
  | nil => exact ⟨.refl sorted, h⟩
  | cons field rest ih =>
      obtain ⟨perm, ordered⟩ := ih (pairwise_placeField field h)
      have placed := (perm_placeField field sorted).append_left rest
      exact ⟨(perm.trans placed).trans List.perm_middle, ordered⟩

/-- Sorting fields permutes them. -/
theorem perm_sortFields (fields : List (String × String)) : (sortFields fields).Perm fields := by
  have perm := (foldl_placeField fields .nil).1
  rwa [List.append_nil] at perm

/-- **Fields of distinct names are sorted into ascending order.** -/
theorem ascending_sortFields {fields : List (String × String)}
    (distinct : (fields.map Prod.fst).Nodup) : (sortFields fields).Pairwise (·.1 < ·.1) := by
  have ordered : (sortFields fields).Pairwise (·.1 ≤ ·.1) := (foldl_placeField fields .nil).2
  -- Sorting only gives `≤`; that no name comes twice makes the order strict.
  have apart : (sortFields fields).Pairwise (·.1 ≠ ·.1) :=
    List.pairwise_map.1 (((perm_sortFields fields).map Prod.fst).nodup_iff.2 distinct)
  refine (ordered.and apart).imp fun {a b} h => ?_
  exact String.not_le.1 fun above => h.2 (String.le_antisymm h.1 above)

/-- **How fields of distinct names were listed does not show when they are sorted.** -/
theorem sortFields_eq_of_perm {fields others : List (String × String)} (same : others.Perm fields)
    (distinct : (fields.map Prod.fst).Nodup) : sortFields others = sortFields fields := by
  have distinct' : (others.map Prod.fst).Nodup := (same.map Prod.fst).nodup_iff.2 distinct
  have perm : (sortFields others).Perm (sortFields fields) :=
    ((perm_sortFields others).trans same).trans (perm_sortFields fields).symm
  exact perm.eq_of_pairwise (fun a b _ _ below above => absurd above (String.lt_asymm below))
    (ascending_sortFields distinct') (ascending_sortFields distinct)

/-! ## §2. The object of an event -/

/-- The names of the fields are distinct, and none is one of the two that every line has. -/
structure WellNamed (e : Event) : Prop where
  distinct : (e.fields.map Prod.fst).Nodup
  unreserved : ∀ name ∈ ["event", "severity"], name ∉ e.fields.map Prod.fst

instance (e : Event) : Decidable e.WellNamed :=
  decidable_of_iff ((e.fields.map Prod.fst).Nodup
    ∧ ∀ name ∈ ["event", "severity"], name ∉ e.fields.map Prod.fst)
    ⟨fun h => ⟨h.1, h.2⟩, fun h => ⟨h.distinct, h.unreserved⟩⟩

/-- Named texts as members. -/
def textMembers (texts : List (String × String)) : List (String × Json) :=
  texts.map fun (name, text) => (name, .str text)

/-- The named texts of a line: the name of the event, its severity and the fields. -/
def texts (e : Event) (fields : List (String × String)) : List (String × String) :=
  ("event", e.name) :: ("severity", e.severity.name) :: fields

/-- The names in a text list are those of its members. -/
theorem names_textMembers (texts : List (String × String)) :
    (textMembers texts).map Prod.fst = texts.map Prod.fst := by
  rw [textMembers, List.map_map]
  rfl

/-- In the line of an event no name comes twice. -/
theorem WellNamed.nodup_texts {e : Event} (h : e.WellNamed) :
    ((e.texts (sortFields e.fields)).map Prod.fst).Nodup := by
  have names := (perm_sortFields e.fields).map Prod.fst
  have fields : ((sortFields e.fields).map Prod.fst).Nodup := names.nodup_iff.2 h.distinct
  have reserved : ∀ name ∈ ["event", "severity"], name ∉ (sortFields e.fields).map Prod.fst :=
    fun name mem inside => h.unreserved name mem (names.mem_iff.1 inside)
  show ("event" :: "severity" :: (sortFields e.fields).map Prod.fst).Nodup
  have severity := List.nodup_cons.2 ⟨reserved "severity" (by decide), fields⟩
  refine List.nodup_cons.2 ⟨fun mem => ?_, severity⟩
  rcases List.mem_cons.1 mem with same | mem
  · exact absurd same (by decide)
  · exact reserved "event" (by decide) mem

/-- **The object of an event has its name, its severity and its fields in order**, and nothing has
been replaced. -/
theorem WellNamed.toJson_eq {e : Event} (h : e.WellNamed) :
    e.toJson = .obj (textMembers (e.texts (sortFields e.fields))) := by
  apply Json.ofMembers_of_nodup
  show ((textMembers (e.texts (sortFields e.fields))).map Prod.fst).Nodup
  rw [names_textMembers]
  exact h.nodup_texts

/-! ## §3. Reading a line -/

/-- Texts hold no numbers. -/
theorem integral_textMembers (texts : List (String × String)) :
    (Json.obj (textMembers texts)).Integral := by
  induction texts with
  | nil => exact True.intro
  | cons head rest ih => exact ⟨True.intro, ih⟩

/-- Written members are read as the texts they were. -/
theorem membersToJson?_textMembers (texts : List (String × String)) :
    Literal.membersToJson? (Literal.ofMembers (textMembers texts)) = some (textMembers texts) := by
  induction texts with
  | nil => rfl
  | cons head rest ih =>
      show ((Literal.membersToJson? (Literal.ofMembers (textMembers rest))).map
        ((head.1, Json.str head.2) :: ·)) = _
      rw [ih]
      rfl

/-- Texts of distinct names are read as the object that was written. -/
theorem toJson?_textMembers {texts : List (String × String)}
    (distinct : (texts.map Prod.fst).Nodup) :
    (Literal.ofJson (.obj (textMembers texts))).toJson? = some (.obj (textMembers texts)) := by
  have members : ((textMembers texts).map Prod.fst).Nodup := by rwa [names_textMembers]
  rw [Literal.ofJson, Literal.toJson?, membersToJson?_textMembers, Option.map_some,
    Json.ofMembers_of_nodup members]

end Event

/-- A blank behind a text changes nothing about what it is read as. -/
theorem Literal.parse?_push {text : String} {l : Literal} {c : Char} (h : parse? text = some l)
    (space : Token.isSpace c = true) : parse? (text.push c) = some l := by
  rw [parse?_eq_some_iff] at h ⊢
  rw [String.toList_push]
  exact h.append_blank space

namespace Event

variable {e : Event}

/-- **The line of an event is read as its texts, each member as it was written.** -/
theorem WellNamed.parse?_line (h : e.WellNamed) :
    Literal.parse? e.line
      = some (.ofJson (.obj (textMembers (e.texts (sortFields e.fields))))) := by
  rw [line, h.toJson_eq]
  exact Literal.parse?_render (integral_textMembers _)

/-- The severity that a line gives. -/
def severityOf? (line : String) : Option Severity :=
  (Json.parse? line).bind fun v => ((v.get? "severity").bind Json.str?).bind Severity.ofName?

/-- **The severity of an event can be read off its line.** -/
theorem WellNamed.severityOf?_line (h : e.WellNamed) : severityOf? e.line = some e.severity := by
  have value : Json.parse? e.line = some (.obj (textMembers (e.texts (sortFields e.fields)))) := by
    rw [Json.parse?, h.parse?_line]
    exact toJson?_textMembers h.nodup_texts
  have named : Severity.ofName? e.severity.name = some e.severity := by
    cases e.severity <;> rfl
  rw [severityOf?, value, ← named]
  rfl

/-! ## §4. What is written -/

/-- **What is written for an event is one line that says what the event says.**  Whatever texts
the event holds, if its fields have distinct names other than `event` and `severity`: the only
line feed is at the end; the text is an object whose members are the name of the event, its
severity, and then the fields in the ascending order of their names, each once and with the text
it was given; and fields listed in another order are written alike. -/
theorem written_faithful (e : Event) (h : e.WellNamed) :
    (∃ front, e.written.toList = front ++ ['\n'] ∧ '\n' ∉ front)
      ∧ (∃ fields, fields.Perm e.fields ∧ fields.Pairwise (·.1 < ·.1)
          ∧ Literal.parse? e.written = some (.ofJson (.obj (textMembers (e.texts fields))))
          ∧ Json.parse? e.written = some (.obj (textMembers (e.texts fields))))
      ∧ ∀ fields, fields.Perm e.fields → ({ e with fields } : Event).written = e.written := by
  refine ⟨⟨e.line.toList, String.toList_push '\n', e.toJson.lineFeed_notMem⟩, ?_, ?_⟩
  · have read := Literal.parse?_push h.parse?_line (c := '\n') rfl
    refine ⟨sortFields e.fields, perm_sortFields e.fields, ascending_sortFields h.distinct, read,
      ?_⟩
    rw [Json.parse?, written, read]
    exact toJson?_textMembers h.nodup_texts
  · intro fields same
    have sorted := sortFields_eq_of_perm same h.distinct
    rw [written, written, line, line, toJson, toJson, sorted]

/-- A failed query whose message has a quote and a line feed in it, and tries to forge a member. -/
def forgingEvent : Event :=
  ⟨.error, "TABLE_QUERY_FAILED",
    [("query_id", "7"), ("error", "bad\n\",\"severity\":\"INFO\"")]⟩

/-- The message stays one text, and the fields are in the order of their names. -/
theorem forgingEvent_written_faithful :
    forgingEvent.WellNamed
      ∧ (∃ front, forgingEvent.written.toList = front ++ ['\n'] ∧ '\n' ∉ front)
      ∧ ∃ fields, fields.Perm forgingEvent.fields ∧ fields.Pairwise (·.1 < ·.1)
          ∧ Json.parse? forgingEvent.written
              = some (.obj (textMembers (forgingEvent.texts fields))) := by
  have named : forgingEvent.WellNamed := by decide
  obtain ⟨single, ⟨fields, perm, ascending, -, value⟩, -⟩ := written_faithful forgingEvent named
  exact ⟨named, single, fields, perm, ascending, value⟩

end Event
end PagedTable
