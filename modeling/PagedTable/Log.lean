/-
  PagedTable.Log — structured events and their lines.

  An event has a severity, a name and named texts.  Its line is one JSON object: the name first,
  the severity second, then the texts in the order of their names.  Events below a threshold are
  dropped; errors go to one stream and everything else to another.

  Main interface: `Event.line`, `Severity.admits`, `Log.split`.
-/
import PagedTable.Json.Printer
import PagedTable.Json.Schema

namespace PagedTable

/-! ## §1. Severities -/

/-- How much an event matters. -/
inductive Severity where
  /-- Details of compilation. -/
  | trace
  /-- Normal operation. -/
  | info
  /-- Input that is tolerated but has no effect. -/
  | warn
  /-- A failed request. -/
  | error
  deriving DecidableEq, Repr

namespace Severity

/-- The severities, the least first. -/
def all : List Severity := [trace, info, warn, error]

/-- The place of a severity among them. -/
def rank : Severity → Nat
  | trace => 0
  | info => 1
  | warn => 2
  | error => 3

/-- The name of a severity in lines and settings. -/
def name : Severity → String
  | trace => "TRACE"
  | info => "INFO"
  | warn => "WARN"
  | error => "ERROR"

/-- The severity with a name. -/
def ofName? (name : String) : Option Severity := all.find? (·.name = name)

/-- Does a threshold let events of a severity through? -/
def admits (threshold severity : Severity) : Bool := threshold.rank ≤ severity.rank

/-- A severity is written as its name. -/
def toJson (s : Severity) : Json := .str s.name

/-- A severity is read as one of the names. -/
def ofLiteral? : Literal → Option Severity := Literal.oneOf? ofName?

end Severity

/-! ## §2. Events -/

/-- Something that happened, with named texts about it. -/
structure Event where
  severity : Severity
  name : String
  fields : List (String × String)
  deriving DecidableEq, Repr

namespace Event

/-- Puts a field behind those whose name is not greater. -/
def placeField (field : String × String) : List (String × String) → List (String × String)
  | [] => [field]
  | head :: rest =>
    if head.1 ≤ field.1 then head :: placeField field rest else field :: head :: rest

/-- The fields in the order of their names; fields of one name keep their order. -/
def sortFields (fields : List (String × String)) : List (String × String) :=
  fields.foldl (fun sorted field => placeField field sorted) []

/-- The event as an object. -/
def toJson (e : Event) : Json :=
  Json.ofMembers <|
    ("event", .str e.name) :: ("severity", e.severity.toJson) ::
      (sortFields e.fields).map fun (name, text) => (name, .str text)

/-- The line of an event, without the line feed at its end. -/
def line (e : Event) : String := e.toJson.render

/-- The text written for an event: its line and a line feed. -/
def written (e : Event) : String := e.line.push '\n'

end Event

/-! ## §3. Streams -/

/-- The lines written to the two streams. -/
structure Log where
  output : List String
  errors : List String
  deriving DecidableEq, Repr

/-- What a threshold lets through of a sequence of events, errors apart. -/
def Log.split (threshold : Severity) (events : List Event) : Log :=
  let (errors, others) := (events.filter (threshold.admits ·.severity)).partition
    (Severity.error.admits ·.severity)
  { output := others.map Event.line, errors := errors.map Event.line }

end PagedTable
