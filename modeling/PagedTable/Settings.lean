/-
  PagedTable.Settings — the choices that compilation and running depend on.

  Settings are read from JSON with a default for every field, and refused when a name made from
  them could not be a member name at the top of a document.

  Main interface: `Settings`, `Settings.validate`, `Settings.parse`, `paddingFault?`.
-/
import PagedTable.Log

namespace PagedTable

open Literal (withDefault)

/-- The choices, each with its default. -/
structure Settings where
  /-- Which pair of a reference object holds the identifier; negative counts from the end. -/
  idPosition : Int64 := 1
  /-- Appended to the name of a reference until the name is free. -/
  padding : String := "_"
  /-- The member that carries a count. -/
  countField : String := "count"
  /-- Look for reference columns at any depth of the external criteria. -/
  checkNested : Bool := true
  logLevel : Severity := .info
  deriving DecidableEq, Repr

instance : Inhabited Settings := ⟨{}⟩

/-! ## §1. Validation -/

/-- Why a padding cannot be part of a member name at the top of a document. -/
inductive PaddingFault where
  | empty
  | dotted
  | dollar
  deriving DecidableEq, Repr

/-- What is wrong with a padding. -/
def PaddingFault.reason : PaddingFault → String
  | empty => "must not be empty"
  | dotted => "must not contain '.'"
  | dollar => "must not start with '$'"

/-- The first fault of a padding. -/
def paddingFault? (padding : String) : Option PaddingFault :=
  if padding.isEmpty then some .empty
  else if padding.toList.contains '.' then some .dotted
  else if padding.toList.head? = some '$' then some .dollar
  else none

namespace Settings

/-- Why settings are refused. -/
inductive Fault where
  | padding (fault : PaddingFault)
  | countNotTopLevel
  | countDollar
  deriving DecidableEq, Repr

/-- The name of the field at fault. -/
def Fault.field : Fault → String
  | padding _ => "alias_padding"
  | countNotTopLevel | countDollar => "count_field"

/-- What is wrong with settings. -/
def Fault.reason : Fault → String
  | padding fault => fault.reason
  | countNotTopLevel => "must be a non-empty top-level field name"
  | countDollar => "must not start with '$'"

/-- The text of a fault. -/
def Fault.message (fault : Fault) : String :=
  s!"Invalid config value for '{fault.field}': {fault.reason}"

/-- Accepts settings whose padding and count field can be used as names. -/
def validate (s : Settings) : Except Fault Unit :=
  match paddingFault? s.padding with
  | some fault => .error (.padding fault)
  | none =>
    if s.countField.isEmpty || s.countField.toList.contains '.' then .error .countNotTopLevel
    else if s.countField.toList.head? = some '$' then .error .countDollar
    else .ok ()

/-! ## §2. Settings as JSON -/

/-- The settings as a record. -/
def toJson (s : Settings) : Json :=
  .obj
    [ ("reference_id_position", .int s.idPosition.toInt)
    , ("alias_padding", .str s.padding)
    , ("count_field", .str s.countField)
    , ("check_nested_predicates", .bool s.checkNested)
    , ("log_level", s.logLevel.toJson) ]

/-- The names that the fields of settings go by. -/
def fieldNames : List (List String) :=
  [ ["reference_id_position"], ["alias_padding"], ["count_field"], ["check_nested_predicates"]
  , ["log_level"] ]

/-- Settings; no field has to be given. -/
def ofLiteral? (l : Literal) : Option Settings :=
  match l.fieldValues? fieldNames with
  | some [idPosition, padding, countField, checkNested, logLevel] => do
    return { idPosition := ← withDefault 1 Literal.signed64? idPosition
             padding := ← withDefault "_" Literal.text? padding
             countField := ← withDefault "count" Literal.text? countField
             checkNested := ← withDefault true Literal.flag? checkNested
             logLevel := ← withDefault .info Severity.ofLiteral? logLevel }
  | _ => none

/-- The settings as JSON text. -/
def render (s : Settings) : String := s.toJson.render

/-- Why a text is not accepted as settings. -/
inductive Refusal where
  /-- The text is not JSON, or not of settings. -/
  | malformed
  /-- The settings have a fault. -/
  | invalid (fault : Fault)
  deriving DecidableEq, Repr

/-- Reads and validates settings. -/
def parse (text : String) : Except Refusal Settings :=
  match (Literal.parse? text).bind ofLiteral? with
  | none => .error .malformed
  | some s =>
    match s.validate with
    | .ok () => .ok s
    | .error fault => .error (.invalid fault)

end Settings
end PagedTable
