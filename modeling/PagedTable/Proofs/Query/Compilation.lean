/-
  PagedTable.Proofs.Query.Compilation — when a request compiles, and to what.

  A request without reference columns compiles to its find.  A request with reference columns
  compiles to its plan, unless the padding cannot be part of a name or a column that has to be
  joined names no collection.  A free name, on the other hand, is always found.

  Main results:
    * `joins_eq_error_iff` — the joins fail at the first column that names no collection
    * `compile_eq_ok_iff`, `compile_eq_error_iff` — the outcomes of compilation
    * `compile_onPage` — another window changes the window of what is compiled, and nothing else
-/
import PagedTable.Proofs.Query.FreeNames

namespace PagedTable

/-! ## §1. Joins -/

/-- **The joins of a list of columns fail at the first column that names no collection**, and for
no other reason. -/
theorem Column.joins_eq_error_iff {settings : Settings} (nonempty : settings.padding ≠ "")
    {inUse kept : List String} {columns : List Column} {e : CompileError} :
    joins settings inUse kept columns = .error e
      ↔ ∃ c, columns.find? (·.boundCollection?.isNone) = some c ∧ e = .referenceUnbound c.path := by
  induction columns generalizing inUse kept with
  | nil => simp [joins]
  | cons c rest ih =>
      rw [joins]
      cases bound : c.boundCollection? with
      | none =>
          rw [List.find?_cons_of_pos (by rw [bound]; rfl)]
          simp [eq_comm]
      | some collection =>
          rw [List.find?_cons_of_neg (by rw [bound]; simp)]
          -- A name is free, so the rest of the columns decides.
          obtain ⟨target, named⟩ := Option.isSome_iff_exists.1
            (isSome_freeName? inUse (c.flatName settings.padding) nonempty)
          rw [named]
          dsimp only
          split
          · next e' fails =>
            rw [← ih, fails]
          · next others made =>
            rw [← ih, made]
            simp

namespace Request

variable {r : Request} {criteria : Criteria} {settings : Settings}

/-- A plan is missing when its joins are. -/
theorem plan_eq_error_iff {e : CompileError} :
    r.plan criteria settings = .error e
      ↔ Column.joins settings (Column.namesInUse r.columns) r.keptFields r.joinedColumns
          = .error e := by
  rw [plan]
  split
  · next e' fails => rw [fails]; simp
  · next joins made => rw [made]; simp

/-! ## §2. Requests -/

/-- **What a request compiles to.** -/
theorem compile_eq_ok_iff {compiled : Compiled} :
    r.compile criteria settings = .ok compiled
      ↔ (r.hasReferences = false ∧ compiled = .find (r.findQuery criteria))
        ∨ (r.hasReferences = true ∧ paddingFault? settings.padding = none
            ∧ ∃ plan, r.plan criteria settings = .ok plan ∧ compiled = .aggregate plan) := by
  rw [compile, route]
  cases r.hasReferences with
  | false => simp [compileAlong, eq_comm]
  | true =>
      rw [if_pos rfl, compileAlong]
      cases paddingFault? settings.padding with
      | some fault => simp
      | none => cases r.plan criteria settings <;> simp [Except.map, eq_comm]

/-- **When a request does not compile**: with reference columns, when the padding cannot be part of
a name or a joined column names no collection. -/
theorem compile_eq_error_iff {e : CompileError} :
    r.compile criteria settings = .error e
      ↔ r.hasReferences = true
        ∧ ((∃ fault, paddingFault? settings.padding = some fault
              ∧ e = .invalidPadding settings.padding fault.reason)
          ∨ (paddingFault? settings.padding = none
              ∧ ∃ c, r.joinedColumns.find? (·.boundCollection?.isNone) = some c
                ∧ e = .referenceUnbound c.path)) := by
  rw [compile, route]
  cases r.hasReferences with
  | false => simp [compileAlong]
  | true =>
      rw [if_pos rfl, compileAlong]
      cases fault : paddingFault? settings.padding with
      | some fault => simp [eq_comm]
      | none =>
          rw [← Column.joins_eq_error_iff (nonempty_of_usable fault), ← plan_eq_error_iff]
          cases r.plan criteria settings <;> simp [Except.map]

/-- The name that a join needs is always found. -/
theorem compile_ne_aliasUnresolved (base : String) :
    r.compile criteria settings ≠ .error (.aliasUnresolved base) := by
  intro fails
  obtain ⟨-, ⟨_, -, same⟩ | ⟨-, _, -, same⟩⟩ := compile_eq_error_iff.1 fails
  · exact absurd same (by simp)
  · exact absurd same (by simp)

/-! ## §3. Windows -/

/-- The request for another page of the same table. -/
def onPage (r : Request) (start : UInt64) (length : Int64) : Request := { r with start, length }

end Request

/-- The compiled request with another window. -/
def Compiled.withWindow (skip : Nat) (limit : Option Nat) : Compiled → Compiled
  | .find query => .find { query with skip, limit }
  | .aggregate plan => .aggregate { plan with skip, limit }

/-- The plan for another page has another window. -/
theorem Request.plan_onPage (r : Request) (criteria : Criteria) (settings : Settings)
    (start : UInt64) (length : Int64) :
    (r.onPage start length).plan criteria settings
      = (r.plan criteria settings).map fun plan =>
          { plan with skip := start.toNat, limit := (r.onPage start length).limit } := by
  -- The joins look at the columns only.
  have joins : Column.joins settings (Column.namesInUse (r.onPage start length).columns)
        (r.onPage start length).keptFields (r.onPage start length).joinedColumns
      = Column.joins settings (Column.namesInUse r.columns) r.keptFields r.joinedColumns := rfl
  rw [plan, plan, joins]
  cases Column.joins settings (Column.namesInUse r.columns) r.keptFields r.joinedColumns <;> rfl

/-- **Another page changes the window of the compiled request, and nothing else.** -/
theorem Request.compile_onPage (r : Request) (criteria : Criteria) (settings : Settings)
    (start : UInt64) (length : Int64) :
    (r.onPage start length).compile criteria settings
      = (r.compile criteria settings).map
          (Compiled.withWindow start.toNat (r.onPage start length).limit) := by
  rw [compile, compile, show (r.onPage start length).route = r.route from rfl]
  cases r.route with
  | simple => rfl
  | reference =>
      rw [compileAlong, compileAlong, r.plan_onPage]
      cases paddingFault? settings.padding with
      | some fault => rfl
      | none => cases r.plan criteria settings <;> rfl

end PagedTable
