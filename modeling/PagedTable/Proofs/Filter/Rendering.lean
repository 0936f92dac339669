/-
  PagedTable.Proofs.Filter.Rendering — the document of a filter says which filter it is.

  A document has one member for a leaf, under the path of the leaf, or for a node, under the name
  of the node.  An equality is written as its bare operand, and every other condition as an object
  whose names begin with a dollar sign, as those of nodes do.  So as long as no path begins with
  one, and no name in an object that a leaf asks for, nothing is written in two ways:

      same_operand_condition     — an operand is never the document of another condition
      Condition.same_toDocument  — documents of conditions are the same exactly if these are
      same_toDocument            — and so are documents of filters
      select_congr               — filters that are the same select the same rows
      toDocument_unambiguous     — so no two filters are written as one document
-/
import PagedTable.Proofs.Filter.Faults
import PagedTable.Proofs.Json.Equality

namespace PagedTable

/-! ## §1. Filters that are the same -/

/-- Equality of comparisons: of one kind, with operands that are the same. -/
def Comparison.same : Comparison → Comparison → Bool
  | .eq a, .eq b | .ne a, .ne b | .gt a, .gt b | .gte a, .gte b | .lt a, .lt b | .lte a, .lte b =>
    Json.same a b
  | .oneOf as, .oneOf bs => Json.sameItems as bs
  | _, _ => false

/-- Equality of conditions. -/
def Condition.same : Condition → Condition → Bool
  | .compare c, .compare d => c.same d
  | .regex pattern ignoreCase, .regex pattern' ignoreCase' =>
    pattern == pattern' && ignoreCase == ignoreCase'
  | _, _ => false

namespace Filter

mutual

/-- Equality of filters: trees of one shape, with the same leaves. -/
def same : Filter → Filter → Bool
  | .field path c, .field path' d => path == path' && c.same d
  | .and fs, .and gs => sameClauses fs gs
  | .or fs, .or gs => sameClauses fs gs
  | _, _ => false

/-- Equality of lists of filters. -/
def sameClauses : List Filter → List Filter → Bool
  | [], [] => true
  | f :: fs, g :: gs => same f g && sameClauses fs gs
  | _, _ => false

end

end Filter

/-! ## §2. Reserved names -/

/-- Does the name begin as the names of operators do? -/
def isReserved (name : String) : Bool := name.toList.head? == some '$'

/-- Is the condition anything but an equality with an object that has a reserved name? -/
def Condition.unreserved : Condition → Bool
  | .compare (.eq (.obj members)) => members.all fun m => !isReserved m.1
  | _ => true

namespace Filter

mutual

/-- Is no path in the filter reserved, and no name in an object that a leaf asks for? -/
def unreserved : Filter → Bool
  | .field path condition => !isReserved path && condition.unreserved
  | .and clauses | .or clauses => unreservedClauses clauses

/-- The same of several filters. -/
def unreservedClauses : List Filter → Bool
  | [] => true
  | clause :: rest => unreserved clause && unreservedClauses rest

end

end Filter

/-! ## §3. Objects -/

namespace Json

/-- Objects with one member each. -/
theorem same_single (m n : String) (a b : Json) :
    same (obj [(m, a)]) (obj [(n, b)]) = (m == n && same a b) := by
  by_cases h : n = m
  · simp [same, sameMembers, lookup, h]
  · simp [same, sameMembers, lookup, h, Ne.symm h]

/-- Objects that are the same have a name in common, unless they are empty. -/
theorem exists_common_name {ms ns : List (String × Json)} (h : same (obj ms) (obj ns) = true)
    (inhabited : ms ≠ [] ∨ ns ≠ []) : ∃ m ∈ ms, ∃ n ∈ ns, m.1 = n.1 := by
  rw [same, Bool.and_eq_true, beq_iff_eq, sameMembers_iff] at h
  have inhabited' : ms ≠ [] := by
    rintro rfl
    have empty : ns = [] := List.length_eq_zero_iff.1 h.1.symm
    exact inhabited.elim (fun left => left rfl) (fun right => right empty)
  obtain ⟨m, given⟩ := List.exists_mem_of_ne_nil ms inhabited'
  obtain ⟨v, found, -⟩ := h.2 m given
  exact ⟨m, given, _, mem_of_lookup found, rfl⟩

end Json

/-! ## §4. The documents of conditions -/

namespace Comparison

/-- What a comparison compares with, as one value. -/
def operand : Comparison → Json
  | eq operand | ne operand | gt operand | gte operand | lt operand | lte operand => operand
  | oneOf operands => .arr operands

/-- A comparison is its name and its operand. -/
theorem same_eq (c d : Comparison) :
    c.same d = (c.name == d.name && Json.same c.operand d.operand) := by
  cases c <;> cases d <;> simp [same, name, operand, Json.same]

end Comparison

namespace Condition

/-- Is the condition an equality?  Its operand is written bare. -/
def isEquality : Condition → Bool
  | .compare (.eq _) => true
  | _ => false

/-- A comparison that is no equality is written under its name. -/
theorem toDocument_compare {c : Comparison} (h : (compare c).isEquality = false) :
    (compare c).toDocument = .obj [(c.name, c.operand)] := by
  cases c with
  | eq operand => exact absurd h (by simp [isEquality])
  | _ => rfl

/-- All conditions but equalities are written with reserved names. -/
theorem exists_reserved {c : Condition} (h : c.isEquality = false) :
    ∃ members, c.toDocument = .obj members ∧ members ≠ [] ∧
      ∀ m ∈ members, isReserved m.1 = true := by
  cases c with
  | compare c =>
      refine ⟨_, toDocument_compare h, by simp, ?_⟩
      cases c <;> simp [Comparison.name, isReserved]
  | regex pattern ignoreCase =>
      cases ignoreCase <;> exact ⟨_, rfl, by simp, by simp [isReserved]⟩

/-- **An operand is never the document of another condition.** -/
theorem same_operand_condition {operand : Json} {c : Condition}
    (plain : (Condition.compare (.eq operand)).unreserved = true) (h : c.isEquality = false) :
    Json.same operand c.toDocument = false ∧ Json.same c.toDocument operand = false := by
  obtain ⟨members, written, inhabited, reserved⟩ := exists_reserved h
  rw [written]
  cases operand with
  | obj others =>
      have free : ∀ m ∈ others, isReserved m.1 = false := by
        simpa [unreserved] using plain
      constructor <;> refine Bool.eq_false_iff.2 fun same => ?_
      · obtain ⟨m, given, n, given', eq⟩ := Json.exists_common_name same (.inr inhabited)
        exact absurd (eq ▸ free m given) (by simp [reserved n given'])
      · obtain ⟨m, given, n, given', eq⟩ := Json.exists_common_name same (.inl inhabited)
        exact absurd (eq ▸ reserved m given) (by simp [free n given'])
  | _ => exact ⟨rfl, rfl⟩

/-- A comparison under its name is never the document of a pattern. -/
theorem same_comparison_regex (c : Comparison) (v : Json) (pattern : String) (ignoreCase : Bool) :
    Json.same (.obj [(c.name, v)]) (regex pattern ignoreCase).toDocument = false ∧
    Json.same (regex pattern ignoreCase).toDocument (.obj [(c.name, v)]) = false := by
  cases ignoreCase with
  | true => exact ⟨rfl, rfl⟩
  | false =>
      rw [toDocument, Json.same_single, Json.same_single]
      cases c <;> simp [Comparison.name]

/-- Patterns are the same exactly if their documents are. -/
theorem same_regex (pattern pattern' : String) (ignoreCase ignoreCase' : Bool) :
    Json.same (regex pattern ignoreCase).toDocument (regex pattern' ignoreCase').toDocument =
      (regex pattern ignoreCase).same (regex pattern' ignoreCase') := by
  cases ignoreCase <;> cases ignoreCase' <;>
    simp [toDocument, same, Json.same, Json.sameMembers, Json.lookup]

/-- An equality is no other condition. -/
theorem isEquality_congr {c d : Condition} (h : c.same d = true) :
    c.isEquality = d.isEquality := by
  cases c with
  | regex pattern ignoreCase => cases d <;> first | rfl | exact nomatch h
  | compare c =>
      cases d with
      | regex pattern ignoreCase => exact nomatch h
      | compare d => cases c <;> cases d <;> first | rfl | exact absurd h Bool.false_ne_true

/-- An equality has an operand. -/
theorem exists_operand {c : Condition} (h : c.isEquality = true) :
    ∃ operand, c = .compare (.eq operand) := by
  cases c with
  | regex pattern ignoreCase => exact nomatch h
  | compare c => cases c <;> first | exact ⟨_, rfl⟩ | exact absurd h Bool.false_ne_true

/-- Conditions other than equalities are the same exactly if their documents are. -/
theorem same_toDocument_of_not_equality {c d : Condition} (hc : c.isEquality = false)
    (hd : d.isEquality = false) : Json.same c.toDocument d.toDocument = c.same d := by
  cases c with
  | compare c =>
      rw [toDocument_compare hc]
      cases d with
      | compare d => rw [toDocument_compare hd, Json.same_single, same, Comparison.same_eq]
      | regex pattern ignoreCase => exact (same_comparison_regex c _ pattern ignoreCase).1
  | regex pattern ignoreCase =>
      cases d with
      | compare d =>
          rw [toDocument_compare hd]
          exact (same_comparison_regex d _ pattern ignoreCase).2
      | regex pattern' ignoreCase' => exact same_regex pattern pattern' ignoreCase ignoreCase'

/-- **Conditions are the same exactly if their documents are.** -/
theorem same_toDocument {c d : Condition} (hc : c.unreserved = true) (hd : d.unreserved = true) :
    Json.same c.toDocument d.toDocument = c.same d := by
  have apart (h : c.isEquality ≠ d.isEquality) : c.same d = false :=
    Bool.eq_false_iff.2 fun same => h (isEquality_congr same)
  -- Bare operands are compared with bare operands, names with names, and never one with the other.
  cases left : c.isEquality <;> cases right : d.isEquality
  · exact same_toDocument_of_not_equality left right
  · obtain ⟨operand, rfl⟩ := exists_operand right
    rw [apart (by simp [left, right])]
    exact (same_operand_condition hd left).2
  · obtain ⟨operand, rfl⟩ := exists_operand left
    rw [apart (by simp [left, right])]
    exact (same_operand_condition hc right).1
  · obtain ⟨operand, rfl⟩ := exists_operand left
    obtain ⟨operand', rfl⟩ := exists_operand right
    rfl

end Condition

/-! ## §5. The documents of filters -/

/-- A name that is not reserved is none that is. -/
theorem beq_of_reserved {m n : String} (hm : isReserved m = false) (hn : isReserved n = true) :
    (m == n) = false ∧ (n == m) = false := by
  have apart : m ≠ n := by
    rintro rfl
    exact absurd hm (by simp [hn])
  exact ⟨beq_eq_false_iff_ne.2 apart, beq_eq_false_iff_ne.2 apart.symm⟩

namespace Filter

/-- The one name in the document of a filter. -/
def key : Filter → String
  | field path _ => path
  | and _ => "$and"
  | or _ => "$or"

/-- What the document of a filter holds under its name. -/
def body : Filter → Json
  | field _ condition => condition.toDocument
  | and clauses | or clauses => .arr (clauseDocuments clauses)

/-- Documents of filters are compared by their names and by what they hold. -/
theorem same_documents (f g : Filter) :
    Json.same f.toDocument g.toDocument = (f.key == g.key && Json.same f.body g.body) := by
  rw [← Json.same_single]
  cases f <;> cases g <;> rfl

mutual

/-- **Filters are the same exactly if their documents are.** -/
theorem same_toDocument : ∀ {f g : Filter}, f.unreserved = true → g.unreserved = true →
    Json.same f.toDocument g.toDocument = f.same g
  | .field path c, g, hf, hg => by
      rw [unreserved, Bool.and_eq_true, Bool.not_eq_true'] at hf
      rw [same_documents]
      cases g with
      | field path' d =>
          rw [unreserved, Bool.and_eq_true] at hg
          rw [body, body, Condition.same_toDocument hf.2 hg.2]
          rfl
      | and gs => rw [key, key, (beq_of_reserved hf.1 rfl).1]; rfl
      | or gs => rw [key, key, (beq_of_reserved hf.1 rfl).1]; rfl
  | .and fs, g, hf, hg => by
      rw [same_documents]
      cases g with
      | field path' d =>
          rw [unreserved, Bool.and_eq_true, Bool.not_eq_true'] at hg
          rw [key, key, (beq_of_reserved hg.1 rfl).2]
          rfl
      | and gs => exact same_clauseDocuments hf hg
      | or gs => rfl
  | .or fs, g, hf, hg => by
      rw [same_documents]
      cases g with
      | field path' d =>
          rw [unreserved, Bool.and_eq_true, Bool.not_eq_true'] at hg
          rw [key, key, (beq_of_reserved hg.1 rfl).2]
          rfl
      | and gs => rfl
      | or gs => exact same_clauseDocuments hf hg

theorem same_clauseDocuments : ∀ {fs gs : List Filter},
    unreservedClauses fs = true → unreservedClauses gs = true →
    Json.sameItems (clauseDocuments fs) (clauseDocuments gs) = sameClauses fs gs
  | [], [], _, _ => rfl
  | [], _ :: _, _, _ => rfl
  | _ :: _, [], _, _ => rfl
  | f :: fs, g :: gs, hf, hg => by
      rw [unreservedClauses, Bool.and_eq_true] at hf hg
      rw [clauseDocuments, clauseDocuments, Json.sameItems, sameClauses,
        same_toDocument hf.1 hg.1, same_clauseDocuments hf.2 hg.2]

end

end Filter

/-! ## §6. The meaning of filters that are the same -/

/-- Operands that are the same have the same values equal to them. -/
theorem Comparison.equalsAny_congr {a b : Json} (h : Json.same a b = true)
    (back : Json.same b a = true) (values : List Json) :
    equalsAny values a = equalsAny values b := by
  have nulls : (a == Json.null) = (b == Json.null) := by
    cases a <;> cases b <;> first | rfl | exact nomatch h
  have values_eq : (fun v : Json => v.equalTo a) = fun v => v.equalTo b :=
    funext (Json.equalTo_congr h back)
  rw [equalsAny, equalsAny, nulls, values_eq]

/-- Operands that are the same have the same values compare with them. -/
theorem Comparison.comparesAny_congr {a b : Json} (h : Json.same a b = true) (values : List Json)
    (accept : Ordering → Bool) : comparesAny values a accept = comparesAny values b accept := by
  simp only [comparesAny, Json.kind_congr h, Json.compare_congr h]

/-- Comparisons that are the same accept the same values. -/
theorem Comparison.accepts_congr {c d : Comparison} (h : c.same d = true)
    (back : d.same c = true) (values : List Json) : c.accepts values = d.accepts values := by
  cases c <;> cases d <;> try exact absurd h Bool.false_ne_true
  case eq.eq => exact equalsAny_congr h back values
  case ne.ne => exact congrArg not (equalsAny_congr h back values)
  case gt.gt => exact comparesAny_congr h values _
  case gte.gte => exact comparesAny_congr h values _
  case lt.lt => exact comparesAny_congr h values _
  case lte.lte => exact comparesAny_congr h values _
  case oneOf.oneOf as bs =>
    rw [accepts, accepts]
    rw [same] at h back
    -- The lists are of one length, with operands that are the same at each place.
    induction as generalizing bs with
    | nil => cases bs <;> first | rfl | exact nomatch h
    | cons a as ih =>
        cases bs with
        | nil => exact nomatch h
        | cons b bs =>
            rw [Json.sameItems, Bool.and_eq_true] at h back
            rw [List.any_cons, List.any_cons, equalsAny_congr h.1 back.1, ih bs h.2 back.2]

/-- Conditions that are the same test values the same. -/
theorem Condition.test_congr {c d : Condition} (h : c.same d = true) (back : d.same c = true)
    (values : List Json) : c.test values = d.test values := by
  cases c <;> cases d <;> try exact absurd h Bool.false_ne_true
  case compare.compare => exact Comparison.accepts_congr h back values
  case regex.regex =>
    simp only [same, Bool.and_eq_true, beq_iff_eq] at h
    rw [h.1, h.2]

namespace Filter

mutual

/-- **Filters that are the same are true of the same documents.** -/
theorem holds_congr (document : Json) : ∀ {f g : Filter}, f.same g = true → g.same f = true →
    f.holds document = g.holds document
  | .field path c, .field path' d, h, back => by
      simp only [same, Bool.and_eq_true, beq_iff_eq] at h back
      rw [holds, holds, h.1]
      exact Condition.test_congr h.2 back.2 _
  | .and fs, .and gs, h, back => (holdsClauses_congr document h back).1
  | .or fs, .or gs, h, back => (holdsClauses_congr document h back).2
  | .field _ _, .and _, h, _ | .field _ _, .or _, h, _ | .and _, .field _ _, h, _
  | .and _, .or _, h, _ | .or _, .field _ _, h, _ | .or _, .and _, h, _ =>
      absurd h Bool.false_ne_true

theorem holdsClauses_congr (document : Json) : ∀ {fs gs : List Filter},
    sameClauses fs gs = true → sameClauses gs fs = true →
    holdsAll document fs = holdsAll document gs ∧ holdsAny document fs = holdsAny document gs
  | [], [], _, _ => ⟨rfl, rfl⟩
  | [], _ :: _, h, _ | _ :: _, [], h, _ => absurd h Bool.false_ne_true
  | f :: fs, g :: gs, h, back => by
      rw [sameClauses, Bool.and_eq_true] at h back
      have first := holds_congr document h.1 back.1
      have ⟨all, any⟩ := holdsClauses_congr document h.2 back.2
      rw [holdsAll, holdsAll, holdsAny, holdsAny, first, all, any]
      exact ⟨rfl, rfl⟩

end

mutual

/-- Filters that are the same have the same patterns. -/
theorem patterns_congr : ∀ {f g : Filter}, f.same g = true → f.patterns = g.patterns
  | .field _ (.compare _), .field _ (.compare _), _ => rfl
  | .field _ (.regex _ _), .field _ (.regex _ _), h => by
      simp only [same, Condition.same, Bool.and_eq_true, beq_iff_eq] at h
      rw [patterns, patterns, h.2.1, h.2.2]
  | .field _ (.compare _), .field _ (.regex _ _), h
  | .field _ (.regex _ _), .field _ (.compare _), h => by simp [same, Condition.same] at h
  | .and fs, .and gs, h | .or fs, .or gs, h => clausePatterns_congr h
  | .field _ _, .and _, h | .field _ _, .or _, h | .and _, .field _ _, h
  | .and _, .or _, h | .or _, .field _ _, h | .or _, .and _, h =>
      absurd h Bool.false_ne_true

theorem clausePatterns_congr : ∀ {fs gs : List Filter},
    sameClauses fs gs = true → clausePatterns fs = clausePatterns gs
  | [], [], _ => rfl
  | [], _ :: _, h | _ :: _, [], h => absurd h Bool.false_ne_true
  | f :: fs, g :: gs, h => by
      rw [sameClauses, Bool.and_eq_true] at h
      rw [clausePatterns, clausePatterns, patterns_congr h.1, clausePatterns_congr h.2]

end

/-- **Filters that are the same select the same rows, or fail with the same error.** -/
theorem select_congr {f g : Filter} (h : f.same g = true) (back : g.same f = true)
    (rows : List Json) : f.select rows = g.select rows := by
  -- Whether and how reading fails depends on the patterns alone.
  have failures : failureOf? f.prepare = failureOf? g.prepare := by
    rw [failureOf?_prepare, failureOf?_prepare, patterns_congr h]
  rw [select, select]
  cases left : f.prepare with
  | error e =>
      rw [left, failureOf?_error, eq_comm, failureOf?_eq_some_iff] at failures
      rw [failures]
  | ok m =>
      rw [left, failureOf?_ok] at failures
      cases right : g.prepare with
      | error e => exact absurd failures (by simp [right])
      | ok m' =>
          -- The matchers may differ in the order of members, but not in what they accept.
          have same_test : m.accepts = m'.accepts := by
            funext document
            rw [accepts_of_prepare document f m left, accepts_of_prepare document g m' right]
            exact holds_congr document h back
          rw [Except.map, Except.map, same_test]

/-! ## §7. Rendering is unambiguous -/

/-- **No two filters are written as one document**, as long as no path is reserved, and no name in
an object that an equality asks for.  Documents are the same, whatever the order of the members in
them is, exactly if the filters have the same shape and the same leaves; and filters whose
documents are the same select the same rows, or fail with the same error. -/
theorem toDocument_unambiguous (f g : Filter) (hf : f.unreserved = true)
    (hg : g.unreserved = true) :
    Json.same f.toDocument g.toDocument = f.same g ∧
    (Json.same f.toDocument g.toDocument = true → Json.same g.toDocument f.toDocument = true →
      ∀ rows, f.select rows = g.select rows) := by
  have forth := same_toDocument hf hg
  have back := same_toDocument hg hf
  exact ⟨forth, fun h h' => select_congr (forth ▸ h) (back ▸ h')⟩

/-- Enabled orders of a size, in either case. -/
def sizedOrders (size : List (String × Json)) : Filter :=
  .and [.regex "label" "order" true, .or [.eq "enabled" (.bool true), .eq "size" (.obj size)]]

/-- The order of members in an operand counts neither in documents nor in filters. -/
theorem sizedOrders_unambiguous :
    (sizedOrders [("x", .int 1), ("y", .int 2)]).unreserved = true ∧
    (sizedOrders [("y", .int 2), ("x", .int 1)]).unreserved = true ∧
    Filter.same (sizedOrders [("x", .int 1), ("y", .int 2)])
      (sizedOrders [("y", .int 2), ("x", .int 1)]) = true ∧
    ∀ rows, (sizedOrders [("x", .int 1), ("y", .int 2)]).select rows =
      (sizedOrders [("y", .int 2), ("x", .int 1)]).select rows := by
  obtain ⟨documents, rows⟩ := toDocument_unambiguous (sizedOrders [("x", .int 1), ("y", .int 2)])
    (sizedOrders [("y", .int 2), ("x", .int 1)]) (by decide +kernel) (by decide +kernel)
  refine ⟨by decide +kernel, by decide +kernel, documents ▸ ?_, rows ?_ ?_⟩ <;> decide +kernel

end Filter

end PagedTable
