/-
  PagedTable.Proofs.Json.Equality — the two equalities of values.

  `Json.same` compares values as they are written: an integer never equals a float, at any depth.
  `Json.equalTo`, which operands and joins use, compares two bare numbers by value and leaves all
  else to `same`.  So `equalTo` is weaker than `same` for bare numbers only, and it is no
  congruence: numbers that are equal in different forms are told apart again inside an array or an
  object.

      same_iff_equalTo       — `same` is `equalTo` less the numbers in different forms
      same_trans             — `same` is transitive, whatever the names of members are
      equalTo_congr          — values that are the same cannot be told apart by `equalTo`
      compare_congr          — nor by the order
      equalTo_composite_iff  — exactly when arrays and objects of equal values are equal
-/
import Mathlib.Data.List.Forall2
import Mathlib.Data.List.Perm.Basic
import PagedTable.Json.Order

namespace PagedTable

/-! ## §1. Numbers -/

namespace Number

variable {m n : Number}

/-- A number that is the same compares the same with all others. -/
theorem compare_congr (h : Json.sameNumber m n = true) (k : Number) :
    k.compare m = k.compare n := by
  cases m with
  | int i =>
      cases n with
      | int j =>
          have eq : i = j := by simpa [Json.sameNumber] using h
          rw [eq]
      | float _ => exact absurd h (by simp [Json.sameNumber])
  | float x =>
      cases n with
      | int _ => exact absurd h (by simp [Json.sameNumber])
      | float y =>
          have eq : x.units = y.units := by simpa [Json.sameNumber, Binary64.same] using h
          cases k <;> simp only [Number.compare, units, eq]

/-- A number ties with itself. -/
theorem compare_self (m : Number) : m.compare m = .eq := by
  cases m with
  | int i => by_cases fits : fitsWord i <;> simp [Number.compare, fits]
  | float x => simp [Number.compare]

/-- The same number ties. -/
theorem compare_eq_of_same (h : Json.sameNumber m n = true) : m.compare n = .eq := by
  rw [← compare_congr h m, compare_self]

/-- What is the same as a number is the same as what this is the same as. -/
theorem same_trans {k : Number} (first : Json.sameNumber k m = true)
    (second : Json.sameNumber m n = true) : Json.sameNumber k n = true := by
  cases k <;> cases m <;> cases n <;> simp_all [Json.sameNumber, Binary64.same]

end Number

namespace Json

/-! ## §2. Values that are the same -/

/-- Lists of items are the same when they are pairwise. -/
theorem sameItems_iff {as bs : List Json} :
    sameItems as bs = true ↔ List.Forall₂ (fun a b => same a b = true) as bs := by
  induction as generalizing bs with
  | nil => cases bs <;> simp [sameItems]
  | cons a as ih => cases bs <;> simp [sameItems, ih]

/-- Members have a same partner in others when each of them has. -/
theorem sameMembers_iff {members others : List (String × Json)} :
    sameMembers members others = true ↔
      ∀ m ∈ members, ∃ v, lookup m.1 others = some v ∧ same m.2 v = true := by
  induction members with
  | nil => simp [sameMembers]
  | cons head rest ih =>
      obtain ⟨name, value⟩ := head
      rw [sameMembers, Bool.and_eq_true, ih, List.forall_mem_cons]
      cases lookup name others <;> simp

/-- A value that is found is the value of a member. -/
theorem mem_of_lookup {name : String} {value : Json} {members : List (String × Json)}
    (h : lookup name members = some value) : (name, value) ∈ members := by
  induction members with
  | nil => exact absurd h (by simp)
  | cons head rest ih =>
      obtain ⟨key, old⟩ := head
      rw [lookup] at h
      split at h
      · next here =>
        rw [← here, Option.some.inj h]
        exact List.mem_cons_self
      · exact List.mem_cons_of_mem _ (ih h)

/-- Where names are distinct, the value of each member is found. -/
theorem lookup_of_mem {name : String} {value : Json} {members : List (String × Json)}
    (distinct : (members.map Prod.fst).Nodup) (h : (name, value) ∈ members) :
    lookup name members = some value := by
  induction members with
  | nil => exact absurd h (by simp)
  | cons head rest ih =>
      obtain ⟨key, old⟩ := head
      rw [List.map_cons, List.nodup_cons] at distinct
      rcases List.mem_cons.1 h with here | later
      · cases here
        rw [lookup, if_pos rfl]
      · have other : key ≠ name := fun eq => distinct.1 (eq ▸ List.mem_map.2 ⟨_, later, rfl⟩)
        rw [lookup, if_neg other, ih distinct.2 later]

/-- A name is found exactly if a member has it. -/
theorem isSome_lookup_iff {name : String} {members : List (String × Json)} :
    (lookup name members).isSome = true ↔ name ∈ members.map Prod.fst := by
  induction members with
  | nil => simp
  | cons head rest ih =>
      obtain ⟨key, old⟩ := head
      by_cases here : key = name
      · simp [lookup, here]
      · simp [lookup, here, ih, Ne.symm here]

mutual

/-- **Being the same is transitive.** -/
theorem same_trans : ∀ (a : Json) {b c : Json},
    same a b = true → same b c = true → same a c = true
  | .null, b, _, first, second => by
      cases b with
      | null => exact second
      | _ => simp [same] at first
  | .bool _, b, _, first, second => by
      cases b with
      | bool _ =>
          simp only [same, beq_iff_eq] at first
          exact first ▸ second
      | _ => simp [same] at first
  | .num _, b, c, first, second => by
      cases b with
      | num _ =>
          cases c with
          | num _ => exact Number.same_trans first second
          | _ => simp [same] at second
      | _ => simp [same] at first
  | .str _, b, _, first, second => by
      cases b with
      | str _ =>
          simp only [same, beq_iff_eq] at first
          exact first ▸ second
      | _ => simp [same] at first
  | .arr as, b, c, first, second => by
      cases b with
      | arr bs =>
          cases c with
          | arr cs =>
              rw [same] at first second ⊢
              exact sameItems_trans as first second
          | _ => simp [same] at second
      | _ => simp [same] at first
  | .obj as, b, c, first, second => by
      cases b with
      | obj bs =>
          cases c with
          | obj cs =>
              rw [same, Bool.and_eq_true, beq_iff_eq] at first second ⊢
              exact ⟨first.1.trans second.1, sameMembers_trans as first.2 second.2⟩
          | _ => simp [same] at second
      | _ => simp [same] at first

theorem sameItems_trans : ∀ (as : List Json) {bs cs : List Json},
    sameItems as bs = true → sameItems bs cs = true → sameItems as cs = true
  | [], bs, _, first, second => by
      cases bs with
      | nil => exact second
      | cons _ _ => simp [sameItems] at first
  | a :: as, bs, cs, first, second => by
      cases bs with
      | nil => simp [sameItems] at first
      | cons b bs =>
          cases cs with
          | nil => simp [sameItems] at second
          | cons c cs =>
              rw [sameItems, Bool.and_eq_true] at first second ⊢
              exact ⟨same_trans a first.1 second.1, sameItems_trans as first.2 second.2⟩

theorem sameMembers_trans : ∀ (as : List (String × Json)) {bs cs : List (String × Json)},
    sameMembers as bs = true → sameMembers bs cs = true → sameMembers as cs = true
  | [], _, _, _, _ => by rw [sameMembers]
  | (name, value) :: rest, bs, cs, first, second => by
      rw [sameMembers, Bool.and_eq_true] at first ⊢
      refine ⟨?_, sameMembers_trans rest first.2 second⟩
      cases middle : lookup name bs with
      | none => simp [middle] at first
      | some v =>
          -- What is found is a member, so it has a partner of its own; no name need be unique.
          obtain ⟨w, found, next⟩ := sameMembers_iff.1 second _ (mem_of_lookup middle)
          simp only [middle] at first
          simp only [found]
          exact same_trans value first.1 next

end

/-! ## §3. Values that are equal -/

/-- The values are not two numbers that are told apart as written, such as `1` and `1.0`. -/
def SameForm : Json → Json → Prop
  | .num m, .num n => sameNumber m n = true
  | _, _ => True

/-- Two numbers are equal when they tie. -/
theorem equalTo_num {m n : Number} : equalTo (.num m) (.num n) = true ↔ m.compare n = .eq :=
  beq_iff_eq

/-- **Values are the same when they are equal and not numbers in different forms.** -/
theorem same_iff_equalTo {a b : Json} :
    same a b = true ↔ a.equalTo b = true ∧ SameForm a b := by
  cases a with
  | num m =>
      cases b with
      | num n =>
          rw [equalTo_num]
          exact ⟨fun h => ⟨Number.compare_eq_of_same h, h⟩, And.right⟩
      | _ => exact (and_iff_left trivial).symm
  | _ => cases b <;> exact (and_iff_left trivial).symm

variable {a b : Json}

/-- Values that are the same are of one kind. -/
theorem kind_congr (h : same a b = true) : a.kind = b.kind := by
  cases a <;> cases b <;> first | rfl | exact absurd h (by simp [same])

/-- **Operands that are the same accept the same values.** -/
theorem equalTo_congr (h : same a b = true) (back : same b a = true) (v : Json) :
    v.equalTo a = v.equalTo b := by
  have transfer (v : Json) : same v a = same v b :=
    Bool.eq_iff_iff.2 ⟨(same_trans v · h), (same_trans v · back)⟩
  have kinds := kind_congr h
  cases a <;> cases b <;> cases kinds
  -- Two numbers are compared by value; in all other cases equality is being the same.
  case num.num => cases v with
    | num k => rw [equalTo, equalTo, Number.compare_congr h]
    | _ => exact transfer _
  all_goals cases v <;> exact transfer _

/-- **Values that are the same compare the same with all others.** -/
theorem compare_congr (h : same a b = true) (v : Json) : v.compare a = v.compare b := by
  have kinds := kind_congr h
  cases a <;> cases b <;> cases kinds
  case null.null => rfl
  case bool.bool => rw [of_decide_eq_true h]
  case num.num => cases v <;> first | rfl | exact Number.compare_congr h _
  case str.str => rw [of_decide_eq_true h]
  case arr.arr => cases v <;> rfl
  case obj.obj => cases v <;> rfl

/-! ## §4. Arrays and objects -/

/-- **Objects with distinct names are the same when they have the same names, and the same value
under each.** -/
theorem same_obj_iff {ms ns : List (String × Json)} (distinct : (ms.map Prod.fst).Nodup)
    (distinct' : (ns.map Prod.fst).Nodup) :
    same (obj ms) (obj ns) = true ↔
      (∀ name, name ∈ ms.map Prod.fst ↔ name ∈ ns.map Prod.fst) ∧
      ∀ name a b, lookup name ms = some a → lookup name ns = some b → same a b = true := by
  rw [same, Bool.and_eq_true, beq_iff_eq, sameMembers_iff]
  constructor
  · intro ⟨lengths, partners⟩
    have names : ms.map Prod.fst ⊆ ns.map Prod.fst := by
      intro name mem
      obtain ⟨m, given, rfl⟩ := List.mem_map.1 mem
      obtain ⟨v, found, -⟩ := partners m given
      exact isSome_lookup_iff.1 (by rw [found, Option.isSome_some])
    -- As many names, all of them among the others, and none twice.
    have perm := (List.subperm_of_subset distinct names).perm_of_length_le (by simp [lengths])
    refine ⟨fun name => perm.mem_iff, fun name a b left right => ?_⟩
    -- The partner is found under the same name, so it is the value that stands there.
    obtain ⟨v, found, value⟩ := partners _ (mem_of_lookup left)
    rw [right] at found
    exact Option.some.inj found ▸ value
  · intro ⟨names, values⟩
    have perm := (List.perm_ext_iff_of_nodup distinct distinct').2 names
    refine ⟨by simpa using perm.length_eq, fun m given => ?_⟩
    have found := isSome_lookup_iff.2 ((names m.1).1 (List.mem_map.2 ⟨m, given, rfl⟩))
    obtain ⟨v, right⟩ := Option.isSome_iff_exists.1 found
    exact ⟨v, right, values _ _ _ (lookup_of_mem distinct given) right⟩

/-- **Arrays and objects of equal values are equal exactly if no number in them is paired with
another form of it.**  The objects have distinct names. -/
theorem equalTo_composite_iff (as bs : List Json) (ms ns : List (String × Json))
    (distinct : (ms.map Prod.fst).Nodup) (distinct' : (ns.map Prod.fst).Nodup) :
    ((arr as).equalTo (arr bs) = true ↔
      List.Forall₂ (fun a b => a.equalTo b = true ∧ SameForm a b) as bs) ∧
    ((obj ms).equalTo (obj ns) = true ↔
      (∀ name, name ∈ ms.map Prod.fst ↔ name ∈ ns.map Prod.fst) ∧
      ∀ name a b, lookup name ms = some a → lookup name ns = some b →
        a.equalTo b = true ∧ SameForm a b) := by
  simp only [← same_iff_equalTo]
  exact ⟨sameItems_iff, same_obj_iff distinct distinct'⟩

/-- The float one. -/
def floatOne : Json := .num (.float ⟨false, 4503599627370496, -52, by decide⟩)

/-- An array and an object with one in one form are told apart from those with the other. -/
theorem one_equalTo_composite :
    ([("n", int 1)].map Prod.fst).Nodup ∧ ([("n", floatOne)].map Prod.fst).Nodup ∧
    (int 1).equalTo floatOne = true ∧
    (arr [int 1]).equalTo (arr [floatOne]) = false ∧
    (obj [("n", int 1)]).equalTo (obj [("n", floatOne)]) = false := by
  have equal : (int 1).equalTo floatOne = true := by decide +kernel
  obtain ⟨arrays, objects⟩ := equalTo_composite_iff [int 1] [floatOne] [("n", int 1)]
    [("n", floatOne)] (by decide) (by decide)
  refine ⟨by decide, by decide, equal, Bool.eq_false_iff.2 fun h => ?_,
    Bool.eq_false_iff.2 fun h => ?_⟩
  · obtain ⟨⟨-, form⟩, -⟩ := List.forall₂_cons.1 (arrays.1 h)
    exact absurd form (by simp [SameForm, int, floatOne, sameNumber])
  · obtain ⟨-, form⟩ := (objects.1 h).2 "n" _ _ rfl rfl
    exact absurd form (by simp [SameForm, int, floatOne, sameNumber])

/-- **Equality of values is no congruence.**  The integer and the float one are equal, and arrays
of them are not. -/
theorem equalTo_not_congruent :
    ¬ ((∀ as bs : List Json, List.Forall₂ (fun a b => a.equalTo b = true) as bs →
        (arr as).equalTo (arr bs) = true) ∧
      ∀ ms ns : List (String × Json), (ms.map Prod.fst).Nodup → (ns.map Prod.fst).Nodup →
        (∀ name, name ∈ ms.map Prod.fst ↔ name ∈ ns.map Prod.fst) →
        (∀ name a b, lookup name ms = some a → lookup name ns = some b → a.equalTo b = true) →
        (obj ms).equalTo (obj ns) = true) := by
  intro ⟨arrays, _⟩
  have equal : (int 1).equalTo floatOne = true := by decide +kernel
  have told_apart : (arr [int 1]).equalTo (arr [floatOne]) = false := by decide +kernel
  exact absurd (arrays _ _ (.cons equal .nil)) (by simp [told_apart])

end Json
end PagedTable
