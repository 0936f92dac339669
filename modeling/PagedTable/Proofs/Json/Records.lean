/-
  PagedTable.Proofs.Json.Records — readers that get back what writers wrote.

  A reader inverts a writer when it reads every written value as the value it was written from.
  Readers of single values do so for the writers of their type, and lists and optional values
  follow from what they hold.  A record is an object with one member for each field; when no name
  belongs to two fields, each field finds its own member and no other:

      forall₂_valuesNamed      — each field's own member, by induction along fields and members
      fieldValues?_ofJson_obj  — the values of all fields
-/
import PagedTable.Json.Schema
import Mathlib.Data.List.Forall2
import Mathlib.Data.List.Basic

namespace PagedTable.Literal

/-! ## §1. Single values -/

/-- The reader gets back what the writer wrote. -/
def Inverts (read : Literal → Option α) (write : α → Json) : Prop :=
  ∀ x, read (ofJson (write x)) = some x

variable {read : Literal → Option α} {write : α → Json}

/-- Texts are read back. -/
theorem inverts_text : Inverts text? .str := fun _ => rfl

/-- Booleans are read back. -/
theorem inverts_flag : Inverts flag? .bool := fun _ => rfl

/-- Integers without sign are read back when the bound admits all of them. -/
theorem inverts_unsigned {bits : Nat} {ofNat : Nat → α} {toNat : α → Nat}
    (fits : ∀ x, toNat x < twoTo bits) (inverse : ∀ x, ofNat (toNat x) = x) :
    Inverts (fun l => l.int?.bind fun n =>
      if 0 ≤ n ∧ n < twoTo bits then some (ofNat n.toNat) else none) fun x => .int (toNat x) := by
  intro x
  have bounds : (0 : Int) ≤ toNat x ∧ (toNat x : Int) < twoTo bits :=
    ⟨Int.natCast_nonneg _, Int.ofNat_lt.2 (fits x)⟩
  show (if (0 : Int) ≤ toNat x ∧ (toNat x : Int) < twoTo bits then _ else _) = _
  rw [if_pos bounds, Int.toNat_natCast, inverse]

/-- All 32-bit integers without sign are read back. -/
theorem inverts_word32 : Inverts word32? fun n => .int n.toNat :=
  inverts_unsigned UInt32.toNat_lt fun _ => UInt32.ofNat_toNat

/-- All 64-bit integers without sign are read back. -/
theorem inverts_word64 : Inverts word64? fun n => .int n.toNat :=
  inverts_unsigned UInt64.toNat_lt fun _ => UInt64.ofNat_toNat

/-- All 64-bit integers with a sign are read back. -/
theorem inverts_signed64 : Inverts signed64? fun n => .int n.toInt := by
  intro n
  have bounds : -(twoTo 63 : Int) ≤ n.toInt ∧ n.toInt < twoTo 63 := ⟨n.le_toInt, n.toInt_lt⟩
  show (if -(twoTo 63 : Int) ≤ n.toInt ∧ n.toInt < twoTo 63 then _ else _) = _
  rw [if_pos bounds, Int64.ofInt_toInt]

/-- One of several alternatives is read back from its name. -/
theorem inverts_oneOf {alternative : String → Option α} {name : α → String}
    (h : ∀ x, alternative (name x) = some x) :
    Inverts (oneOf? alternative) fun x => .str (name x) := h

/-- A text or its absence is read back. -/
theorem inverts_textOrNull : Inverts (nullOr? text?) Json.textOrNull := by
  intro text
  cases text with
  | none => rfl
  | some s => rfl

/-- Lists are read back when their items are. -/
theorem Inverts.list (h : Inverts read write) :
    Inverts (listOf? read) fun xs => .arr (xs.map write) := by
  intro xs
  show readAll? read (ofItems (xs.map write)) = some xs
  induction xs with
  | nil => rfl
  | cons x rest ih =>
      show (read (ofJson (write x))).bind _ = _
      rw [h x, Option.bind_some, ih, Option.map_some]

/-- A field with a default is read back when it is given. -/
theorem Inverts.withDefault (h : Inverts read write) (default x : α) :
    withDefault default read (some (ofJson (write x))) = some x := h x

/-- A field without a default is read back. -/
theorem Inverts.required (h : Inverts read write) (x : α) :
    required read (some (ofJson (write x))) = some x := h x

/-! ## §2. Records -/

/-- A member is among the values of a field whose name it has, and of no other. -/
theorem valuesNamed_cons (accepted : List String) (name : String) (value : Literal)
    (members : List (Option String × Literal)) :
    valuesNamed accepted ((some name, value) :: members) =
      if name ∈ accepted then value :: valuesNamed accepted members
      else valuesNamed accepted members := by
  by_cases h : name ∈ accepted <;> simp [valuesNamed, h]

/-- A field takes nothing from members of other names. -/
theorem valuesNamed_of_forall_notMem {accepted : List String} {members : List (String × Json)}
    (h : ∀ m ∈ members, m.1 ∉ accepted) : valuesNamed accepted (ofMembers members) = [] := by
  induction members with
  | nil => rfl
  | cons m rest ih =>
      rw [ofMembers, valuesNamed_cons, if_neg (h m List.mem_cons_self),
        ih fun other mem => h other (List.mem_cons_of_mem m mem)]

/-- Written members have names. -/
theorem all_isSome_ofMembers (members : List (String × Json)) :
    (ofMembers members).all (·.1.isSome) = true := by
  induction members with
  | nil => rfl
  | cons m rest ih => exact ih

/-- When each field takes one of the members, each member is taken by one of the fields. -/
theorem exists_taking {fields : List (List String)} {members : List (String × Json)}
    (taken : List.Forall₂ (fun accepted m => m.1 ∈ accepted) fields members) :
    ∀ m ∈ members, ∃ accepted ∈ fields, m.1 ∈ accepted := by
  induction taken with
  | nil => exact fun m mem => absurd mem List.not_mem_nil
  | @cons accepted first _ _ mine _ ih =>
      intro m mem
      rcases List.mem_cons.1 mem with rfl | behind
      · exact ⟨accepted, List.mem_cons_self, mine⟩
      · obtain ⟨other, mem_fields, takes⟩ := ih m behind
        exact ⟨other, List.mem_cons_of_mem accepted mem_fields, takes⟩

/-- Fields that share no name each find the member that is theirs and no other. -/
theorem forall₂_valuesNamed {fields : List (List String)} {members : List (String × Json)}
    (taken : List.Forall₂ (fun accepted m => m.1 ∈ accepted) fields members)
    (apart : fields.Pairwise List.Disjoint) :
    List.Forall₂ (fun accepted m => valuesNamed accepted (ofMembers members) = [ofJson m.2])
      fields members := by
  induction taken with
  | nil => exact .nil
  | @cons accepted m fields members mine others ih =>
      have ⟨first_apart, rest_apart⟩ := List.pairwise_cons.1 apart
      have not_mine : ∀ other ∈ members, other.1 ∉ accepted := by
        intro other mem
        obtain ⟨taker, mem_fields, takes⟩ := exists_taking others other mem
        exact fun both => first_apart taker mem_fields both takes
      have not_theirs : ∀ other ∈ fields, m.1 ∉ other :=
        fun other mem both => first_apart other mem mine both
      have found : valuesNamed accepted (ofMembers (m :: members)) = [ofJson m.2] := by
        rw [ofMembers, valuesNamed_cons, if_pos mine, valuesNamed_of_forall_notMem not_mine]
      -- The fields behind pass over the first member.
      have passed := (List.forall₂_and_left _ _).2 ⟨not_theirs, ih rest_apart⟩
      refine .cons found (passed.imp fun other n ⟨passes, finds⟩ => ?_)
      rw [ofMembers, valuesNamed_cons, if_neg passes, finds]

/-- A partial function that has a value on each item has values on the list. -/
theorem mapM_of_forall₂ {f : α → Option γ} {g : β → γ} {as : List α} {bs : List β}
    (h : List.Forall₂ (fun a b => f a = some (g b)) as bs) : as.mapM f = some (bs.map g) := by
  induction h with
  | nil => rfl
  | cons first _ ih =>
      rw [List.mapM_cons, first, ih]
      rfl

/-- **The fields of a written record have the values it was written with.** -/
theorem fieldValues?_ofJson_obj {fields : List (List String)} {members : List (String × Json)}
    (taken : List.Forall₂ (fun accepted m => m.1 ∈ accepted) fields members)
    (apart : fields.Pairwise List.Disjoint) :
    fieldValues? fields (ofJson (.obj members)) =
      some (members.map fun m => some (ofJson m.2)) := by
  have values := mapM_of_forall₂ (g := fun m : String × Json => some (ofJson m.2))
    ((forall₂_valuesNamed taken apart).imp fun accepted m found => congrArg atMostOne? found)
  rw [ofJson, fieldValues?, if_pos (all_isSome_ofMembers members)]
  exact values

end PagedTable.Literal
