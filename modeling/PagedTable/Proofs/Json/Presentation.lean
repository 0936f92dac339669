/-
  PagedTable.Proofs.Json.Presentation — the ways to present one record, and a field given twice.

  A schema says which names the fields of a record go by, and which of the values are records or
  lists of records in turn.  Under a schema a literal may be restated: the members of a record can
  change places, members of unknown names come and go, and a field go by another of its names, here
  or in the records within.  A reader of records that looks at the values of the fields only reads
  the same from every restatement, and nothing where a field is given twice:

      sameValues_of_…        — what each restatement does to the values of the fields
      spoiled_of_doubled     — a field given twice within the value of a field
      Describes.list         — readers of lists, from their items
      describes_record       — readers of records, from their fields
-/
import PagedTable.Proofs.Json.Records

namespace PagedTable.Literal

/-! ## §1. Restatements -/

/-- Where a value leaves a choice how to present it: nowhere, in the items of a list, or in the
fields of a record, each of which goes by some names. -/
inductive Schema where
  | plain
  | list (item : Schema)
  | record (fields : List (List String × Schema))

/-- The second literal presents the same as the first, under the schema. -/
inductive Restated : Schema → Literal → Literal → Prop where
  | refl (s : Schema) (l : Literal) : Restated s l l
  | symm {s : Schema} {l m : Literal} (h : Restated s l m) : Restated s m l
  | trans {s : Schema} {l m n : Literal} (first : Restated s l m) (second : Restated s m n) :
    Restated s l n
  /-- The members of a record in another order. -/
  | reorder {fields : List (List String × Schema)} {members others : List (Option String × Literal)}
    (perm : members.Perm others) : Restated (.record fields) (.obj members) (.obj others)
  /-- A member more, under a name that no field goes by, whatever its value is. -/
  | unknown {fields : List (List String × Schema)} {name : String}
    (ignored : ∀ f ∈ fields, name ∉ f.1) (value : Literal)
    (members : List (Option String × Literal)) :
    Restated (.record fields) (.obj members) (.obj ((some name, value) :: members))
  /-- A field under another of its names. -/
  | rename {fields : List (List String × Schema)} {f : List String × Schema} {a b : String}
    (field : f ∈ fields) (ha : a ∈ f.1) (hb : b ∈ f.1) (value : Literal)
    (members : List (Option String × Literal)) :
    Restated (.record fields) (.obj ((some a, value) :: members))
      (.obj ((some b, value) :: members))
  /-- The value of a field restated. -/
  | member {fields : List (List String × Schema)} {f : List String × Schema} {a : String}
    {v w : Literal} (field : f ∈ fields) (named : a ∈ f.1) (inner : Restated f.2 v w)
    (members : List (Option String × Literal)) :
    Restated (.record fields) (.obj ((some a, v) :: members)) (.obj ((some a, w) :: members))
  /-- The value of a field restated, in a record that is written as an array. -/
  | position {fields : List (List String × Schema)} {f : List String × Schema} {v w : Literal}
    (before after : List Literal) (field : fields[before.length]? = some f)
    (inner : Restated f.2 v w) :
    Restated (.record fields) (.arr (before ++ v :: after)) (.arr (before ++ w :: after))
  /-- An item of a list restated. -/
  | item {s : Schema} {v w : Literal} (before after : List Literal) (inner : Restated s v w) :
    Restated (.list s) (.arr (before ++ v :: after)) (.arr (before ++ w :: after))

/-- Somewhere a field is given twice, under one name or two. -/
inductive Doubled : Schema → Literal → Prop where
  | here {fields : List (List String × Schema)} {f : List String × Schema} {a b : String}
    {v w : Literal} {members : List (Option String × Literal)} (field : f ∈ fields) (ha : a ∈ f.1)
    (hb : b ∈ f.1) (twice : [(some a, v), (some b, w)].Sublist members) :
    Doubled (.record fields) (.obj members)
  | member {fields : List (List String × Schema)} {f : List String × Schema} {a : String}
    {v : Literal} {members : List (Option String × Literal)} (field : f ∈ fields) (named : a ∈ f.1)
    (given : (some a, v) ∈ members) (inner : Doubled f.2 v) :
    Doubled (.record fields) (.obj members)
  | position {fields : List (List String × Schema)} {f : List String × Schema} {v : Literal}
    (before after : List Literal) (field : fields[before.length]? = some f)
    (inner : Doubled f.2 v) : Doubled (.record fields) (.arr (before ++ v :: after))
  | item {s : Schema} {v : Literal} {items : List Literal} (given : v ∈ items)
    (inner : Doubled s v) : Doubled (.list s) (.arr items)

/-- The schema says all that the reader looks at: it reads the same from restatements, and nothing
where a field is given twice. -/
structure Describes (s : Schema) (read : Literal → Option α) : Prop where
  same : ∀ {l m}, Restated s l m → read l = read m
  refuses : ∀ {l}, Doubled s l → read l = none

/-! ## §2. Single values and lists -/

/-- There is one way to present a plain value. -/
theorem eq_of_restated_plain {l m : Literal} (h : Restated .plain l m) : l = m := by
  generalize plain : Schema.plain = s at h
  induction h with
  | refl => rfl
  | symm _ ih => exact (ih plain).symm
  | trans _ _ ih₁ ih₂ => exact (ih₁ plain).trans (ih₂ plain)
  | _ => exact nomatch plain

/-- Every reader fits plain values. -/
theorem describes_plain (read : Literal → Option α) : Describes .plain read where
  same h := congrArg read (eq_of_restated_plain h)
  refuses h := nomatch h

variable {read : Literal → Option α} {s : Schema}

/-- Literals are read one after the other. -/
theorem readAll?_append (read : Literal → Option α) (front back : List Literal) :
    readAll? read (front ++ back) =
      (readAll? read front).bind fun vs => (readAll? read back).map (vs ++ ·) := by
  induction front with
  | nil => simp [readAll?]
  | cons l rest ih =>
      rw [List.cons_append, readAll?, readAll?, ih]
      cases read l <;> cases readAll? read rest <;> cases readAll? read back <;> rfl

/-- Where one item is not read, the list is not. -/
theorem readAll?_eq_none {l : Literal} {items : List Literal} (given : l ∈ items)
    (refused : read l = none) : readAll? read items = none := by
  obtain ⟨front, back, rfl⟩ := List.append_of_mem given
  rw [readAll?_append, readAll?, refused]
  simp

/-- A list is described by its items. -/
theorem Describes.list (h : Describes s read) : Describes (.list s) (listOf? read) where
  same restated := by
    generalize list : Schema.list s = t at restated
    induction restated with
    | refl => rfl
    | symm _ ih => exact (ih list).symm
    | trans _ _ ih₁ ih₂ => exact (ih₁ list).trans (ih₂ list)
    | item before after inner =>
        cases list
        rw [listOf?, listOf?, readAll?_append, readAll?_append, readAll?, readAll?, h.same inner]
    | _ => exact nomatch list
  refuses doubled := by
    cases doubled with
    | item given inner => exact readAll?_eq_none given (h.refuses inner)

/-- A field that has to be given is read the same from a restated value. -/
theorem Describes.required (h : Describes s read) {v w : Option Literal}
    (same : Option.Rel (Restated s) v w) : required read v = required read w := by
  cases same with
  | none => rfl
  | some restated => exact h.same restated

/-- So is a field with a default. -/
theorem Describes.withDefault (h : Describes s read) (default : α) {v w : Option Literal}
    (same : Option.Rel (Restated s) v w) :
    withDefault default read v = withDefault default read w := by
  cases same with
  | none => rfl
  | some restated => exact h.same restated

/-! ## §3. The values of fields -/

/-- The values of the fields of a record, each of them restated. -/
inductive SameValues :
    List (List String × Schema) → List (Option Literal) → List (Option Literal) → Prop where
  | nil : SameValues [] [] []
  | cons {names : List String} {s : Schema} {fields : List (List String × Schema)}
    {v w : Option Literal} {vs ws : List (Option Literal)} (first : Option.Rel (Restated s) v w)
    (others : SameValues fields vs ws) : SameValues ((names, s) :: fields) (v :: vs) (w :: ws)

/-- Somewhere within the value of a field a field is given twice. -/
inductive Spoiled : List (List String × Schema) → List (Option Literal) → Prop where
  | first {names : List String} {s : Schema} {fields : List (List String × Schema)} {v : Literal}
    (doubled : Doubled s v) (vs : List (Option Literal)) :
    Spoiled ((names, s) :: fields) (some v :: vs)
  | behind {fields : List (List String × Schema)} {vs : List (Option Literal)}
    (f : List String × Schema) (v : Option Literal) (others : Spoiled fields vs) :
    Spoiled (f :: fields) (v :: vs)

variable {fields : List (List String × Schema)}

/-- In a plain value no field is given. -/
@[simp] theorem not_doubled_plain (l : Literal) : ¬ Doubled .plain l := nofun

/-- Where there is no field, none is given twice. -/
@[simp] theorem not_spoiled_nil (vs : List (Option Literal)) : ¬ Spoiled [] vs := nofun

/-- A field is given twice within the first value or behind it. -/
@[simp] theorem spoiled_cons {names : List String} {v : Option Literal}
    {vs : List (Option Literal)} :
    Spoiled ((names, s) :: fields) (v :: vs) ↔
      (∃ l, v = some l ∧ Doubled s l) ∨ Spoiled fields vs := by
  constructor
  · rintro (⟨doubled, _⟩ | ⟨_, _, others⟩)
    · exact .inl ⟨_, rfl, doubled⟩
    · exact .inr others
  · rintro (⟨l, rfl, doubled⟩ | others)
    · exact .first doubled vs
    · exact .behind _ v others

/-- What is related to itself still is if it may be missing. -/
theorem rel_refl {r : β → β → Prop} (h : ∀ b, r b b) (x : Option β) : Option.Rel r x x := by
  cases x with
  | none => exact .none
  | some b => exact .some (h b)

/-- Values are restatements of themselves. -/
theorem SameValues.refl {vs : List (Option Literal)} (length : vs.length = fields.length) :
    SameValues fields vs vs := by
  induction fields generalizing vs with
  | nil =>
      rw [List.length_eq_zero_iff.1 length]
      exact .nil
  | cons f rest ih =>
      obtain ⟨v, vs, rfl⟩ := List.exists_cons_of_length_eq_add_one length
      exact .cons (rel_refl (.refl f.2) v) (ih (Nat.succ.inj length))

/-- One value restated among values. -/
theorem sameValues_append {f : List String × Schema} {v w : Literal}
    {before after : List (Option Literal)} (field : fields[before.length]? = some f)
    (inner : Restated f.2 v w) (length : (before ++ some v :: after).length = fields.length) :
    SameValues fields (before ++ some v :: after) (before ++ some w :: after) := by
  induction before generalizing fields with
  | nil =>
      obtain ⟨first, rest, rfl⟩ := List.exists_cons_of_length_eq_add_one length.symm
      cases field
      exact .cons (.some inner) (.refl (Nat.succ.inj length))
  | cons b before ih =>
      obtain ⟨first, rest, rfl⟩ := List.exists_cons_of_length_eq_add_one length.symm
      exact .cons (rel_refl (.refl first.2) b) (ih field (Nat.succ.inj length))

/-- One value among values in which a field is given twice. -/
theorem spoiled_append {f : List String × Schema} {v : Literal} {before : List (Option Literal)}
    (field : fields[before.length]? = some f) (inner : Doubled f.2 v)
    (after : List (Option Literal)) : Spoiled fields (before ++ some v :: after) := by
  induction before generalizing fields with
  | nil =>
      cases fields with
      | nil => exact nomatch field
      | cons first rest =>
          cases field
          exact .first inner after
  | cons b before ih =>
      cases fields with
      | nil => exact nomatch field
      | cons first rest => exact .behind first b (ih field)

/-- When each field has the value of the one record restated in the other, the records have the
same values. -/
theorem rel_mapM {g h : List String → Option (Option Literal)}
    (values : ∀ f ∈ fields, Option.Rel (Option.Rel (Restated f.2)) (g f.1) (h f.1)) :
    Option.Rel (SameValues fields) ((fields.map (·.1)).mapM g) ((fields.map (·.1)).mapM h) := by
  induction fields with
  | nil => exact .some .nil
  | cons f rest ih =>
      have first := values f List.mem_cons_self
      have others := ih fun g mem => values g (List.mem_cons_of_mem f mem)
      rw [List.map_cons, List.mapM_cons, List.mapM_cons]
      generalize g f.1 = v, h f.1 = w at first
      generalize (rest.map (·.1)).mapM g = vs, (rest.map (·.1)).mapM h = ws at others
      cases first with
      | none => exact .none
      | some same =>
          cases others with
          | none => exact .none
          | some behind => exact .some (.cons same behind)

/-- When within the value of one field a field is given twice, the record's values have it. -/
theorem spoiled_mapM {g : List String → Option (Option Literal)} {f : List String × Schema}
    {vs : List (Option Literal)} (field : f ∈ fields)
    (doubled : ∀ x, g f.1 = some x → ∃ v, x = some v ∧ Doubled f.2 v)
    (values : (fields.map (·.1)).mapM g = some vs) : Spoiled fields vs := by
  induction fields generalizing vs with
  | nil => exact absurd field List.not_mem_nil
  | cons first rest ih =>
      rw [List.map_cons, List.mapM_cons] at values
      obtain ⟨x, here, values⟩ := Option.bind_eq_some_iff.1 values
      obtain ⟨xs, behind, ⟨⟩⟩ := Option.bind_eq_some_iff.1 values
      rcases List.mem_cons.1 field with rfl | mem
      · obtain ⟨v, rfl, inner⟩ := doubled x here
        exact .first inner xs
      · exact .behind first x (ih mem behind)

/-! ## §4. Members -/

/-- One value at most, in whatever order they come. -/
theorem atMostOne?_perm {vs ws : List Literal} (h : vs.Perm ws) :
    atMostOne? vs = atMostOne? ws := by
  rcases vs with _ | ⟨v, _ | ⟨v', vs⟩⟩
  · rw [h.nil_eq]
  · rw [← h.singleton_eq]
  · rcases ws with _ | ⟨w, _ | ⟨w', ws⟩⟩
    · exact nomatch h.length_eq
    · exact nomatch h.length_eq
    · rfl

/-- Two values are too many. -/
theorem atMostOne?_of_sublist {v w : Literal} {vs : List Literal} (h : [v, w].Sublist vs) :
    atMostOne? vs = none := by
  rcases vs with _ | ⟨a, _ | ⟨b, rest⟩⟩
  · exact nomatch h.length_le
  · exact absurd h.length_le (by simp)
  · rfl

/-- If there is one value at most, it is any of the values. -/
theorem eq_of_atMostOne? {v : Literal} {x : Option Literal} {vs : List Literal} (mem : v ∈ vs)
    (h : atMostOne? vs = some x) : x = some v := by
  rcases vs with _ | ⟨a, _ | ⟨b, rest⟩⟩
  · exact absurd mem List.not_mem_nil
  · rw [List.mem_singleton.1 mem]
    exact (Option.some.inj h).symm
  · exact nomatch h

/-- Fields that share a name are the same. -/
theorem eq_of_shared_name (apart : (fields.map (·.1)).Pairwise List.Disjoint)
    {f g : List String × Schema} (hf : f ∈ fields) (hg : g ∈ fields) {name : String}
    (mine : name ∈ f.1) (yours : name ∈ g.1) : f = g := by
  induction fields with
  | nil => exact absurd hf List.not_mem_nil
  | cons first rest ih =>
      have ⟨first_apart, rest_apart⟩ := List.pairwise_cons.1 apart
      have clash {other : List String × Schema} (mem : other ∈ rest) (here : name ∈ first.1)
          (there : name ∈ other.1) : False :=
        first_apart other.1 (List.mem_map_of_mem mem) here there
      rcases List.mem_cons.1 hf with rfl | in_rest <;> rcases List.mem_cons.1 hg with rfl | too
      · rfl
      · exact (clash too mine yours).elim
      · exact (clash in_rest yours mine).elim
      · exact ih rest_apart in_rest too

/-- Records have the same values when their members have names alike and give each field a
restated value. -/
theorem sameValues_of_members {members others : List (Option String × Literal)}
    (named : members.all (·.1.isSome) = others.all (·.1.isSome))
    (values : ∀ f ∈ fields, Option.Rel (Option.Rel (Restated f.2))
      (atMostOne? (valuesNamed f.1 members)) (atMostOne? (valuesNamed f.1 others))) :
    Option.Rel (SameValues fields) (fieldValues? (fields.map (·.1)) (.obj members))
      (fieldValues? (fields.map (·.1)) (.obj others)) := by
  rw [fieldValues?, fieldValues?, named]
  split
  · exact rel_mapM values
  · exact .none

/-- A member is among the values of a field that goes by its name. -/
theorem valuesNamed_cons_of_mem {accepted : List String} {name : String} (mine : name ∈ accepted)
    (value : Literal) (members : List (Option String × Literal)) :
    valuesNamed accepted ((some name, value) :: members) =
      value :: valuesNamed accepted members := by
  rw [valuesNamed_cons, if_pos mine]

/-- It is not among those of any other field. -/
theorem valuesNamed_cons_of_notMem {accepted : List String} {name : String}
    (other : name ∉ accepted) (value : Literal) (members : List (Option String × Literal)) :
    valuesNamed accepted ((some name, value) :: members) = valuesNamed accepted members := by
  rw [valuesNamed_cons, if_neg other]

/-- The value of a member restated, among the values of fields that go by its name. -/
theorem rel_atMostOne?_cons {s : Schema} {v w : Literal} (inner : Restated s v w)
    (vs : List Literal) :
    Option.Rel (Option.Rel (Restated s)) (atMostOne? (v :: vs)) (atMostOne? (w :: vs)) := by
  cases vs with
  | nil => exact .some (.some inner)
  | cons => exact .none

/-- Members in another order give the fields the same values. -/
theorem sameValues_of_reorder {members others : List (Option String × Literal)}
    (perm : members.Perm others) :
    Option.Rel (SameValues fields) (fieldValues? (fields.map (·.1)) (.obj members))
      (fieldValues? (fields.map (·.1)) (.obj others)) := by
  refine sameValues_of_members perm.all_eq fun f _ => ?_
  have values : (valuesNamed f.1 members).Perm (valuesNamed f.1 others) := perm.filterMap _
  rw [atMostOne?_perm values]
  exact rel_refl (rel_refl (.refl f.2)) _

/-- A member of an unknown name gives no field a value. -/
theorem sameValues_of_unknown {name : String} (ignored : ∀ f ∈ fields, name ∉ f.1)
    (value : Literal) (members : List (Option String × Literal)) :
    Option.Rel (SameValues fields) (fieldValues? (fields.map (·.1)) (.obj members))
      (fieldValues? (fields.map (·.1)) (.obj ((some name, value) :: members))) := by
  refine sameValues_of_members rfl fun f mem => ?_
  rw [valuesNamed_cons_of_notMem (ignored f mem)]
  exact rel_refl (rel_refl (.refl f.2)) _

/-- Under another name of its field a member gives the value to that field and to no other. -/
theorem sameValues_of_rename (apart : (fields.map (·.1)).Pairwise List.Disjoint)
    {f : List String × Schema} {a b : String} (field : f ∈ fields) (ha : a ∈ f.1) (hb : b ∈ f.1)
    (value : Literal) (members : List (Option String × Literal)) :
    Option.Rel (SameValues fields)
      (fieldValues? (fields.map (·.1)) (.obj ((some a, value) :: members)))
      (fieldValues? (fields.map (·.1)) (.obj ((some b, value) :: members))) := by
  refine sameValues_of_members rfl fun g mem => ?_
  by_cases mine : a ∈ g.1
  · cases eq_of_shared_name apart field mem ha mine
    rw [valuesNamed_cons_of_mem ha, valuesNamed_cons_of_mem hb]
    exact rel_refl (rel_refl (.refl f.2)) _
  · have other : b ∉ g.1 := by
      intro mine_too
      cases eq_of_shared_name apart field mem hb mine_too
      exact mine ha
    rw [valuesNamed_cons_of_notMem mine, valuesNamed_cons_of_notMem other]
    exact rel_refl (rel_refl (.refl g.2)) _

/-- A member with a restated value gives it to its field, and nothing to another. -/
theorem sameValues_of_member (apart : (fields.map (·.1)).Pairwise List.Disjoint)
    {f : List String × Schema} {a : String} {v w : Literal} (field : f ∈ fields) (named : a ∈ f.1)
    (inner : Restated f.2 v w) (members : List (Option String × Literal)) :
    Option.Rel (SameValues fields)
      (fieldValues? (fields.map (·.1)) (.obj ((some a, v) :: members)))
      (fieldValues? (fields.map (·.1)) (.obj ((some a, w) :: members))) := by
  refine sameValues_of_members rfl fun g mem => ?_
  by_cases mine : a ∈ g.1
  · cases eq_of_shared_name apart field mem named mine
    rw [valuesNamed_cons_of_mem named, valuesNamed_cons_of_mem named]
    exact rel_atMostOne?_cons inner _
  · rw [valuesNamed_cons_of_notMem mine, valuesNamed_cons_of_notMem mine]
    exact rel_refl (rel_refl (.refl g.2)) _

/-- The value of a position restated, in a record that is written as an array. -/
theorem sameValues_of_position {f : List String × Schema} {v w : Literal}
    {before after : List Literal} (field : fields[before.length]? = some f)
    (inner : Restated f.2 v w) :
    Option.Rel (SameValues fields) (fieldValues? (fields.map (·.1)) (.arr (before ++ v :: after)))
      (fieldValues? (fields.map (·.1)) (.arr (before ++ w :: after))) := by
  have count : (before ++ w :: after).length = (before ++ v :: after).length := by simp
  rw [fieldValues?, fieldValues?, count]
  split
  · next fits =>
    rw [List.length_append, List.length_cons, List.length_map] at fits
    rw [List.map_append, List.map_append, List.map_cons, List.map_cons, List.append_assoc,
      List.append_assoc, List.cons_append, List.cons_append]
    refine .some (sameValues_append (by rwa [List.length_map]) inner ?_)
    simp
    omega
  · exact .none

/-! ## §5. Records -/

/-- The values of a record are restatements of themselves. -/
theorem sameValues_self {l : Literal} {vs : List (Option Literal)}
    (values : fieldValues? (fields.map (·.1)) l = some vs) : SameValues fields vs vs := by
  cases l with
  | arr items =>
      obtain ⟨fits, ⟨⟩⟩ := Option.ite_none_right_eq_some.1 values
      rw [List.length_map] at fits
      refine .refl ?_
      simp
      omega
  | obj members =>
      have same := sameValues_of_members rfl fun f (_ : f ∈ fields) =>
        rel_refl (rel_refl (.refl f.2)) (atMostOne? (valuesNamed f.1 members))
      rw [values] at same
      cases same with
      | some same => exact same
  | null | bool | num | str => exact nomatch values

/-- Within a field of a record in which a field is given twice, there is one, or there are no
values at all. -/
theorem spoiled_of_doubled {l : Literal} {vs : List (Option Literal)}
    (doubled : Doubled (.record fields) l)
    (values : fieldValues? (fields.map (·.1)) l = some vs) : Spoiled fields vs := by
  cases doubled with
  | @here _ f a b v w members field ha hb twice =>
      obtain ⟨-, values⟩ := Option.ite_none_right_eq_some.1 values
      have both : [v, w].Sublist (valuesNamed f.1 members) := by
        have given : (valuesNamed f.1 [(some a, v), (some b, w)]).Sublist
            (valuesNamed f.1 members) := twice.filterMap _
        rwa [valuesNamed_cons_of_mem ha, valuesNamed_cons_of_mem hb] at given
      refine spoiled_mapM field (fun x found => ?_) values
      rw [atMostOne?_of_sublist both] at found
      exact nomatch found
  | @member _ f a v members field named given inner =>
      obtain ⟨-, values⟩ := Option.ite_none_right_eq_some.1 values
      have mem : v ∈ valuesNamed f.1 members :=
        List.mem_filterMap.2 ⟨(some a, v), given, by simp [named]⟩
      exact spoiled_mapM field (fun x found => ⟨v, eq_of_atMostOne? mem found, inner⟩) values
  | position before after field inner =>
      obtain ⟨-, values⟩ := Option.ite_none_right_eq_some.1 values
      cases values
      rw [List.map_append, List.map_cons, List.append_assoc, List.cons_append]
      exact spoiled_append (by rwa [List.length_map]) inner _

/-- **A record is described by its fields**: when a reader looks at nothing but the values of the
fields, reads the same from restated values, and nothing from values in which a field is given
twice, then it does so from records. -/
theorem describes_record {names : List (List String)} (named : fields.map (·.1) = names)
    (apart : names.Pairwise List.Disjoint)
    (failed : ∀ l, fieldValues? names l = none → read l = none)
    (same : ∀ l m vs ws, fieldValues? names l = some vs → fieldValues? names m = some ws →
      SameValues fields vs ws → read l = read m)
    (refuses : ∀ l vs, fieldValues? names l = some vs → SameValues fields vs vs →
      Spoiled fields vs → read l = none) : Describes (.record fields) read where
  same restated := by
    subst named
    -- Whatever changes, the values of the fields are the same or there are none.
    have same (l m : Literal) (values : Option.Rel (SameValues fields)
        (fieldValues? (fields.map (·.1)) l) (fieldValues? (fields.map (·.1)) m)) :
        read l = read m := by
      generalize first : fieldValues? (fields.map (·.1)) l = x,
        second : fieldValues? (fields.map (·.1)) m = y at values
      cases values with
      | none => rw [failed l first, failed m second]
      | some both => exact same l m _ _ first second both
    generalize record : Schema.record fields = t at restated
    induction restated with
    | refl => rfl
    | symm _ ih => exact (ih record).symm
    | trans _ _ ih₁ ih₂ => exact (ih₁ record).trans (ih₂ record)
    | reorder perm =>
        cases record
        exact same _ _ (sameValues_of_reorder perm)
    | unknown ignored value members =>
        cases record
        exact same _ _ (sameValues_of_unknown ignored value members)
    | rename field ha hb value members =>
        cases record
        exact same _ _ (sameValues_of_rename apart field ha hb value members)
    | member field named inner members =>
        cases record
        exact same _ _ (sameValues_of_member apart field named inner members)
    | position before after field inner =>
        cases record
        exact same _ _ (sameValues_of_position field inner)
    | item => exact nomatch record
  refuses {l} doubled := by
    subst named
    cases values : fieldValues? (fields.map (·.1)) l with
    | none => exact failed l values
    | some vs =>
        exact refuses l vs values (sameValues_self values) (spoiled_of_doubled doubled values)

end PagedTable.Literal
