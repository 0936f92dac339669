/-
  PagedTable.Proofs.Json.Syntax — the texts of a literal are those that spell its tokens.

  A literal has one sequence of tokens.  These tokens take the stack machine from where it waits
  for a value to where the value is complete, whatever containers are open around it.  Conversely
  the machine is at any time through with certain tokens: those of the containers that are open,
  with what they hold so far.  One token more, and it is through with one token more; at the end
  these are the tokens of the tree.  Together with the spellings of tokens:

      feedAll?_tokens       — the tokens of a literal complete it, by recursion on the literal
      past_feed?            — one token, state by state
      ofTokens?_eq_some_iff — the sequences of tokens that make up a literal
      parse?_eq_some_iff    — the texts that are read as a literal
-/
import PagedTable.Json.Literal
import PagedTable.Proofs.Json.Spelling

namespace PagedTable.Literal

/-! ## §1. The tokens of a literal -/

mutual

/-- The tokens of a literal. -/
def tokens : Literal → List Token
  | .null => [.null]
  | .bool b => [.bool b]
  | .num n => [.num n]
  | .str s => [.str s]
  | .arr [] => [.openBracket, .closeBracket]
  | .arr (item :: rest) => .openBracket :: (tokens item ++ itemTokens rest)
  | .obj [] => [.openBrace, .closeBrace]
  | .obj ((name, value) :: rest) =>
    .openBrace :: .str name :: .colon :: (tokens value ++ memberTokens rest)

/-- The tokens of the items after the first, up to the closing bracket. -/
def itemTokens : List Literal → List Token
  | [] => [.closeBracket]
  | item :: rest => .comma :: (tokens item ++ itemTokens rest)

/-- The tokens of the members after the first, up to the closing brace. -/
def memberTokens : List (Option String × Literal) → List Token
  | [] => [.closeBrace]
  | (name, value) :: rest =>
    .comma :: .str name :: .colon :: (tokens value ++ memberTokens rest)

end

/-! ## §2. The stack machine on the tokens of a literal -/

mutual

/-- **The tokens of a literal complete it.** -/
theorem feedAll?_tokens : (l : Literal) → (stack : List Frame) → (orEnd : Bool) →
    (rest : List Token) →
    State.feedAll? (.atValue stack orEnd) (l.tokens ++ rest) =
      State.feedAll? (State.complete l stack) rest
  | .null, _, _, _ | .bool _, _, _, _ | .num _, _, _, _ | .str _, _, _, _ => rfl
  | .arr [], _, _, _ => rfl
  | .arr (item :: items), stack, orEnd, rest => by
    have first := feedAll?_tokens item (.arr [] :: stack) true (itemTokens items ++ rest)
    have others := feedAll?_itemTokens items stack [item] rest
    rw [tokens, List.cons_append, List.append_assoc]
    exact first.trans others
  | .obj [], _, _, _ => rfl
  | .obj ((name, value) :: members), stack, orEnd, rest => by
    have first := feedAll?_tokens value (.obj [] name :: stack) false (memberTokens members ++ rest)
    have others := feedAll?_memberTokens members stack [(name, value)] rest
    rw [tokens, List.cons_append, List.cons_append, List.cons_append, List.append_assoc]
    exact first.trans others

/-- The tokens behind the first items complete the array. -/
theorem feedAll?_itemTokens : (items : List Literal) → (stack : List Frame) →
    (before : List Literal) → (rest : List Token) →
    State.feedAll? (.afterItem stack before) (itemTokens items ++ rest) =
      State.feedAll? (State.complete (.arr (before.reverse ++ items)) stack) rest
  | [], stack, before, rest => by
    rw [List.append_nil]
    rfl
  | item :: items, stack, before, rest => by
    have first := feedAll?_tokens item (.arr before :: stack) false (itemTokens items ++ rest)
    have others := feedAll?_itemTokens items stack (item :: before) rest
    rw [List.reverse_cons, List.append_assoc] at others
    rw [itemTokens, List.cons_append, List.append_assoc]
    exact first.trans others

/-- The tokens behind the first members complete the object. -/
theorem feedAll?_memberTokens : (members : List (Option String × Literal)) →
    (stack : List Frame) → (before : List (Option String × Literal)) → (rest : List Token) →
    State.feedAll? (.afterMember stack before) (memberTokens members ++ rest) =
      State.feedAll? (State.complete (.obj (before.reverse ++ members)) stack) rest
  | [], stack, before, rest => by
    rw [List.append_nil]
    rfl
  | (name, value) :: members, stack, before, rest => by
    have first := feedAll?_tokens value (.obj before name :: stack) false
      (memberTokens members ++ rest)
    have others := feedAll?_memberTokens members stack ((name, value) :: before) rest
    rw [List.reverse_cons, List.append_assoc] at others
    rw [memberTokens, List.cons_append, List.cons_append, List.cons_append, List.append_assoc]
    exact first.trans others

end

/-- The tokens of a literal take the machine from its start to its end. -/
theorem feedAll?_tokens_done (l : Literal) :
    State.feedAll? (.atValue [] false) l.tokens = some (.done l) := by
  have complete := feedAll?_tokens l [] false []
  rwa [List.append_nil] at complete

/-! ## §3. What the stack machine accepts -/

/-- The tokens of items, each with the comma behind it.  The items are in reverse. -/
def tokensOfItems : List Literal → List Token
  | [] => []
  | item :: before => tokensOfItems before ++ item.tokens ++ [.comma]

/-- The tokens of members, each with the comma behind it.  The members are in reverse. -/
def tokensOfMembers : List (Option String × Literal) → List Token
  | [] => []
  | (name, value) :: before =>
    tokensOfMembers before ++ .str name :: .colon :: value.tokens ++ [.comma]

/-- The tokens of open containers, up to where the next value stands. -/
def tokensOfStack : List Frame → List Token
  | [] => []
  | .arr items :: rest => tokensOfStack rest ++ .openBracket :: tokensOfItems items
  | .obj members name :: rest =>
    tokensOfStack rest ++ .openBrace :: (tokensOfMembers members ++ [.str name, .colon])

/-- The tokens that the machine is past when it is in a state. -/
inductive Past : State → List Token → Prop where
  | atValue (stack : List Frame) (orEnd : Bool) : Past (.atValue stack orEnd) (tokensOfStack stack)
  | atName (stack : List Frame) (members : List (Option String × Literal)) (orEnd : Bool) :
    Past (.atName stack members orEnd)
      (tokensOfStack stack ++ .openBrace :: tokensOfMembers members)
  | atColon (stack : List Frame) (members : List (Option String × Literal))
    (name : Option String) :
    Past (.atColon stack members name)
      (tokensOfStack stack ++ .openBrace :: (tokensOfMembers members ++ [.str name]))
  | afterItem (stack : List Frame) (last : Literal) (before : List Literal) :
    Past (.afterItem stack (last :: before))
      (tokensOfStack stack ++ .openBracket :: (tokensOfItems before ++ last.tokens))
  | afterMember (stack : List Frame) (name : Option String) (last : Literal)
    (before : List (Option String × Literal)) :
    Past (.afterMember stack ((name, last) :: before))
      (tokensOfStack stack ++
        .openBrace :: (tokensOfMembers before ++ .str name :: .colon :: last.tokens))
  | done (tree : Literal) : Past (.done tree) tree.tokens

/-- An array in the middle: the items before, one item, and the items behind. -/
theorem tokens_arr (before : List Literal) (item : Literal) (behind : List Literal) :
    tokens (.arr (before.reverse ++ item :: behind)) =
      .openBracket :: (tokensOfItems before ++ item.tokens ++ itemTokens behind) := by
  induction before generalizing item behind with
  | nil => rfl
  | cons last before ih =>
      rw [List.reverse_cons, List.append_assoc, List.singleton_append, ih last, itemTokens,
        tokensOfItems]
      simp only [List.append_assoc, List.cons_append, List.nil_append]

/-- An object in the middle: the members before, one member, and the members behind. -/
theorem tokens_obj (before : List (Option String × Literal)) (name : Option String)
    (value : Literal) (behind : List (Option String × Literal)) :
    tokens (.obj (before.reverse ++ (name, value) :: behind)) =
      .openBrace :: (tokensOfMembers before ++
        .str name :: .colon :: (value.tokens ++ memberTokens behind)) := by
  induction before generalizing name value behind with
  | nil => rfl
  | cons last before ih =>
      rw [List.reverse_cons, List.append_assoc, List.singleton_append, ih last.1 last.2,
        memberTokens, tokensOfMembers]
      simp only [List.append_assoc, List.cons_append, List.nil_append]

/-- When a value is put where it belongs, the machine is past its tokens. -/
theorem past_complete (value : Literal) (stack : List Frame) :
    Past (State.complete value stack) (tokensOfStack stack ++ value.tokens) := by
  rcases stack with _ | ⟨items | ⟨members, name⟩, rest⟩
  · exact .done value
  · have past := Past.afterItem rest value items
    rwa [← List.cons_append, ← List.append_assoc] at past
  · have past := Past.afterMember rest name value members
    have whole : tokensOfStack (.obj members name :: rest) ++ value.tokens =
        tokensOfStack rest ++
          .openBrace :: (tokensOfMembers members ++ .str name :: .colon :: value.tokens) := by
      simp [tokensOfStack]
    rwa [whole]

/-- Where a value may stand, only an array just opened can end. -/
theorem exists_of_feed?_closeBracket {stack : List Frame} {orEnd : Bool} {next : State}
    (h : State.feed? (.atValue stack orEnd) .closeBracket = some next) :
    ∃ rest, stack = .arr [] :: rest ∧ next = State.complete (.arr []) rest := by
  rcases stack with _ | ⟨(_ | _) | _, rest⟩ <;> cases orEnd <;> cases h
  exact ⟨rest, rfl, rfl⟩

/-- Where a name may stand, only an object just opened can end. -/
theorem eq_of_feed?_closeBrace {stack : List Frame} {members : List (Option String × Literal)}
    {orEnd : Bool} {next : State}
    (h : State.feed? (.atName stack members orEnd) .closeBrace = some next) :
    members = [] ∧ next = State.complete (.obj []) stack := by
  rcases members with _ | _ <;> cases orEnd <;> cases h
  exact ⟨rfl, rfl⟩

variable {t : Token} {next : State}

/-- Where a value may stand: a value, a container that opens, or the end of an array just opened. -/
theorem past_atValue {stack : List Frame} {orEnd : Bool}
    (step : State.feed? (.atValue stack orEnd) t = some next) :
    Past next (tokensOfStack stack ++ [t]) := by
  cases t with
  | null | bool | num | str =>
      cases step
      exact past_complete _ stack
  | openBracket =>
      cases step
      exact .atValue (.arr [] :: stack) true
  | openBrace =>
      cases step
      exact .atName stack [] true
  | closeBracket =>
      obtain ⟨rest, rfl, rfl⟩ := exists_of_feed?_closeBracket step
      have past := past_complete (.arr []) rest
      have whole : tokensOfStack (.arr [] :: rest) ++ [.closeBracket] =
          tokensOfStack rest ++ tokens (.arr []) := by
        simp [tokensOfStack, tokensOfItems, tokens]
      rwa [whole]
  | closeBrace | colon | comma => exact nomatch step

/-- Where a name may stand: a name, or the end of an object just opened. -/
theorem past_atName {stack : List Frame} {members : List (Option String × Literal)} {orEnd : Bool}
    (step : State.feed? (.atName stack members orEnd) t = some next) :
    Past next (tokensOfStack stack ++ .openBrace :: tokensOfMembers members ++ [t]) := by
  cases t with
  | str name =>
      cases step
      have past := Past.atColon stack members name
      rwa [← List.cons_append, ← List.append_assoc] at past
  | closeBrace =>
      obtain ⟨rfl, rfl⟩ := eq_of_feed?_closeBrace step
      have past := past_complete (.obj []) stack
      rwa [List.append_assoc]
  | null | bool | num | openBracket | openBrace | closeBracket | colon | comma =>
      exact nomatch step

/-- Behind a name: the colon. -/
theorem past_atColon {stack : List Frame} {members : List (Option String × Literal)}
    {name : Option String} (step : State.feed? (.atColon stack members name) t = some next) :
    Past next
      (tokensOfStack stack ++ .openBrace :: (tokensOfMembers members ++ [.str name]) ++ [t]) := by
  cases t with
  | colon =>
      cases step
      have past := Past.atValue (.obj members name :: stack) false
      have whole : tokensOfStack stack ++
            .openBrace :: (tokensOfMembers members ++ [.str name]) ++ [.colon] =
          tokensOfStack (.obj members name :: stack) := by
        simp [tokensOfStack]
      rwa [whole]
  | null | bool | num | str | openBracket | openBrace | closeBracket | closeBrace | comma =>
      exact nomatch step

/-- Behind an item: a comma, or the end of the array. -/
theorem past_afterItem {stack : List Frame} {last : Literal} {before : List Literal}
    (step : State.feed? (.afterItem stack (last :: before)) t = some next) :
    Past next
      (tokensOfStack stack ++ .openBracket :: (tokensOfItems before ++ last.tokens) ++ [t]) := by
  cases t with
  | comma =>
      cases step
      have past := Past.atValue (.arr (last :: before) :: stack) false
      have whole : tokensOfStack stack ++
            .openBracket :: (tokensOfItems before ++ last.tokens) ++ [.comma] =
          tokensOfStack (.arr (last :: before) :: stack) := by
        simp [tokensOfStack, tokensOfItems]
      rwa [whole]
  | closeBracket =>
      cases step
      have past := past_complete (.arr (last :: before).reverse) stack
      have whole := tokens_arr before last []
      rw [← List.reverse_cons] at whole
      rw [whole] at past
      rwa [List.append_assoc]
  | null | bool | num | str | openBracket | openBrace | closeBrace | colon => exact nomatch step

/-- Behind a member: a comma, or the end of the object. -/
theorem past_afterMember {stack : List Frame} {name : Option String} {last : Literal}
    {before : List (Option String × Literal)}
    (step : State.feed? (.afterMember stack ((name, last) :: before)) t = some next) :
    Past next
      (tokensOfStack stack ++
        .openBrace :: (tokensOfMembers before ++ .str name :: .colon :: last.tokens) ++ [t]) := by
  cases t with
  | comma =>
      cases step
      have past := Past.atName stack ((name, last) :: before) false
      rwa [List.append_assoc]
  | closeBrace =>
      cases step
      have past := past_complete (.obj ((name, last) :: before).reverse) stack
      have whole := tokens_obj before name last []
      rw [← List.reverse_cons] at whole
      rw [whole] at past
      simpa [memberTokens] using past
  | null | bool | num | str | openBracket | openBrace | closeBracket | colon =>
      exact nomatch step

/-- **One token more, and the machine is past one token more.** -/
theorem past_feed? {s : State} {ts : List Token} (past : Past s ts)
    (step : s.feed? t = some next) : Past next (ts ++ [t]) := by
  cases past with
  | atValue => exact past_atValue step
  | atName => exact past_atName step
  | atColon => exact past_atColon step
  | afterItem => exact past_afterItem step
  | afterMember => exact past_afterMember step
  | done => exact nomatch step

/-- When the machine has read further tokens, it is past these, too. -/
theorem past_feedAll? {s last : State} {ts us : List Token} (past : Past s ts)
    (run : s.feedAll? us = some last) : Past last (ts ++ us) := by
  induction us generalizing s ts with
  | nil =>
      cases run
      rwa [List.append_nil]
  | cons t rest ih =>
      obtain ⟨next, step, others⟩ := Option.bind_eq_some_iff.1 run
      have := ih (past_feed? past step) others
      rwa [List.append_assoc] at this

/-- **The tokens that make up a literal are its own and no others.** -/
theorem ofTokens?_eq_some_iff {ts : List Token} {l : Literal} :
    ofTokens? ts = some l ↔ ts = l.tokens := by
  constructor
  · intro h
    unfold ofTokens? at h
    split at h
    · next tree run =>
      cases h
      have past := past_feedAll? (.atValue [] false) run
      cases past
      rfl
    · exact nomatch h
  · rintro rfl
    rw [ofTokens?, feedAll?_tokens_done]

/-! ## §4. Texts -/

/-- Where a number has just been, no number can stand. -/
theorem feed?_number_twice {s next : State} {m : Option Number}
    (h : s.feed? (.num m) = some next) (n : Option Number) : next.feed? (.num n) = none := by
  cases s with
  | atValue stack orEnd =>
      cases h
      rcases stack with _ | ⟨items | ⟨members, name⟩, rest⟩ <;> rfl
  | atName | atColon | afterItem | afterMember | done => exact nomatch h

/-- Sequences of tokens that the machine accepts have no neighbouring numbers. -/
theorem apart_of_feedAll? {s last : State} {ts : List Token} (run : s.feedAll? ts = some last) :
    Token.Apart ts := by
  induction ts generalizing s with
  | nil => exact True.intro
  | cons t rest ih =>
      obtain ⟨next, step, others⟩ := Option.bind_eq_some_iff.1 run
      refine ⟨?_, ih others⟩
      intro number u first
      cases rest with
      | nil => exact nomatch first
      | cons v behind =>
          cases first
          obtain ⟨after, accepted, -⟩ := Option.bind_eq_some_iff.1 others
          refine Bool.eq_false_iff.2 fun number_too => ?_
          obtain ⟨m, rfl⟩ := Token.exists_of_isNumber number
          obtain ⟨n, rfl⟩ := Token.exists_of_isNumber number_too
          exact nomatch (feed?_number_twice step n).symm.trans accepted

/-- **The texts that are read as a literal are those that spell its tokens**, with any blanks
between them and around them. -/
theorem parse?_eq_some_iff {text : String} {l : Literal} :
    parse? text = some l ↔ Token.Spells text.toList l.tokens := by
  constructor
  · intro h
    obtain ⟨ts, scanned, made⟩ := Option.bind_eq_some_iff.1 h
    rw [← ofTokens?_eq_some_iff.1 made]
    exact Token.spells_of_scan? scanned
  · intro spells
    have apart := apart_of_feedAll? (feedAll?_tokens_done l)
    rw [parse?, spells.scan? apart, Option.bind_some]
    exact ofTokens?_eq_some_iff.2 rfl

end PagedTable.Literal
