/-
  PagedTable.Proofs.Json.Scanning — the scanner finds the tokens that the printer wrote.

  Punctuation, words and strings end with a character of their own: when the scanner has read it,
  it is between tokens again.  A number ends where a character follows that cannot be part of it,
  so what stands behind a number matters.  The printer puts a comma, a bracket, a brace or nothing
  behind every value, and that is enough:

      feedAll?_writeChar  — a character is read back, whichever way it is escaped
      closed_writeText    — a string is read as one token of its text
      reads_numeral       — so is a number literal, when no number character follows
      reads_write         — every value is read as its tokens, by recursion on the value
      scan?_write         — the tokens of a whole text
-/
import PagedTable.Json.Token
import PagedTable.Proofs.Json.Integers

namespace PagedTable

namespace Token

/-! ## §1. Scans that go on -/

namespace Scanner

/-- The tokens when the scanner reads the text and there is no more. -/
def scanRest? (s : Scanner) (text : List Char) : Option (List Token) :=
  (s.feedAll? text).bind finish?

/-- The scan of a concatenation continues the scan of its first part. -/
theorem feedAll?_append (s : Scanner) (front back : List Char) :
    s.feedAll? (front ++ back) = (s.feedAll? front).bind (·.feedAll? back) := by
  induction front generalizing s with
  | nil => rfl
  | cons c rest ih =>
      rw [List.cons_append, feedAll?, feedAll?, Option.bind_assoc]
      congr 1
      funext next
      exact ih next

/-- When reading the front of a text succeeds, the scan goes on from there. -/
theorem scanRest?_append {s next : Scanner} {front : List Char}
    (h : s.feedAll? front = some next) (back : List Char) :
    s.scanRest? (front ++ back) = next.scanRest? back := by
  rw [scanRest?, feedAll?_append, h]
  rfl

end Scanner

open Scanner

/-- Does the text end a number that stands before it? -/
def Delimited (text : List Char) : Prop := ∀ c ∈ text.head?, inNumber c = false

/-- The end of the text ends a number. -/
theorem delimited_nil : Delimited [] := fun _ mem => nomatch mem

/-- So does a character that cannot be part of one. -/
theorem delimited_cons {c : Char} (h : inNumber c = false) (text : List Char) :
    Delimited (c :: text) := by
  intro first mem
  cases mem
  exact h

/-- The text is read as one token, whatever stands behind it. -/
def Closed (text : List Char) (token : Token) : Prop :=
  ∀ before, feedAll? ⟨before, .idle⟩ text = some ⟨token :: before, .idle⟩

/-- The text is read as the tokens, when what stands behind it ends a number. -/
def Reads (text : List Char) (tokens : List Token) : Prop :=
  ∀ before rest, Delimited rest →
    scanRest? ⟨before, .idle⟩ (text ++ rest) = scanRest? ⟨tokens.reverse ++ before, .idle⟩ rest

/-- A token that ends by itself is read before any text. -/
theorem Closed.reads_append {front back : List Char} {token : Token} {tokens : List Token}
    (first : Closed front token) (second : Reads back tokens) :
    Reads (front ++ back) (token :: tokens) := by
  intro before rest delimited
  rw [List.append_assoc, scanRest?_append (first before), second _ rest delimited,
    List.reverse_cons, List.append_assoc]
  rfl

/-- A token of one character is read before any text. -/
theorem Reads.cons {c : Char} {back : List Char} {token : Token} {tokens : List Token}
    (single : Closed [c] token) (second : Reads back tokens) :
    Reads (c :: back) (token :: tokens) := single.reads_append second

/-- No text is read as no tokens. -/
theorem reads_nil : Reads [] [] := fun _ _ _ => rfl

/-- A token that ends by itself is read. -/
theorem Closed.reads {text : List Char} {token : Token} (h : Closed text token) :
    Reads text [token] := by
  have := h.reads_append reads_nil
  rwa [List.append_nil] at this

/-- Tokens are read one text after the other, when the second text ends a number. -/
theorem Reads.append {front back : List Char} {tokens others : List Token}
    (first : Reads front tokens) (second : Reads back others)
    (delimited : ∀ rest, Delimited rest → Delimited (back ++ rest)) :
    Reads (front ++ back) (tokens ++ others) := by
  intro before rest behind
  rw [List.append_assoc, first before _ (delimited rest behind), second _ rest behind,
    List.reverse_append, List.append_assoc]

/-- When a whole text is read as tokens, these are the tokens of the text. -/
theorem Reads.scan? {text : List Char} {tokens : List Token} (reads : Reads text tokens) :
    scan? text = some tokens := by
  have read := reads [] [] delimited_nil
  rw [List.append_nil, List.append_nil] at read
  have idle : scanRest? ⟨tokens.reverse, .idle⟩ [] = some tokens.reverse.reverse := rfl
  rw [idle, List.reverse_reverse] at read
  exact read

/-! ## §2. Strings -/

/-- The piece adds the character to the text of a string. -/
def Piece.Denotes (p : Piece) (c : Char) : Prop :=
  ∀ rest, joinPieces (p :: rest) = (joinPieces rest).map (c :: ·)

/-- The code unit of a character below U+0020 is not half of a surrogate pair. -/
theorem Piece.denotes_unit {c : Char} (h : c.toNat < 0x20) : (unit c.toNat).Denotes c := by
  intro rest
  have not_leading : isLeading c.toNat = false := by simp [isLeading]; omega
  have not_trailing : isTrailing c.toNat = false := by simp [isTrailing]; omega
  rw [joinPieces.eq_def (unit c.toNat :: rest)]
  simp only [not_leading, not_trailing, Char.ofNat_toNat, Bool.false_eq_true, if_false]

/-- Hexadecimal digits are read back. -/
theorem hexDigit?_digitChar : ∀ d < 16, hexDigit? (Nat.digitChar d) = some d := by decide

/-- A control character is read back from its numeric escape. -/
theorem feedAll?_control {c : Char} (h : c.toNat < 0x20) (before : List Token)
    (seen : List Piece) :
    feedAll? ⟨before, .text seen⟩
        ['\\', 'u', '0', '0', Nat.digitChar (c.toNat / 16), Nat.digitChar (c.toNat % 16)] =
      some ⟨before, .text (.unit c.toNat :: seen)⟩ := by
  have high := hexDigit?_digitChar (c.toNat / 16) (by omega)
  have low := hexDigit?_digitChar (c.toNat % 16) (by omega)
  have zero : hexDigit? '0' = some 0 := rfl
  have whole : c.toNat / 16 * 16 + c.toNat % 16 = c.toNat := by omega
  simp [feedAll?, feed?, zero, high, low, whole]

/-- **A character is read back, whichever way it is written.** -/
theorem feedAll?_writeChar (c : Char) (before : List Token) (seen : List Piece) :
    ∃ p : Piece, p.Denotes c ∧
      feedAll? ⟨before, .text seen⟩ (Json.writeChar c) = some ⟨before, .text (p :: seen)⟩ := by
  have itself : (Piece.char c).Denotes c := fun _ => rfl
  -- The cases are the printer's: seven short escapes, numeric escapes, and characters as they are.
  unfold Json.writeChar
  split
  · next quote => exact ⟨.char c, itself, by subst quote; rfl⟩
  split
  · next backslash => exact ⟨.char c, itself, by subst backslash; rfl⟩
  split
  · next backspace => exact ⟨.char c, itself, by subst backspace; rfl⟩
  split
  · next formFeed => exact ⟨.char c, itself, by subst formFeed; rfl⟩
  split
  · next lineFeed => exact ⟨.char c, itself, by subst lineFeed; rfl⟩
  split
  · next carriageReturn => exact ⟨.char c, itself, by subst carriageReturn; rfl⟩
  split
  · next tab => exact ⟨.char c, itself, by subst tab; rfl⟩
  split
  · next control =>
    exact ⟨.unit c.toNat, Piece.denotes_unit control, feedAll?_control control before seen⟩
  · next no_quote no_backslash _ _ _ _ _ no_control =>
    refine ⟨.char c, itself, ?_⟩
    simp [feedAll?, feed?, no_quote, no_backslash, no_control]

/-- The characters of a string are read back. -/
theorem feedAll?_flatMap_writeChar (cs : List Char) (before : List Token) (seen : List Piece) :
    ∃ pieces, joinPieces pieces = some cs ∧
      feedAll? ⟨before, .text seen⟩ (cs.flatMap Json.writeChar) =
        some ⟨before, .text (pieces.reverse ++ seen)⟩ := by
  induction cs generalizing seen with
  | nil => exact ⟨[], rfl, rfl⟩
  | cons c rest ih =>
      obtain ⟨p, denotes, first⟩ := feedAll?_writeChar c before seen
      obtain ⟨pieces, joined, others⟩ := ih (p :: seen)
      refine ⟨p :: pieces, by rw [denotes, joined]; rfl, ?_⟩
      rw [List.flatMap_cons, feedAll?_append, first, Option.bind_some, others,
        List.reverse_cons, List.append_assoc]
      rfl

/-- **A written string is read as one token of its text.** -/
theorem closed_writeText (s : String) : Closed (Json.writeText s) (.str (some s)) := by
  intro before
  obtain ⟨pieces, joined, body⟩ := feedAll?_flatMap_writeChar s.toList before []
  have token : ofText pieces.reverse = .str (some s) := by
    rw [ofText, List.reverse_reverse, joined, Option.map_some, String.ofList_toList]
  have opened : feedAll? ⟨before, .idle⟩ (Json.writeText s) =
      feedAll? ⟨before, .text []⟩ (s.toList.flatMap Json.writeChar ++ ['"']) := rfl
  rw [opened, feedAll?_append, body, Option.bind_some, List.append_nil, ← token]
  rfl

/-! ## §3. Numbers -/

/-- A digit can be part of a number. -/
theorem inNumber_of_isDigit {c : Char} (h : c.isDigit = true) : inNumber c = true := by
  simp [inNumber, h]

/-- A digit opens a number. -/
theorem start?_of_isDigit {c : Char} (h : c.isDigit = true) (before : List Token) :
    start? before c = some ⟨before, .number [c]⟩ := by
  have other {d : Char} (no_digit : d.isDigit = false) : c ≠ d := by
    intro eq
    rw [eq, no_digit] at h
    exact Bool.false_ne_true h
  -- So it is none of the characters that the scanner asks for first.
  have no_space : isSpace c = false := by
    simp [isSpace, other (d := ' ') rfl, other (d := '\t') rfl, other (d := '\n') rfl,
      other (d := '\r') rfl]
  rw [start?, no_space, h, if_neg Bool.false_ne_true, if_neg (other rfl), if_neg (other rfl),
    if_neg (other rfl), if_neg (other rfl), if_neg (other rfl), if_neg (other rfl),
    if_neg (other rfl), if_neg (other rfl), if_neg (other rfl), if_neg (other rfl)]
  rfl

/-- Characters of a number are collected. -/
theorem feedAll?_number {cs : List Char} (h : ∀ c ∈ cs, inNumber c = true) (before : List Token)
    (seen : List Char) :
    feedAll? ⟨before, .number seen⟩ cs = some ⟨before, .number (cs.reverse ++ seen)⟩ := by
  induction cs generalizing seen with
  | nil => rfl
  | cons c rest ih =>
      have step : feed? ⟨before, .number seen⟩ c = some ⟨before, .number (c :: seen)⟩ :=
        if_pos (h c List.mem_cons_self)
      rw [feedAll?, step, Option.bind_some, ih fun d mem => h d (List.mem_cons_of_mem c mem),
        List.reverse_cons, List.append_assoc]
      rfl

/-- Digits and what follows them can be part of a number when what follows can. -/
theorem inNumber_of_spanDigits {cs rest : List Char} {ds : List Nat}
    (h : Numeral.spanDigits cs = (ds, rest)) (tail : ∀ c ∈ rest, inNumber c = true) :
    ∀ c ∈ cs, inNumber c = true := by
  obtain ⟨-, rfl⟩ := Prod.mk.injEq .. ▸ h
  intro c mem
  rw [← List.takeWhile_append_dropWhile (p := Char.isDigit) (l := cs)] at mem
  rcases List.mem_append.1 mem with digit | behind
  · exact inNumber_of_isDigit (List.mem_takeWhile_imp digit)
  · exact tail c behind

/-- The characters of an exponent can be part of a number. -/
theorem inNumber_of_exponentOf? {cs : List Char} {e : Bool × List Nat}
    (h : Numeral.exponentOf? cs = some e) : ∀ c ∈ cs, inNumber c = true := by
  unfold Numeral.exponentOf? at h
  dsimp only at h
  split at h
  · next spanned =>
    -- Behind the sign, if there is one, there is nothing but digits.
    have digits := inNumber_of_spanDigits spanned nofun
    split at digits
    · exact List.forall_mem_cons.2 ⟨rfl, digits⟩
    · exact List.forall_mem_cons.2 ⟨rfl, digits⟩
    · exact digits
  · exact nomatch h

/-- The characters of an exponent part can be part of a number. -/
theorem inNumber_of_withExponent? {n m : Numeral} {cs : List Char}
    (h : n.withExponent? cs = some m) : ∀ c ∈ cs, inNumber c = true := by
  cases cs with
  | nil => exact nofun
  | cons c rest =>
      rw [Numeral.withExponent?] at h
      split at h
      · next letter =>
        obtain ⟨e, exponent, -⟩ := Option.map_eq_some_iff.1 h
        refine List.forall_mem_cons.2 ⟨?_, inNumber_of_exponentOf? exponent⟩
        rcases letter with rfl | rfl <;> rfl
      · exact nomatch h

/-- The characters of a number literal can be part of a number. -/
theorem inNumber_of_ofChars? {cs : List Char} {n : Numeral} (h : Numeral.ofChars? cs = some n) :
    ∀ c ∈ cs, inNumber c = true := by
  unfold Numeral.ofChars? at h
  dsimp only at h
  -- Without a fraction and with one: the digits behind the sign, if there is one, and the rest.
  split at h
  · exact nomatch h
  · exact nomatch h
  · next spanned =>
    split at h
    · exact nomatch h
    · next fraction =>
      have behind := inNumber_of_spanDigits fraction (inNumber_of_withExponent? h)
      have unsigned := inNumber_of_spanDigits spanned (List.forall_mem_cons.2 ⟨rfl, behind⟩)
      split at unsigned
      · exact List.forall_mem_cons.2 ⟨rfl, unsigned⟩
      · exact unsigned
  · next spanned =>
    have unsigned := inNumber_of_spanDigits spanned (inNumber_of_withExponent? h)
    split at unsigned
    · exact List.forall_mem_cons.2 ⟨rfl, unsigned⟩
    · exact unsigned

/-- A number literal begins with a digit or a minus sign. -/
theorem exists_head_of_ofChars? {cs : List Char} {n : Numeral} (h : Numeral.ofChars? cs = some n) :
    ∃ c rest, cs = c :: rest ∧ (c.isDigit || c == '-') = true := by
  cases cs with
  | nil => exact nomatch h
  | cons c rest =>
      refine ⟨c, rest, rfl, ?_⟩
      by_cases minus : c = '-'
      · subst minus
        rfl
      · by_contra no_digit
        have none_spanned : Numeral.spanDigits (c :: rest) = ([], c :: rest) := by
          simp_all [Numeral.spanDigits]
        simp [Numeral.ofChars?, none_spanned, minus] at h

/-- The text of a number literal is collected as a number. -/
theorem feedAll?_numeral {cs : List Char} {n : Numeral} (h : Numeral.ofChars? cs = some n)
    (before : List Token) : feedAll? ⟨before, .idle⟩ cs = some ⟨before, .number cs.reverse⟩ := by
  have characters := inNumber_of_ofChars? h
  obtain ⟨c, rest, rfl, opens⟩ := exists_head_of_ofChars? h
  have opened : start? before c = some ⟨before, .number [c]⟩ := by
    rcases Bool.or_eq_true_iff.1 opens with digit | minus
    · exact start?_of_isDigit digit before
    · rw [beq_iff_eq.1 minus]
      rfl
  rw [feedAll?, feed?, opened, Option.bind_some,
    feedAll?_number fun d mem => characters d (List.mem_cons_of_mem c mem), List.reverse_cons]

/-- **The text of a number literal is read as one token, when no number character stands behind
it.** -/
theorem reads_numeral {cs : List Char} {n : Numeral} (h : Numeral.ofChars? cs = some n) :
    Reads cs [.num n.value?] := by
  have token : ofNumber? cs.reverse = some (.num n.value?) := by
    rw [ofNumber?, List.reverse_reverse, h, Option.map_some]
  intro before rest delimited
  rw [scanRest?_append (feedAll?_numeral h before)]
  cases rest with
  | nil =>
      show (ofNumber? cs.reverse).map (fun t => (t :: before).reverse) = _
      rw [token]
      rfl
  | cons c rest =>
      -- The number is finished by the character behind it, which is then read between tokens.
      have ends : inNumber c = false := delimited c rfl
      have finished : feed? ⟨before, .number cs.reverse⟩ c =
          feed? ⟨[.num n.value?] ++ before, .idle⟩ c := by
        show (if inNumber c = true then _ else _) = _
        rw [ends, if_neg Bool.false_ne_true, token]
        rfl
      rw [scanRest?, scanRest?, feedAll?, feedAll?, finished]
      rfl

/-- **The text of an integer of 64 bits is read as one token, when no number character stands
behind it.** -/
theorem reads_decimalInt {n : Int} (h : IsWord n) :
    Reads (decimalInt n) [.num (some (.int n))] := by
  obtain ⟨literal, parsed, value⟩ := Option.map_eq_some_iff.1 (Numeral.value?_decimalInt h)
  rw [← value]
  exact reads_numeral parsed

end Token

/-! ## §4. Values -/

namespace Json

mutual

/-- Are all numbers in the value integers of 64 bits? -/
def Integral : Json → Prop
  | .null | .bool _ | .str _ => True
  | .num (.int n) => IsWord n
  | .num (.float _) => False
  | .arr items => IntegralItems items
  | .obj members => IntegralMembers members

/-- Are all numbers in the values integers of 64 bits? -/
def IntegralItems : List Json → Prop
  | [] => True
  | item :: rest => Integral item ∧ IntegralItems rest

/-- Are all numbers in the values of the members integers of 64 bits? -/
def IntegralMembers : List (String × Json) → Prop
  | [] => True
  | (_, value) :: rest => Integral value ∧ IntegralMembers rest

end

mutual

/-- The tokens of a value's text. -/
def tokens : Json → List Token
  | .null => [.null]
  | .bool b => [.bool b]
  | .num n => [.num (some n)]
  | .str s => [.str (some s)]
  | .arr [] => [.openBracket, .closeBracket]
  | .arr (item :: rest) => .openBracket :: (tokens item ++ itemTokens rest)
  | .obj [] => [.openBrace, .closeBrace]
  | .obj ((name, value) :: rest) =>
    .openBrace :: .str (some name) :: .colon :: (tokens value ++ memberTokens rest)

/-- The tokens of the items after the first, up to the closing bracket. -/
def itemTokens : List Json → List Token
  | [] => [.closeBracket]
  | item :: rest => .comma :: (tokens item ++ itemTokens rest)

/-- The tokens of the members after the first, up to the closing brace. -/
def memberTokens : List (String × Json) → List Token
  | [] => [.closeBrace]
  | (name, value) :: rest =>
    .comma :: .str (some name) :: .colon :: (tokens value ++ memberTokens rest)

end

open Token

/-- What follows an item ends a number: a comma or the closing bracket. -/
theorem delimited_writeItems (items : List Json) (rest : List Char) :
    Delimited (writeItems items ++ rest) := by
  cases items with
  | nil => exact delimited_cons rfl _
  | cons => exact delimited_cons rfl _

/-- What follows a member ends a number: a comma or the closing brace. -/
theorem delimited_writeMembers (members : List (String × Json)) (rest : List Char) :
    Delimited (writeMembers members ++ rest) := by
  cases members with
  | nil => exact delimited_cons rfl _
  | cons => exact delimited_cons rfl _

/-- A member is read as its name, the colon and its value. -/
theorem reads_member (name : String) {value rest : List Char} {tokens others : List Token}
    (first : Reads value tokens) (second : Reads rest others)
    (delimited : ∀ behind, Delimited (rest ++ behind)) :
    Reads (writeText name ++ ':' :: (value ++ rest))
      (.str (some name) :: .colon :: (tokens ++ others)) :=
  have both := first.append second fun behind _ => delimited behind
  have after_colon := Reads.cons (fun _ => rfl) both
  (closed_writeText name).reads_append after_colon

mutual

/-- **The text of a value is read as the value's tokens.** -/
theorem reads_write : (v : Json) → v.Integral → Reads v.write v.tokens
  | .null, _ => Closed.reads fun _ => rfl
  | .bool true, _ => Closed.reads fun _ => rfl
  | .bool false, _ => Closed.reads fun _ => rfl
  | .num (.int _), h => reads_decimalInt h
  | .num (.float _), h => h.elim
  | .str s, _ => (closed_writeText s).reads
  | .arr [], _ => Reads.cons (fun _ => rfl) (Closed.reads fun _ => rfl)
  | .arr (item :: rest), ⟨first, others⟩ =>
    Reads.cons (fun _ => rfl)
      ((reads_write item first).append (reads_writeItems rest others) fun behind _ =>
        delimited_writeItems rest behind)
  | .obj [], _ => Reads.cons (fun _ => rfl) (Closed.reads fun _ => rfl)
  | .obj ((name, value) :: rest), ⟨first, others⟩ => by
    rw [write, List.cons_append, List.cons_append, List.append_assoc, List.cons_append]
    exact Reads.cons (fun _ => rfl)
      (reads_member name (reads_write value first) (reads_writeMembers rest others)
        (delimited_writeMembers rest))

/-- The text of the items after the first is read as their tokens. -/
theorem reads_writeItems : (items : List Json) → IntegralItems items →
    Reads (writeItems items) (itemTokens items)
  | [], _ => Closed.reads fun _ => rfl
  | item :: rest, ⟨first, others⟩ =>
    Reads.cons (fun _ => rfl)
      ((reads_write item first).append (reads_writeItems rest others) fun behind _ =>
        delimited_writeItems rest behind)

/-- The text of the members after the first is read as their tokens. -/
theorem reads_writeMembers : (members : List (String × Json)) → IntegralMembers members →
    Reads (writeMembers members) (memberTokens members)
  | [], _ => Closed.reads fun _ => rfl
  | (name, value) :: rest, ⟨first, others⟩ => by
    rw [writeMembers, List.cons_append, List.cons_append, List.append_assoc, List.cons_append]
    exact Reads.cons (fun _ => rfl)
      (reads_member name (reads_write value first) (reads_writeMembers rest others)
        (delimited_writeMembers rest))

end

/-- **The tokens of the text of a value are the value's tokens.** -/
theorem scan?_write {v : Json} (h : v.Integral) : scan? v.write = some v.tokens :=
  (reads_write v h).scan?

end Json
end PagedTable
