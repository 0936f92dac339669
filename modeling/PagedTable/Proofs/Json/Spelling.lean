/-
  PagedTable.Proofs.Json.Spelling — the texts that spell a sequence of tokens.

  A lexeme is the text of one token: punctuation, a word, a number literal, or a string with its
  escapes.  A text spells tokens when it is made of their lexemes in turn, with any blanks between
  them and around them.  The scanner finds the tokens in every such text, provided that no two
  numbers are neighbours.  It accepts no other text: whatever mode it is in, what it has read
  spells its tokens up to the lexeme that it is in the middle of.

      Spells.scan?     — the tokens of a spelling are found
      follows_feed?    — one character more, mode by mode
      spells_of_scan?  — where tokens are found, there is a spelling of them
-/
import PagedTable.Proofs.Json.Scanning

namespace PagedTable

namespace Token

/-! ## §1. Lexemes and spellings -/

/-- The number that hexadecimal digits denote behind those that are worth `value`. -/
def hexValue? (value : Nat) : List Char → Option Nat
  | [] => some value
  | c :: rest => (hexDigit? c).bind fun digit => hexValue? (value * 16 + digit) rest

/-- The contents of a string literal: characters as they are, escapes of one letter, and code
units by four digits. -/
inductive Contents : List Char → List Piece → Prop where
  | nil : Contents [] []
  | char {c : Char} {cs : List Char} {ps : List Piece} (not_quote : c ≠ '"')
    (not_backslash : c ≠ '\\') (not_control : 0x20 ≤ c.toNat) (rest : Contents cs ps) :
    Contents (c :: cs) (.char c :: ps)
  | escape {letter c : Char} {cs : List Char} {ps : List Piece} (meaning : escaped? letter = some c)
    (rest : Contents cs ps) : Contents ('\\' :: letter :: cs) (.char c :: ps)
  | unit {digits cs : List Char} {n : Nat} {ps : List Piece} (four : digits.length = 4)
    (meaning : hexValue? 0 digits = some n) (rest : Contents cs ps) :
    Contents ('\\' :: 'u' :: (digits ++ cs)) (.unit n :: ps)

/-- The token of a string with these pieces. -/
def ofPieces (ps : List Piece) : Token := .str ((joinPieces ps).map String.ofList)

/-- The text of one token. -/
inductive Lexeme : List Char → Token → Prop where
  | openBrace : Lexeme ['\x7b'] .openBrace
  | closeBrace : Lexeme ['\x7d'] .closeBrace
  | openBracket : Lexeme ['['] .openBracket
  | closeBracket : Lexeme [']'] .closeBracket
  | colon : Lexeme [':'] .colon
  | comma : Lexeme [','] .comma
  | nullWord : Lexeme ['n', 'u', 'l', 'l'] .null
  | trueWord : Lexeme ['t', 'r', 'u', 'e'] (.bool true)
  | falseWord : Lexeme ['f', 'a', 'l', 's', 'e'] (.bool false)
  | num {cs : List Char} {n : Numeral} (literal : Numeral.ofChars? cs = some n) :
    Lexeme cs (.num n.value?)
  | str {cs : List Char} {ps : List Piece} (contents : Contents cs ps) :
    Lexeme ('"' :: (cs ++ ['"'])) (ofPieces ps)

/-- The text is made of the lexemes of the tokens and of blanks. -/
inductive Spells : List Char → List Token → Prop where
  | nil : Spells [] []
  | blank {c : Char} {cs : List Char} {ts : List Token} (space : isSpace c = true)
    (rest : Spells cs ts) : Spells (c :: cs) ts
  | token {front cs : List Char} {t : Token} {ts : List Token} (lexeme : Lexeme front t)
    (rest : Spells cs ts) : Spells (front ++ cs) (t :: ts)

/-- Is the token a number? -/
def isNumber : Token → Bool
  | .num _ => true
  | _ => false

/-- A number has a value or denotes nothing. -/
theorem exists_of_isNumber {t : Token} (h : t.isNumber = true) : ∃ n, t = .num n := by
  cases t with
  | num n => exact ⟨n, rfl⟩
  | _ => exact nomatch h

/-- No two numbers are neighbours. -/
def Apart : List Token → Prop
  | [] => True
  | t :: rest => (t.isNumber = true → ∀ u ∈ rest.head?, u.isNumber = false) ∧ Apart rest

/-! ## §2. Spellings are read -/

open Scanner

/-- Inside a string a quote ends it, a backslash opens an escape, and a control character is
refused. -/
theorem feed?_text (before : List Token) (seen : List Piece) (c : Char) :
    feed? ⟨before, .text seen⟩ c =
      if c = '"' then some ⟨ofText seen :: before, .idle⟩
      else if c = '\\' then some ⟨before, .escape seen⟩
      else if c.toNat < 0x20 then none
      else some ⟨before, .text (.char c :: seen)⟩ := rfl

/-- After a backslash a letter makes up the escape, or opens the digits of a code unit. -/
theorem feed?_escape (before : List Token) (seen : List Piece) (c : Char) :
    feed? ⟨before, .escape seen⟩ c =
      if c = 'u' then some ⟨before, .unit seen 0 4⟩
      else (escaped? c).map fun e => ⟨before, .text (.char e :: seen)⟩ := rfl

/-- The last digit of a code unit makes it up. -/
theorem feed?_unit (before : List Token) (seen : List Piece) (value missing : Nat) (c : Char) :
    feed? ⟨before, .unit seen value missing⟩ c =
      (hexDigit? c).map fun digit =>
        if missing ≤ 1 then ⟨before, .text (.unit (value * 16 + digit) :: seen)⟩
        else ⟨before, .unit seen (value * 16 + digit) (missing - 1)⟩ := rfl

/-- The digits of a code unit are read to the last. -/
theorem feedAll?_digits {digits : List Char} {n value : Nat} (some_left : digits ≠ [])
    (meaning : hexValue? value digits = some n) (before : List Token) (seen : List Piece) :
    feedAll? ⟨before, .unit seen value digits.length⟩ digits =
      some ⟨before, .text (.unit n :: seen)⟩ := by
  induction digits generalizing value with
  | nil => exact absurd rfl some_left
  | cons c rest ih =>
      obtain ⟨digit, first, others⟩ := Option.bind_eq_some_iff.1 meaning
      rw [feedAll?, feed?_unit, first, Option.map_some, Option.bind_some]
      cases rest with
      | nil =>
          cases others
          rfl
      | cons d rest =>
          have more : ¬ (c :: d :: rest).length ≤ 1 := by simp
          rw [if_neg more]
          exact ih (List.cons_ne_nil d rest) others

/-- The contents of a string are read as their pieces. -/
theorem feedAll?_contents {cs : List Char} {ps : List Piece} (contents : Contents cs ps)
    (before : List Token) (seen : List Piece) :
    feedAll? ⟨before, .text seen⟩ cs = some ⟨before, .text (ps.reverse ++ seen)⟩ := by
  induction contents generalizing seen with
  | nil => rfl
  | @char c cs ps not_quote not_backslash not_control _ ih =>
      rw [feedAll?, feed?_text, if_neg not_quote, if_neg not_backslash,
        if_neg (Nat.not_lt.2 not_control), Option.bind_some, ih, List.reverse_cons,
        List.append_assoc]
      rfl
  | @escape letter c cs ps meaning _ ih =>
      have other : letter ≠ 'u' := by
        rintro rfl
        exact Option.some_ne_none c meaning.symm
      have opened : feedAll? ⟨before, .text seen⟩ ('\\' :: letter :: cs) =
          (feed? ⟨before, .escape seen⟩ letter).bind (·.feedAll? cs) := rfl
      rw [opened, feed?_escape, if_neg other, meaning, Option.map_some, Option.bind_some, ih,
        List.reverse_cons, List.append_assoc]
      rfl
  | @unit digits cs n ps four meaning _ ih =>
      have some_left : digits ≠ [] := by
        rintro rfl
        exact absurd four (by decide)
      have opened : feedAll? ⟨before, .text seen⟩ ('\\' :: 'u' :: (digits ++ cs)) =
          feedAll? ⟨before, .unit seen 0 4⟩ (digits ++ cs) := rfl
      have unit := feedAll?_digits some_left meaning before seen
      rw [four] at unit
      rw [opened, feedAll?_append, unit, Option.bind_some, ih, List.reverse_cons,
        List.append_assoc]
      rfl

/-- Every lexeme but that of a number ends by itself. -/
theorem Lexeme.closed {front : List Char} {t : Token} (lexeme : Lexeme front t)
    (h : t.isNumber = false) : Closed front t := by
  intro before
  cases lexeme with
  | num _ => exact nomatch h
  | str contents =>
      have opened (cs : List Char) : feedAll? ⟨before, .idle⟩ ('"' :: cs) =
          feedAll? ⟨before, .text []⟩ cs := rfl
      rw [opened, feedAll?_append, feedAll?_contents contents, Option.bind_some, List.append_nil]
      show some (Scanner.mk (ofText _ :: before) .idle) = _
      rw [ofText, List.reverse_reverse]
      rfl
  | _ => rfl

/-- A blank cannot be part of a number. -/
theorem inNumber_of_isSpace {c : Char} (h : isSpace c = true) : inNumber c = false := by
  simp only [isSpace, Bool.or_eq_true, beq_iff_eq] at h
  rcases h with ((rfl | rfl) | rfl) | rfl <;> rfl

/-- A spelling that does not begin with a number ends a number. -/
theorem Spells.delimited {cs : List Char} {ts : List Token} (spells : Spells cs ts)
    (first : ∀ t ∈ ts.head?, t.isNumber = false) {behind : List Char} (end_of : Delimited behind) :
    Delimited (cs ++ behind) := by
  cases spells with
  | nil => exact end_of
  | blank space _ => exact delimited_cons (inNumber_of_isSpace space) _
  | @token front cs t ts lexeme _ =>
      have other : t.isNumber = false := first t rfl
      cases lexeme with
      | num _ => exact nomatch other
      | _ => exact delimited_cons rfl _

/-- **The scanner reads a spelling.** -/
theorem Spells.reads {cs : List Char} {ts : List Token} (spells : Spells cs ts)
    (apart : Apart ts) : Reads cs ts := by
  induction spells with
  | nil => exact reads_nil
  | @blank c cs ts space _ ih =>
      intro before rest delimited
      have skipped : feedAll? ⟨before, .idle⟩ [c] = some ⟨before, .idle⟩ := by
        show (start? before c).bind _ = _
        rw [start?, if_pos space]
        rfl
      exact (scanRest?_append skipped (cs ++ rest)).trans (ih apart before rest delimited)
  | @token front cs t ts lexeme spelled ih =>
      obtain ⟨first, behind_apart⟩ := apart
      have others := ih behind_apart
      by_cases number : t.isNumber = true
      · cases lexeme with
        | num literal =>
            exact (reads_numeral literal).append others fun _ => spelled.delimited (first number)
        | _ => cases number
      · exact (lexeme.closed (Bool.eq_false_iff.2 number)).reads_append others

/-- **The tokens of a spelling are found.** -/
theorem Spells.scan? {cs : List Char} {ts : List Token} (spells : Spells cs ts)
    (apart : Apart ts) : scan? cs = some ts :=
  (spells.reads apart).scan?

/-! ## §3. What is read is a spelling -/

/-- Digits behind digits go on with their number. -/
theorem hexValue?_append (value : Nat) (front back : List Char) :
    hexValue? value (front ++ back) = (hexValue? value front).bind (hexValue? · back) := by
  induction front generalizing value with
  | nil => rfl
  | cons c rest ih =>
      rw [List.cons_append, hexValue?, hexValue?, Option.bind_assoc]
      congr 1
      funext digit
      exact ih _

/-- The contents of two strings make up those of one. -/
theorem Contents.append {cs ds : List Char} {ps qs : List Piece} (first : Contents cs ps)
    (second : Contents ds qs) : Contents (cs ++ ds) (ps ++ qs) := by
  induction first with
  | nil => exact second
  | char not_quote not_backslash not_control _ ih =>
      exact .char not_quote not_backslash not_control ih
  | escape meaning _ ih => exact .escape meaning ih
  | unit four meaning _ ih =>
      rw [List.cons_append, List.cons_append, List.append_assoc]
      exact .unit four meaning ih

/-- Spellings of tokens make up one of all the tokens. -/
theorem Spells.append {cs ds : List Char} {ts us : List Token} (first : Spells cs ts)
    (second : Spells ds us) : Spells (cs ++ ds) (ts ++ us) := by
  induction first with
  | nil => exact second
  | blank space _ ih => exact .blank space ih
  | token lexeme _ ih =>
      rw [List.append_assoc]
      exact .token lexeme ih

/-- A blank may follow. -/
theorem Spells.append_blank {cs : List Char} {ts : List Token} {c : Char} (spells : Spells cs ts)
    (space : isSpace c = true) : Spells (cs ++ [c]) ts := by
  have := spells.append (.blank space .nil)
  rwa [List.append_nil] at this

/-- A lexeme may follow. -/
theorem Spells.append_token {cs front : List Char} {ts : List Token} {t : Token}
    (spells : Spells cs ts) (lexeme : Lexeme front t) : Spells (cs ++ front) (ts ++ [t]) := by
  have := spells.append (.token lexeme .nil)
  rwa [List.append_nil] at this

/-- What the scanner has read of the lexeme it is in the middle of. -/
inductive Begun : Mode → List Char → Prop where
  | idle : Begun .idle []
  | word {part expected : List Char} {t : Token} (lexeme : Lexeme (part ++ expected) t) :
    Begun (.word expected t) part
  | number (seen : List Char) : Begun (.number seen) seen.reverse
  | text {cs : List Char} {seen : List Piece} (contents : Contents cs seen.reverse) :
    Begun (.text seen) ('"' :: cs)
  | escape {cs : List Char} {seen : List Piece} (contents : Contents cs seen.reverse) :
    Begun (.escape seen) ('"' :: (cs ++ ['\\']))
  | unit {cs digits : List Char} {seen : List Piece} {value missing : Nat}
    (contents : Contents cs seen.reverse) (meaning : hexValue? 0 digits = some value)
    (four : digits.length + missing = 4) (more : 0 < missing) :
    Begun (.unit seen value missing) ('"' :: (cs ++ '\\' :: 'u' :: digits))

/-- The text spells the tokens of the scanner up to the lexeme it is in the middle of. -/
def Follows (s : Scanner) (text : List Char) : Prop :=
  ∃ front part, text = front ++ part ∧ Spells front s.tokens.reverse ∧ Begun s.mode part

/-- Between tokens the whole text spells the tokens. -/
theorem follows_idle {ts : List Token} {text : List Char} (spells : Spells text ts.reverse) :
    Follows ⟨ts, .idle⟩ text := ⟨text, [], (List.append_nil text).symm, spells, .idle⟩

/-- A finished number literal is the lexeme of its token. -/
theorem lexeme_of_ofNumber? {seen : List Char} {t : Token} (h : ofNumber? seen = some t) :
    Lexeme seen.reverse t := by
  obtain ⟨n, literal, rfl⟩ := Option.map_eq_some_iff.1 h
  exact .num literal

/-- A character between tokens is a blank, a token, or the beginning of one. -/
theorem follows_start? {tokens : List Token} {text : List Char} {c : Char} {next : Scanner}
    (spells : Spells text tokens.reverse) (step : start? tokens c = some next) :
    Follows next (text ++ [c]) := by
  have single {t : Token} (lexeme : Lexeme [c] t) : Follows ⟨t :: tokens, .idle⟩ (text ++ [c]) :=
    follows_idle (by
      rw [List.reverse_cons]
      exact spells.append_token lexeme)
  have opens {mode : Mode} (begun : Begun mode [c]) : Follows ⟨tokens, mode⟩ (text ++ [c]) :=
    ⟨text, [c], rfl, spells, begun⟩
  rw [start?] at step
  rcases ite_eq_iff.1 step with ⟨space, ⟨⟩⟩ | ⟨-, step⟩
  · exact follows_idle (spells.append_blank space)
  rcases ite_eq_iff.1 step with ⟨rfl, ⟨⟩⟩ | ⟨-, step⟩
  · exact single .openBrace
  rcases ite_eq_iff.1 step with ⟨rfl, ⟨⟩⟩ | ⟨-, step⟩
  · exact single .closeBrace
  rcases ite_eq_iff.1 step with ⟨rfl, ⟨⟩⟩ | ⟨-, step⟩
  · exact single .openBracket
  rcases ite_eq_iff.1 step with ⟨rfl, ⟨⟩⟩ | ⟨-, step⟩
  · exact single .closeBracket
  rcases ite_eq_iff.1 step with ⟨rfl, ⟨⟩⟩ | ⟨-, step⟩
  · exact single .colon
  rcases ite_eq_iff.1 step with ⟨rfl, ⟨⟩⟩ | ⟨-, step⟩
  · exact single .comma
  rcases ite_eq_iff.1 step with ⟨rfl, ⟨⟩⟩ | ⟨-, step⟩
  · exact opens (.text .nil)
  rcases ite_eq_iff.1 step with ⟨rfl, ⟨⟩⟩ | ⟨-, step⟩
  · exact opens (.word .nullWord)
  rcases ite_eq_iff.1 step with ⟨rfl, ⟨⟩⟩ | ⟨-, step⟩
  · exact opens (.word .trueWord)
  rcases ite_eq_iff.1 step with ⟨rfl, ⟨⟩⟩ | ⟨-, step⟩
  · exact opens (.word .falseWord)
  rcases ite_eq_iff.1 step with ⟨-, ⟨⟩⟩ | ⟨-, ⟨⟩⟩
  exact opens (.number [c])

variable {tokens : List Token} {front part : List Char} {c : Char} {next : Scanner}

/-- The scanner stays in the middle of the lexeme. -/
theorem Begun.follows {mode : Mode} (begun : Begun mode (part ++ [c]))
    (spells : Spells front tokens.reverse) : Follows ⟨tokens, mode⟩ (front ++ part ++ [c]) :=
  ⟨front, part ++ [c], List.append_assoc front part [c], spells, begun⟩

/-- The lexeme ends. -/
theorem Lexeme.follows {t : Token} (lexeme : Lexeme (part ++ [c]) t)
    (spells : Spells front tokens.reverse) :
    Follows ⟨t :: tokens, .idle⟩ (front ++ part ++ [c]) :=
  follows_idle (by
    rw [List.reverse_cons, List.append_assoc]
    exact spells.append_token lexeme)

/-- Inside a word: the letter that is expected. -/
theorem follows_word {expected : List Char} {t : Token} (spells : Spells front tokens.reverse)
    (lexeme : Lexeme (part ++ expected) t) (step : feed? ⟨tokens, .word expected t⟩ c = some next) :
    Follows next (front ++ part ++ [c]) := by
  rcases expected with _ | ⟨awaited, _ | ⟨second, rest⟩⟩
  · cases step
  · obtain ⟨rfl, ⟨⟩⟩ := Option.ite_none_right_eq_some.1 step
    exact lexeme.follows spells
  · obtain ⟨rfl, ⟨⟩⟩ := Option.ite_none_right_eq_some.1 step
    rw [List.append_cons] at lexeme
    exact (Begun.word lexeme).follows spells

/-- Inside a number: a character of the number, or one behind it. -/
theorem follows_number {seen : List Char} (spells : Spells front tokens.reverse)
    (step : feed? ⟨tokens, .number seen⟩ c = some next) :
    Follows next (front ++ seen.reverse ++ [c]) := by
  rcases ite_eq_iff.1 step with ⟨-, ⟨⟩⟩ | ⟨-, step⟩
  · have begun := Begun.number (c :: seen)
    rw [List.reverse_cons] at begun
    exact begun.follows spells
  · obtain ⟨t, finished, started⟩ := Option.bind_eq_some_iff.1 step
    have spells := spells.append_token (lexeme_of_ofNumber? finished)
    rw [← List.reverse_cons] at spells
    exact follows_start? spells started

/-- Inside a string: the quote that ends it, a backslash, or a character as it is. -/
theorem follows_text {cs : List Char} {seen : List Piece} (spells : Spells front tokens.reverse)
    (contents : Contents cs seen.reverse) (step : feed? ⟨tokens, .text seen⟩ c = some next) :
    Follows next (front ++ '"' :: cs ++ [c]) := by
  rw [feed?_text] at step
  rcases ite_eq_iff.1 step with ⟨rfl, ⟨⟩⟩ | ⟨not_quote, step⟩
  · exact (Lexeme.str contents).follows spells
  rcases ite_eq_iff.1 step with ⟨rfl, ⟨⟩⟩ | ⟨not_backslash, step⟩
  · exact (Begun.escape contents).follows spells
  rcases ite_eq_iff.1 step with ⟨-, ⟨⟩⟩ | ⟨control, ⟨⟩⟩
  have char := Contents.char not_quote not_backslash (Nat.not_lt.1 control) .nil
  have contents := contents.append char
  rw [← List.reverse_cons] at contents
  exact (Begun.text contents).follows spells

/-- After a backslash: the letter of an escape, or the one that opens a code unit. -/
theorem follows_escape {cs : List Char} {seen : List Piece} (spells : Spells front tokens.reverse)
    (contents : Contents cs seen.reverse) (step : feed? ⟨tokens, .escape seen⟩ c = some next) :
    Follows next (front ++ '"' :: (cs ++ ['\\']) ++ [c]) := by
  rw [feed?_escape] at step
  rcases ite_eq_iff.1 step with ⟨rfl, ⟨⟩⟩ | ⟨-, step⟩
  · have begun := Begun.unit contents (rfl : hexValue? 0 [] = some 0) rfl (Nat.succ_pos 3)
    rw [List.append_cons] at begun
    exact begun.follows spells
  · obtain ⟨e, meaning, rfl⟩ := Option.map_eq_some_iff.1 step
    have contents := contents.append (.escape meaning .nil)
    rw [← List.reverse_cons, List.append_cons] at contents
    exact (Begun.text contents).follows spells

/-- Among the digits of a code unit: one more digit, or the last. -/
theorem follows_unit {cs digits : List Char} {seen : List Piece} {value missing : Nat}
    (spells : Spells front tokens.reverse) (contents : Contents cs seen.reverse)
    (meaning : hexValue? 0 digits = some value) (four : digits.length + missing = 4)
    (more : 0 < missing) (step : feed? ⟨tokens, .unit seen value missing⟩ c = some next) :
    Follows next (front ++ '"' :: (cs ++ '\\' :: 'u' :: digits) ++ [c]) := by
  rw [feed?_unit] at step
  obtain ⟨digit, first, rfl⟩ := Option.map_eq_some_iff.1 step
  have longer : hexValue? 0 (digits ++ [c]) = some (value * 16 + digit) := by
    rw [hexValue?_append, meaning, Option.bind_some, hexValue?, first]
    rfl
  have length : (digits ++ [c]).length = digits.length + 1 := List.length_append
  have whole : '"' :: (cs ++ '\\' :: 'u' :: digits) ++ [c] =
      '"' :: (cs ++ '\\' :: 'u' :: (digits ++ [c])) := by simp
  split
  · have contents := contents.append (.unit (by omega) longer .nil)
    rw [← List.reverse_cons, List.append_nil] at contents
    have begun := Begun.text contents
    rw [← whole] at begun
    exact begun.follows spells
  · have begun : Begun (.unit seen _ (missing - 1)) _ :=
      .unit contents longer (by omega) (by omega)
    rw [← whole] at begun
    exact begun.follows spells

/-- **One more character is read of a spelling.** -/
theorem follows_feed? {s : Scanner} {text : List Char} (follows : Follows s text)
    (step : s.feed? c = some next) : Follows next (text ++ [c]) := by
  obtain ⟨tokens, mode⟩ := s
  obtain ⟨front, part, rfl, spells, begun⟩ := follows
  cases begun with
  | idle =>
      rw [List.append_nil]
      exact follows_start? spells step
  | word lexeme => exact follows_word spells lexeme step
  | number seen => exact follows_number spells step
  | text contents => exact follows_text spells contents step
  | escape contents => exact follows_escape spells contents step
  | unit contents meaning four more => exact follows_unit spells contents meaning four more step

/-- A whole text is read of a spelling. -/
theorem follows_feedAll? {s last : Scanner} {front back : List Char} (follows : Follows s front)
    (run : s.feedAll? back = some last) : Follows last (front ++ back) := by
  induction back generalizing s front with
  | nil =>
      cases run
      rwa [List.append_nil]
  | cons c rest ih =>
      obtain ⟨next, step, others⟩ := Option.bind_eq_some_iff.1 run
      have := ih (follows_feed? follows step) others
      rwa [List.append_assoc] at this

/-- **What the scanner finds tokens in is a spelling of them.** -/
theorem spells_of_scan? {text : List Char} {ts : List Token} (h : scan? text = some ts) :
    Spells text ts := by
  obtain ⟨⟨tokens, mode⟩, run, finished⟩ := Option.bind_eq_some_iff.1 h
  obtain ⟨front, part, eq, spells, begun⟩ := follows_feedAll? (follows_idle .nil) run
  rw [List.nil_append] at eq
  subst eq
  cases begun with
  | idle =>
      cases finished
      rwa [List.append_nil]
  | number seen =>
      obtain ⟨t, ended, rfl⟩ := Option.map_eq_some_iff.1 finished
      rw [List.reverse_cons]
      exact spells.append_token (lexeme_of_ofNumber? ended)
  | word _ | text _ | escape _ | unit _ _ _ _ => exact nomatch finished

end Token

end PagedTable
