/-
  PagedTable.Proofs.Json.RoundTrip — the text of a value is parsed to the value as it was written.

  A value and the same value as it was written have the same tokens.  The scanner finds the tokens
  in the text of the value, and the tokens make up the literal that has them:

      tokens_ofJson  — the same tokens, by recursion on the value
      parse?_render  — a whole text

  Only the scanner asks for integers; the rest does not depend on what the numbers are.
-/
import PagedTable.Proofs.Json.Scanning
import PagedTable.Proofs.Json.Syntax

namespace PagedTable.Literal

mutual

/-- **Writing a value as a literal keeps its tokens.** -/
theorem tokens_ofJson : (v : Json) → (ofJson v).tokens = v.tokens
  | .null | .bool _ | .num _ | .str _ => rfl
  | .arr [] => rfl
  | .arr (item :: rest) => by
    rw [ofJson, ofItems, tokens, Json.tokens, tokens_ofJson item, itemTokens_ofItems rest]
  | .obj [] => rfl
  | .obj ((name, value) :: rest) => by
    rw [ofJson, ofMembers, tokens, Json.tokens, tokens_ofJson value, memberTokens_ofMembers rest]

/-- Writing values as literals keeps the tokens behind the first item. -/
theorem itemTokens_ofItems : (items : List Json) →
    itemTokens (ofItems items) = Json.itemTokens items
  | [] => rfl
  | item :: rest => by
    rw [ofItems, itemTokens, Json.itemTokens, tokens_ofJson item, itemTokens_ofItems rest]

/-- Writing members as literals keeps the tokens behind the first member. -/
theorem memberTokens_ofMembers : (members : List (String × Json)) →
    memberTokens (ofMembers members) = Json.memberTokens members
  | [] => rfl
  | (name, value) :: rest => by
    rw [ofMembers, memberTokens, Json.memberTokens, tokens_ofJson value,
      memberTokens_ofMembers rest]

end

/-- **Text written from a value is read as the value**, if its numbers are integers of 64 bits. -/
theorem parse?_render {v : Json} (h : v.Integral) : parse? v.render = some (ofJson v) := by
  have characters : v.render.toList = v.write := String.toList_ofList
  rw [parse?, characters, Json.scan?_write h, Option.bind_some]
  exact ofTokens?_eq_some_iff.2 (tokens_ofJson v).symm

end PagedTable.Literal
