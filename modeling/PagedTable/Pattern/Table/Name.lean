/-
  PagedTable.Pattern.Table.Name — characters for names only.

  Names are checked by a later version of the standard than sets of characters are made by.  The
  tables list what the later version adds to the alphabetic characters and to the numbers.
-/

namespace PagedTable.Pattern.Table

/-- The alphabetic characters that only names can have. -/
def addedLetters : List String :=
  ["DGhaBLkaExaCGRpbcabaBcaBKWczCBjcBybESahWmBrBEPgycyLaeJCjhBXpvDtEkBHQjBebvibDAWgfIWglBGFaGJh"]

/-- The numbers that only names can have. -/
def addedNumbers : List String := ["EEGuj"]

end PagedTable.Pattern.Table
