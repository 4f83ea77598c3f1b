import OutboxRelay.Text.Utf8

namespace OutboxRelay

/-- Numbered characters in rows of one width. A row may end early, and a replacement character
holds the place of a number without a character. -/
structure CharTable where
  width : Nat
  rows : List String

/-- The character of a number. -/
def CharTable.char? (table : CharTable) (n : Nat) : Option Char :=
  ((table.rows[n / table.width]?).bind fun row => row.toList[n % table.width]?).filter
    (· ≠ replacementChar)

end OutboxRelay
