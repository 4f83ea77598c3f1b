namespace OutboxRelay

/-- Whether a character lies in one of the ranges, bounds included. -/
def inRanges (ranges : List (Nat × Nat)) (c : Char) : Bool :=
  ranges.any fun range => range.1 ≤ c.toNat && c.toNat ≤ range.2

/-- Of rows that each begin at a number, in ascending order, the last one that begins at `n` or
before. -/
def rowAt? {α : Type} (rows : List (Nat × α)) (n : Nat) : Option (Nat × α) :=
  (rows.takeWhile fun row => row.1 ≤ n).getLast?

end OutboxRelay
