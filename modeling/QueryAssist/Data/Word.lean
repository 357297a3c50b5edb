/-!
# Machine words

The bounds of natural numbers that fit into machine words.
-/

namespace QueryAssist.Word

/-- The least natural number that does not fit into 32 bits. -/
def bound32 : Nat :=
  Nat.pow 2 32

/-- The least natural number that does not fit into 64 bits. -/
def bound64 : Nat :=
  Nat.pow 2 64

/-- One more than the greatest integer that fits into 64 bits with a sign. -/
def signedBound64 : Nat :=
  Nat.pow 2 63

end QueryAssist.Word
