/-!
# Words

Bounds of whole numbers that are kept in a fixed number of bits, without a sign or with one.
-/

namespace TableQuery.Word

/-- The number of words of some bits. -/
def count (bits : Nat) : Nat :=
  Nat.pow 2 bits

/-- The greatest word of some bits. -/
def greatest (bits : Nat) : Nat :=
  count bits - 1

/-- The least signed word of some bits, not counting the bit of the sign. -/
def leastSigned (bits : Nat) : Int :=
  -(count bits : Int)

/-- The number, or the greatest word of some bits where it does not fit. -/
def saturate (bits n : Nat) : Nat :=
  min n (greatest bits)

end TableQuery.Word
