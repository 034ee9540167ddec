/-!
# Arities

How many arguments an operation takes.
-/

namespace TableQuery

/-- The numbers of arguments that are accepted. -/
inductive Arity where
  | exactly (n : Nat)
  | range (lo hi : Nat)
  | atLeast (n : Nat)
  deriving DecidableEq, Repr

namespace Arity

/-- Whether the number of arguments is accepted. -/
def accepts : Arity → Nat → Bool
  | .exactly k, n => n == k
  | .range lo hi, n => lo ≤ n && n ≤ hi
  | .atLeast k, n => k ≤ n

/-- The least number of arguments that the arity names. -/
def least : Arity → Nat
  | .exactly k => k
  | .range lo _ => lo
  | .atLeast k => k

def text : Arity → String
  | .exactly k => toString k
  | .range lo hi => toString lo ++ " to " ++ toString hi
  | .atLeast k => "at least " ++ toString k

end Arity

end TableQuery
