import TableQuery.Arity
import TableQuery.Operation
import TableQuery.Text.Inspect

/-!
# Spelling operations

How a dialect spells the operations that it knows: between, before or after the operands, as a
function, or by a rule of its own over the operands' texts. A rule never sees expressions.
-/

namespace TableQuery

/-- The shape of the text of a call. -/
inductive Shape where
  /-- The symbol between its operands: `a <symbol> b`. -/
  | between (symbol : String)
  /-- The symbol in front of its operand: `<symbol>a`. -/
  | before (symbol : String)
  /-- The symbol behind its operand: `a<symbol>`. -/
  | after (symbol : String)
  /-- A function call: `NAME(a, b)`. -/
  | function (name : String)
  /-- A splice of the operands' texts. `operatorLike` says that the text reads as an operator
  expression: it is put in parentheses as an operand, and its own operands are. -/
  | splice (operatorLike : Bool) (text : List String → String)

/-- The rule for one operation: how many arguments it takes and how the call is written. -/
structure SpellingRule where
  arity : Arity
  shape : Shape

namespace SpellingRule

/-- Whether the text of a call binds more loosely than that of a function. -/
def isOperatorLike (r : SpellingRule) : Bool :=
  match r.shape with
  | .between _ | .before _ | .after _ => true
  | .function _ => false
  | .splice operatorLike _ => operatorLike

/-- The text of a call over the operands' texts. -/
def render (r : SpellingRule) (args : List String) : String :=
  match r.shape with
  | .between symbol => (" " ++ symbol ++ " ").intercalate args
  | .before symbol => symbol ++ ", ".intercalate args
  | .after symbol => ", ".intercalate args ++ symbol
  | .function name => name ++ "(" ++ ", ".intercalate args ++ ")"
  | .splice _ text => text args

/-- A binary operator. -/
def binary (symbol : String) : SpellingRule :=
  ⟨.exactly 2, .between symbol⟩

/-- A unary operator in front of its operand. -/
def leading (symbol : String) : SpellingRule :=
  ⟨.exactly 1, .before symbol⟩

/-- A unary operator behind its operand. -/
def trailing (symbol : String) : SpellingRule :=
  ⟨.exactly 1, .after symbol⟩

def function (name : String) (arity : Arity) : SpellingRule :=
  ⟨arity, .function name⟩

/-- A function of one argument. -/
def unary (name : String) : SpellingRule :=
  ⟨.exactly 1, .function name⟩

/-- A splice that reads as a function call. -/
def splice (arity : Arity) (text : List String → String) : SpellingRule :=
  ⟨arity, .splice false text⟩

/-- A splice that reads as an operator expression. -/
def spliceOperands (arity : Arity) (text : List String → String) : SpellingRule :=
  ⟨arity, .splice true text⟩

end SpellingRule

/-- The layout of a shape for developers. -/
def Shape.inspected : Shape → String
  | .between symbol => Inspect.tuple "Infix" [inspect symbol]
  | .before symbol => Inspect.tuple "Prefix" [inspect symbol]
  | .after symbol => Inspect.tuple "Postfix" [inspect symbol]
  | .function name => Inspect.tuple "Function" [inspect name]
  | .splice operatorLike _ =>
    Inspect.openRecord "Transform" [("operator_like", inspect operatorLike)]

/-- The rules of a dialect: at most one for each operation. -/
structure Spellings where
  rule? : Operation → Option SpellingRule

namespace Spellings

/-- No rule at all. -/
def empty : Spellings :=
  ⟨fun _ => none⟩

/-- The rules with one for an operation put in place of any that it had. -/
def insert (s : Spellings) (op : Operation) (rule : SpellingRule) : Spellings :=
  ⟨fun o => if o = op then some rule else s.rule? o⟩

/-- The rules without the one for an operation. -/
def erase (s : Spellings) (op : Operation) : Spellings :=
  ⟨fun o => if o = op then none else s.rule? o⟩

/-- The number of operations that have a rule. -/
def size (s : Spellings) : Nat :=
  (Operation.catalog.filter fun op => (s.rule? op).isSome).length

/-- The layout of the rules for developers. -/
def inspected (s : Spellings) : String :=
  Inspect.record "OperatorRegistry" [("rules_count", toString s.size)]

end Spellings

end TableQuery
