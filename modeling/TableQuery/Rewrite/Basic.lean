import TableQuery.Arity
import TableQuery.Rewrite.Template
import TableQuery.SqlError

/-!
# Rewriting expressions

Operations that a dialect cannot spell are replaced by trees of operations that it can. The rules
run once, from the leaves up; a rule is admitted to a set only if no rule of the set could fire on
what another has produced.
-/

namespace TableQuery

/-- A rule that replaces the calls of one operation. -/
structure RewriteRule where
  name : String
  target : Operation
  arity : Arity
  output : Template

namespace RewriteRule

/-- The output of the rule over as many missing values as it takes at least. -/
def sample (r : RewriteRule) : Expr :=
  r.output.fill (List.replicate r.arity.least (.literal .null))

/-- Whether the output of the rule has a call of the operation. -/
def produces (r : RewriteRule) (op : Operation) : Bool :=
  r.sample.anyNode (·.isCallOf op)

end RewriteRule

/-- Rules with different targets. -/
structure RewriteSet where
  rules : List RewriteRule

namespace RewriteSet

/-- No rules. -/
def empty : RewriteSet :=
  ⟨[]⟩

def rule? (s : RewriteSet) (op : Operation) : Option RewriteRule :=
  s.rules.find? (·.target == op)

/-- The rules with one more, in place of any with the same target. -/
def insert (s : RewriteSet) (r : RewriteRule) : RewriteSet :=
  ⟨s.rules.filter (·.target != r.target) ++ [r]⟩

/-- Admits a rule, unless one rewrite could then trigger another. -/
def withRule (s : RewriteSet) (r : RewriteRule) : Except SqlError RewriteSet :=
  if r.produces r.target then
    .error (.invalidRewrite r.name ("output contains its own target " ++ r.target.name))
  else
    match s.rules.find? (fun old => r.produces old.target) with
    | some old =>
      .error (.invalidRewrite r.name ("output contains rewrite target " ++ old.target.name))
    | none =>
      match s.rules.find? (fun old => old.target != r.target && old.produces r.target) with
      | some old =>
        .error (.invalidRewrite r.name ("target is produced by rule '" ++ old.name ++ "'"))
      | none => .ok (s.insert r)

/-- Rewrites one node, if a rule takes it. -/
def rewriteNode (s : RewriteSet) : Expr → Expr
  | .call op args =>
    match s.rule? op with
    | some r => if r.arity.accepts args.length then r.output.fill args else .call op args
    | none => .call op args
  | e => e

/-- Rewrites every node that a rule takes, children first. -/
def apply (s : RewriteSet) (e : Expr) : Expr :=
  if s.rules.isEmpty then e else e.transformUp s.rewriteNode

/-- Division that rounds down. -/
def floorDivideRule : RewriteRule :=
  ⟨"floor_divide", .floorDivide, .exactly 2, .call .floor [.call .divide [.allArguments]]⟩

/-- Whether the least or the greatest of the flags, as ones and zeros, is one. -/
def flagsTemplate (fold : Operation) : Template :=
  .call .equals
    [.call fold [.call .ifElse [.allArguments, .literal (.int 1), .literal (.int 0)]],
     .literal (.int 1)]

/-- The rules that the server's dialect needs. -/
def standard : RewriteSet :=
  ⟨[floorDivideRule,
    ⟨"all", .allTrue, .exactly 1, flagsTemplate .minimum⟩,
    ⟨"any", .anyTrue, .exactly 1, flagsTemplate .maximum⟩,
    ⟨"notall", .notAllTrue, .exactly 1, .call .not [flagsTemplate .minimum]⟩,
    ⟨"notany", .notAnyTrue, .exactly 1, .call .not [flagsTemplate .maximum]⟩]⟩

end RewriteSet

end TableQuery
