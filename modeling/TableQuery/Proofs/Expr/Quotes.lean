import TableQuery.Proofs.Expr.Induction
import TableQuery.Proofs.Sql.Spelling
import TableQuery.Rewrite.Basic

/-!
# Quotes — the quoted tokens of an expression

Which quoted tokens an expression brings into a statement: those of its names and literals, from
left to right, each as it is written by itself. Units of truncation are left out, since they are
written without quotes, and an expression is well-formed in this respect when they are units.

The standard rewriting moves neither tokens nor units.
-/

namespace TableQuery

namespace Expr

/-! ## Tokens -/

mutual

/-- The quoted tokens of an expression. -/
def quotes : Expr → List Token
  | .column ref => nameQuotes ref.name
  | .literal value => value.quotes
  | .call op args => callQuotes op (quotesList args)
  | .cast arg _ => arg.quotes
  | .alias expr _ => expr.quotes
  | .window func partition order _ =>
    func.quotes ++ (quotesList partition).flatten ++ (quotesKeys order).flatten
  | .udf name args _ => nameQuotes name ++ (quotesList args).flatten

/-- The quoted tokens of each expression. -/
def quotesList : List Expr → List (List Token)
  | [] => []
  | e :: es => e.quotes :: quotesList es

/-- The quoted tokens of each sort key. -/
def quotesKeys : List (SortKey Expr) → List (List Token)
  | [] => []
  | ⟨e, _⟩ :: ks => e.quotes :: quotesKeys ks

end

theorem quotesList_eq_map (es : List Expr) : quotesList es = es.map quotes := by
  induction es with
  | nil => rfl
  | cons e es ih => simp [quotesList, ih]

theorem quotesKeys_eq_map (ks : List (SortKey Expr)) :
    quotesKeys ks = ks.map fun k => k.key.quotes := by
  induction ks with
  | nil => rfl
  | cons k ks ih => simp [quotesKeys, ih]

theorem quotesList_transformList {f : Expr → Expr} {es : List Expr}
    (h : ∀ e ∈ es, (e.transformUp f).quotes = e.quotes) :
    quotesList (transformList f es) = quotesList es := by
  rw [transformList_eq_map, quotesList_eq_map, quotesList_eq_map, List.map_map]
  exact List.map_congr_left h

theorem quotesKeys_transformKeys {f : Expr → Expr} {ks : List (SortKey Expr)}
    (h : ∀ k ∈ ks, (k.key.transformUp f).quotes = k.key.quotes) :
    quotesKeys (transformKeys f ks) = quotesKeys ks := by
  rw [transformKeys_eq_map, quotesKeys_eq_map, quotesKeys_eq_map, List.map_map]
  exact List.map_congr_left h

/-- What keeps the tokens of every node keeps those of a tree. -/
theorem quotes_transformUp {f : Expr → Expr} (hf : ∀ e, (f e).quotes = e.quotes) (e : Expr) :
    (e.transformUp f).quotes = e.quotes := by
  induction e with
  | column ref => rw [transformUp, hf]
  | literal value => rw [transformUp, hf]
  | call op args ih => rw [transformUp, hf, quotes, quotes, quotesList_transformList ih]
  | cast arg target ih => rw [transformUp, hf, quotes, quotes, ih]
  | aliased expr name ih => rw [transformUp, hf, quotes, quotes, ih]
  | window func partition order frame ihFunc ihPartition ihOrder =>
      rw [transformUp, hf, quotes, quotes, ihFunc, quotesList_transformList ihPartition,
        quotesKeys_transformKeys ihOrder]
  | udf name args output ih => rw [transformUp, hf, quotes, quotes, quotesList_transformList ih]

/-! ## Units -/

/-- Whether the expression is the quoted keyword of a unit of time. -/
def isUnit : Expr → Bool
  | .literal (.string word) => (TemporalUnit.ofKeyword? word).isSome
  | _ => false

/-- Whether the node is no truncation to anything but a unit of time. -/
def truncatesToUnit : Expr → Bool
  | .call .dateTruncate (_ :: unit :: _) => unit.isUnit
  | _ => true

/-- Every truncation in the tree is to a unit of time. -/
def UnitsNamed (e : Expr) : Prop :=
  e.anyNode (!truncatesToUnit ·) = false

instance : DecidablePred UnitsNamed := fun e =>
  inferInstanceAs (Decidable (e.anyNode (!truncatesToUnit ·) = false))

theorem unitsNamed_call {op : Operation} {args : List Expr} :
    (call op args).UnitsNamed ↔
      truncatesToUnit (.call op args) = true ∧ ∀ e ∈ args, e.UnitsNamed := by
  simp [UnitsNamed, anyNode, anyNodeList_eq_false]

@[simp]
theorem unitsNamed_column (ref : ColumnRef) : (column ref).UnitsNamed := rfl

@[simp]
theorem unitsNamed_literal (v : Literal) : (literal v).UnitsNamed := rfl

@[simp]
theorem unitsNamed_cast {arg : Expr} {target : DataType} :
    (cast arg target).UnitsNamed ↔ arg.UnitsNamed := by
  simp [UnitsNamed, anyNode, truncatesToUnit]

@[simp]
theorem unitsNamed_alias {expr : Expr} {name : String} :
    (Expr.alias expr name).UnitsNamed ↔ expr.UnitsNamed := by
  simp [UnitsNamed, anyNode, truncatesToUnit]

@[simp]
theorem unitsNamed_window {func : Expr} {partition : List Expr} {order : List (SortKey Expr)}
    {frame : Option WindowFrame} :
    (window func partition order frame).UnitsNamed ↔
      func.UnitsNamed ∧ (∀ e ∈ partition, e.UnitsNamed) ∧ ∀ k ∈ order, k.key.UnitsNamed := by
  simp [UnitsNamed, anyNode, truncatesToUnit, anyNodeList_eq_false, anyNodeKeys_eq_false,
    and_assoc]

@[simp]
theorem unitsNamed_udf {name : String} {args : List Expr} {output : DataType} :
    (udf name args output).UnitsNamed ↔ ∀ e ∈ args, e.UnitsNamed := by
  simp [UnitsNamed, anyNode, truncatesToUnit, anyNodeList_eq_false]

/-- A truncation whose operands are rebuilt is still to the same unit. -/
theorem truncatesToUnit_transformList {f : Expr → Expr}
    (hLiteral : ∀ v, f (.literal v) = .literal v) (op : Operation) (args : List Expr)
    (h : truncatesToUnit (.call op args) = true) :
    truncatesToUnit (.call op (transformList f args)) = true := by
  rcases args with _ | ⟨a, _ | ⟨unit, rest⟩⟩
  · exact h
  · cases op <;> rfl
  · by_cases hOp : op = .dateTruncate
    · subst hOp
      -- A unit is a literal, and literals are not replaced.
      have hUnit : unit.isUnit = true := h
      unfold isUnit at hUnit
      split at hUnit
      · next word =>
        simpa [transformList, transformUp, hLiteral, truncatesToUnit, isUnit] using hUnit
      · cases hUnit
    · cases op <;> first | rfl | exact absurd rfl hOp

theorem unitsNamed_transformUp {f : Expr → Expr} (hLiteral : ∀ v, f (.literal v) = .literal v)
    (hf : ∀ e : Expr, e.UnitsNamed → (f e).UnitsNamed) (e : Expr) (h : e.UnitsNamed) :
    (e.transformUp f).UnitsNamed := by
  have hList {es : List Expr} (hes : ∀ e ∈ es, (e.transformUp f).UnitsNamed) :
      ∀ e ∈ transformList f es, e.UnitsNamed := by
    rw [transformList_eq_map]
    exact List.forall_mem_map.2 hes
  have hKeys {ks : List (SortKey Expr)} (hks : ∀ k ∈ ks, (k.key.transformUp f).UnitsNamed) :
      ∀ k ∈ transformKeys f ks, k.key.UnitsNamed := by
    rw [transformKeys_eq_map]
    exact List.forall_mem_map.2 hks
  induction e with
  | column ref => exact hf _ h
  | literal value => exact hf _ h
  | call op args ih =>
      rw [transformUp]
      rw [unitsNamed_call] at h
      -- the operands keep their units, and the call itself still has the same unit
      refine hf _ (unitsNamed_call.2 ⟨?_, hList fun a ha => ih a ha (h.2 a ha)⟩)
      exact truncatesToUnit_transformList hLiteral op args h.1
  | cast arg target ih =>
      rw [unitsNamed_cast] at h
      exact hf _ (unitsNamed_cast.2 (ih h))
  | aliased expr name ih =>
      rw [unitsNamed_alias] at h
      exact hf _ (unitsNamed_alias.2 (ih h))
  | window func partition order frame ihFunc ihPartition ihOrder =>
      rw [unitsNamed_window] at h
      rcases h with ⟨hFunc, hPartition, hOrder⟩
      exact hf _ (unitsNamed_window.2 ⟨ihFunc hFunc,
        hList fun p hp => ihPartition p hp (hPartition p hp),
        hKeys fun k hk => ihOrder k hk (hOrder k hk)⟩)
  | udf name args output ih =>
      rw [unitsNamed_udf] at h
      exact hf _ (unitsNamed_udf.2 (hList fun a ha => ih a ha (h a ha)))

end Expr

/-! ## The standard rewriting -/

namespace RewriteSet

/-- Whether the least or the greatest of a condition's values, as ones and zeros, is one. -/
def flagsCall (fold : Operation) (a : Expr) : Expr :=
  .call .equals
    [.call fold [.call .ifElse [a, .literal (.int 1), .literal (.int 0)]], .literal (.int 1)]

theorem rewriteNode_literal (v : Literal) : standard.rewriteNode (.literal v) = .literal v := rfl

/-- All that the standard rewriting does to a call. -/
theorem rewriteNode_call_cases (op : Operation) (args : List Expr) :
    standard.rewriteNode (.call op args) = .call op args ∨
    (∃ a b, op = .floorDivide ∧ args = [a, b] ∧
      standard.rewriteNode (.call op args) = .call .floor [.call .divide [a, b]]) ∨
    ∃ a fold, op ≠ .dateTruncate ∧ (fold = .minimum ∨ fold = .maximum) ∧ args = [a] ∧
      (standard.rewriteNode (.call op args) = flagsCall fold a ∨
        standard.rewriteNode (.call op args) = .call .not [flagsCall fold a]) := by
  cases hRule : standard.rule? op with
  | none =>
      left
      simp [rewriteNode, hRule]
  | some r =>
      -- a rule takes only calls with as many operands as it says
      by_cases hArity : r.arity.accepts args.length = true
      · have hNode : standard.rewriteNode (.call op args) = r.output.fill args := by
          simp [rewriteNode, hRule, hArity]
        have hTarget : r.target = op := by
          simpa using List.find?_some hRule
        have hMem : r ∈ standard.rules := List.mem_of_find?_eq_some hRule
        simp only [standard, List.mem_cons, List.not_mem_nil, or_false] at hMem
        right
        rw [hNode]
        -- the one rule for division, and then the four folds of flags
        rcases hMem with rfl | rfl | rfl | rfl | rfl
        · left
          rcases Arity.exists_two hArity with ⟨a, b, rfl⟩
          exact ⟨a, b, hTarget.symm, rfl, rfl⟩
        all_goals
          right
          rcases Arity.exists_one hArity with ⟨a, rfl⟩
          subst hTarget
        · exact ⟨a, .minimum, by decide, .inl rfl, rfl, .inl rfl⟩
        · exact ⟨a, .maximum, by decide, .inr rfl, rfl, .inl rfl⟩
        · exact ⟨a, .minimum, by decide, .inl rfl, rfl, .inr rfl⟩
        · exact ⟨a, .maximum, by decide, .inr rfl, rfl, .inr rfl⟩
      · left
        simp [rewriteNode, hRule, hArity]

theorem quotes_int (n : Int) : (Literal.int n).quotes = [] :=
  (phrase_intText n).quotesOf_eq

theorem quotes_flagsCall {fold : Operation} (hFold : fold = .minimum ∨ fold = .maximum)
    (a : Expr) : (flagsCall fold a).quotes = a.quotes := by
  rcases hFold with rfl | rfl <;>
    simp [flagsCall, Expr.quotes, Expr.quotesList, callQuotes, quotes_int]

theorem quotes_rewriteNode (e : Expr) : (standard.rewriteNode e).quotes = e.quotes := by
  cases e with
  | call op args =>
      rcases rewriteNode_call_cases op args with
        hSame | ⟨a, b, rfl, rfl, hNode⟩ | ⟨a, fold, hOp, hFold, rfl, hNode | hNode⟩
      · rw [hSame]
      · rw [hNode]
        simp [Expr.quotes, Expr.quotesList, callQuotes]
      · -- what is wrapped around the operand has no tokens of its own
        rw [hNode, quotes_flagsCall hFold]
        simp [Expr.quotes, Expr.quotesList, callQuotes, hOp]
      · rw [hNode]
        simp [Expr.quotes, Expr.quotesList, callQuotes, hOp, quotes_flagsCall hFold]
  | _ => rfl

theorem unitsNamed_flagsCall {fold : Operation} (hFold : fold = .minimum ∨ fold = .maximum)
    {a : Expr} (h : a.UnitsNamed) : (flagsCall fold a).UnitsNamed := by
  rcases hFold with rfl | rfl <;>
    simp [flagsCall, Expr.unitsNamed_call, Expr.truncatesToUnit, h]

theorem unitsNamed_rewriteNode (e : Expr) (h : e.UnitsNamed) :
    (standard.rewriteNode e).UnitsNamed := by
  cases e with
  | call op args =>
      rcases rewriteNode_call_cases op args with
        hSame | ⟨a, b, rfl, rfl, hNode⟩ | ⟨a, fold, hOp, hFold, rfl, hNode | hNode⟩
      · rwa [hSame]
      · rw [hNode]
        rw [Expr.unitsNamed_call] at h
        simpa [Expr.unitsNamed_call, Expr.truncatesToUnit] using h.2
      · rw [Expr.unitsNamed_call] at h
        rw [hNode]
        exact unitsNamed_flagsCall hFold (h.2 a (by simp))
      · rw [Expr.unitsNamed_call] at h
        rw [hNode, Expr.unitsNamed_call]
        refine ⟨rfl, ?_⟩
        simpa using unitsNamed_flagsCall hFold (h.2 a (by simp))
  | _ => exact h

theorem quotes_apply (e : Expr) : (standard.apply e).quotes = e.quotes :=
  Expr.quotes_transformUp quotes_rewriteNode e

theorem unitsNamed_apply {e : Expr} (h : e.UnitsNamed) : (standard.apply e).UnitsNamed :=
  Expr.unitsNamed_transformUp rewriteNode_literal unitsNamed_rewriteNode e h

end RewriteSet

end TableQuery
