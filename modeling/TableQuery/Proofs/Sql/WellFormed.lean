import TableQuery.Proofs.Rewrite.Complete
import TableQuery.Proofs.Scope.Resolve
import TableQuery.Proofs.Sql.Inversion

/-!
# Well-formed — which expressions have a text

An expression has a text exactly if nothing in it stands in the way: every column is found, every
operation is spelled with as many operands as it has, functions of windows stand over windows and
nothing else does, and every type, number and name can be written. Each part is asked in its place,
so the condition is stated form by form.
-/

namespace TableQuery

/-! ## The parts of the condition -/

/-- The column is resolved to a text in the innermost scope. -/
def Context.Resolves (cx : Context) (ref : ColumnRef) : Prop :=
  ∃ text, cx.columnText ref = .ok text

/-- The operation has a spelling that takes a number of operands. -/
def Dialect.Spells (d : Dialect) (op : Operation) (args : Nat) : Prop :=
  ∃ rule, d.spellings.rule? op = some rule ∧ rule.arity.accepts args = true

/-- A floating-point value is a number. -/
def Literal.IsFinite : Literal → Prop
  | .float x => x.isFinite = true
  | _ => True

namespace Expr

/-- Nothing in the expression stands in the way of a text. -/
inductive WellFormed (d : Dialect) (cx : Context) : Expr → Prop where
  | column {ref : ColumnRef} (h : cx.Resolves ref) : WellFormed d cx (.column ref)
  | literal {value : Literal} (h : value.IsFinite) : WellFormed d cx (.literal value)
  | call {op : Operation} {args : List Expr} (hPlain : op.isAnalytic = false)
      (hSpells : d.Spells op args.length) (hArgs : ∀ a ∈ args, WellFormed d cx a) :
      WellFormed d cx (.call op args)
  | cast {arg : Expr} {target : DataType} (hArg : WellFormed d cx arg)
      (hTarget : target.sqlName?.isSome = true) : WellFormed d cx (.cast arg target)
  | named {expr : Expr} {name : String} (hExpr : WellFormed d cx expr) :
      WellFormed d cx (.alias expr name)
  /-- The function is a call of its own, which may be of an operation for windows only. -/
  | window {op : Operation} {args partition : List Expr} {order : List (SortKey Expr)}
      {frame : Option WindowFrame} (hWindow : (op.isAnalytic || op.isReduction) = true)
      (hSpells : d.Spells op args.length) (hArgs : ∀ a ∈ args, WellFormed d cx a)
      (hPartition : ∀ p ∈ partition, WellFormed d cx p)
      (hOrder : ∀ k ∈ order, WellFormed d cx k.key) :
      WellFormed d cx (.window (.call op args) partition order frame)
  | udf {name : String} {args : List Expr} {output : DataType}
      (hName : Identifier.validate name = .ok ()) (hArgs : ∀ a ∈ args, WellFormed d cx a) :
      WellFormed d cx (.udf name args output)

end Expr

section Parts

variable {d : Dialect} {cx : Context}

/-- A name can be written exactly if it is valid. -/
theorem Identifier.exists_safe_iff {name : String} :
    (∃ text, safe name = .ok text) ↔ validate name = .ok () := by
  rw [safe, exists_map_ok_iff]
  exact ⟨fun ⟨⟨⟩, hValid⟩ => hValid, fun hValid => ⟨(), hValid⟩⟩

/-- A column is resolved exactly if it is one of the statement's own or the innermost scope has an
item for it, and the name of the column can be written. -/
theorem Context.resolves_iff {ref : ColumnRef} :
    cx.Resolves ref ↔ ∃ s, cx.top? = some s ∧ Identifier.validate ref.name = .ok () ∧
      (s.isOutput ref = true ∨ ∃ entry, s.resolve ref = .ok entry) := by
  unfold Context.Resolves Context.columnText
  cases hTop : cx.top? with
  | none => simp
  | some s =>
      simp only [Scope.exists_columnText_iff, Identifier.exists_safe_iff, Option.some.injEq,
        exists_eq_left']

theorem Dialect.exists_ruleFor_iff {op : Operation} {args : Nat} :
    (∃ rule, d.ruleFor op args = .ok rule) ↔ d.Spells op args := by
  constructor
  · rintro ⟨rule, hRule⟩
    exact ⟨rule, of_ruleFor hRule⟩
  · rintro ⟨rule, hRule, hArity⟩
    exact ⟨rule, by simp [ruleFor, hRule, hArity]⟩

theorem Literal.exists_sql_iff {value : Literal} :
    (∃ text, value.sql = .ok text) ↔ value.IsFinite := by
  cases value with
  | float x => by_cases hFinite : x.isFinite = true <;> simp [Literal.sql, IsFinite, hFinite]
  | boolean b => cases b <;> simp [Literal.sql, IsFinite]
  | geometry wkt srid => cases srid <;> simp [Literal.sql, IsFinite]
  | _ => simp [Literal.sql, IsFinite]

theorem DataType.exists_sqlName_iff {t : DataType} :
    (∃ text, t.sqlName = .ok text) ↔ t.sqlName?.isSome = true := by
  unfold DataType.sqlName
  cases t.sqlName? <;> simp

end Parts

namespace Expr

variable {d : Dialect} {cx : Context}

/-! ## Lists -/

theorem exists_operandsSql_iff {wrap : Bool} {es : List Expr} :
    (∃ texts, operandsSql d cx wrap es = .ok texts) ↔ ∀ e ∈ es, ∃ t, e.plainSql d cx = .ok t := by
  simp only [operandsSql_eq_mapM, exists_mapM_iff, exists_map_ok_iff]

theorem exists_listSql_iff {es : List Expr} :
    (∃ texts, listSql d cx es = .ok texts) ↔ ∀ e ∈ es, ∃ t, e.plainSql d cx = .ok t := by
  rw [listSql_eq_mapM, exists_mapM_iff]

theorem exists_keysSql_iff {ks : List (SortKey Expr)} :
    (∃ texts, keysSql d cx ks = .ok texts) ↔ ∀ k ∈ ks, ∃ t, k.key.plainSql d cx = .ok t := by
  simp only [keysSql_eq_mapM, exists_mapM_iff, exists_map_ok_iff]

/-! ## Nodes -/

theorem exists_plainSql_call_iff {op : Operation} {args : List Expr} :
    (∃ text, (call op args).plainSql d cx = .ok text) ↔
      op.isAnalytic = false ∧ d.Spells op args.length ∧
        ∀ a ∈ args, ∃ t, a.plainSql d cx = .ok t := by
  rw [← Dialect.exists_ruleFor_iff, plainSql]
  cases hAnalytic : op.isAnalytic with
  | true => simp
  | false =>
      cases hRule : d.ruleFor op args.length with
      | error err => simp
      | ok rule =>
          simp only [Bool.false_eq_true, if_false, exists_map_ok_iff, exists_operandsSql_iff]
          simp

theorem exists_plainSql_cast_iff {arg : Expr} {target : DataType} :
    (∃ text, (cast arg target).plainSql d cx = .ok text) ↔
      (∃ t, arg.plainSql d cx = .ok t) ∧ target.sqlName?.isSome = true := by
  rw [← DataType.exists_sqlName_iff, plainSql]
  cases arg.plainSql d cx with
  | error err => simp
  | ok text => simp [exists_map_ok_iff]

theorem exists_plainSql_window_iff {op : Operation} {args partition : List Expr}
    {order : List (SortKey Expr)} {frame : Option WindowFrame} :
    (∃ text, (window (.call op args) partition order frame).plainSql d cx = .ok text) ↔
      (op.isAnalytic || op.isReduction) = true ∧ d.Spells op args.length ∧
        (∀ a ∈ args, ∃ t, a.plainSql d cx = .ok t) ∧
        (∀ p ∈ partition, ∃ t, p.plainSql d cx = .ok t) ∧
        ∀ k ∈ order, ∃ t, k.key.plainSql d cx = .ok t := by
  constructor
  · rintro ⟨text, hText⟩
    rcases of_plainSql_window hText with
      ⟨_, _, rule, operands, keys, sorted, hFunc, hWindow, hRule, hOperands, hKeys, hSorted, -⟩
    cases hFunc
    exact ⟨hWindow, Dialect.exists_ruleFor_iff.1 ⟨rule, hRule⟩,
      exists_operandsSql_iff.1 ⟨operands, hOperands⟩, exists_listSql_iff.1 ⟨keys, hKeys⟩,
      exists_keysSql_iff.1 ⟨sorted, hSorted⟩⟩
  · rintro ⟨hWindow, hSpells, hArgs, hPartition, hOrder⟩
    rcases Dialect.exists_ruleFor_iff.2 hSpells with ⟨rule, hRule⟩
    have hOperands : ∃ operands, operandsSql d cx rule.isOperatorLike args = .ok operands :=
      exists_operandsSql_iff.2 hArgs
    rcases hOperands with ⟨operands, hOperands⟩
    rcases exists_listSql_iff.2 hPartition with ⟨keys, hKeys⟩
    rw [plainSql, if_pos hWindow, hRule]
    simp only [hOperands, hKeys]
    exact map_ok_of_ok (exists_keysSql_iff.2 hOrder)

theorem exists_plainSql_udf_iff {name : String} {args : List Expr} {output : DataType} :
    (∃ text, (udf name args output).plainSql d cx = .ok text) ↔
      Identifier.validate name = .ok () ∧ ∀ a ∈ args, ∃ t, a.plainSql d cx = .ok t := by
  rw [← Identifier.exists_safe_iff, ← exists_listSql_iff, plainSql]
  cases listSql d cx args with
  | error err => simp
  | ok texts => simp [exists_map_ok_iff]

/-! ## Expressions -/

/-- The expression has a text exactly if it is well-formed. -/
def Accepts (d : Dialect) (cx : Context) (e : Expr) : Prop :=
  (∃ text, e.plainSql d cx = .ok text) ↔ e.WellFormed d cx

theorem accepts_call {op : Operation} {args : List Expr} (hArgs : ∀ a ∈ args, a.Accepts d cx) :
    (call op args).Accepts d cx := by
  rw [Accepts, exists_plainSql_call_iff]
  constructor
  · rintro ⟨hPlain, hSpells, hTexts⟩
    exact .call hPlain hSpells fun a ha => (hArgs a ha).1 (hTexts a ha)
  · intro h
    cases h with
    | call hPlain hSpells hWell =>
        exact ⟨hPlain, hSpells, fun a ha => (hArgs a ha).2 (hWell a ha)⟩

theorem accepts_window {op : Operation} {args partition : List Expr} {order : List (SortKey Expr)}
    {frame : Option WindowFrame} (hArgs : ∀ a ∈ args, a.Accepts d cx)
    (hPartition : ∀ p ∈ partition, p.Accepts d cx) (hOrder : ∀ k ∈ order, k.key.Accepts d cx) :
    (window (.call op args) partition order frame).Accepts d cx := by
  rw [Accepts, exists_plainSql_window_iff]
  constructor
  · rintro ⟨hWindow, hSpells, hTexts, hKeys, hSorts⟩
    exact .window hWindow hSpells (fun a ha => (hArgs a ha).1 (hTexts a ha))
      (fun p hp => (hPartition p hp).1 (hKeys p hp)) fun k hk => (hOrder k hk).1 (hSorts k hk)
  · intro h
    cases h with
    | window hWindow hSpells hWell hKeys hSorts =>
        exact ⟨hWindow, hSpells, fun a ha => (hArgs a ha).2 (hWell a ha),
          fun p hp => (hPartition p hp).2 (hKeys p hp), fun k hk => (hOrder k hk).2 (hSorts k hk)⟩

/-- Over anything but a call there is no window. -/
theorem accepts_window_of_not_call {func : Expr} {partition : List Expr}
    {order : List (SortKey Expr)} {frame : Option WindowFrame}
    (h : ∀ op args, func ≠ .call op args) : (window func partition order frame).Accepts d cx := by
  constructor
  · rintro ⟨text, hText⟩
    rcases of_plainSql_window hText with ⟨op, args, _, _, _, _, hFunc, -⟩
    exact absurd hFunc (h op args)
  · intro hWell
    cases hWell
    exact absurd rfl (h _ _)

theorem accepts (e : Expr) : e.Accepts d cx := by
  induction e using writtenInduction with
  | column ref =>
      rw [Accepts, plainSql]
      refine ⟨.column, fun hWell => ?_⟩
      cases hWell with
      | column hResolves => exact hResolves
  | literal value =>
      rw [Accepts, plainSql, Literal.exists_sql_iff]
      refine ⟨.literal, fun hWell => ?_⟩
      cases hWell with
      | literal hFinite => exact hFinite
  | call op args ih => exact accepts_call ih
  | cast arg target ih =>
      rw [Accepts, exists_plainSql_cast_iff]
      constructor
      · rintro ⟨hText, hTarget⟩
        exact .cast (ih.1 hText) hTarget
      · intro hWell
        cases hWell with
        | cast hArg hTarget => exact ⟨ih.2 hArg, hTarget⟩
  | aliased expr name ih =>
      rw [Accepts, plainSql]
      refine ⟨fun hText => .named (ih.1 hText), fun hWell => ?_⟩
      cases hWell with
      | named hExpr => exact ih.2 hExpr
  | window op args partition order frame ihArgs ihPartition ihOrder =>
      -- the call may be of an operation that is refused outside of windows
      exact accepts_window ihArgs ihPartition ihOrder
  | misplaced func partition order frame hFunc => exact accepts_window_of_not_call hFunc
  | udf name args output ih =>
      rw [Accepts, exists_plainSql_udf_iff]
      constructor
      · rintro ⟨hName, hTexts⟩
        exact .udf hName fun a ha => (ih a ha).1 (hTexts a ha)
      · intro hWell
        cases hWell with
        | udf hName hArgs => exact ⟨hName, fun a ha => (ih a ha).2 (hArgs a ha)⟩

/-- With the standard rewriting, an expression has a text exactly if what it is rewritten to is
well-formed at every node. It makes no difference whether a part of it, such as the key of a window,
is rewritten once more before it is written. -/
theorem exists_sql_iff_wellFormed (hRewrites : d.rewrites = RewriteSet.standard) (cx : Context)
    (e : Expr) :
    ((∃ text, e.sql d cx = .ok text) ↔ (RewriteSet.standard.apply e).WellFormed d cx) ∧
      ∀ part : Expr, part.Within (RewriteSet.standard.apply e) →
        part.sql d cx = part.plainSql d cx := by
  constructor
  · rw [sql, hRewrites]
    exact accepts _
  · intro part hPart
    rw [sql, hRewrites, RewriteSet.apply_of_within RewriteSet.atRest_standard hPart]

/-- Over a window, the reduction to some true value is rewritten to a comparison, which is no
function of windows. -/
theorem exists_sql_iff_wellFormed_anyTrue :
    let x : Expr := .literal (.boolean true)
    let e : Expr := .window (.call .anyTrue [x]) [.call .allTrue [x]] [] none
    Dialect.standard.rewrites = RewriteSet.standard ∧
      ((∃ text, e.sql Dialect.standard (.new false) = .ok text) ↔
        (RewriteSet.standard.apply e).WellFormed Dialect.standard (.new false)) ∧
      ∀ part : Expr, part.Within (RewriteSet.standard.apply e) →
        part.sql Dialect.standard (.new false) = part.plainSql Dialect.standard (.new false) :=
  ⟨rfl, exists_sql_iff_wellFormed rfl (.new false) _⟩

end Expr
end TableQuery
