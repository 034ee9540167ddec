import TableQuery.Proofs.Expr.Induction
import TableQuery.Proofs.Sql.Inversion

/-!
# Ordinary — errors that have nothing to do with depth

Statements that stand too deep in one another are refused with an error of their own. No other part
of a text has this error: whatever is wrong with a name, a column, an expression, a clause, a plan
or a chain of joins, it is said in other words. So the error comes from a derived table or not at
all (`SelectPlan.ordinary_render`).
-/

namespace TableQuery

/-- The outcome is anything but the refusal of statements that stand too deep in one another. -/
def Ordinary {α : Type} (x : Except SqlError α) : Prop :=
  ∀ limit, x ≠ .error (.maxRecursion limit)

section Outcomes

variable {α β : Type} {x : Except SqlError α}

@[simp] theorem ordinary_ok (a : α) : Ordinary (.ok a : Except SqlError α) := by
  simp [Ordinary]

@[simp] theorem ordinary_error_iff {e : SqlError} :
    Ordinary (.error e : Except SqlError α) ↔ ∀ limit, e ≠ .maxRecursion limit := by
  simp [Ordinary]

theorem Ordinary.error {e : SqlError} (h : Ordinary x) (he : x = .error e) :
    Ordinary (.error e : Except SqlError β) := by
  rw [he, ordinary_error_iff] at h
  exact ordinary_error_iff.2 h

theorem Ordinary.map {f : α → β} (h : Ordinary x) : Ordinary (x.map f) := by
  cases x with
  | error e => exact h.error rfl
  | ok a => exact ordinary_ok (f a)

theorem Ordinary.mapM {f : α → Except SqlError β} {xs : List α} (h : ∀ x ∈ xs, Ordinary (f x)) :
    Ordinary (xs.mapM f) := by
  induction xs with
  | nil => exact ordinary_ok []
  | cons x xs ih =>
      have hHead := h x (by simp)
      have hTail := ih fun x' hx' => h x' (List.mem_cons_of_mem _ hx')
      rw [List.mapM_cons]
      -- the first error ends the list and is handed on
      cases hFirst : f x with
      | error e => exact hHead.error hFirst
      | ok y => exact hTail.map

end Outcomes

variable {d : Dialect} {cx : Context}

/-! ## Names and columns -/

theorem Identifier.ordinary_safe (name : String) : Ordinary (safe name) := by
  refine Ordinary.map ?_
  -- a name is refused for its length or for what is in it
  unfold validate
  split
  · simp
  · split
    · simp
    · split <;> simp

theorem DataType.ordinary_sqlName (t : DataType) : Ordinary t.sqlName := by
  unfold sqlName
  split <;> simp

theorem Literal.ordinary_sql (value : Literal) : Ordinary value.sql := by
  cases value with
  | boolean b => cases b <;> simp [sql]
  | geometry wkt srid => cases srid <;> simp [sql]
  | float x =>
      rw [sql]
      split <;> simp
  | _ => simp [sql]

namespace Scope

theorem ordinary_byName (s : Scope) (name : String) : Ordinary (s.byName name) := by
  unfold byName
  split <;> simp

theorem ordinary_checked (entry : ScopeEntry) (name : String) :
    Ordinary (checked entry name) := by
  unfold checked
  split <;> simp

theorem ordinary_resolve (s : Scope) (col : ColumnRef) : Ordinary (s.resolve col) := by
  unfold resolve
  -- whichever way an item is found, by identity or by name, the same two checks can fail
  split
  · exact ordinary_checked _ _
  · split
    · exact s.ordinary_byName _
    · split
      · exact ordinary_checked _ _
      · exact s.ordinary_byName _

theorem ordinary_columnText (s : Scope) (col : ColumnRef) : Ordinary (s.columnText col) := by
  unfold columnText
  split
  · exact Identifier.ordinary_safe _
  · split
    · next hError => exact (s.ordinary_resolve col).error hError
    · exact (Identifier.ordinary_safe _).map

end Scope

theorem Context.ordinary_columnText (cx : Context) (col : ColumnRef) :
    Ordinary (cx.columnText col) := by
  unfold columnText
  split
  · exact Scope.ordinary_columnText _ col
  · simp

theorem Dialect.ordinary_ruleFor (d : Dialect) (op : Operation) (args : Nat) :
    Ordinary (d.ruleFor op args) := by
  unfold ruleFor
  split
  · simp
  · split <;> simp

/-! ## Expressions -/

namespace Expr

theorem ordinary_operandsSql {wrap : Bool} {es : List Expr}
    (h : ∀ e ∈ es, Ordinary (e.plainSql d cx)) : Ordinary (operandsSql d cx wrap es) := by
  rw [operandsSql_eq_mapM]
  exact Ordinary.mapM fun e he => (h e he).map

theorem ordinary_listSql {es : List Expr} (h : ∀ e ∈ es, Ordinary (e.plainSql d cx)) :
    Ordinary (listSql d cx es) := by
  rw [listSql_eq_mapM]
  exact Ordinary.mapM h

theorem ordinary_keysSql {ks : List (SortKey Expr)}
    (h : ∀ k ∈ ks, Ordinary (k.key.plainSql d cx)) : Ordinary (keysSql d cx ks) := by
  rw [keysSql_eq_mapM]
  exact Ordinary.mapM fun k hk => (h k hk).map

theorem ordinary_plainSql (e : Expr) : Ordinary (e.plainSql d cx) := by
  induction e using writtenInduction with
  | column ref =>
      rw [plainSql]
      exact cx.ordinary_columnText ref
  | literal value =>
      rw [plainSql]
      exact value.ordinary_sql
  | call op args ih =>
      rw [plainSql]
      split
      · simp
      · -- without a rule no operand is written
        split
        · next hError => exact (d.ordinary_ruleFor op args.length).error hError
        · exact (ordinary_operandsSql ih).map
  | cast arg target ih =>
      rw [plainSql]
      split
      · next hError => exact ih.error hError
      · exact target.ordinary_sqlName.map
  | aliased expr name ih =>
      rw [plainSql]
      exact ih
  | window op args partition order frame ihArgs ihPartition ihOrder =>
      rw [plainSql]
      split
      · split
        · next hError => exact (d.ordinary_ruleFor op args.length).error hError
        · split
          · next hError => exact (ordinary_operandsSql ihArgs).error hError
          · split
            · next hError => exact (ordinary_listSql ihPartition).error hError
            · exact (ordinary_keysSql ihOrder).map
      · simp
  | misplaced func partition order frame hFunc =>
      rw [plainSql]
      · simp
      · exact hFunc
  | udf name args output ih =>
      rw [plainSql]
      split
      · next hError => exact (ordinary_listSql ih).error hError
      · exact (Identifier.ordinary_safe name).map

theorem ordinary_sql (e : Expr) : Ordinary (e.sql d cx) :=
  ordinary_plainSql _

theorem ordinary_namedSql (e : Expr) : Ordinary (e.namedSql d cx) := by
  unfold namedSql
  split
  · next hError => exact e.ordinary_sql.error hError
  · split
    · simp
    · split
      · simp
      · exact (Identifier.ordinary_safe _).map

end Expr

/-! ## Clauses -/

namespace SelectPlan

theorem ordinary_groupClause (p : SelectPlan) : Ordinary (p.groupClause d cx) := by
  unfold groupClause
  have hKeys : Ordinary (p.groupKeys.mapM groupKeyText) := by
    refine Ordinary.mapM fun key _ => ?_
    unfold groupKeyText
    split
    · exact Identifier.ordinary_safe _
    · simp
  split
  · split <;> simp
  · split
    · next hError => exact hKeys.error hError
    · exact (Ordinary.mapM fun e _ => e.ordinary_sql).map

theorem ordinary_clauses (p : SelectPlan) ( fromText : String) :
    Ordinary (p.clauses d cx fromText) := by
  have hSelect : Ordinary (p.selectClause d cx) :=
    (Ordinary.mapM fun e _ => e.ordinary_namedSql).map
  have hWhere : Ordinary (p.whereClause d cx) := (Ordinary.mapM fun e _ => e.ordinary_sql).map
  have hOrder : Ordinary (p.orderClause d cx) :=
    (Ordinary.mapM fun k _ => k.key.ordinary_sql.map).map
  unfold clauses
  split
  · next hError => exact hSelect.error hError
  · split
    · next hError => exact hWhere.error hError
    · split
      · next hError => exact p.ordinary_groupClause.error hError
      · exact hOrder.map

theorem ordinary_ofRelation (r : Relation) : Ordinary (ofRelation r) := by
  induction r with
  | table | selfReference | sqlQuery | join => simp [ofRelation]
  | union =>
      -- the only relation that cannot be planned, and it is refused for what it is
      simp [ofRelation, SqlError.unionUnsupported]
  | selection _ _ _ _ _ ih | aggregation _ _ _ _ _ ih | limit _ _ _ _ ih | distinct _ _ ih =>
      exact ih.map

end SelectPlan

/-! ## Joins -/

theorem Dialect.ordinary_joinLabel (d : Dialect) (kind : JoinKind) :
    Ordinary (d.joinLabel kind) := by
  unfold joinLabel
  split <;> simp

theorem Dialect.ordinary_checkJoinPredicates (d : Dialect) (predicates : List Expr) :
    Ordinary (d.checkJoinPredicates predicates) := by
  unfold checkJoinPredicates
  split
  · simp
  · split <;> simp

theorem JoinChain.ordinary_ofRelation (d : Dialect) (r : Relation) :
    Ordinary (ofRelation d r) := by
  induction r with
  | join id kind left right predicates ihLeft _ =>
      rw [ofRelation]
      split
      · simp
      · split
        · next hError => exact (d.ordinary_checkJoinPredicates predicates).error hError
        · split
          · next hError => exact (d.ordinary_joinLabel kind).error hError
          · exact ihLeft.map
  | _ => simp [ofRelation]

theorem ordinary_joinLines (steps : List JoinStep) (tables : List String) :
    Ordinary (joinLines d cx steps tables) := by
  induction steps generalizing tables with
  | nil => simp [joinLines]
  | cons step steps ih =>
      cases tables with
      | nil => simp [joinLines]
      | cons table tables =>
          rw [joinLines]
          split
          · next hError => exact (d.ordinary_joinLabel step.kind).error hError
          · split
            · next hError => exact (Ordinary.mapM fun e _ => e.ordinary_sql).error hError
            · exact (ih tables).map

/-! ## Statements -/

section Statements

variable {nested : Renderer}

/-- In every context, the derived tables among the items of a `FROM` clause are written or refused
for another reason than their depth. -/
def OrdinaryBelow (nested : Renderer) (tables : List Relation) : Prop :=
  ∀ cx, ∀ t ∈ tables, ∀ m, t.derived? = some m → Ordinary (nested cx m).1

theorem ordinary_itemBody {t : Relation} (h : ∀ m, t.derived? = some m → Ordinary (nested cx m).1) :
    Ordinary (itemBody d nested cx t).1 := by
  cases hDerived : t.derived? with
  | some m =>
      rw [itemBody_of_derived hDerived]
      exact (h m hDerived).map
  | none =>
      -- names and queries: only a name can be refused
      cases t with
      | table => exact Identifier.ordinary_safe _
      | sqlQuery => exact ordinary_ok _
      | selfReference id target =>
          cases target with
          | table => exact Identifier.ordinary_safe _
          | _ => cases hDerived
      | _ => cases hDerived

theorem ordinary_fromItems {qualify : Bool} {tables : List Relation}
    (h : OrdinaryBelow nested tables) (cx : Context) :
    Ordinary (fromItems d nested qualify cx tables).1 := by
  induction tables generalizing cx with
  | nil => exact ordinary_ok _
  | cons t tables ih =>
      have hRest : OrdinaryBelow nested tables :=
        fun cx t' ht' => h cx t' (List.mem_cons_of_mem _ ht')
      rw [fromItems]
      simp only [HasContext.context_self, HasContext.updateContext_self]
      split
      · next hItem =>
        exact (ordinary_itemBody (h _ t (by simp))).error (congrArg Prod.fst hItem)
      · -- the other items start from whatever context the first has left
        exact (ih hRest _).map

namespace SelectPlan

theorem ordinary_fromClause {p : SelectPlan} (h : OrdinaryBelow nested p.source.fromTables)
    (cx : Context) : Ordinary (p.fromClause d nested cx).1 := by
  unfold fromClause
  split
  · next hError => exact (JoinChain.ordinary_ofRelation d p.source).error hError
  · next chain hChain =>
    rw [← JoinChain.tables_ofRelation hChain] at h
    simp only
    split
    · next hItems => exact (ordinary_fromItems h _).error (congrArg Prod.fst hItems)
    · -- the conditions are written in the scope of the items, where no statement starts
      split
      · simp
      · exact (ordinary_joinLines _ _).map

/-- A statement is too deep only if a derived table in it is. -/
theorem ordinary_render {p : SelectPlan} (h : OrdinaryBelow nested p.source.fromTables)
    (cx : Context) : Ordinary (p.render d nested cx).1 := by
  unfold render
  simp only
  split
  · next hFrom => exact (ordinary_fromClause h cx).error (congrArg Prod.fst hFrom)
  · exact p.ordinary_clauses _

end SelectPlan

end Statements

end TableQuery
