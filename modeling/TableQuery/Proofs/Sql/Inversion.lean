import TableQuery.Proofs.Outcome
import TableQuery.Proofs.Sql.Allowance

/-!
# Inversion — what a text says about its parts

A text of a list, a clause or a statement exists only if each of its parts has one. For every
function that puts texts together, one lemma names the parts and the contexts that they were written
in, so that no proof has to open the function again.
-/

namespace TableQuery

variable {d : Dialect} {cx : Context}

/-- The rule for a call is the one that the dialect spells its operation by. -/
theorem Dialect.of_ruleFor {op : Operation} {args : Nat} {rule : SpellingRule}
    (h : d.ruleFor op args = .ok rule) :
    d.spellings.rule? op = some rule ∧ rule.arity.accepts args = true := by
  unfold ruleFor at h
  split at h
  · cases h
  · next r hRule =>
    split at h
    · next hArity =>
      cases h
      exact ⟨hRule, hArity⟩
    · cases h

/-! ## Lists of expressions -/

namespace Expr

/-- Operands are written one after the other, and the first error ends it. -/
theorem operandsSql_eq_mapM (d : Dialect) (cx : Context) (wrap : Bool) (es : List Expr) :
    operandsSql d cx wrap es = es.mapM fun e => (e.plainSql d cx).map (e.operandText d wrap) := by
  induction es with
  | nil => rfl
  | cons e es ih =>
      rw [operandsSql, ih, List.mapM_cons]
      cases e.plainSql d cx with
      | error err => rfl
      | ok text => rfl

theorem listSql_eq_mapM (d : Dialect) (cx : Context) (es : List Expr) :
    listSql d cx es = es.mapM (plainSql d cx) := by
  induction es with
  | nil => rfl
  | cons e es ih =>
      rw [listSql, ih, List.mapM_cons]
      cases e.plainSql d cx with
      | error err => rfl
      | ok text => rfl

theorem keysSql_eq_mapM (d : Dialect) (cx : Context) (ks : List (SortKey Expr)) :
    keysSql d cx ks =
      ks.mapM fun k => (k.key.plainSql d cx).map fun text => sortKeyText text k.ascending := by
  induction ks with
  | nil => rfl
  | cons k ks ih =>
      rw [keysSql, ih, List.mapM_cons]
      cases k.key.plainSql d cx with
      | error err => rfl
      | ok text => rfl

theorem of_operandsSql_cons {wrap : Bool} {e : Expr} {es : List Expr} {texts : List String}
    (h : operandsSql d cx wrap (e :: es) = .ok texts) :
    ∃ text rest, e.plainSql d cx = .ok text ∧ operandsSql d cx wrap es = .ok rest ∧
      texts = e.operandText d wrap text :: rest := by
  rw [operandsSql] at h
  split at h
  · cases h
  · next text hText =>
    rcases of_map_ok h with ⟨rest, hRest, rfl⟩
    exact ⟨text, rest, hText, hRest, rfl⟩

/-- The parts of a call that stands alone. -/
theorem of_plainSql_call {op : Operation} {args : List Expr} {text : String}
    (h : (call op args).plainSql d cx = .ok text) :
    ∃ rule operands, op.isAnalytic = false ∧ d.ruleFor op args.length = .ok rule ∧
      operandsSql d cx rule.isOperatorLike args = .ok operands ∧ text = rule.render operands := by
  rw [plainSql] at h
  split at h
  · cases h
  · next hPlain =>
    split at h
    · cases h
    · next rule hRule =>
      rcases of_map_ok h with ⟨operands, hOperands, rfl⟩
      exact ⟨rule, operands, by simpa using hPlain, hRule, hOperands, rfl⟩

/-- The parts of a function over a window. -/
theorem of_plainSql_window {func : Expr} {partition : List Expr} {order : List (SortKey Expr)}
    {frame : Option WindowFrame} {text : String}
    (h : (window func partition order frame).plainSql d cx = .ok text) :
    ∃ op args rule operands keys sorted, func = .call op args ∧
      (op.isAnalytic || op.isReduction) = true ∧ d.ruleFor op args.length = .ok rule ∧
      operandsSql d cx rule.isOperatorLike args = .ok operands ∧
      listSql d cx partition = .ok keys ∧ keysSql d cx order = .ok sorted ∧
      text = windowText op (rule.render operands) keys sorted frame := by
  cases func with
  | call op args =>
      rw [plainSql] at h
      split at h
      · next hWindow =>
        split at h
        · cases h
        · next rule hRule =>
          split at h
          · cases h
          · next operands hOperands =>
            split at h
            · cases h
            · next keys hKeys =>
              rcases of_map_ok h with ⟨sorted, hSorted, rfl⟩
              exact ⟨op, args, rule, operands, keys, sorted, rfl, hWindow, hRule, hOperands, hKeys,
                hSorted, rfl⟩
      · cases h
  | _ => simp [plainSql] at h

end Expr

/-! ## Clauses -/

namespace SelectPlan

/-- The clauses of a statement, each with its text. -/
theorem of_clauses {p : SelectPlan} {fromText text : String}
    (h : p.clauses d cx fromText = .ok text) :
    ∃ select filter group order, p.selectClause d cx = .ok select ∧
      p.whereClause d cx = .ok filter ∧ p.groupClause d cx = .ok group ∧
      p.orderClause d cx = .ok order ∧
      text = "\n".intercalate ([select, fromText] ++ filter.toList ++ group.toList ++
        order.toList ++ (p.limit.map RowLimit.text).toList) := by
  unfold clauses at h
  split at h
  · cases h
  · next select hSelect =>
    split at h
    · cases h
    · next filter hFilter =>
      split at h
      · cases h
      · next group hGroup =>
        rcases of_map_ok h with ⟨order, hOrder, rfl⟩
        exact ⟨select, filter, group, order, hSelect, hFilter, hGroup, hOrder, rfl⟩

/-- Groups have names and conditions with texts, or there are neither groups nor conditions. -/
theorem of_groupClause {p : SelectPlan} {clause : Option String}
    (h : p.groupClause d cx = .ok clause) :
    (p.groupKeys = [] ∧ p.having = [] ∧ clause = none) ∨
    ∃ keys having, p.groupKeys.mapM groupKeyText = .ok keys ∧
      p.having.mapM (Expr.sql d cx) = .ok having ∧
      clause = some ("GROUP BY " ++ ", ".intercalate keys ++ havingText having) := by
  unfold groupClause at h
  split at h
  · next hKeys =>
    split at h
    · next hHaving =>
      cases h
      exact .inl ⟨List.isEmpty_iff.1 hKeys, List.isEmpty_iff.1 hHaving, rfl⟩
    · cases h
  · split at h
    · cases h
    · next keys hKeys =>
      rcases of_map_ok h with ⟨having, hHaving, rfl⟩
      exact .inr ⟨keys, having, hKeys, hHaving, rfl⟩

end SelectPlan

/-! ## Statements -/

variable {nested : Renderer}

/-- Whether a table of a chain gets an alias. -/
def needsAlias (qualify : Bool) (table : Relation) : Bool :=
  qualify || !table.isBaseTable

/-- The first item of a `FROM` clause and the others, which are written after it. -/
theorem of_fromItems_cons {qualify : Bool} {table : Relation} {tables : List Relation}
    {items : List (ScopeEntry × String)}
    (h : (fromItems d nested qualify cx (table :: tables)).1 = .ok items) :
    ∃ body rest,
      (itemBody d nested (cx.drawAliasIf (needsAlias qualify table)).2 table).1 = .ok body ∧
      (fromItems d nested qualify
        (itemBody d nested (cx.drawAliasIf (needsAlias qualify table)).2 table).2 tables).1 =
          .ok rest ∧
      items = (⟨table, (cx.drawAliasIf (needsAlias qualify table)).1, table.columnNames⟩,
        itemText body (cx.drawAliasIf (needsAlias qualify table)).1) :: rest := by
  rw [fromItems] at h
  simp only [HasContext.context_self, HasContext.updateContext_self] at h
  split at h
  · cases h
  · next body cx' hItem =>
    rcases of_map_ok h with ⟨rest, hRest, rfl⟩
    -- the other items start from the context that the first one has left
    refine ⟨body, rest, congrArg Prod.fst hItem, ?_, rfl⟩
    have hContext := congrArg Prod.snd hItem
    simp only at hContext
    rw [needsAlias, hContext]
    exact hRest

/-- The context behind the items of a clause: that of the first item if it failed, or else that of
the others. -/
theorem fromItems_cons_snd (d : Dialect) (nested : Renderer) (qualify : Bool) (cx : Context)
    (table : Relation) (tables : List Relation) :
    (fromItems d nested qualify cx (table :: tables)).2 =
        (itemBody d nested (cx.drawAliasIf (needsAlias qualify table)).2 table).2 ∨
      (fromItems d nested qualify cx (table :: tables)).2 =
        (fromItems d nested qualify
          (itemBody d nested (cx.drawAliasIf (needsAlias qualify table)).2 table).2 tables).2 := by
  rw [fromItems]
  simp only [HasContext.context_self, HasContext.updateContext_self]
  split
  · next hItem =>
    left
    rw [needsAlias, hItem]
  · next hItem =>
    right
    rw [needsAlias, hItem]

/-- Behind a first item that has a text, the others are written. -/
theorem fromItems_cons_snd_of_ok {qualify : Bool} {table : Relation} {tables : List Relation}
    {body : String}
    (h : (itemBody d nested (cx.drawAliasIf (needsAlias qualify table)).2 table).1 = .ok body) :
    (fromItems d nested qualify cx (table :: tables)).2 =
      (fromItems d nested qualify
        (itemBody d nested (cx.drawAliasIf (needsAlias qualify table)).2 table).2 tables).2 := by
  rw [needsAlias] at h ⊢
  rw [fromItems]
  simp only [HasContext.context_self, HasContext.updateContext_self]
  split
  · next hFailed =>
    rw [hFailed] at h
    cases h
  · next hItem => rw [hItem]

section Aliases

variable {P : String → Prop}

theorem alias_of_drawAliasIf (hP : ∀ k : Nat, P ("t" ++ toString k)) (cx : Context)
    (needed : Bool) : ∀ a ∈ (cx.drawAliasIf needed).1, P a := by
  intro a ha
  cases needed with
  | false => cases ha
  | true =>
      cases ha
      exact hP cx.nextAlias

/-- What holds of every alias that can be drawn holds of those of the items. -/
theorem alias_of_fromItems (hP : ∀ k : Nat, P ("t" ++ toString k)) {qualify : Bool}
    {tables : List Relation} :
    ∀ {cx items}, (fromItems d nested qualify cx tables).1 = .ok items →
      ∀ item ∈ items, ∀ a ∈ item.1.alias?, P a := by
  induction tables with
  | nil =>
      intro cx items h
      cases h
      simp
  | cons table tables ih =>
      intro cx items h
      rcases of_fromItems_cons h with ⟨body, rest, -, hRest, rfl⟩
      exact List.forall_mem_cons.2 ⟨alias_of_drawAliasIf hP cx _, ih hRest⟩

/-- The aliases of a scope are those of its items. -/
theorem alias_of_top_push {items : List (ScopeEntry × String)}
    (h : ∀ item ∈ items, ∀ a ∈ item.1.alias?, P a) (cx : Context) (p : SelectPlan)
    (qualify : Bool) :
    ∀ s ∈ (cx.push (p.scope (items.map (·.1)) qualify)).top?, ∀ e ∈ s.entries, ∀ a ∈ e.alias?,
      P a := by
  intro s hs e he
  cases hs
  rcases List.mem_map.1 he with ⟨item, hItem, rfl⟩
  exact h item hItem

end Aliases

/-- Every derived table of a clause has a text, in some context on the way. -/
theorem exists_nested_of_fromItems {qualify : Bool} {tables : List Relation} {t m : Relation}
    (ht : t ∈ tables) (hDerived : t.derived? = some m) :
    ∀ {cx items}, (fromItems d nested qualify cx tables).1 = .ok items →
      ∃ cx' text, (nested cx' m).1 = .ok text := by
  induction tables with
  | nil => cases ht
  | cons table tables ih =>
      intro cx items h
      rcases of_fromItems_cons h with ⟨body, rest, hBody, hRest, -⟩
      rcases List.mem_cons.1 ht with rfl | ht
      · rw [itemBody_of_derived hDerived] at hBody
        rcases of_map_ok hBody with ⟨text, hText, -⟩
        exact ⟨_, text, hText⟩
      · exact ih ht hRest

/-- A joined table with its condition, and the tables behind it. -/
theorem of_joinLines_cons {step : JoinStep} {steps : List JoinStep} {table : String}
    {tables : List String} {text : String}
    (h : joinLines d cx (step :: steps) (table :: tables) = .ok text) :
    ∃ label ps rest, d.joinLabel step.kind = .ok label ∧
      step.predicates.mapM (Expr.sql d cx) = .ok ps ∧ joinLines d cx steps tables = .ok rest ∧
      text = "\n" ++ Text.indent d.indent (label ++ " " ++ table) ++ "\n" ++
        Text.indent (2 * d.indent) (onText ps) ++ rest := by
  rw [joinLines] at h
  split at h
  · cases h
  · next label hLabel =>
    split at h
    · cases h
    · next ps hPs =>
      rcases of_map_ok h with ⟨rest, hRest, rfl⟩
      exact ⟨label, ps, rest, hLabel, hPs, hRest, rfl⟩

/-- Whether columns are qualified in the statement of a plan. -/
def SelectPlan.qualifies (p : SelectPlan) (cx : Context) : Bool :=
  p.source.isJoin || cx.alwaysAlias

/-- The parts of a statement: its chain of tables, their items, the conditions that join them, and
the clauses, which are written in the scope of the items. -/
theorem SelectPlan.of_render {p : SelectPlan} {text : String}
    (h : (p.render d nested cx).1 = .ok text) :
    ∃ chain first rest joins cx', JoinChain.ofRelation d p.source = .ok chain ∧
      fromItems d nested (p.qualifies cx) cx chain.tables = (.ok (first :: rest), cx') ∧
      joinLines d (cx'.push (p.scope ((first :: rest).map (·.1)) (p.qualifies cx))) chain.steps
        (rest.map (·.2)) = .ok joins ∧
      p.clauses d (cx'.push (p.scope ((first :: rest).map (·.1)) (p.qualifies cx)))
        ("FROM " ++ first.2 ++ joins) = .ok text := by
  unfold render at h
  simp only at h
  split at h
  · cases h
  · next clause cx'' hClause =>
    unfold fromClause at hClause
    split at hClause
    · cases hClause
    · next chain hChain =>
      simp only at hClause
      split at hClause
      · cases hClause
      · next items cx' hItems =>
        -- a chain has a first table, and a clause without items is an error
        cases items with
        | nil => cases hClause
        | cons first rest =>
            simp only [List.map_cons, Prod.mk.injEq] at hClause
            rcases hClause with ⟨hText, rfl⟩
            rcases of_map_ok hText with ⟨joins, hJoins, rfl⟩
            exact ⟨chain, first, rest, joins, cx', hChain, hItems, hJoins, h⟩

theorem of_statement {allowance : Nat} {r : Relation} {text : String}
    (h : (statement d (allowance + 1) cx r).1 = .ok text) :
    ∃ p, SelectPlan.ofRelation r = .ok p ∧
      (p.render d (statement d allowance) cx).1 = .ok text := by
  rw [statement] at h
  split at h
  · cases h
  · next p hPlan => exact ⟨p, hPlan, h⟩

/-- The derived tables of a statement with a text have texts, with one statement less to spare. -/
theorem exists_statement_of_mem_derivedTables {allowance : Nat} {r m : Relation} {text : String}
    (h : (statement d (allowance + 1) cx r).1 = .ok text) (hm : m ∈ r.derivedTables) :
    ∃ cx' inner, (statement d allowance cx' m).1 = .ok inner := by
  rcases of_statement h with ⟨p, hPlan, hText⟩
  rcases p.of_render hText with ⟨chain, first, rest, _, cx', hChain, hItems, -, -⟩
  rcases (Relation.mem_derivedTables hPlan).1 hm with ⟨t, ht, hDerived⟩
  rw [← JoinChain.tables_ofRelation hChain] at ht
  exact exists_nested_of_fromItems ht hDerived (congrArg Prod.fst hItems)

theorem of_compile {r : Relation} {text : String} (h : d.compile r = .ok text) :
    (statement d (d.maxDepth + 1) (Context.new d.alwaysAlias) r).1 = .ok text := by
  rw [Dialect.compile_eq] at h
  split at h
  · cases h
  · exact h

end TableQuery
