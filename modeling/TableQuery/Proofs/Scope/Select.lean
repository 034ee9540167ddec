import TableQuery.Proofs.Expr.Refs
import TableQuery.Proofs.Plan.Nested
import TableQuery.Proofs.Sql.Progress
import TableQuery.Proofs.Text.Numeral

/-!
# Select — the statements inside a statement

A compiled relation is a statement in which others stand as derived tables. Each of them has a plan,
a chain of tables and a scope of its own, in which all of its columns are written.
-/

namespace TableQuery

/-- One `SELECT`: its plan, the tables of its `FROM` clause, and what these make visible. -/
structure Select where
  plan : SelectPlan
  chain : JoinChain
  scope : Scope

namespace Select

/-- Every expression that is written in the scope. Groups are written by the names of their keys,
which are items as well. -/
def exprs (q : Select) : List Expr :=
  q.plan.items ++ q.plan.predicates ++ q.plan.having ++ q.plan.sortKeys.map (·.key)
    ++ q.chain.steps.flatMap (·.predicates)

/-- Every column that is written in the scope. -/
def references (q : Select) (d : Dialect) : List ColumnRef :=
  q.exprs.flatMap (Expr.written d)

end Select

section Selects

variable (d : Dialect) (nested : Renderer) (inner : Context → Relation → List Select)
  (qualify : Bool)

/-- The statements inside the items of a `FROM` clause, where `inner` gives those of one derived
table in the context that it is written in. -/
def itemSelects : Context → List Relation → List Select
  | _, [] => []
  | cx, table :: tables =>
    let cx := (cx.drawAliasIf (needsAlias qualify table)).2
    (match table.derived? with
      | some target => inner cx target
      | none => [])
      ++ itemSelects (itemBody d nested cx table).2 tables

end Selects

/-- The statement of a relation and all statements inside it, that at most `allowance` statements
may be part of. -/
def selects (d : Dialect) : Nat → Context → Relation → List Select
  | 0, _, _ => []
  | allowance + 1, cx, r =>
    match SelectPlan.ofRelation r with
    | .error _ => []
    | .ok p =>
      match JoinChain.ofRelation d p.source with
      | .error _ => []
      | .ok chain =>
        match fromItems d (statement d allowance) (p.qualifies cx) cx chain.tables with
        | (.error _, _) => []
        | (.ok items, _) =>
          ⟨p, chain, p.scope (items.map (·.1)) (p.qualifies cx)⟩
            :: itemSelects d (statement d allowance) (selects d allowance) (p.qualifies cx) cx
              chain.tables

/-- All statements that a compiled relation consists of. -/
def Dialect.selects (d : Dialect) (r : Relation) : List Select :=
  TableQuery.selects d (d.maxDepth + 1) (Context.new d.alwaysAlias) r

variable {d : Dialect} {nested : Renderer} {cx : Context}

/-! ## What is written has a text -/

theorem Expr.columnText_of_mapM_sql {es : List Expr} {texts : List String}
    (h : es.mapM (Expr.sql d cx) = .ok texts) {ref : ColumnRef}
    (hRef : ref ∈ es.flatMap (Expr.written d)) : ∃ t, cx.columnText ref = .ok t := by
  rcases List.mem_flatMap.1 hRef with ⟨e, he, hRef⟩
  rcases exists_of_mem_forall₂ (forall₂_of_mapM h) he with ⟨text, -, hText⟩
  exact columnText_of_sql hText hRef

/-- A statement has a text only if all columns in its clauses have one. -/
theorem SelectPlan.columnText_of_clauses {p : SelectPlan} {fromText text : String}
    (h : p.clauses d cx fromText = .ok text) {ref : ColumnRef}
    (hRef : ref ∈ (p.items ++ p.predicates ++ p.having ++ p.sortKeys.map (·.key)).flatMap
      (Expr.written d)) : ∃ t, cx.columnText ref = .ok t := by
  rcases of_clauses h with ⟨_, _, _, _, hSelect, hFilter, hGroup, hOrder, -⟩
  simp only [List.flatMap_append, List.mem_append] at hRef
  rcases hRef with ((hItem | hFilter') | hHaving) | hSort
  · rcases of_map_ok hSelect with ⟨items, hItems, -⟩
    rcases List.mem_flatMap.1 hItem with ⟨e, he, hRef⟩
    rcases exists_of_mem_forall₂ (forall₂_of_mapM hItems) he with ⟨item, -, hItem⟩
    exact Expr.columnText_of_namedSql hItem hRef
  · rcases of_map_ok hFilter with ⟨ps, hPs, -⟩
    exact Expr.columnText_of_mapM_sql hPs hFilter'
  · rcases of_groupClause hGroup with ⟨-, hNone, -⟩ | ⟨_, having, -, hTexts, -⟩
    · -- without groups there is nothing to write
      rw [hNone] at hHaving
      cases hHaving
    · exact Expr.columnText_of_mapM_sql hTexts hHaving
  · rcases of_map_ok hOrder with ⟨keys, hKeys, -⟩
    rcases List.mem_flatMap.1 hSort with ⟨e, he, hRef⟩
    rcases List.mem_map.1 he with ⟨k, hk, rfl⟩
    rcases exists_of_mem_forall₂ (forall₂_of_mapM hKeys) hk with ⟨sorted, -, hSorted⟩
    rcases of_map_ok hSorted with ⟨key, hKey, -⟩
    exact Expr.columnText_of_sql hKey hRef

theorem columnText_of_joinLines {steps : List JoinStep} {tables : List String} {text : String}
    (h : joinLines d cx steps tables = .ok text) (hLength : steps.length = tables.length)
    {ref : ColumnRef} (hRef : ref ∈ (steps.flatMap (·.predicates)).flatMap (Expr.written d)) :
    ∃ t, cx.columnText ref = .ok t := by
  induction steps generalizing tables text with
  | nil => cases hRef
  | cons step steps ih =>
      cases tables with
      | nil => cases hLength
      | cons table tables =>
          rcases of_joinLines_cons h with ⟨_, ps, rest, -, hPs, hRest, -⟩
          -- the reference is in the condition of this join or of a later one
          rw [List.flatMap_cons, List.flatMap_append, List.mem_append] at hRef
          rcases hRef with hHere | hThere
          · exact Expr.columnText_of_mapM_sql hPs hHere
          · exact ih hRest (Nat.succ.inj hLength) hThere

/-! ## Items -/

/-- The items of a clause are its tables, with their columns. -/
theorem relations_fromItems (qualify : Bool) {tables : List Relation} :
    ∀ {cx items}, (fromItems d nested qualify cx tables).1 = .ok items →
      items.map (·.1.relation) = tables ∧
        ∀ item ∈ items, item.1.columns = item.1.relation.columnNames := by
  induction tables with
  | nil =>
      intro cx items h
      cases h
      exact ⟨rfl, by simp⟩
  | cons table tables ih =>
      intro cx items h
      rcases of_fromItems_cons h with ⟨body, rest, -, hRest, rfl⟩
      rcases ih hRest with ⟨hTables, hColumns⟩
      refine ⟨congrArg (table :: ·) hTables, ?_⟩
      exact List.forall_mem_cons.2 ⟨rfl, hColumns⟩

/-- The alias with a number. -/
def aliasName (k : Nat) : String :=
  "t" ++ toString k

theorem aliasName_inj {j k : Nat} (h : aliasName j = aliasName k) : j = k := by
  have hNumber : toString j = toString k := String.append_right_inj _ |>.1 h
  exact Text.natText_injective hNumber

theorem pointless_aliasName (k : Nat) : '.' ∉ (aliasName k).toList := by
  intro hPoint
  have hDigit : '.' ∈ Nat.toDigits 10 k := by
    simpa [aliasName] using hPoint
  have hNot := Nat.isDigit_of_mem_toDigits (by decide) (by decide) hDigit
  cases hNot

/-- Where every item has an alias, no two items have the same: each is drawn after all that were
drawn before, those inside of derived tables included. -/
theorem aliases_fromItems (hNested : nested.Progresses) {tables : List Relation} :
    ∀ {cx items}, (fromItems d nested true cx tables).1 = .ok items →
      (∀ item ∈ items, ∃ k, cx.nextAlias ≤ k ∧ item.1.alias? = some (aliasName k)) ∧
        (items.map (·.1.alias?)).Nodup := by
  induction tables with
  | nil =>
      intro cx items h
      cases h
      exact ⟨by simp, List.nodup_nil⟩
  | cons table tables ih =>
      intro cx items h
      rcases of_fromItems_cons h with ⟨body, rest, -, hRest, rfl⟩
      rcases ih hRest with ⟨hLater, hNodup⟩
      have hBody :=
        reaches_itemBody (d := d) hNested (cx.drawAliasIf (needsAlias true table)).2 table
      -- the alias of this item is drawn before its body and all other items are written
      have hNext : cx.nextAlias + 1 ≤
          (itemBody d nested (cx.drawAliasIf (needsAlias true table)).2 table).2.nextAlias :=
        hBody.aliases
      constructor
      · intro item hItem
        rcases List.mem_cons.1 hItem with rfl | hItem
        · exact ⟨cx.nextAlias, Nat.le_refl _, rfl⟩
        · rcases hLater item hItem with ⟨k, hk, hAlias⟩
          exact ⟨k, by omega, hAlias⟩
      · -- an alias drawn later has a greater number
        refine List.nodup_cons.2 ⟨?_, hNodup⟩
        intro hMem
        rcases List.mem_map.1 hMem with ⟨item, hItem, hSame⟩
        rcases hLater item hItem with ⟨k, hk, hAlias⟩
        rw [hAlias] at hSame
        have hEq : k = cx.nextAlias := aliasName_inj (Option.some.inj hSame)
        omega

/-! ## Scopes -/

/-- Items can be told apart: each has an alias of its own, unless there is only one. -/
structure Scope.Distinguished (s : Scope) : Prop where
  single : s.qualify = false → ∀ e ∈ s.entries, ∀ e' ∈ s.entries, e = e'
  named : s.qualify = true → ∀ e ∈ s.entries, ∃ k, e.alias? = some (aliasName k)
  apart : s.qualify = true → (s.entries.map (·.alias?)).Nodup

/-- What holds of every `SELECT` in the statement of a relation. -/
structure Select.WellScoped (q : Select) (d : Dialect) (r : Relation) : Prop where
  columns : ∀ e ∈ q.scope.entries, e.columns = e.relation.columnNames
  nodes : ∀ e ∈ q.scope.entries, e.relation.nodes ⊆ r.nodes
  /-- The relation whose columns are written as the statement's own stands in none of its items. -/
  outputs : ∀ own ∈ q.scope.outputs,
    ∃ w ∈ r.nodes, w.origin = own.1 ∧ ∀ e ∈ q.scope.entries, w ∉ e.relation.nodes
  distinguished : q.scope.Distinguished
  written : ∀ ref ∈ q.references d, ∃ text, q.scope.columnText ref = .ok text

theorem Select.WellScoped.mono {q : Select} {r r' : Relation} (h : q.WellScoped d r)
    (hNodes : r.nodes ⊆ r'.nodes) : q.WellScoped d r' where
  columns := h.columns
  nodes e he := List.Subset.trans (h.nodes e he) hNodes
  outputs own hOwn := by
    rcases h.outputs own hOwn with ⟨w, hw, hOrigin, hApart⟩
    exact ⟨w, hNodes hw, hOrigin, hApart⟩
  distinguished := h.distinguished
  written := h.written

theorem JoinChain.tables_of_not_isJoin {r : Relation} {c : JoinChain}
    (hJoin : r.isJoin = false) (h : ofRelation d r = .ok c) : c.tables = [r] := by
  cases r with
  | join => cases hJoin
  | _ =>
      cases h
      rfl

theorem SelectPlan.distinguished_scope {p : SelectPlan} {chain : JoinChain}
    {items : List (ScopeEntry × String)} (hNested : nested.Progresses)
    (hChain : JoinChain.ofRelation d p.source = .ok chain)
    (hItems : (fromItems d nested (p.qualifies cx) cx chain.tables).1 = .ok items) :
    (p.scope (items.map (·.1)) (p.qualifies cx)).Distinguished := by
  constructor
  · intro hBare
    -- columns are bare only without a join, and then there is one table
    have hJoin : p.source.isJoin = false := (Bool.or_eq_false_iff.1 hBare).1
    have hTables := (relations_fromItems (p.qualifies cx) hItems).1
    rw [JoinChain.tables_of_not_isJoin hJoin hChain] at hTables
    rcases List.map_eq_singleton_iff.1 hTables with ⟨item, rfl, -⟩
    intro e he e' he'
    exact (List.mem_singleton.1 he).trans (List.mem_singleton.1 he').symm
  · intro hQualified e he
    rw [show p.qualifies cx = true from hQualified] at hItems
    rcases List.mem_map.1 he with ⟨item, hItem, rfl⟩
    rcases (aliases_fromItems hNested hItems).1 item hItem with ⟨k, -, hAlias⟩
    exact ⟨k, hAlias⟩
  · intro hQualified
    rw [show p.qualifies cx = true from hQualified] at hItems
    have hNodup := (aliases_fromItems hNested hItems).2
    simpa [scope, Function.comp_def] using hNodup

/-- The `SELECT` of a plan that has a text. -/
theorem SelectPlan.wellScoped {r : Relation} {p : SelectPlan} {chain : JoinChain}
    {items : List (ScopeEntry × String)} {text : String} (hNested : nested.Progresses)
    (hPlan : ofRelation r = .ok p) (hChain : JoinChain.ofRelation d p.source = .ok chain)
    (hItems : (fromItems d nested (p.qualifies cx) cx chain.tables).1 = .ok items)
    (hText : (p.render d nested cx).1 = .ok text) :
    Select.WellScoped ⟨p, chain, p.scope (items.map (·.1)) (p.qualifies cx)⟩ d r := by
  rcases relations_fromItems (p.qualifies cx) hItems with ⟨hTables, hColumns⟩
  have hSource : ∀ e ∈ items.map (·.1), e.relation.nodes ⊆ p.source.nodes := by
    intro e he
    rcases List.mem_map.1 he with ⟨item, hItem, rfl⟩
    refine (JoinChain.drawnFrom_ofRelation hChain).tables _ ?_
    exact hTables ▸ List.mem_map.2 ⟨item, hItem, rfl⟩
  constructor
  · intro e he
    rcases List.mem_map.1 he with ⟨item, hItem, rfl⟩
    exact hColumns item hItem
  · intro e he
    exact List.Subset.trans (hSource e he) (drawnFrom_ofRelation hPlan).source
  · intro own hOwn
    rcases Option.map_eq_some_iff.1 hOwn with ⟨w, hw, rfl⟩
    rcases outputApart_ofRelation hPlan w hw with ⟨hNode, hApart⟩
    exact ⟨w, hNode, rfl, fun e he hMem => hApart (hSource e he hMem)⟩
  · exact distinguished_scope hNested hChain hItems
  · -- the chain and the items of the text are the given ones, since there is only one result
    rcases p.of_render hText with
      ⟨chain', first, rest, joins, cx', hChain', hItems', hJoins, hClauses⟩
    obtain rfl : chain' = chain := Except.ok.inj (hChain'.symm.trans hChain)
    obtain rfl : first :: rest = items := by
      rw [hItems'] at hItems
      exact Except.ok.inj hItems
    have hLength : chain'.steps.length = (rest.map (·.2)).length := by
      have hCount := congrArg List.length hTables
      simpa [JoinChain.tables] using hCount.symm
    intro ref hRef
    rw [Select.references, Select.exprs, List.flatMap_append, List.mem_append] at hRef
    rcases hRef with hClause | hJoin
    · exact columnText_of_clauses hClauses hClause
    · exact columnText_of_joinLines hJoins hLength hJoin

/-! ## All statements -/

/-- A statement inside an item is one of a derived table that has a text. -/
theorem mem_itemSelects {inner : Context → Relation → List Select} {qualify : Bool}
    {tables : List Relation} {q : Select} :
    ∀ {cx items}, (fromItems d nested qualify cx tables).1 = .ok items →
      q ∈ itemSelects d nested inner qualify cx tables →
      ∃ table ∈ tables, ∃ target cx' text, table.derived? = some target ∧
        (nested cx' target).1 = .ok text ∧ q ∈ inner cx' target := by
  induction tables with
  | nil =>
      intro cx items _ hq
      cases hq
  | cons table tables ih =>
      intro cx items h hq
      rcases of_fromItems_cons h with ⟨body, rest, hBody, hRest, -⟩
      rcases List.mem_append.1 hq with hHere | hThere
      · cases hDerived : table.derived? with
        | none =>
            rw [hDerived] at hHere
            cases hHere
        | some target =>
            rw [hDerived] at hHere
            rw [itemBody_of_derived hDerived] at hBody
            rcases of_map_ok hBody with ⟨text, hText, -⟩
            exact ⟨table, by simp, target, _, text, hDerived, hText, hHere⟩
      · rcases ih hRest hThere with ⟨table', hTable, hWritten⟩
        exact ⟨table', List.mem_cons_of_mem _ hTable, hWritten⟩

/-- Every `SELECT` in a statement is well scoped, by induction on how deep statements may stand in
one another. -/
theorem wellScoped_of_statement {q : Select} :
    ∀ {allowance cx r text}, (statement d allowance cx r).1 = .ok text →
      q ∈ selects d allowance cx r → q.WellScoped d r := by
  intro allowance
  induction allowance with
  | zero =>
      intro cx r text h
      cases h
  | succ allowance ih =>
      intro cx r text h hq
      rcases of_statement h with ⟨p, hPlan, hText⟩
      rcases p.of_render hText with ⟨chain, first, rest, _, cx', hChain, hItems, -, -⟩
      have hItems' := congrArg Prod.fst hItems
      rw [selects] at hq
      simp only [hPlan, hChain, hItems] at hq
      rcases List.mem_cons.1 hq with rfl | hInner
      · -- the outermost statement
        exact SelectPlan.wellScoped (progresses_statement d allowance) hPlan hChain hItems' hText
      · -- a statement inside a derived table, whose nodes are nodes of the relation
        rcases mem_itemSelects hItems' hInner with
          ⟨table, hTable, target, cx'', inner, hDerived, hInnerText, hMem⟩
        refine (ih hInnerText hMem).mono ?_
        have hTableNodes := (JoinChain.drawnFrom_ofRelation hChain).tables table hTable
        exact List.Subset.trans (Relation.nodes_subset_of_derived hDerived)
          (List.Subset.trans hTableNodes (SelectPlan.drawnFrom_ofRelation hPlan).source)

theorem Dialect.wellScoped_of_compile {r : Relation} {text : String} (h : d.compile r = .ok text)
    {q : Select} (hq : q ∈ d.selects r) : q.WellScoped d r :=
  wellScoped_of_statement (of_compile h) hq

end TableQuery
