import TableQuery.Expr.Build
import TableQuery.Proofs.Sql.Expr
import TableQuery.Proofs.Sql.Extension

/-!
# Use — what can be done with a column

A column of a relation that has a text can be tested, selected, grouped by and sorted by, if its
name can be written and stands for no other column of the relation. Where the statement of the
relation cannot be extended, it becomes a derived table, so it takes one more level of depth. The
one exception is sorting the rows of a statement with a select list for a second time: the column is
then looked up among the tables of the statement and not in its select list.
-/

namespace TableQuery

variable {d : Dialect} {cx : Context} {ref : ColumnRef}

/-! ## The texts of new clauses -/

namespace Expr

theorem sql_column : (Expr.column ref).sql d cx = cx.columnText ref := by
  have hApply : d.rewrites.apply (.column ref) = .column ref := by
    unfold RewriteSet.apply
    split
    · rfl
    · rfl
  rw [sql, hApply, plainSql]

theorem exists_namedSql_column (hName : ∃ safe, Identifier.safe ref.name = .ok safe)
    (h : ∃ text, cx.columnText ref = .ok text) :
    ∃ text, (Expr.column ref).namedSql d cx = .ok text := by
  rcases h with ⟨text, hText⟩
  unfold namedSql
  rw [sql_column, hText]
  simp only [outputName?]
  split
  · exact ⟨text, rfl⟩
  · exact map_ok_of_ok hName

theorem exists_sql_notNull (hd : d.IsStandard) (h : ∃ text, cx.columnText ref = .ok text) :
    ∃ text, (Expr.call .notNull [.column ref]).sql d cx = .ok text := by
  rcases h with ⟨text, hText⟩
  have hApply : d.rewrites.apply (.call .notNull [.column ref]) = .call .notNull [.column ref] := by
    rw [hd.rewrites]
    rfl
  have hRule : d.ruleFor .notNull 1 = .ok (.trailing " IS NOT NULL") := by
    unfold Dialect.ruleFor
    rw [hd.spellings]
    rfl
  rw [sql, hApply, plainSql]
  simp [Operation.isAnalytic, hRule, operandsSql, plainSql, hText, Except.map]

theorem exists_namedSql_countStar (hd : d.IsStandard) :
    ∃ text, countStar.namedSql d cx = .ok text := by
  have hApply : d.rewrites.apply countStar = countStar := by
    rw [hd.rewrites]
    rfl
  have hRule : d.ruleFor .countStar 0 = .ok (.splice (.exactly 0) fun _ => "COUNT(*)") := by
    unfold Dialect.ruleFor
    rw [hd.spellings]
    rfl
  have hText : countStar.plainSql d cx = .ok "COUNT(*)" := by
    rw [countStar, plainSql]
    simp [Operation.isAnalytic, hRule, operandsSql, Except.map]
    rfl
  have hName : ∃ safe, Identifier.safe "count" = .ok safe := ⟨Identifier.quote "count", by rfl⟩
  unfold namedSql
  rw [sql, hApply, hText]
  simp only [countStar, isBareColumn]
  exact map_ok_of_ok hName

end Expr

/-! ## Uses of a column -/

namespace Relation

/-- The rows that have a value in the column. -/
def whereNotNull (r : Relation) (id : Nat) (name : String) : Relation :=
  .selection id r [] [.call .notNull [r.column name]] []

/-- The column alone. -/
def onlyColumn (r : Relation) (id : Nat) (name : String) : Relation :=
  .selection id r [r.column name] [] []

/-- The rows sorted by the column. -/
def sortedBy (r : Relation) (id : Nat) (name : String) : Relation :=
  .selection id r [] [] [(r.column name).asc]

/-- The values of the column with the number of rows that each of them has. -/
def countedBy (r : Relation) (id : Nat) (name : String) : Relation :=
  .aggregation id r [r.column name] [Expr.countStar] []

end Relation

section Uses

variable {r : Relation} {p : SelectPlan} {id n depth : Nat} {cx' : Context} {name : String}

namespace SelectPlan

/-! ### Sorting an open plan -/

/-- The open plan of a relation, sorted by a column of the relation. -/
def sortedBy (p : SelectPlan) (r : Relation) (id : Nat) (name : String) : SelectPlan :=
  { p with
    sortKeys := [(r.column name).asc]
    folded := p.folded ++ [r.sortedBy id name] }

theorem ofRelation_sortedBy (hPlan : ofRelation r = .ok p) (hOpen : p.IsOpen) :
    ofRelation (r.sortedBy id name) = .ok (p.sortedBy r id name) := by
  rw [Relation.sortedBy, ofRelation, hPlan]
  exact congrArg Except.ok (addSelection_of_isOpen hOpen _ _)

theorem extends_sortedBy (p : SelectPlan) (r : Relation) (id : Nat) (name : String) :
    (p.sortedBy r id name).Extends p id where
  source := rfl
  folded := ⟨[r.sortedBy id name], rfl, fun w hw => by rw [List.mem_singleton.1 hw]; rfl⟩
  output := .inl rfl

theorem Writes.sortedBy (h : p.Writes d cx)
    (hColumn : ∃ text, cx.columnText ⟨r.origin, name⟩ = .ok text) :
    (p.sortedBy r id name).Writes d cx where
  items := h.items
  predicates := h.predicates
  groupKeys := h.groupKeys
  having := h.having
  grouped := h.grouped
  sortKeys := List.forall_mem_singleton.2 (Expr.sql_column.symm ▸ hColumn)

section Resorts

variable (hPlan : ofRelation r = .ok p) (hIds : r.Identified) (hSorts : r.resorts = true)

include hPlan hIds hSorts

/-- A column of rows that are sorted already is none of the statement's own columns. -/
theorem not_isOutput_of_resorts (es : List ScopeEntry) (qualify : Bool) :
    ¬((p.sortedBy r id name).scope es qualify).isOutput ⟨r.origin, name⟩ = true := by
  intro hOwn
  rcases of_resorts hPlan hSorts with ⟨-, -, -, hOutput, -⟩
  cases hOther : p.output with
  | none => simp [Scope.isOutput, scope, sortedBy, hOther] at hOwn
  | some w =>
      have hOrigin : w.origin = r.origin := by
        simp only [Scope.isOutput, scope, sortedBy, hOther, Option.map_some, Bool.and_eq_true,
          beq_iff_eq] at hOwn
        exact hOwn.1
      have hNode := (outputApart_ofRelation hPlan w hOther).1
      have hSame := hIds w hNode r r.self_mem_nodes hOrigin
      exact hOutput (by rw [hOther, hSame])

/-- No table of the statement is the relation whose rows are sorted already. -/
theorem origin_ne_of_resorts {chain : JoinChain}
    (hChain : JoinChain.ofRelation d p.source = .ok chain) :
    ∀ t ∈ chain.tables, t.origin ≠ r.origin := by
  intro t ht hOrigin
  rcases of_resorts hPlan hSorts with ⟨-, -, -, -, hSource⟩
  have hNode := (JoinChain.drawnFrom_ofRelation hChain).tables t ht t.self_mem_nodes
  have hSame := hIds t ((drawnFrom_ofRelation hPlan).source hNode) r r.self_mem_nodes hOrigin
  exact hSource (hSame ▸ hNode)

/-- Sorting the rows of a statement with a select list for a second time looks the column up among
the tables of the statement. -/
theorem exists_table_of_sortedBy {chain : JoinChain}
    (hChain : JoinChain.ofRelation d p.source = .ok chain)
    (h : ∃ text, (statement d (n + 1) cx (r.sortedBy id name)).1 = .ok text) :
    ∃ t, chain.tables.filter (·.columnNames.contains name) = [t] := by
  rcases of_resorts hPlan hSorts with ⟨hOpen, -, hFolded, -, -⟩
  rcases h with ⟨text, hText⟩
  rcases of_statement hText with ⟨q, hUse, hText⟩
  rw [ofRelation_sortedBy hPlan hOpen] at hUse
  obtain rfl := Except.ok.inj hUse
  rcases writes_of_render (progresses_statement d n) hText with
    ⟨chain', items, hChain', hItems, hClauses, -⟩
  obtain rfl : chain' = chain := Except.ok.inj (hChain'.symm.trans hChain)
  let s := (p.sortedBy r id name).scope (items.map (·.1)) ((p.sortedBy r id name).qualifies cx)
  have hEntries : ItemsOf s.entries chain'.tables := itemsOf_fromItems hItems
  have hKey := hClauses.sortKeys _ (List.mem_singleton.2 rfl)
  change ∃ text, (Expr.column ⟨r.origin, name⟩).sql d _ = .ok text at hKey
  rw [Expr.sql_column] at hKey
  -- of all ways to find a column, only the search by name is left
  rcases (Scope.exists_columnText_iff.1 hKey).2 with hOwn | ⟨entry, hResolve⟩
  · exact absurd hOwn (not_isOutput_of_resorts hPlan hIds hSorts _ _)
  · rcases Scope.resolve_cases hResolve with hFind | ⟨-, hPass, -⟩ | ⟨-, -, hOnly⟩
    · have hOrigin : entry.relation.origin = r.origin := by simpa using List.find?_some hFind
      have hTable : entry.relation ∈ chain'.tables :=
        hEntries.relations ▸ List.mem_map_of_mem (List.mem_of_find?_eq_some hFind)
      exact absurd hOrigin (origin_ne_of_resorts hPlan hIds hSorts hChain _ hTable)
    · have hMem : r.origin ∈ p.folded.map (·.origin) := List.mem_map_of_mem hFolded
      simp [scope, sortedBy, hMem] at hPass
    · exact (Scope.exists_exposing_iff hEntries).1 ⟨entry, hOnly⟩

end Resorts

/-! ### Statements of uses -/

section Statement

variable (hPlan : ofRelation r = .ok p) (h : ∃ text, (statement d (n + 1) cx r).1 = .ok text)
  (hFlag : cx'.alwaysAlias = cx.alwaysAlias) (hUsable : r.Usable d id name)

include hPlan h hFlag hUsable

/-- A selection over a relation has a text if its own expressions have one wherever the column has
one, unless it sorts rows that an open plan has. -/
theorem exists_statement_selection {projections predicates : List Expr}
    {sortKeys : List (SortKey Expr)}
    (hNot : ¬(projections = [] ∧ predicates = [] ∧ p.IsOpen))
    (hNew : ∀ cx : Context, (∃ text, cx.columnText ⟨r.origin, name⟩ = .ok text) →
      (∀ e ∈ projections, ∃ text, e.namedSql (d.withDepth depth) cx = .ok text) ∧
      (∀ e ∈ predicates, ∃ text, e.sql (d.withDepth depth) cx = .ok text) ∧
      ∀ k ∈ sortKeys, ∃ text, k.key.sql (d.withDepth depth) cx = .ok text) :
    ∃ text, (statement (d.withDepth depth) (n + 2) cx'
      (.selection id r projections predicates sortKeys)).1 = .ok text := by
  let use : Relation := .selection id r projections predicates sortKeys
  have hUse : ofRelation use = .ok (p.addSelection use r projections predicates sortKeys) := by
    rw [ofRelation, hPlan]
    rfl
  have hExtends : (p.addSelection use r projections predicates sortKeys).Extends
      (p.simpleOr r) id := by
    rw [addSelection_of_not hNot]
    refine ⟨rfl, ?_, .inr (output_simpleOr hPlan hUsable.mem)⟩
    -- a selection without items is folded into the plan, and its number is the new one
    cases projections with
    | nil => exact ⟨[use], rfl, fun w hw => by rw [List.mem_singleton.1 hw]; rfl⟩
    | cons e es => exact ⟨[], by simp, by simp⟩
  refine exists_statement_of_extends hPlan h hFlag hUsable hUse hExtends ?_
  intro cx hColumn hOld
  rcases hNew cx hColumn with ⟨hItems, hPredicates, hSort⟩
  rw [addSelection_of_not hNot]
  refine ⟨hItems, List.forall_mem_append.2 ⟨hOld.predicates, hPredicates⟩, hOld.groupKeys,
    hOld.having, hOld.grouped, ?_⟩
  cases sortKeys with
  | nil => exact hOld.sortKeys
  | cons k ks => exact hSort

theorem exists_statement_countedBy (hd : d.IsStandard) :
    ∃ text, (statement (d.withDepth depth) (n + 2) cx' (r.countedBy id name)).1 = .ok text := by
  have hd' : (d.withDepth depth).IsStandard := ⟨hd.spellings, hd.rewrites⟩
  have hUse : ofRelation (r.countedBy id name) = .ok (p.addGrouping (r.countedBy id name) r
      [r.column name] [Expr.countStar] []) := by
    rw [Relation.countedBy, ofRelation, hPlan]
    rfl
  have hExtends : (p.addGrouping (r.countedBy id name) r [r.column name] [Expr.countStar]
      []).Extends (p.simpleOr r) id :=
    ⟨rfl, ⟨[], by simp [addGrouping], by simp⟩, .inr (output_simpleOr hPlan hUsable.mem)⟩
  refine exists_statement_of_extends hPlan h hFlag hUsable hUse hExtends ?_
  intro cx hColumn hOld
  refine ⟨?_, hOld.predicates, List.forall_mem_singleton.2 hUsable.safe, by simp [addGrouping],
    by simp [addGrouping], by simp [addGrouping]⟩
  refine List.forall_mem_cons.2 ⟨Expr.exists_namedSql_column hUsable.safe hColumn, ?_⟩
  exact List.forall_mem_singleton.2 (Expr.exists_namedSql_countStar hd')

/-- The rows of an open plan can be sorted by a column, unless that only sorts the rows of a
statement with a select list for a second time: then one table has to have a column of that name. -/
theorem exists_statement_sortedBy_of_isOpen (hOpen : p.IsOpen) {chain : JoinChain}
    (hChain : JoinChain.ofRelation d p.source = .ok chain)
    (hOnly : r.resorts = true → ∃ t, chain.tables.filter (·.columnNames.contains name) = [t]) :
    ∃ text, (statement (d.withDepth depth) (n + 2) cx' (r.sortedBy id name)).1 = .ok text := by
  have hUse : ofRelation (r.sortedBy id name) = .ok (p.sortedBy r id name) :=
    ofRelation_sortedBy hPlan hOpen
  have hExtends := p.extends_sortedBy r id name
  have hDrawn := drawnFrom_ofRelation hPlan
  rw [statement, hUse]
  refine exists_render_of_extends (progresses_statement _ _) (exists_render_deeper hPlan h hFlag)
    hDrawn hUsable.fresh hExtends ?_ fun cx hColumn hWrites => hWrites.sortedBy hColumn
  intro chain' es qualify hChain' hItems
  rw [JoinChain.ofRelation_withDepth, hChain] at hChain'
  obtain rfl : chain = chain' := Except.ok.inj hChain'
  rcases place_of_isOpen hPlan hOpen with hOutput | ⟨hNil, hPlace⟩ | hSorts
  · -- the column is one of the statement's own
    refine Scope.exists_columnText_iff.2 ⟨hUsable.safe, .inl ?_⟩
    have hMem := hUsable.mem
    simp [Scope.isOutput, scope, sortedBy, hOutput, hMem]
  · exact exists_columnText_of_items_nil hUsable hExtends (shows_ofRelation hPlan) hNil hPlace
      hDrawn hChain hItems
  · rcases of_resorts hPlan hSorts with ⟨-, -, hFolded, -, -⟩
    exact exists_columnText_of_filter hUsable hExtends (.inl hFolded) hDrawn hChain hItems
      (hOnly hSorts)

end Statement

end SelectPlan

end Uses

/-! ## Compiled uses -/

/-- The dialect with one more level of depth. -/
def Dialect.deeper (d : Dialect) : Dialect :=
  d.withDepth (d.maxDepth + 1)

theorem Dialect.exists_compile_of_statement {d : Dialect} {r use : Relation} {text : String}
    (h : d.compile r = .ok text) (hUnion : use.containsUnion = r.containsUnion)
    (hText : ∃ text, (statement (d.withDepth (d.maxDepth + 1)) (d.maxDepth + 2)
      (Context.new d.alwaysAlias) use).1 = .ok text) : ∃ text, d.deeper.compile use = .ok text := by
  have hUnions : (!d.deeper.unions && use.containsUnion) = (!d.unions && r.containsUnion) := by
    rw [hUnion]
    rfl
  rw [compile_eq] at h ⊢
  rw [hUnions]
  split at h
  · cases h
  · next hNone =>
    rw [if_neg hNone]
    exact hText

/-- A column of a compiled relation whose name can be written and stands for no other column can be
tested, selected and grouped by, with one more level of depth. The rows can be sorted by it as well,
unless the relation only sorts the rows of a statement with a select list, and then exactly if one
table of that statement has a column of that name. -/
theorem Dialect.uses_compile {d : Dialect} (hd : d.IsStandard) {r : Relation} {text : String}
    (h : d.compile r = .ok text) {id : Nat} {name : String} (hUsable : r.Usable d id name) :
    (∃ text, d.deeper.compile (r.whereNotNull id name) = .ok text) ∧
    (∃ text, d.deeper.compile (r.onlyColumn id name) = .ok text) ∧
    (∃ text, d.deeper.compile (r.countedBy id name) = .ok text) ∧
    ∃ p chain, SelectPlan.ofRelation r = .ok p ∧ JoinChain.ofRelation d p.source = .ok chain ∧
      ((∃ text, d.deeper.compile (r.sortedBy id name) = .ok text) ↔
        (r.resorts = true → ∃ t, chain.tables.filter (·.columnNames.contains name) = [t])) := by
  have hd' : (d.withDepth (d.maxDepth + 1)).IsStandard := ⟨hd.spellings, hd.rewrites⟩
  have hText := of_compile h
  rcases of_statement hText with ⟨p, hPlan, hRender⟩
  rcases SelectPlan.writes_of_render (progresses_statement _ _) hRender with ⟨chain, -, hChain, -⟩
  -- the column has a text as a key wherever it has one
  have hKey (cx : Context) (hColumn : ∃ text, cx.columnText ⟨r.origin, name⟩ = .ok text) :
      ∃ text, (Expr.column ⟨r.origin, name⟩).sql (d.withDepth (d.maxDepth + 1)) cx = .ok text :=
    Expr.sql_column.symm ▸ hColumn
  refine ⟨?_, ?_, ?_, p, chain, hPlan, hChain, ?_⟩
  · refine exists_compile_of_statement h rfl ?_
    refine SelectPlan.exists_statement_selection hPlan ⟨text, hText⟩ rfl hUsable (by simp) ?_
    intro cx hColumn
    exact ⟨by simp, List.forall_mem_singleton.2 (Expr.exists_sql_notNull hd' hColumn), by simp⟩
  · refine exists_compile_of_statement h rfl ?_
    refine SelectPlan.exists_statement_selection hPlan ⟨text, hText⟩ rfl hUsable (by simp) ?_
    intro cx hColumn
    exact ⟨List.forall_mem_singleton.2 (Expr.exists_namedSql_column hUsable.safe hColumn), by simp,
      by simp⟩
  · refine exists_compile_of_statement h rfl ?_
    exact SelectPlan.exists_statement_countedBy hPlan ⟨text, hText⟩ rfl hUsable hd
  · constructor
    · intro hUse hSorts
      rcases hUse with ⟨text', hText'⟩
      have hChain' : JoinChain.ofRelation d.deeper p.source = .ok chain := by
        rw [deeper, JoinChain.ofRelation_withDepth, hChain]
      exact SelectPlan.exists_table_of_sortedBy hPlan hUsable.identified hSorts hChain'
        ⟨_, of_compile hText'⟩
    · intro hOnly
      refine exists_compile_of_statement h rfl ?_
      by_cases hOpen : p.IsOpen
      · exact SelectPlan.exists_statement_sortedBy_of_isOpen hPlan ⟨text, hText⟩ rfl hUsable hOpen
          hChain hOnly
      · refine SelectPlan.exists_statement_selection hPlan ⟨text, hText⟩ rfl hUsable
          (by simp [hOpen]) ?_
        intro cx hColumn
        exact ⟨by simp, by simp, List.forall_mem_singleton.2 (hKey cx hColumn)⟩

/-- A renamed column by which the rows are sorted. -/
def Relation.sortedRename : Relation :=
  .selection 3
    (.selection 2 (.table 1 "t" ⟨[⟨"a", .string, true⟩]⟩)
      [.alias (.column ⟨⟨1, .table⟩, "a"⟩) "x"] [] [])
    [] [] [(Expr.column ⟨⟨2, .selection⟩, "x"⟩).asc]

theorem Relation.usable_sortedRename : sortedRename.Usable Dialect.standard 4 "x" where
  identified := identified_of_nodup (by decide)
  valid := by decide
  once := by decide
  fresh := by
    unfold Unmentioned
    decide

/-- Sorting by the renamed column for a second time fails, although the first time it worked. -/
theorem Dialect.sortedRename_fails :
    standard.compile Relation.sortedRename = .ok "SELECT a AS x\nFROM t\nORDER BY x" ∧
      Relation.sortedRename.columnNames = ["x"] ∧
      standard.deeper.compile (Relation.sortedRename.sortedBy 4 "x") =
        .error (.columnNotFound "x" ["a"]) := by
  refine ⟨by decide +kernel, rfl, by decide +kernel⟩

theorem Dialect.uses_compile_sortedRename :
    standard.compile Relation.sortedRename = .ok "SELECT a AS x\nFROM t\nORDER BY x" ∧
      Relation.sortedRename.Usable standard 4 "x" ∧
      (∃ text, standard.deeper.compile (Relation.sortedRename.whereNotNull 4 "x") = .ok text) ∧
      ¬∃ text, standard.deeper.compile (Relation.sortedRename.sortedBy 4 "x") = .ok text := by
  have hText :
      standard.compile Relation.sortedRename = .ok "SELECT a AS x\nFROM t\nORDER BY x" := by
    decide +kernel
  rcases uses_compile ⟨rfl, rfl⟩ hText Relation.usable_sortedRename with
    ⟨hTested, -, -, p, chain, hPlan, hChain, hSorted⟩
  refine ⟨hText, Relation.usable_sortedRename, hTested, ?_⟩
  rw [hSorted]
  intro hOnly
  rcases hOnly rfl with ⟨t, ht⟩
  -- the only table has no column of the new name
  cases hPlan
  cases hChain
  cases ht

end TableQuery
