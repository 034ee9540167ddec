import TableQuery.Proofs.Scope.Resolve
import TableQuery.Proofs.Sql.Tree

/-!
# Success — when there is a text

A statement has a text if its tables, the conditions that join them and its clauses have texts.
Whether they have is not a matter of the aliases drawn before, of the scopes around the statement,
or of how much deeper statements may still stand in one another.
-/

namespace TableQuery

/-- The dialect with another bound on how deep statements may stand in one another. -/
def Dialect.withDepth (d : Dialect) (depth : Nat) : Dialect :=
  { d with maxDepth := depth }

variable {d : Dialect} {depth : Nat} {cx cx' : Context}

theorem JoinChain.ofRelation_withDepth (r : Relation) :
    ofRelation (d.withDepth depth) r = ofRelation d r := by
  induction r with
  | join id kind left right predicates ihLeft =>
      rw [ofRelation, ofRelation, ihLeft]
      rfl
  | _ => rfl

/-- Every column that has a text in the first context and is among the given ones has one in the
second. -/
def Context.Keeps (cx cx' : Context) (refs : List ColumnRef) : Prop :=
  cx'.alwaysAlias = cx.alwaysAlias ∧
    ∀ ref ∈ refs, (∃ t, cx.columnText ref = .ok t) → ∃ t, cx'.columnText ref = .ok t

namespace Expr

variable {e : Expr}

theorem exists_sql_of_keeps (hKeeps : cx.Keeps cx' (e.written d))
    (h : ∃ text, e.sql d cx = .ok text) : ∃ text, e.sql (d.withDepth depth) cx' = .ok text := by
  rcases h with ⟨text, hText⟩
  have hSpell : (d.withDepth depth).spellings = d.spellings := rfl
  have hRewrites : (d.withDepth depth).rewrites = d.rewrites := rfl
  -- the expression has a text, hence so do its columns
  refine exists_sql hSpell hRewrites hText fun ref hRef => hKeeps.2 ref hRef ?_
  exact columnText_of_sql hText hRef

theorem exists_namedSql_of_keeps (hKeeps : cx.Keeps cx' (e.written d))
    (h : ∃ text, e.namedSql d cx = .ok text) :
    ∃ text, e.namedSql (d.withDepth depth) cx' = .ok text := by
  rcases h with ⟨text, hText⟩
  have hSpell : (d.withDepth depth).spellings = d.spellings := rfl
  have hRewrites : (d.withDepth depth).rewrites = d.rewrites := rfl
  refine exists_namedSql hSpell hRewrites hKeeps.1 hText fun ref hRef => hKeeps.2 ref hRef ?_
  exact columnText_of_namedSql hText hRef

end Expr

/-! ## Clauses -/

namespace SelectPlan

/-- All expressions in the clauses of the plan have texts. -/
structure Writes (p : SelectPlan) (d : Dialect) (cx : Context) : Prop where
  items : ∀ e ∈ p.items, ∃ text, e.namedSql d cx = .ok text
  predicates : ∀ e ∈ p.predicates, ∃ text, e.sql d cx = .ok text
  groupKeys : ∀ e ∈ p.groupKeys, ∃ text, groupKeyText e = .ok text
  having : ∀ e ∈ p.having, ∃ text, e.sql d cx = .ok text
  grouped : p.groupKeys = [] → p.having = []
  sortKeys : ∀ k ∈ p.sortKeys, ∃ text, k.key.sql d cx = .ok text

variable {p : SelectPlan}

theorem having_of_groupClause {clause : Option String} (h : p.groupClause d cx = .ok clause)
    (hKeys : p.groupKeys = []) : p.having = [] := by
  unfold groupClause at h
  rw [hKeys] at h
  simp only [List.isEmpty_nil, if_true] at h
  split at h
  · next hHaving => exact List.isEmpty_iff.1 hHaving
  · cases h

theorem writes_of_clauses { fromText text : String} (h : p.clauses d cx fromText = .ok text) :
    p.Writes d cx := by
  rcases of_clauses h with ⟨_, _, _, _, hSelect, hFilter, hGroup, hOrder, -⟩
  rcases of_map_ok hSelect with ⟨_, hItems, -⟩
  rcases of_map_ok hFilter with ⟨_, hPredicates, -⟩
  rcases of_map_ok hOrder with ⟨_, hSorted, -⟩
  have hGroups : (∀ e ∈ p.groupKeys, ∃ text, groupKeyText e = .ok text) ∧
      ∀ e ∈ p.having, ∃ text, e.sql d cx = .ok text := by
    rcases of_groupClause hGroup with ⟨hNoKeys, hNoHaving, -⟩ | ⟨_, _, hKeys, hHaving, -⟩
    · simp [hNoKeys, hNoHaving]
    · exact ⟨exists_of_mapM hKeys, exists_of_mapM hHaving⟩
  refine ⟨exists_of_mapM hItems, exists_of_mapM hPredicates, hGroups.1, hGroups.2,
    having_of_groupClause hGroup, ?_⟩
  intro k hk
  rcases exists_of_mapM hSorted k hk with ⟨sorted, hSorted⟩
  rcases of_map_ok hSorted with ⟨text, hText, -⟩
  exact ⟨text, hText⟩

/-- The clauses have a text if all their expressions have one. -/
theorem Writes.exists_clauses (h : p.Writes d cx) ( fromText : String) :
    ∃ text, p.clauses d cx fromText = .ok text := by
  have hSelect : ∃ select, p.selectClause d cx = .ok select := map_ok_of_ok (exists_mapM h.items)
  have hFilter : ∃ filter, p.whereClause d cx = .ok filter :=
    map_ok_of_ok (exists_mapM h.predicates)
  have hOrder : ∃ order, p.orderClause d cx = .ok order :=
    map_ok_of_ok (exists_mapM fun k hk => map_ok_of_ok (h.sortKeys k hk))
  have hGroup : ∃ group, p.groupClause d cx = .ok group := by
    rcases exists_mapM h.groupKeys with ⟨keys, hKeys⟩
    unfold groupClause
    split
    · next hNoKeys =>
      -- without keys, a condition on groups would be an error
      simp [h.grouped (List.isEmpty_iff.1 hNoKeys)]
    · rw [hKeys]
      exact map_ok_of_ok (exists_mapM h.having)
  rcases hSelect with ⟨select, hSelect⟩
  rcases hFilter with ⟨filter, hFilter⟩
  rcases hGroup with ⟨group, hGroup⟩
  unfold clauses
  rw [hSelect, hFilter, hGroup]
  exact map_ok_of_ok hOrder

/-- Clauses with texts keep them where their columns do. -/
theorem Writes.keep (h : p.Writes d cx)
    (hKeeps : ∀ e ∈ p.exprs, cx.Keeps cx' (e.written d)) : p.Writes (d.withDepth depth) cx' where
  items e he := Expr.exists_namedSql_of_keeps (hKeeps e (mem_exprs.2 (.inl he))) (h.items e he)
  predicates e he :=
    Expr.exists_sql_of_keeps (hKeeps e (mem_exprs.2 (.inr (.inl he)))) (h.predicates e he)
  groupKeys := h.groupKeys
  having e he :=
    Expr.exists_sql_of_keeps (hKeeps e (mem_exprs.2 (.inr (.inr (.inr (.inl he))))))
      (h.having e he)
  grouped := h.grouped
  sortKeys k hk :=
    Expr.exists_sql_of_keeps (hKeeps k.key (mem_exprs.2 (.inr (.inr (.inr (.inr ⟨k, hk, rfl⟩))))))
      (h.sortKeys k hk)

end SelectPlan

/-! ## Conditions of joins -/

/-- The join exists, and its conditions have texts. -/
def JoinStep.Writes (s : JoinStep) (d : Dialect) (cx : Context) : Prop :=
  (∃ label, d.joinLabel s.kind = .ok label) ∧
    ∀ e ∈ s.predicates, ∃ text, e.sql d cx = .ok text

theorem writes_of_joinLines {steps : List JoinStep} {tables : List String} {text : String}
    (h : joinLines d cx steps tables = .ok text) (hLength : steps.length = tables.length) :
    ∀ s ∈ steps, s.Writes d cx := by
  induction steps generalizing tables text with
  | nil => simp
  | cons step steps ih =>
      cases tables with
      | nil => cases hLength
      | cons table tables =>
          rcases of_joinLines_cons h with ⟨label, ps, rest, hLabel, hPs, hRest, -⟩
          refine List.forall_mem_cons.2 ⟨⟨⟨label, hLabel⟩, exists_of_mapM hPs⟩, ?_⟩
          exact ih hRest (Nat.succ.inj hLength)

theorem exists_joinLines {steps : List JoinStep} (h : ∀ s ∈ steps, s.Writes d cx) :
    ∀ tables : List String, ∃ text, joinLines d cx steps tables = .ok text := by
  induction steps with
  | nil =>
      intro tables
      exact ⟨"", by rw [joinLines]; simp⟩
  | cons step steps ih =>
      intro tables
      cases tables with
      | nil => exact ⟨"", by rw [joinLines]; simp⟩
      | cons table tables =>
          rcases h step (by simp) with ⟨⟨label, hLabel⟩, hPredicates⟩
          rcases exists_mapM hPredicates with ⟨ps, hPs⟩
          rw [joinLines, hLabel, hPs]
          exact map_ok_of_ok (ih (fun s hs => h s (List.mem_cons_of_mem _ hs)) tables)

theorem JoinStep.Writes.keep {s : JoinStep} (h : s.Writes d cx)
    (hKeeps : ∀ e ∈ s.predicates, cx.Keeps cx' (e.written d)) : s.Writes (d.withDepth depth) cx' :=
  ⟨h.1, fun e he => Expr.exists_sql_of_keeps (hKeeps e he) (h.2 e he)⟩

/-! ## Scopes -/

/-- Scopes of the same items write the same columns, unless a column is one of the statement's own
or the relation of a column is part of the clause in only one of them. -/
theorem Scope.keeps {s s' : Scope} {refs : List ColumnRef} (alwaysAlias : Bool)
    (hItems : List.Forall₂ SameItem s.entries s'.entries)
    (hPass : ∀ ref ∈ refs, s'.passThrough.contains ref.origin = s.passThrough.contains ref.origin)
    (hOwn : ∀ ref ∈ refs, s.isOutput ref = true → s'.isOutput ref = true) :
    (s.alone alwaysAlias).Keeps (s'.alone alwaysAlias) refs := by
  refine ⟨rfl, ?_⟩
  intro ref hRef hText
  have hText : ∃ text, s.columnText ref = .ok text := hText
  change ∃ text, s'.columnText ref = .ok text
  rw [exists_columnText_iff] at hText ⊢
  refine ⟨hText.1, ?_⟩
  rcases hText.2 with hOutput | ⟨entry, hResolve⟩
  · exact .inl (hOwn ref hRef hOutput)
  · exact .inr (exists_resolve_of_sameItems hItems (hPass ref hRef) hResolve)

/-! ## Statements -/

/-- Whatever the first renderer has a text for, the second has one for. -/
def Renderer.Covers (nested' nested : Renderer) : Prop :=
  ∀ (cx cx' : Context) (r : Relation), cx'.alwaysAlias = cx.alwaysAlias →
    (∃ text, (nested cx r).1 = .ok text) → ∃ text, (nested' cx' r).1 = .ok text

variable {nested nested' : Renderer}

theorem exists_itemBody (hNested : nested'.Covers nested) {table : Relation}
    (hFlag : cx'.alwaysAlias = cx.alwaysAlias)
    (h : ∃ body, (itemBody d nested cx table).1 = .ok body) :
    ∃ body, (itemBody (d.withDepth depth) nested' cx' table).1 = .ok body := by
  cases hDerived : table.derived? with
  | some target =>
      rw [itemBody_of_derived hDerived] at h ⊢
      rcases h with ⟨body, hBody⟩
      rcases of_map_ok hBody with ⟨text, hText, -⟩
      exact map_ok_of_ok (hNested cx cx' target hFlag ⟨text, hText⟩)
  | none =>
      -- names and queries are the same in every context
      cases table with
      | table | sqlQuery => exact h
      | selfReference id target =>
          cases target with
          | table => exact h
          | _ => cases hDerived
      | _ => cases hDerived

theorem exists_fromItems_cons {qualify : Bool} {table : Relation} {tables : List Relation}
    {body : String}
    (hBody : (itemBody d nested (cx.drawAliasIf (needsAlias qualify table)).2 table).1 = .ok body)
    (hRest : ∃ rest, (fromItems d nested qualify
      (itemBody d nested (cx.drawAliasIf (needsAlias qualify table)).2 table).2 tables).1 =
        .ok rest) :
    ∃ items, (fromItems d nested qualify cx (table :: tables)).1 = .ok items := by
  rw [needsAlias] at hBody hRest
  rw [fromItems]
  simp only [HasContext.context_self, HasContext.updateContext_self]
  split
  · next hFailed =>
    rw [hFailed] at hBody
    cases hBody
  · next hItem =>
    rw [hItem] at hRest
    exact map_ok_of_ok hRest

theorem exists_fromItems (hProgress : nested.Progresses) (hProgress' : nested'.Progresses)
    (hNested : nested'.Covers nested) {qualify : Bool} {tables : List Relation} :
    ∀ {cx cx' : Context}, cx'.alwaysAlias = cx.alwaysAlias →
      (∃ items, (fromItems d nested qualify cx tables).1 = .ok items) →
      ∃ items, (fromItems (d.withDepth depth) nested' qualify cx' tables).1 = .ok items := by
  induction tables with
  | nil =>
      intro cx cx' _ _
      exact ⟨[], rfl⟩
  | cons table tables ih =>
      intro cx cx' hFlag h
      rcases h with ⟨items, hItems⟩
      rcases of_fromItems_cons hItems with ⟨body, rest, hBody, hRest, -⟩
      -- the alias and the item leave the flag as it was
      have hDrawn := (Context.Reaches.drawAliasIf cx (needsAlias qualify table)).flag
      have hDrawn' := (Context.Reaches.drawAliasIf cx' (needsAlias qualify table)).flag
      have hDrawnFlag := hDrawn'.trans (hFlag.trans hDrawn.symm)
      have hBodies : ∃ body', (itemBody (d.withDepth depth) nested'
          (cx'.drawAliasIf (needsAlias qualify table)).2 table).1 = .ok body' :=
        exists_itemBody hNested hDrawnFlag ⟨body, hBody⟩
      rcases hBodies with ⟨body', hBody'⟩
      have hWritten := (reaches_itemBody (d := d) hProgress
        (cx.drawAliasIf (needsAlias qualify table)).2 table).flag
      have hWritten' := (reaches_itemBody (d := d.withDepth depth) hProgress'
        (cx'.drawAliasIf (needsAlias qualify table)).2 table).flag
      have hWrittenFlag := hWritten'.trans (hDrawnFlag.trans hWritten.symm)
      exact exists_fromItems_cons hBody' (ih hWrittenFlag ⟨rest, hRest⟩)

/-- The items stand for the tables, with all of their columns. -/
structure ItemsOf (es : List ScopeEntry) (tables : List Relation) : Prop where
  relations : es.map (·.relation) = tables
  columns : ∀ e ∈ es, e.columns = e.relation.columnNames

theorem itemsOf_fromItems {qualify : Bool} {tables : List Relation}
    {items : List (ScopeEntry × String)}
    (h : (fromItems d nested qualify cx tables).1 = .ok items) :
    ItemsOf (items.map (·.1)) tables := by
  rcases relations_fromItems qualify h with ⟨hTables, hColumns⟩
  refine ⟨by rw [List.map_map]; exact hTables, ?_⟩
  intro e he
  rcases List.mem_map.1 he with ⟨item, hItem, rfl⟩
  exact hColumns item hItem

/-- Items of the same tables differ in nothing but their aliases. -/
theorem ItemsOf.sameItems {es es' : List ScopeEntry} {tables : List Relation}
    (h : ItemsOf es tables) (h' : ItemsOf es' tables) : List.Forall₂ Scope.SameItem es es' := by
  induction es generalizing es' tables with
  | nil =>
      have hNone : es'.map (·.relation) = [] := h'.relations.trans h.relations.symm
      rw [List.map_eq_nil_iff.1 hNone]
      exact .nil
  | cons e es ih =>
      have hRelations := h'.relations.trans h.relations.symm
      rcases List.map_eq_cons_iff.1 hRelations with ⟨e', rest, rfl, hSame, hRest⟩
      have hItem : Scope.SameItem e e' := by
        refine ⟨hSame.symm, ?_⟩
        rw [h.columns e (by simp), h'.columns e' (by simp), hSame]
      have hOthers : ItemsOf es (es.map (·.relation)) :=
        ⟨rfl, fun i hi => h.columns i (List.mem_cons_of_mem _ hi)⟩
      exact .cons hItem (ih hOthers ⟨hRest, fun i hi => h'.columns i (List.mem_cons_of_mem _ hi)⟩)

namespace SelectPlan

variable {p : SelectPlan}

/-- What a statement with a text says about its tables, its joins and its clauses. -/
theorem writes_of_render (hProgress : nested.Progresses) {text : String}
    (h : (p.render d nested cx).1 = .ok text) :
    ∃ chain items, JoinChain.ofRelation d p.source = .ok chain ∧
      (fromItems d nested (p.qualifies cx) cx chain.tables).1 = .ok items ∧
      p.Writes d ((p.scope (items.map (·.1)) (p.qualifies cx)).alone cx.alwaysAlias) ∧
      ∀ s ∈ chain.steps,
        s.Writes d ((p.scope (items.map (·.1)) (p.qualifies cx)).alone cx.alwaysAlias) := by
  rcases layOut_of_render hProgress h with ⟨chain, items, cx', hChain, hItems, hText⟩
  have hItems' := congrArg Prod.fst hItems
  have hLength : items.length = chain.steps.length + 1 := by
    have hTables := congrArg List.length (relations_fromItems (p.qualifies cx) hItems').1
    simpa [JoinChain.tables] using hTables
  refine ⟨chain, items, hChain, hItems', ?_⟩
  cases items with
  | nil => cases hLength
  | cons first rest =>
      simp only [List.map_cons, layOut] at hText ⊢
      split at hText
      · cases hText
      · next joins hJoins =>
        have hRest : chain.steps.length = (rest.map (·.2)).length := by
          simpa using (Nat.succ.inj hLength).symm
        exact ⟨writes_of_clauses hText, writes_of_joinLines hJoins hRest⟩

/-- A statement has a text if its tables have texts, and its joins and clauses can be written over
them. -/
theorem exists_render (hProgress : nested.Progresses) {chain : JoinChain}
    {items : List (ScopeEntry × String)} (hChain : JoinChain.ofRelation d p.source = .ok chain)
    (hItems : (fromItems d nested (p.qualifies cx) cx chain.tables).1 = .ok items)
    (hClauses : p.Writes d ((p.scope (items.map (·.1)) (p.qualifies cx)).alone cx.alwaysAlias))
    (hSteps : ∀ s ∈ chain.steps,
      s.Writes d ((p.scope (items.map (·.1)) (p.qualifies cx)).alone cx.alwaysAlias)) :
    ∃ text, (p.render d nested cx).1 = .ok text := by
  have hItems' : fromItems d nested (p.qualifies cx) cx chain.tables =
      (.ok items, (fromItems d nested (p.qualifies cx) cx chain.tables).2) := Prod.ext hItems rfl
  rw [p.render_eq_layOut hProgress hChain hItems']
  cases items with
  | nil =>
      have hTables := (relations_fromItems (p.qualifies cx) hItems).1
      cases hTables
  | cons first rest =>
      rcases exists_joinLines hSteps (rest.map (·.2)) with ⟨joins, hJoins⟩
      simp only [List.map_cons] at hJoins hClauses ⊢
      rw [layOut, hJoins]
      exact hClauses.exists_clauses _

end SelectPlan

/-- A relation that has a text keeps one with any alias drawn before, in any scope and with more
depth to spare. -/
theorem covers_statement (d : Dialect) (depth : Nat) :
    ∀ {n n' : Nat}, n ≤ n' → (statement (d.withDepth depth) n').Covers (statement d n) := by
  -- by induction on the depth that the first statement has to spare: derived tables have one less
  intro n
  induction n with
  | zero =>
      intro n' _ cx cx' r _ h
      rcases h with ⟨text, hText⟩
      cases hText
  | succ n ih =>
      intro n' hDepth cx cx' r hFlag h
      rcases h with ⟨text, hText⟩
      obtain ⟨m, rfl⟩ : ∃ m, n' = m + 1 := ⟨n' - 1, by omega⟩
      rcases of_statement hText with ⟨p, hPlan, hText⟩
      have hProgress := progresses_statement d n
      have hProgress' := progresses_statement (d.withDepth depth) m
      rcases SelectPlan.writes_of_render hProgress hText with
        ⟨chain, items, hChain, hItems, hClauses, hSteps⟩
      have hQualify : p.qualifies cx' = p.qualifies cx := by
        rw [SelectPlan.qualifies, SelectPlan.qualifies, hFlag]
      rcases exists_fromItems hProgress hProgress' (ih (Nat.le_of_succ_le_succ hDepth)) hFlag
        ⟨items, hItems⟩ with ⟨items', hItems'⟩
      rw [← hQualify] at hItems'
      -- the new scope has the same items, so every column keeps its text
      have hSame := (itemsOf_fromItems hItems).sameItems (itemsOf_fromItems hItems')
      have hKeeps (e : Expr) : ((p.scope (items.map (·.1)) (p.qualifies cx)).alone
          cx.alwaysAlias).Keeps ((p.scope (items'.map (·.1)) (p.qualifies cx')).alone
            cx'.alwaysAlias) (e.written d) := by
        rw [hFlag]
        exact Scope.keeps _ hSame (fun _ _ => rfl) (fun _ _ hOwn => hOwn)
      have hChain' : JoinChain.ofRelation (d.withDepth depth) p.source = .ok chain := by
        rw [JoinChain.ofRelation_withDepth, hChain]
      rw [statement, hPlan]
      exact SelectPlan.exists_render hProgress' hChain' hItems' (hClauses.keep fun e _ => hKeeps e)
        (fun s hs => (hSteps s hs).keep fun e _ => hKeeps e)

end TableQuery
