import TableQuery.Proofs.Plan.Columns
import TableQuery.Proofs.Sql.Success

/-!
# Extension — adding clauses to a statement with a text

Clauses can be added to the statement of a relation that has a text, or to a statement that selects
from the relation as a derived table. Columns that are mentioned already keep their texts, and a
column of the relation itself has one as well, if it has a name that no other column has.
-/

namespace TableQuery

variable {d : Dialect} {cx : Context} {ref : ColumnRef}

/-! ## Columns of the source -/

namespace Scope

variable {s : Scope} {name : String}

/-- One item has a column with the name if one of the tables has. -/
theorem exists_exposing_iff {tables : List Relation} (h : ItemsOf s.entries tables) :
    (∃ e, s.exposing name = [e]) ↔ ∃ t, tables.filter (·.columnNames.contains name) = [t] := by
  have hMap : (s.exposing name).map (·.relation) =
      tables.filter (·.columnNames.contains name) := by
    rw [← h.relations, List.filter_map, exposing]
    refine congrArg _ (List.filter_congr fun e he => ?_)
    rw [ScopeEntry.exposes, h.columns e he]
    rfl
  rw [← hMap]
  constructor
  · rintro ⟨e, he⟩
    exact ⟨e.relation, by rw [he]; rfl⟩
  · rintro ⟨t, ht⟩
    rcases List.map_eq_singleton_iff.1 ht with ⟨e, he, -⟩
    exact ⟨e, he⟩

/-- A column of a relation that is part of the clause is found by its name. -/
theorem exists_resolve_of_passThrough (hPass : s.passThrough.contains ref.origin = true)
    (hSelf : ∀ e ∈ s.entries, e.relation.origin = ref.origin → e.exposes ref.name = true)
    (hOnly : ∃ e, s.exposing ref.name = [e]) : ∃ entry, s.resolve ref = .ok entry := by
  rcases hOnly with ⟨entry, hOnly⟩
  cases hFind : s.entries.find? (·.relation.origin == ref.origin) with
  | some e =>
      have hOrigin : e.relation.origin = ref.origin := by simpa using List.find?_some hFind
      exact ⟨e, resolve_of_find hFind (hSelf e (List.mem_of_find?_eq_some hFind) hOrigin)⟩
  | none =>
      -- no item is the relation itself, so the name decides
      exact ⟨entry, resolve_of_exposing hFind (.inl hPass) hOnly⟩

end Scope

/-! ## Extended plans -/

/-- No column of a relation with the number is mentioned in the tree. -/
def Relation.Unmentioned (r : Relation) (d : Dialect) (id : Nat) : Prop :=
  ∀ m ∈ r.nodes, ∀ e ∈ m.exprs, ∀ ref ∈ e.written d, ref.origin.id ≠ id

namespace SelectPlan

/-- The first plan has more clauses over the source of the second, for a relation with the number
`id`. -/
structure Extends (q p : SelectPlan) (id : Nat) : Prop where
  source : q.source = p.source
  folded : ∃ more, q.folded = p.folded ++ more ∧ ∀ w ∈ more, w.id = id
  output : q.output = p.output ∨ p.output = none

variable {p q : SelectPlan} {id : Nat} {r : Relation} {nested : Renderer}

theorem Extends.passThrough_contains (h : q.Extends p id) {es es' : List ScopeEntry}
    {qualify qualify' : Bool} {o : Origin} (ho : o.id ≠ id) :
    (q.scope es' qualify').passThrough.contains o =
      (p.scope es qualify).passThrough.contains o := by
  rcases h.folded with ⟨more, hFolded, hMore⟩
  have hNone : o ∉ more.map (·.origin) := by
    intro hMem
    rcases List.mem_map.1 hMem with ⟨w, hw, rfl⟩
    exact ho (hMore w hw)
  rw [Bool.eq_iff_iff, List.contains_iff_mem, List.contains_iff_mem]
  simp only [scope, hFolded, h.source, List.map_append, List.mem_append]
  constructor
  · rintro ((hOld | hNew) | hSource)
    · exact .inl hOld
    · exact absurd hNew hNone
    · exact .inr hSource
  · rintro (hOld | hSource)
    · exact .inl (.inl hOld)
    · exact .inr hSource

/-- Columns of other relations are written in the new scope if they were in the old. -/
theorem Extends.keeps (h : q.Extends p id) {es es' : List ScopeEntry} {qualify qualify' : Bool}
    (hItems : List.Forall₂ Scope.SameItem es es') (alwaysAlias : Bool) {refs : List ColumnRef}
    (hFresh : ∀ ref ∈ refs, ref.origin.id ≠ id) :
    ((p.scope es qualify).alone alwaysAlias).Keeps ((q.scope es' qualify').alone alwaysAlias)
      refs := by
  refine Scope.keeps alwaysAlias hItems
    (fun ref hRef => h.passThrough_contains (hFresh ref hRef)) ?_
  intro ref _ hOwn
  unfold Scope.isOutput scope at hOwn ⊢
  rcases h.output with hSame | hNone
  · rw [hSame]
    exact hOwn
  · rw [hNone] at hOwn
    cases hOwn

/-- A statement with a text keeps one when clauses are added that can be written in its scope. -/
theorem exists_render_of_extends (hProgress : nested.Progresses)
    (h : ∃ text, (p.render d nested cx).1 = .ok text) (hDrawn : p.DrawnFrom r)
    (hFresh : r.Unmentioned d id) (hExtends : q.Extends p id)
    (hColumn : ∀ {chain : JoinChain} {es : List ScopeEntry} {qualify : Bool},
      JoinChain.ofRelation d p.source = .ok chain → ItemsOf es chain.tables →
        ∃ text, (q.scope es qualify).columnText ref = .ok text)
    (hWrites : ∀ cx : Context, (∃ text, cx.columnText ref = .ok text) → p.Writes d cx →
      q.Writes d cx) :
    ∃ text, (q.render d nested cx).1 = .ok text := by
  rcases h with ⟨text, hText⟩
  rcases writes_of_render hProgress hText with ⟨chain, items, hChain, hItems, hClauses, hSteps⟩
  have hTables := itemsOf_fromItems hItems
  have hQualify : q.qualifies cx = p.qualifies cx := by rw [qualifies, qualifies, hExtends.source]
  -- columns that are mentioned already keep their texts
  have hKeeps {m : Relation} (hm : m ∈ r.nodes) {e : Expr} (he : e ∈ m.exprs) :
      ((p.scope (items.map (·.1)) (p.qualifies cx)).alone cx.alwaysAlias).Keeps
        ((q.scope (items.map (·.1)) (q.qualifies cx)).alone cx.alwaysAlias) (e.written d) :=
    hExtends.keeps (hTables.sameItems hTables) cx.alwaysAlias (hFresh m hm e he)
  have hOld : p.Writes d ((q.scope (items.map (·.1)) (q.qualifies cx)).alone cx.alwaysAlias) := by
    refine hClauses.keep fun e he => ?_
    rcases hDrawn.exprs e he with ⟨m, hm, hExpr⟩
    exact hKeeps hm hExpr
  have hJoins : ∀ s ∈ chain.steps,
      s.Writes d ((q.scope (items.map (·.1)) (q.qualifies cx)).alone cx.alwaysAlias) := by
    intro s hs
    refine (hSteps s hs).keep fun e he => ?_
    rcases (JoinChain.drawnFrom_ofRelation hChain).predicates s hs e he with ⟨m, hm, hExpr⟩
    exact hKeeps (hDrawn.source hm) hExpr
  rw [← hExtends.source] at hChain
  rw [← hQualify] at hItems
  exact exists_render hProgress hChain hItems
    (hWrites _ (hColumn (hExtends.source ▸ hChain) hTables) hOld) hJoins

end SelectPlan

/-! ## Columns of an extended relation -/

/-- What it takes to use a column of a relation: identities that stand for one node each, a name
that can be written and stands for one column, and a number that is new. -/
structure Relation.Usable (r : Relation) (d : Dialect) (id : Nat) (name : String) : Prop where
  identified : r.Identified
  valid : Identifier.validate name = .ok ()
  once : r.columnNames.count name = 1
  fresh : r.Unmentioned d id

section Usable

variable {r : Relation} {id : Nat} {name : String} (hUsable : r.Usable d id name)

include hUsable

theorem Relation.Usable.safe : ∃ safe, Identifier.safe name = .ok safe := by
  rw [Identifier.safe, hUsable.valid]
  exact ⟨_, rfl⟩

theorem Relation.Usable.mem : name ∈ r.columnNames := by
  have hOnce := hUsable.once
  exact List.count_pos_iff.1 (by omega)

namespace SelectPlan

variable {p q : SelectPlan} {chain : JoinChain} {es : List ScopeEntry} {qualify : Bool}

/-- A column of a relation that is part of the clause has a text if one table has a column of its
name. -/
theorem exists_columnText_of_filter (hExtends : q.Extends p id)
    (hPlace : r ∈ p.folded ∨ r = p.source) (hDrawn : p.DrawnFrom r)
    (hChain : JoinChain.ofRelation d p.source = .ok chain) (hItems : ItemsOf es chain.tables)
    (hOnly : ∃ t, chain.tables.filter (·.columnNames.contains name) = [t]) :
    ∃ text, (q.scope es qualify).columnText ⟨r.origin, name⟩ = .ok text := by
  let s := q.scope es qualify
  have hEntries : ItemsOf s.entries chain.tables := hItems
  have hPass : s.passThrough.contains r.origin = true := by
    rcases hExtends.folded with ⟨more, hFolded, -⟩
    rw [List.contains_iff_mem]
    simp only [s, scope, hFolded, hExtends.source, List.map_append, List.mem_append]
    rcases hPlace with hFold | hSource
    · exact .inl (.inl (List.mem_map_of_mem hFold))
    · exact .inr (by rw [← hSource]; exact List.mem_singleton.2 rfl)
  have hSelf : ∀ e ∈ s.entries, e.relation.origin = r.origin → e.exposes name = true := by
    intro e he hOrigin
    -- an item with the identity of the relation is the relation
    have hTable : e.relation ∈ chain.tables := hEntries.relations ▸ List.mem_map_of_mem he
    have hNode := (JoinChain.drawnFrom_ofRelation hChain).tables _ hTable e.relation.self_mem_nodes
    have hSame := hUsable.identified _ (hDrawn.source hNode) r r.self_mem_nodes hOrigin
    have hMem := hUsable.mem
    rw [ScopeEntry.exposes, hEntries.columns e he, hSame]
    simpa using hMem
  have hFound := (Scope.exists_exposing_iff hEntries).2 hOnly
  exact Scope.exists_columnText_iff.2
    ⟨hUsable.safe, .inr (Scope.exists_resolve_of_passThrough hPass hSelf hFound)⟩

/-- Without a select list, the column is one of the tables. -/
theorem exists_columnText_of_items_nil (hExtends : q.Extends p id) (hShows : p.Shows r)
    (hNil : p.items = []) (hPlace : r ∈ p.folded ∨ r = p.source) (hDrawn : p.DrawnFrom r)
    (hChain : JoinChain.ofRelation d p.source = .ok chain) (hItems : ItemsOf es chain.tables) :
    ∃ text, (q.scope es qualify).columnText ⟨r.origin, name⟩ = .ok text := by
  have hOnce := hUsable.once
  rw [(hShows.of_items_nil hNil hUsable.mem).2] at hOnce
  exact exists_columnText_of_filter hUsable hExtends hPlace hDrawn hChain hItems
    (JoinChain.exists_table_of_count hChain hOnce)

end SelectPlan

end Usable

/-! ## Extended statements -/

namespace SelectPlan

section Written

variable {p q : SelectPlan} {r use : Relation} {id n depth : Nat} {name : String} {cx' : Context}

variable (hPlan : ofRelation r = .ok p) (h : ∃ text, (statement d (n + 1) cx r).1 = .ok text)
  (hFlag : cx'.alwaysAlias = cx.alwaysAlias)

include hPlan h hFlag

/-- The statement of a relation with a text has one with one more level of depth. -/
theorem exists_render_deeper :
    ∃ text, (p.render (d.withDepth depth) (statement (d.withDepth depth) (n + 1)) cx').1 =
      .ok text := by
  rcases covers_statement d depth (Nat.le_succ (n + 1)) cx cx' r hFlag h with ⟨text, hText⟩
  rcases of_statement hText with ⟨p', hPlan', hText⟩
  obtain rfl : p' = p := Except.ok.inj (hPlan'.symm.trans hPlan)
  exact ⟨text, hText⟩

/-- The simple statement over a relation with a text has one: that of the relation itself, or one
that selects from it as a derived table. -/
theorem exists_render_simpleOr :
    ∃ text, ((p.simpleOr r).render (d.withDepth depth) (statement (d.withDepth depth) (n + 1))
      cx').1 = .ok text := by
  unfold simpleOr
  split
  · exact exists_render_deeper hPlan h hFlag
  · next hNot =>
    have hNot : p.isSimple = false := by simpa using hNot
    have hDerived := derived?_of_not_isSimple hPlan hNot
    have hChain : JoinChain.ofRelation (d.withDepth depth) r = .ok ⟨r, []⟩ := by
      -- only joins are chains of several tables, and their plans are simple
      cases r with
      | join =>
          cases hPlan
          cases hNot
      | _ => rfl
    -- behind an alias, the derived table has the text that the relation has
    have hBody : ∃ body, (itemBody (d.withDepth depth) (statement (d.withDepth depth) (n + 1))
        (cx'.drawAliasIf (needsAlias ((ofSource r).qualifies cx') r)).2 r).1 = .ok body := by
      rw [itemBody_of_derived hDerived]
      refine map_ok_of_ok (covers_statement d depth (Nat.le_refl (n + 1)) cx _ r ?_ h)
      exact (Context.Reaches.drawAliasIf cx' _).flag.trans hFlag
    rcases hBody with ⟨body, hBody⟩
    have hAll : ∃ items, (fromItems (d.withDepth depth) (statement (d.withDepth depth) (n + 1))
        ((ofSource r).qualifies cx') cx' [r]).1 = .ok items :=
      exists_fromItems_cons hBody ⟨[], rfl⟩
    rcases hAll with ⟨items, hItems⟩
    refine exists_render (progresses_statement _ _) hChain hItems ?_ (by simp)
    constructor <;> simp [ofSource]

variable (hUsable : r.Usable d id name)

include hUsable

/-- A relation whose plan extends the simple plan over another relation has a text, if its new
clauses can be written wherever the column has a text. -/
theorem exists_statement_of_extends (hUse : ofRelation use = .ok q)
    (hExtends : q.Extends (p.simpleOr r) id)
    (hWrites : ∀ cx : Context, (∃ text, cx.columnText ⟨r.origin, name⟩ = .ok text) →
      (p.simpleOr r).Writes (d.withDepth depth) cx → q.Writes (d.withDepth depth) cx) :
    ∃ text, (statement (d.withDepth depth) (n + 2) cx' use).1 = .ok text := by
  have hDrawn := (drawnFrom_ofRelation hPlan).simpleOr
  have hShows := (shows_ofRelation hPlan).simpleOr
  have hNil := (isSimple_iff.1 (p.isSimple_simpleOr r)).1
  have hPlace := place_simpleOr hPlan hUsable.mem
  rw [statement, hUse]
  refine exists_render_of_extends (progresses_statement _ _)
    (exists_render_simpleOr hPlan h hFlag) hDrawn hUsable.fresh hExtends ?_ hWrites
  intro chain es qualify hChain hItems
  rw [JoinChain.ofRelation_withDepth] at hChain
  exact exists_columnText_of_items_nil hUsable hExtends hShows hNil hPlace hDrawn hChain hItems

end Written

end SelectPlan

end TableQuery
