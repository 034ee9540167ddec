import TableQuery.Proofs.Scope.Alias
import TableQuery.Proofs.Sql.Name
import TableQuery.Proofs.Sql.Statement

/-!
# Order — sort keys that are written like the name of an item

In an `ORDER BY` clause, a bare name that an item of the select list has stands for that item. A key
that is one of the statement's own columns is meant so. Any other key is a column of the `FROM`
clause, and may be captured: rows are then sorted by an item that only has the name of the key. This
takes a single item in the `FROM` clause, since keys are qualified otherwise, and an item of the
select list that is not that very column.
-/

namespace TableQuery

theorem Accounts.select_mem {d : Dialect} {alwaysAlias : Bool} {statements : List SelectTree}
    {selects : List Select} {own : List String} {c c' : Nat}
    (h : Accounts d alwaysAlias statements selects own c c') {s : SelectTree}
    (hs : s ∈ statements) : s.select ∈ selects :=
  h.selects ▸ List.mem_map_of_mem hs

namespace SelectTree

variable {d : Dialect} {alwaysAlias : Bool} {r : Relation} {s : SelectTree} {ref : ColumnRef}
  {item : Expr} {name : String}

/-- The column stands for the item of the select list: it is one of the statement's own columns and
has the name of the item, or both are the same column of the same item of the `FROM` clause. -/
def Denotes (s : SelectTree) (ref : ColumnRef) (item : Expr) : Prop :=
  if s.scope.isOutput ref then item.outputName? = some ref.name
  else
    ∃ ref', item.column? = some ref' ∧ s.scope.isOutput ref' = false ∧ ref'.name = ref.name ∧
      s.scope.resolve ref' = s.scope.resolve ref

theorem Formed.aliasesSoft (h : s.Formed d alwaysAlias) :
    (s.scope.alone alwaysAlias).AliasesSoft := by
  intro scope hScope e he a ha
  obtain rfl : s.scope = scope := by simpa [Scope.alone, Context.top?] using hScope
  rcases List.mem_map.1 he with ⟨item, hItem, rfl⟩
  rcases h.aliases item hItem with ⟨k, hAlias⟩
  rw [hAlias] at ha
  split at ha
  · obtain rfl : aliasName k = a := by simpa using ha
    exact soft_alias k
  · cases ha

/-- A statement whose columns are not qualified selects from one item. -/
theorem Formed.exists_only (h : s.Formed d alwaysAlias) (hBare : s.qualify = false) :
    ∃ only, s.items = [only] := by
  have hQualify := h.qualify
  rw [hBare, eq_comm, Bool.or_eq_false_iff] at hQualify
  have hTables := h.tables
  rw [JoinChain.tables_of_not_isJoin hQualify.1 h.chain] at hTables
  rcases List.map_eq_singleton_iff.1 hTables with ⟨only, hOnly, -⟩
  exact ⟨only, hOnly⟩

/-- A column of the `FROM` clause that is written as a bare name belongs to its only item. -/
theorem only_of_columnText (hFormed : s.Formed d alwaysAlias)
    (hScoped : s.select.WellScoped d r) (hOther : s.scope.isOutput ref = false)
    (h : s.scope.columnText ref = .ok (Identifier.quote name)) :
    s.qualify = false ∧ (∃ only, s.items = [only] ∧ s.scope.resolve ref = .ok only.entry) ∧
      Identifier.quote name = Identifier.quote ref.name := by
  rcases Scope.of_columnText hOther h with ⟨entry, hResolve, hBare, hQualified⟩
  have hEntry := (Scope.mem_of_resolve hResolve).1
  cases hQualify : s.qualify with
  | true =>
      -- behind an alias and a point, the name is not all of the text
      rcases hScoped.distinguished.named hQualify entry hEntry with ⟨k, hAlias⟩
      have hText := hQualified hQualify _ hAlias
      have hNot := (noName_qualified (soft_alias k) (Identifier.quote ref.name)).ne name
      exact absurd hText.symm hNot
  | false =>
      rcases hFormed.exists_only hQualify with ⟨only, hOnly⟩
      have hSingle : s.scope.entries = [only.entry] := congrArg (List.map FromItem.entry) hOnly
      rw [hSingle, List.mem_singleton] at hEntry
      exact ⟨rfl, ⟨only, hOnly, hEntry ▸ hResolve⟩, hBare hQualify⟩

/-- Own columns are told apart by their names, unless a name brings its own quotes. -/
theorem denotes_of_isOutput (hItem : item.outputName? = some name)
    (hOwn : s.scope.isOutput ref = true)
    (h : s.scope.columnText ref = .ok (Identifier.quote name)) :
    s.Denotes ref item ∨ Identifier.isQuoted name = true ∨
      Identifier.isQuoted ref.name = true := by
  rw [Scope.columnText, if_pos hOwn] at h
  have hSame := Identifier.safe_eq_ok h
  cases hQuoted : Identifier.isQuoted name with
  | true => exact .inr (.inl rfl)
  | false =>
      cases hQuoted' : Identifier.isQuoted ref.name with
      | true => exact .inr (.inr rfl)
      | false =>
          left
          rw [Denotes, if_pos hOwn, hItem]
          exact congrArg some (Identifier.eq_of_quote_eq hQuoted hQuoted' hSame)

/-- An item of the select list that is a column of the `FROM` clause has been resolved. -/
theorem exists_resolve_of_column (hScoped : s.select.WellScoped d r) (hItem : item ∈ s.plan.items)
    (hColumn : item.column? = some ref) (hOther : s.scope.isOutput ref = false) :
    ∃ entry, s.scope.resolve ref = .ok entry := by
  have hRef : ref ∈ s.select.references d := by
    apply List.mem_flatMap.2
    refine ⟨item, ?_, Expr.mem_written_of_column hColumn⟩
    simp [Select.exprs, select, hItem]
  rcases hScoped.written ref hRef with ⟨text, hText⟩
  rcases Scope.of_columnText hOther hText with ⟨entry, hResolve, -, -⟩
  exact ⟨entry, hResolve⟩

/-- Where there is one item in the `FROM` clause, its columns are told apart by their names. -/
theorem denotes_iff_of_only (hScoped : s.select.WellScoped d r)
    (hItem : item ∈ s.plan.items) (hOther : s.scope.isOutput ref = false) {only : FromItem}
    (hOnly : s.items = [only]) (hResolve : s.scope.resolve ref = .ok only.entry) :
    s.Denotes ref item ↔
      ∃ ref', item.column? = some ref' ∧ s.scope.isOutput ref' = false ∧ ref'.name = ref.name := by
  have hSingle : s.scope.entries = [only.entry] := congrArg (List.map FromItem.entry) hOnly
  rw [Denotes, hOther]
  simp only [Bool.false_eq_true, if_false]
  constructor
  · rintro ⟨ref', hColumn, hOther', hName, -⟩
    exact ⟨ref', hColumn, hOther', hName⟩
  · rintro ⟨ref', hColumn, hOther', hName⟩
    refine ⟨ref', hColumn, hOther', hName, ?_⟩
    -- the column of the item is one of some entry, and there is only one
    rcases exists_resolve_of_column hScoped hItem hColumn hOther' with ⟨entry, hEntry⟩
    have hMem := (Scope.mem_of_resolve hEntry).1
    rw [hSingle, List.mem_singleton] at hMem
    rw [hEntry, hResolve, hMem]

end SelectTree

/-- In a compiled statement, a sort key that is written like the name of an item is a column. As one
of the statement's own it stands for the item, unless one of the names was quoted from the start. As
a column of the `FROM` clause it is not qualified, belongs to the only item of the clause, and
stands for the item of the select list exactly if that is the same column: if the item is computed,
or another column under this name, the name of the item captures the key. -/
theorem Dialect.order_names {d : Dialect} (hd : d.IsStandard) {r : Relation} {text : String}
    (h : d.compile r = .ok text) :
    ∃ t : SelectTree, t.text d d.alwaysAlias = .ok text ∧ SelectPlan.ofRelation r = .ok t.plan ∧
      ∀ s ∈ t.statements, ∀ k ∈ s.plan.sortKeys, ∀ item ∈ s.plan.items, ∀ name,
        item.outputName? = some name →
        k.key.sql d (s.scope.alone d.alwaysAlias) = .ok (Identifier.quote name) →
        ∃ ref, k.key.column? = some ref ∧
          (s.scope.isOutput ref = true → s.Denotes ref item ∨ Identifier.isQuoted name = true ∨
            Identifier.isQuoted ref.name = true) ∧
          (s.scope.isOutput ref = false → s.qualify = false ∧
            (∃ only, s.items = [only] ∧ s.scope.resolve ref = .ok only.entry) ∧
            (s.Denotes ref item ↔ ∃ ref', item.column? = some ref' ∧
              s.scope.isOutput ref' = false ∧ ref'.name = ref.name)) := by
  rcases hasLayouts_statement d (d.maxDepth + 1) (of_compile h) with ⟨t, ht⟩
  refine ⟨t, ht.text, ht.plan, ?_⟩
  intro s hs k _ item hItem name hName hKey
  have hFormed := ht.accounts.formed s hs
  have hScoped := d.wellScoped_of_compile h (ht.accounts.select_mem hs)
  rcases Expr.column_of_sql hd hFormed.aliasesSoft hKey with ⟨ref, hColumn, hText⟩
  refine ⟨ref, hColumn, ?_, ?_⟩
  · intro hOwn
    exact SelectTree.denotes_of_isOutput hName hOwn hText
  · intro hOther
    rcases SelectTree.only_of_columnText hFormed hScoped hOther hText with
      ⟨hBare, ⟨only, hOnly, hResolve⟩, -⟩
    exact ⟨hBare, ⟨only, hOnly, hResolve⟩,
      SelectTree.denotes_iff_of_only hScoped hItem hOther hOnly hResolve⟩

/-- A column under the name of another, by which the rows were sorted before. -/
def Relation.sortedThenRenamed : Relation :=
  let t : Relation := .table 1 "t" ⟨[⟨"a", .int32, true⟩, ⟨"b", .int32, true⟩]⟩
  .selection 3 (.selection 2 t [] [] [⟨t.column "a", true⟩]) [.alias (t.column "b") "a"] [] []

/-- The statement of `Relation.sortedThenRenamed`. -/
def SelectTree.ofSortedThenRenamed : SelectTree :=
  let t : Relation := .table 1 "t" ⟨[⟨"a", .int32, true⟩, ⟨"b", .int32, true⟩]⟩
  .mk
    { SelectPlan.ofSource t with
      items := [.alias (t.column "b") "a"]
      sortKeys := [⟨t.column "a", true⟩]
      folded := [.selection 2 t [] [] [⟨t.column "a", true⟩]]
      output := some Relation.sortedThenRenamed }
    ⟨t, []⟩ false [.named ⟨t, none, ["a", "b"]⟩ "t"]

/-- The rows were sorted by one column, and the statement sorts them by another one that has got the
name of the first. -/
theorem Dialect.order_captured :
    SelectPlan.ofRelation Relation.sortedThenRenamed = .ok SelectTree.ofSortedThenRenamed.plan ∧
      standard.compile Relation.sortedThenRenamed = .ok "SELECT b AS a\nFROM t\nORDER BY a" ∧
      SelectTree.ofSortedThenRenamed.text standard false =
        .ok "SELECT b AS a\nFROM t\nORDER BY a" ∧
      ∃ k ∈ SelectTree.ofSortedThenRenamed.plan.sortKeys,
        ∃ item ∈ SelectTree.ofSortedThenRenamed.plan.items, ∃ ref,
          item.outputName? = some "a" ∧
          k.key.sql standard (SelectTree.ofSortedThenRenamed.scope.alone false) =
            .ok (Identifier.quote "a") ∧
          k.key.column? = some ref ∧ ¬SelectTree.ofSortedThenRenamed.Denotes ref item := by
  refine ⟨rfl, by decide +kernel, by decide +kernel, _, List.mem_singleton.2 rfl, _,
    List.mem_singleton.2 rfl, ⟨⟨1, .table⟩, "a"⟩, rfl, by decide +kernel, rfl, ?_⟩
  intro hDenotes
  rw [SelectTree.Denotes, if_neg (by decide)] at hDenotes
  rcases hDenotes with ⟨ref', hColumn, -, hName, -⟩
  cases hColumn
  exact absurd hName (by decide)

/-- A key that is one of the statement's own columns stands for the item that computes it. -/
theorem Dialect.order_names_sortedLowered :
    (∃ text, standard.compile Relation.sortedLowered = .ok text) ∧
      ∃ t : SelectTree, SelectPlan.ofRelation Relation.sortedLowered = .ok t.plan ∧
        ∃ item ∈ t.plan.items, item.column? = none ∧ t.Denotes ⟨⟨2, .selection⟩, "a"⟩ item := by
  have hText : standard.compile Relation.sortedLowered =
      .ok "SELECT LOWER(a) AS a\nFROM t\nORDER BY a" := by
    decide +kernel
  rcases order_names ⟨rfl, rfl⟩ hText with ⟨t, -, hPlan, hStatements⟩
  -- the plan says which key and which item there are, and that the key is an own column
  let key : ColumnRef := ⟨⟨2, .selection⟩, "a"⟩
  have hKeys : (SelectPlan.ofRelation Relation.sortedLowered).map (·.sortKeys) =
      .ok [⟨.column key, true⟩] := rfl
  have hItems : (SelectPlan.ofRelation Relation.sortedLowered).map (·.items) =
      .ok [.alias (.call .lowercase [.column ⟨⟨1, .table⟩, "a"⟩]) "a"] := rfl
  have hOwn : (SelectPlan.ofRelation Relation.sortedLowered).map
      (fun p => (p.scope (t.items.map FromItem.entry) t.qualify).isOutput key) = .ok true := rfl
  rw [hPlan] at hKeys hItems hOwn
  have hKeys := Except.ok.inj hKeys
  have hItems := Except.ok.inj hItems
  have hOwn : t.scope.isOutput key = true := Except.ok.inj hOwn
  have hKey : (Expr.column key).sql standard (t.scope.alone standard.alwaysAlias) =
      .ok (Identifier.quote "a") := by
    change t.scope.columnText key = _
    rw [Scope.columnText, if_pos hOwn]
    decide +kernel
  rcases hStatements t t.self_mem_statements _ (hKeys ▸ List.mem_singleton.2 rfl) _
    (hItems ▸ List.mem_singleton.2 rfl) "a" rfl hKey with ⟨ref, hColumn, hDenotes, -⟩
  cases hColumn
  refine ⟨⟨_, hText⟩, t, hPlan, _, hItems ▸ List.mem_singleton.2 rfl, rfl, ?_⟩
  rcases hDenotes hOwn with hDenotes | hQuoted | hQuoted
  · exact hDenotes
  · exact absurd hQuoted (by decide)
  · exact absurd hQuoted (by decide)

end TableQuery
