import TableQuery.Proofs.Plan.Columns
import TableQuery.Proofs.Scope.Order
import TableQuery.Proofs.Sql.Chain

/-!
# Group — what the names of a `GROUP BY` clause are read as

Rows are grouped by the names of keys, and a name there stands for a column of the `FROM` clause
before it stands for an item of the select list. A key is safe if no item of the `FROM` clause has a
column of its name, or if it is that column and no other item has one. A computed key has the name
of its first operand, though, which is most often a column of the clause, and names are not
qualified, so that tables of a join may share them.
-/

namespace TableQuery

/-! ## Keys and their names -/

/-- Whether the item has a column that is written like the name. -/
def FromItem.spells (item : FromItem) (name : String) : Bool :=
  item.entry.columns.any (Identifier.quote · == Identifier.quote name)

namespace SelectTree

/-- The names that rows are grouped by. -/
def groupNames (s : SelectTree) : List String :=
  s.plan.groupKeys.filterMap Expr.outputName?

/-- The items of the `FROM` clause that have a column written like the name. -/
def spelling (s : SelectTree) (name : String) : List FromItem :=
  s.items.filter (·.spells name)

/-- The reference is to a column of the item, and is written like the name. -/
structure PointsTo (s : SelectTree) (ref : ColumnRef) (item : FromItem) (name : String) : Prop where
  other : s.scope.isOutput ref = false
  resolve : s.scope.resolve ref = .ok item.entry
  written : Identifier.quote ref.name = Identifier.quote name

/-- The names of the `GROUP BY` clause can only be read as its keys: no two of them are written
alike, and where an item of the `FROM` clause has a column of the name, it is the only one, and the
key is that column. -/
structure KeysNamed (s : SelectTree) : Prop where
  apart : (s.groupNames.map Identifier.quote).Nodup
  read : ∀ key ∈ s.plan.groupKeys, ∀ name ∈ key.outputName?, ∀ item ∈ s.spelling name,
    s.spelling name = [item] ∧ ∃ ref, key.column? = some ref ∧ s.PointsTo ref item name

end SelectTree

/-! ## Keys are items -/

section Keys

variable {d : Dialect} {r : Relation} {p : SelectPlan}

/-- The keys of a plan are among its items: whatever is put over a grouping and has items of its own
is a statement of its own. -/
theorem SelectPlan.groupKeys_subset_items (h : ofRelation r = .ok p) : p.groupKeys ⊆ p.items := by
  induction r generalizing p with
  | table | selfReference | sqlQuery | join =>
      cases h
      exact List.nil_subset _
  | selection id input projections predicates sortKeys ih =>
      rcases of_map_ok h with ⟨q, hq, rfl⟩
      by_cases hSorts : projections = [] ∧ predicates = [] ∧ q.IsOpen
      · rcases hSorts with ⟨rfl, rfl, hOpen⟩
        have hInput := ih hq
        rw [addSelection_of_isOpen hOpen]
        exact hInput
      · rw [addSelection_of_not hSorts]
        have hNone : (q.simpleOr input).groupKeys = [] :=
          (isSimple_iff.1 (q.isSimple_simpleOr input)).2.1
        simp [hNone]
  | aggregation id input keys metrics having ih =>
      rcases of_map_ok h with ⟨q, -, rfl⟩
      exact List.subset_append_left keys metrics
  | limit id input count offset ih =>
      rcases of_map_ok h with ⟨q, hq, rfl⟩
      have hInput := ih hq
      unfold addLimit
      split
      · exact List.nil_subset _
      · exact hInput
  | distinct id input ih =>
      rcases of_map_ok h with ⟨q, hq, rfl⟩
      have hInput := ih hq
      unfold addDistinct
      split
      · exact List.nil_subset _
      · exact hInput
  | union => cases h

/-- Every `SELECT` in a statement is the plan of a relation, by induction on how deep statements may
stand in one another. -/
theorem exists_plan_of_mem_selects {q : Select} :
    ∀ {allowance cx r text}, (statement d allowance cx r).1 = .ok text →
      q ∈ selects d allowance cx r → ∃ r', SelectPlan.ofRelation r' = .ok q.plan := by
  intro allowance
  induction allowance with
  | zero =>
      intro cx r text h
      cases h
  | succ allowance ih =>
      intro cx r text h hq
      rcases of_statement h with ⟨p, hPlan, hText⟩
      rcases p.of_render hText with ⟨chain, first, rest, _, cx', hChain, hItems, -, -⟩
      rw [selects] at hq
      simp only [hPlan, hChain, hItems] at hq
      rcases List.mem_cons.1 hq with rfl | hInner
      · exact ⟨r, hPlan⟩
      · rcases mem_itemSelects (congrArg Prod.fst hItems) hInner with
          ⟨_, -, target, _, inner, -, hInnerText, hMem⟩
        exact ih hInnerText hMem

/-- The names of keys are quoted where they have to be. -/
theorem SelectPlan.of_groupKeyText {keys : List Expr} {texts : List String}
    (h : keys.mapM groupKeyText = .ok texts) :
    keys.map Expr.outputName? = (keys.filterMap Expr.outputName?).map some ∧
      texts = (keys.filterMap Expr.outputName?).map Identifier.quote := by
  have hAll := forall₂_of_mapM h
  clear h
  induction hAll with
  | nil => exact ⟨rfl, rfl⟩
  | @cons key text keys texts hKey _ ih =>
      unfold groupKeyText at hKey
      split at hKey
      · next name hName =>
        rw [List.filterMap_cons_some hName, List.map_cons, List.map_cons, List.map_cons, hName,
          Identifier.safe_eq_ok hKey, ih.1, ih.2]
        exact ⟨rfl, rfl⟩
      · cases hKey

end Keys

namespace SelectTree

variable {d : Dialect} {alwaysAlias : Bool} {r : Relation} {s : SelectTree} {key : Expr}
  {ref : ColumnRef} {name : String}

theorem mem_spelling {item : FromItem} :
    item ∈ s.spelling name ↔ item ∈ s.items ∧ item.spells name = true :=
  List.mem_filter

theorem length_spelling (s : SelectTree) (name : String) :
    (s.spelling name).length = (s.items.map (·.entry.columns)).countP
      (·.any (Identifier.quote · == Identifier.quote name)) := by
  rw [List.countP_map, List.countP_eq_length_filter]
  rfl

/-- A key that is a column of the `FROM` clause belongs to an item that has a column of its name. -/
theorem exists_pointsTo (hScoped : s.select.WellScoped d r) (hItem : key ∈ s.plan.items)
    (hColumn : key.column? = some ref) (hOther : s.scope.isOutput ref = false)
    (hName : Identifier.quote ref.name = Identifier.quote name) :
    ∃ item ∈ s.spelling name, s.PointsTo ref item name := by
  -- the key is an item as well, so its column has been resolved
  rcases exists_resolve_of_column hScoped hItem hColumn hOther with ⟨entry, hResolve⟩
  rcases Scope.mem_of_resolve hResolve with ⟨hEntry, hExposes⟩
  rcases List.mem_map.1 hEntry with ⟨item, hMem, rfl⟩
  have hSpells : item.spells name = true := by
    have hColumnOf : ref.name ∈ item.entry.columns := by
      simpa [ScopeEntry.exposes] using hExposes
    exact List.any_eq_true.2 ⟨ref.name, hColumnOf, by simp [hName]⟩
  exact ⟨item, mem_spelling.2 ⟨hMem, hSpells⟩, hOther, hResolve, hName⟩

/-- Keys are named exactly if no two of their names are written alike and each name is foreign to
the `FROM` clause, or is that of one item only and the key is a column under it. -/
theorem keysNamed_iff (hScoped : s.select.WellScoped d r)
    (hKeys : s.plan.groupKeys ⊆ s.plan.items) :
    s.KeysNamed ↔ (s.groupNames.map Identifier.quote).Nodup ∧
      ∀ key ∈ s.plan.groupKeys, ∀ name ∈ key.outputName?, s.spelling name = [] ∨
        (s.spelling name).length = 1 ∧ ∃ ref, key.column? = some ref ∧
          s.scope.isOutput ref = false ∧ Identifier.quote ref.name = Identifier.quote name := by
  constructor
  · rintro ⟨hApart, hRead⟩
    refine ⟨hApart, ?_⟩
    intro key hKey name hName
    cases hSpelling : s.spelling name with
    | nil => exact .inl rfl
    | cons item rest =>
        rcases hRead key hKey name hName item (hSpelling ▸ List.mem_cons_self) with
          ⟨hOnly, ref, hColumn, hPoints⟩
        rw [← hSpelling, hOnly]
        exact .inr ⟨rfl, ref, hColumn, hPoints.other, hPoints.written⟩
  · rintro ⟨hApart, hRead⟩
    refine ⟨hApart, ?_⟩
    intro key hKey name hName item hItem
    rcases hRead key hKey name hName with hNone | ⟨hOne, ref, hColumn, hOther, hWritten⟩
    · rw [hNone] at hItem
      cases hItem
    · -- the item that the column belongs to has the name, and only one item has it
      rcases exists_pointsTo hScoped (hKeys hKey) hColumn hOther hWritten with
        ⟨item', hItem', hPoints⟩
      rcases List.length_eq_one_iff.1 hOne with ⟨only, hOnly⟩
      rw [hOnly, List.mem_singleton] at hItem hItem'
      subst hItem hItem'
      exact ⟨hOnly, ref, hColumn, hPoints⟩

/-- The statement is written with a `GROUP BY` clause of nothing but the names of its keys, each
quoted where it has to be. -/
structure GroupsByName (s : SelectTree) (d : Dialect) (alwaysAlias : Bool) : Prop where
  named : s.plan.groupKeys.map Expr.outputName? = s.groupNames.map some
  written : ∃ statement fromText having, s.text d alwaysAlias = .ok statement ∧
    s.plan.clauses d (s.scope.alone alwaysAlias) fromText = .ok statement ∧
    s.plan.groupClause d (s.scope.alone alwaysAlias) =
      .ok (some ("GROUP BY " ++ ", ".intercalate (s.groupNames.map Identifier.quote) ++
        SelectPlan.havingText having))

theorem groupsByName_of_text (hFormed : s.Formed d alwaysAlias)
    (hGrouped : s.plan.groupKeys ≠ []) {statement : String}
    (h : s.text d alwaysAlias = .ok statement) : s.GroupsByName d alwaysAlias := by
  rcases exists_fromChain hFormed h with ⟨f, -, -, hClauses⟩
  rcases SelectPlan.of_clauses hClauses with ⟨_, _, _, _, -, -, hGroup, -, -⟩
  rcases SelectPlan.of_groupClause hGroup with ⟨hNone, -⟩ | ⟨keys, having, hKeys, -, rfl⟩
  · exact absurd hNone hGrouped
  · rcases SelectPlan.of_groupKeyText hKeys with ⟨hNamed, rfl⟩
    exact ⟨hNamed, statement, f.text d, having, h, hClauses, hGroup⟩

end SelectTree

/-- A compiled statement with groups is grouped by the names of its keys, those of an aggregation
being the keys of its statement. These names can only be read as the keys if no two of them are
written alike, and each is foreign to the `FROM` clause, or is the name of a column of one item only
and the key is a column under this name. In all other cases the text may group by something else. -/
theorem Dialect.group_names {d : Dialect} {r : Relation} {text : String}
    (h : d.compile r = .ok text) :
    ∃ t : SelectTree, t.text d d.alwaysAlias = .ok text ∧ SelectPlan.ofRelation r = .ok t.plan ∧
      (∀ id input keys metrics having, r = .aggregation id input keys metrics having →
        t.plan.groupKeys = keys) ∧
      ∀ s ∈ t.statements, s.Formed d d.alwaysAlias ∧
        (∀ item ∈ s.items, item.entry.columns = item.entry.relation.columnNames) ∧
        (s.plan.groupKeys ≠ [] → s.GroupsByName d d.alwaysAlias) ∧
        (s.KeysNamed ↔ (s.groupNames.map Identifier.quote).Nodup ∧
          ∀ key ∈ s.plan.groupKeys, ∀ name ∈ key.outputName?, s.spelling name = [] ∨
            (s.spelling name).length = 1 ∧ ∃ ref, key.column? = some ref ∧
              s.scope.isOutput ref = false ∧
              Identifier.quote ref.name = Identifier.quote name) := by
  rcases hasLayouts_statement d (d.maxDepth + 1) (of_compile h) with ⟨t, ht⟩
  refine ⟨t, ht.text, ht.plan, ?_, ?_⟩
  · rintro id input keys metrics having rfl
    rcases of_map_ok ht.plan with ⟨q, -, hPlan⟩
    rw [← hPlan]
    rfl
  · intro s hs
    have hFormed := ht.accounts.formed s hs
    have hSelect : s.select ∈ d.selects r := ht.accounts.select_mem hs
    have hScoped := d.wellScoped_of_compile h hSelect
    rcases exists_plan_of_mem_selects (of_compile h) hSelect with ⟨r', hPlan⟩
    rcases t.exists_text_of_mem ht.text hs with ⟨statement, hStatement⟩
    refine ⟨hFormed, ?_, ?_, ?_⟩
    · intro item hItem
      exact hScoped.columns item.entry (List.mem_map_of_mem hItem)
    · intro hGrouped
      exact SelectTree.groupsByName_of_text hFormed hGrouped hStatement
    · exact SelectTree.keysNamed_iff hScoped (SelectPlan.groupKeys_subset_items hPlan)

/-- Rows counted by a magnitude, that has the name of the column it is computed from. -/
def Relation.countedByMagnitude : Relation :=
  let t : Relation := .table 1 "t" ⟨[⟨"a", .int32, true⟩]⟩
  .aggregation 2 t [.call .absolute [t.column "a"]] [.call .countStar []] []

/-- The statement of `Relation.countedByMagnitude`. -/
def SelectTree.ofCountedByMagnitude : SelectTree :=
  let t : Relation := .table 1 "t" ⟨[⟨"a", .int32, true⟩]⟩
  .mk
    { SelectPlan.ofSource t with
      items := [.call .absolute [t.column "a"], .call .countStar []]
      groupKeys := [.call .absolute [t.column "a"]]
      output := some Relation.countedByMagnitude }
    ⟨t, []⟩ false [.named ⟨t, none, ["a"]⟩ "t"]

/-- The rows are to be counted by magnitude, and the statement counts them by the column that the
magnitude is computed from. -/
theorem Dialect.groups_captured :
    SelectPlan.ofRelation Relation.countedByMagnitude =
        .ok SelectTree.ofCountedByMagnitude.plan ∧
      standard.compile Relation.countedByMagnitude =
        .ok "SELECT ABS(a) AS a, COUNT(*) AS \"count\"\nFROM t\nGROUP BY a" ∧
      SelectTree.ofCountedByMagnitude.text standard false =
        .ok "SELECT ABS(a) AS a, COUNT(*) AS \"count\"\nFROM t\nGROUP BY a" ∧
      ¬SelectTree.ofCountedByMagnitude.KeysNamed := by
  refine ⟨rfl, by decide +kernel, by decide +kernel, ?_⟩
  intro hNamed
  have hItem : FromItem.named ⟨.table 1 "t" ⟨[⟨"a", .int32, true⟩]⟩, none, ["a"]⟩ "t" ∈
      SelectTree.ofCountedByMagnitude.spelling "a" :=
    SelectTree.mem_spelling.2 ⟨List.mem_singleton.2 rfl, by decide +kernel⟩
  rcases hNamed.read _ (List.mem_singleton.2 rfl) "a" rfl _ hItem with ⟨-, ref, hColumn, -⟩
  cases hColumn

/-- What the users of each city have spent. -/
def Relation.spentByCity : Relation :=
  let users : Relation := .table 1 "users" ⟨[⟨"id", .int64, true⟩, ⟨"city", .string, true⟩]⟩
  let orders : Relation :=
    .table 2 "orders" ⟨[⟨"user_id", .int64, true⟩, ⟨"amount", .int64, true⟩]⟩
  .aggregation 4
    (.join 3 .inner users orders [.call .equals [users.column "id", orders.column "user_id"]])
    [users.column "city"] [.alias (.call .sum [orders.column "amount"]) "total"] []

theorem Dialect.group_names_spentByCity :
    (∃ text, standard.compile Relation.spentByCity = .ok text) ∧
      ∃ t : SelectTree, SelectPlan.ofRelation Relation.spentByCity = .ok t.plan ∧
        t.groupNames = ["city"] ∧ t.KeysNamed := by
  have hText : standard.compile Relation.spentByCity =
      .ok ("SELECT t0.city, SUM(t1.amount) AS total\nFROM users t0\n" ++
        "  JOIN orders t1\n    ON t0.id = t1.user_id\nGROUP BY city") := by
    decide +kernel
  rcases group_names hText with ⟨t, -, hPlan, hKeys, hStatements⟩
  rcases hStatements t t.self_mem_statements with ⟨hFormed, hColumns, -, hNamed⟩
  have hKeys : t.plan.groupKeys = [.column ⟨⟨1, .table⟩, "city"⟩] := hKeys _ _ _ _ _ rfl
  have hNames : t.groupNames = ["city"] := by
    rw [SelectTree.groupNames, hKeys]
    rfl
  have hOther : (SelectPlan.ofRelation Relation.spentByCity).map
      (fun p => (p.scope (t.items.map FromItem.entry) t.qualify).isOutput ⟨⟨1, .table⟩, "city"⟩) =
        .ok false := rfl
  have hChain : (SelectPlan.ofRelation Relation.spentByCity).bind
      (fun p => (JoinChain.ofRelation standard p.source).map
        (fun c => c.tables.map Relation.columnNames)) =
          .ok [["id", "city"], ["user_id", "amount"]] := rfl
  rw [hPlan] at hOther hChain
  have hOther : t.scope.isOutput ⟨⟨1, .table⟩, "city"⟩ = false := Except.ok.inj hOther
  rw [Except.bind, hFormed.chain] at hChain
  have hItems : t.items.map (·.entry.columns) = [["id", "city"], ["user_id", "amount"]] :=
    calc
      t.items.map (·.entry.columns) = t.items.map (·.entry.relation.columnNames) :=
        List.map_congr_left hColumns
      _ = (t.items.map (·.entry.relation)).map Relation.columnNames := by simp
      _ = t.chain.tables.map Relation.columnNames := by rw [hFormed.tables]
      _ = [["id", "city"], ["user_id", "amount"]] := Except.ok.inj hChain
  refine ⟨⟨_, hText⟩, t, hPlan, hNames, hNamed.2 ⟨?_, ?_⟩⟩
  · rw [hNames]
    exact List.nodup_singleton _
  · intro key hKey name hName
    rw [hKeys, List.mem_singleton] at hKey
    subst hKey
    cases hName
    refine .inr ⟨?_, _, rfl, hOther, rfl⟩
    rw [SelectTree.length_spelling, hItems]
    decide +kernel

end TableQuery
