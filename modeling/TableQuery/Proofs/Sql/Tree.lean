import TableQuery.Proofs.Expr.Context
import TableQuery.Proofs.Scope.Select

/-!
# Tree — the statements of a text and their places

The text of a relation is laid out as a tree: a statement over the items of its `FROM` clause, some
of which are statements again. Every statement of the tree is written in the scope of its own items
and in no other, whatever the context was that its text was first written in, and the aliases of all
items are those that have been drawn meanwhile, each of them once.
-/

namespace TableQuery

/-! ## Trees and their texts -/

mutual

/-- A statement: its plan, the chain of its tables, whether columns are qualified, and the items
that the tables are written as. -/
inductive SelectTree where
  | mk (plan : SelectPlan) (chain : JoinChain) (qualify : Bool) (items : List FromItem)

/-- An item of a `FROM` clause: a name, a query in SQL text, or a statement. -/
inductive FromItem where
  | named (entry : ScopeEntry) (name : String)
  | raw (entry : ScopeEntry) (query : String)
  | derived (entry : ScopeEntry) (inner : SelectTree)

end

/-- What the item makes visible. -/
def FromItem.entry : FromItem → ScopeEntry
  | .named entry _ | .raw entry _ | .derived entry _ => entry

namespace SelectTree

def plan : SelectTree → SelectPlan
  | .mk plan _ _ _ => plan

def chain : SelectTree → JoinChain
  | .mk _ chain _ _ => chain

def qualify : SelectTree → Bool
  | .mk _ _ qualify _ => qualify

def items : SelectTree → List FromItem
  | .mk _ _ _ items => items

/-- What the items of the statement make visible. -/
def scope (t : SelectTree) : Scope :=
  t.plan.scope (t.items.map FromItem.entry) t.qualify

/-- The statement without those inside it. -/
def select (t : SelectTree) : Select :=
  ⟨t.plan, t.chain, t.scope⟩

/-- The aliases that the `FROM` clause of the statement introduces. -/
def introduced (t : SelectTree) : List String :=
  t.items.filterMap (·.entry.alias?)

end SelectTree

/-- The context in which the scope is the only one that is open. -/
def Scope.alone (s : Scope) (alwaysAlias : Bool) : Context :=
  ⟨alwaysAlias, 0, [s]⟩

/-- The statement of a plan over the texts of its tables. -/
def SelectPlan.layOut (d : Dialect) (cx : Context) (p : SelectPlan) (chain : JoinChain) :
    List String → Except SqlError String
  | [] => .error (.unsupportedExpr "empty table set")
  | first :: tables =>
    match joinLines d cx chain.steps tables with
    | .error e => .error e
    | .ok joins => p.clauses d cx ("FROM " ++ first ++ joins)

mutual

/-- The text of a statement. Its columns are looked up among its own items, and nowhere else. -/
def SelectTree.text (d : Dialect) (alwaysAlias : Bool) : SelectTree → Except SqlError String
  | .mk plan chain qualify items =>
    match textsOf d alwaysAlias items with
    | .error e => .error e
    | .ok texts =>
      plan.layOut d ((plan.scope (items.map FromItem.entry) qualify).alone alwaysAlias) chain texts

/-- The text of an item, with its alias if it has one. -/
def FromItem.text (d : Dialect) (alwaysAlias : Bool) : FromItem → Except SqlError String
  | .named entry name => .ok (itemText name entry.alias?)
  | .raw entry query => .ok (itemText (parenthesised d query) entry.alias?)
  | .derived entry inner =>
    (inner.text d alwaysAlias).map fun text => itemText (parenthesised d text) entry.alias?

/-- The texts of items, from left to right. -/
def textsOf (d : Dialect) (alwaysAlias : Bool) : List FromItem → Except SqlError (List String)
  | [] => .ok []
  | item :: items =>
    match item.text d alwaysAlias with
    | .error e => .error e
    | .ok text => (textsOf d alwaysAlias items).map (text :: ·)

end

mutual

/-- The statement and all statements inside it. -/
def SelectTree.statements : SelectTree → List SelectTree
  | .mk plan chain qualify items => .mk plan chain qualify items :: statementsIn items

/-- The statements inside an item. -/
def FromItem.statements : FromItem → List SelectTree
  | .named .. | .raw .. => []
  | .derived _ inner => inner.statements

/-- The statements inside items. -/
def statementsIn : List FromItem → List SelectTree
  | [] => []
  | item :: items => item.statements ++ statementsIn items

end

theorem SelectTree.self_mem_statements (t : SelectTree) : t ∈ t.statements := by
  cases t
  exact List.mem_cons_self

/-- The aliases that are introduced anywhere in the statement. -/
def SelectTree.aliases (t : SelectTree) : List String :=
  t.statements.flatMap SelectTree.introduced

/-! ## Trees that fit what they are written for -/

/-- The item is written the way its relation asks for: by the name of a table, as a query, or as the
statement of a derived table. -/
inductive FromItem.Fits : FromItem → Prop
  | table {id : Nat} {name safe : String} {schema : Schema} (alias? : Option String)
      (columns : List String) (h : Identifier.safe name = .ok safe) :
      Fits (.named ⟨.table id name schema, alias?, columns⟩ safe)
  | view {id target : Nat} {name safe : String} {schema : Schema} (alias? : Option String)
      (columns : List String) (h : Identifier.safe name = .ok safe) :
      Fits (.named ⟨.selfReference id (.table target name schema), alias?, columns⟩ safe)
  | query {id : Nat} {query : String} {schema : Schema} (alias? : Option String)
      (columns : List String) :
      Fits (.raw ⟨.sqlQuery id query schema, alias?, columns⟩ (Text.trim query))
  | derived {entry : ScopeEntry} {target : Relation} {inner : SelectTree}
      (hTarget : entry.relation.derived? = some target)
      (hPlan : SelectPlan.ofRelation target = .ok inner.plan) : Fits (.derived entry inner)

/-- The items of the statement are the tables that its plan selects from, and those have an alias
that need one. -/
structure SelectTree.Formed (t : SelectTree) (d : Dialect) (alwaysAlias : Bool) : Prop where
  qualify : t.qualify = (t.plan.source.isJoin || alwaysAlias)
  chain : JoinChain.ofRelation d t.plan.source = .ok t.chain
  tables : t.items.map (·.entry.relation) = t.chain.tables
  fits : ∀ item ∈ t.items, item.Fits
  aliases : ∀ item ∈ t.items, ∃ k, item.entry.alias? =
    if needsAlias t.qualify item.entry.relation then some (aliasName k) else none

/-! ## Accounts of the aliases -/

/-- The aliases that are drawn while the counter goes from one number to another. -/
def drawnAliases (c c' : Nat) : List String :=
  (List.range' c (c' - c)).map aliasName

/-- The statements are the given ones, all of them formed, and with the aliases `own` that are
introduced around them they account for the aliases drawn from `c` up to `c'`. -/
structure Accounts (d : Dialect) (alwaysAlias : Bool) (statements : List SelectTree)
    (selects : List Select) (own : List String) (c c' : Nat) : Prop where
  le : c ≤ c'
  selects : statements.map SelectTree.select = selects
  formed : ∀ s ∈ statements, s.Formed d alwaysAlias
  perm : (own ++ statements.flatMap SelectTree.introduced).Perm (drawnAliases c c')

theorem drawnAliases_append {c c' c'' : Nat} (h : c ≤ c') (h' : c' ≤ c'') :
    drawnAliases c c' ++ drawnAliases c' c'' = drawnAliases c c'' := by
  unfold drawnAliases
  rw [← List.map_append]
  have hStart : c' = c + (c' - c) := by omega
  have hLength : c' - c + (c'' - c') = c'' - c := by omega
  rw [← hLength, ← List.range'_append_1, ← hStart]

namespace Accounts

variable {d : Dialect} {alwaysAlias : Bool} {statements statements' : List SelectTree}
  {selects selects' : List Select} {own own' : List String} {c c' c'' : Nat}

theorem nil (d : Dialect) (alwaysAlias : Bool) (c : Nat) :
    Accounts d alwaysAlias [] [] [] c c where
  le := Nat.le_refl c
  selects := rfl
  formed := by simp
  perm := by simp [drawnAliases]

theorem append (h : Accounts d alwaysAlias statements selects own c c')
    (h' : Accounts d alwaysAlias statements' selects' own' c' c'') :
    Accounts d alwaysAlias (statements ++ statements') (selects ++ selects') (own ++ own') c
      c'' where
  le := Nat.le_trans h.le h'.le
  selects := by rw [List.map_append, h.selects, h'.selects]
  formed := List.forall_mem_append.2 ⟨h.formed, h'.formed⟩
  perm := by
    rw [← drawnAliases_append h.le h'.le, List.flatMap_append]
    -- `own'` has to pass the statements of the first group
    refine List.Perm.trans ?_ (h.perm.append h'.perm)
    simp only [List.append_assoc]
    refine List.Perm.append_left own ?_
    rw [← List.append_assoc, ← List.append_assoc]
    exact List.Perm.append_right _ List.perm_append_comm

/-- An alias that is drawn first stands before all others. -/
theorem draw (h : Accounts d alwaysAlias statements selects own (c + 1) c') :
    Accounts d alwaysAlias statements selects (aliasName c :: own) c c' where
  le := Nat.le_of_succ_le h.le
  selects := h.selects
  formed := h.formed
  perm := by
    have hOne : drawnAliases c (c + 1) = [aliasName c] := by simp [drawnAliases]
    rw [← drawnAliases_append (Nat.le_succ c) h.le, hOne]
    exact h.perm.cons _

theorem drawIf {cx : Context} {needed : Bool}
    (h : Accounts d alwaysAlias statements selects own (cx.drawAliasIf needed).2.nextAlias c') :
    Accounts d alwaysAlias statements selects ((cx.drawAliasIf needed).1.toList ++ own)
      cx.nextAlias c' := by
  cases needed with
  | false => exact h
  | true => exact h.draw

/-- A statement introduces the aliases of its items. -/
theorem statement {t : SelectTree} (hFormed : t.Formed d alwaysAlias)
    (h : Accounts d alwaysAlias (statementsIn t.items) selects t.introduced c c') :
    Accounts d alwaysAlias t.statements (t.select :: selects) [] c c' where
  le := h.le
  selects := by
    cases t
    exact congrArg (_ :: ·) h.selects
  formed := by
    cases t
    exact List.forall_mem_cons.2 ⟨hFormed, h.formed⟩
  perm := by
    cases t
    exact h.perm

end Accounts

/-! ## Layouts -/

section Layouts

variable {d : Dialect} {nested : Renderer} {cx cx' : Context}

theorem joinLines_congr (h : cx.columnText = cx'.columnText) (steps : List JoinStep) :
    ∀ tables : List String, joinLines d cx steps tables = joinLines d cx' steps tables := by
  have hSql : Expr.sql d cx = Expr.sql d cx' := funext (Expr.sql_congr h)
  induction steps with
  | nil =>
      intro tables
      rw [joinLines, joinLines]
      · simp
      · simp
  | cons step steps ih =>
      intro tables
      cases tables with
      | nil => rfl
      | cons table tables => rw [joinLines, joinLines, hSql, ih]

namespace SelectPlan

variable (p : SelectPlan)

theorem clauses_congr (h : cx.columnText = cx'.columnText)
    (hFlag : cx.alwaysAlias = cx'.alwaysAlias) ( fromText : String) :
    p.clauses d cx fromText = p.clauses d cx' fromText := by
  have hSql : Expr.sql d cx = Expr.sql d cx' := funext (Expr.sql_congr h)
  have hNamed : Expr.namedSql d cx = Expr.namedSql d cx' := funext (Expr.namedSql_congr h hFlag)
  have hSorted : SortKey.sql d cx = SortKey.sql d cx' := by
    funext k
    rw [SortKey.sql, SortKey.sql, hSql]
  simp only [clauses, selectClause, whereClause, groupClause, orderClause, hSql, hNamed, hSorted]

/-- Contexts that write all columns alike lay statements out alike. -/
theorem layOut_congr (h : cx.columnText = cx'.columnText)
    (hFlag : cx.alwaysAlias = cx'.alwaysAlias) (chain : JoinChain) (texts : List String) :
    p.layOut d cx chain texts = p.layOut d cx' chain texts := by
  cases texts with
  | nil => rfl
  | cons first tables =>
      simp only [layOut, joinLines_congr h, p.clauses_congr h hFlag]

/-- The aliases drawn for a statement are those drawn for its items. -/
theorem nextAlias_render {chain : JoinChain} {items : List (ScopeEntry × String)}
    (hChain : JoinChain.ofRelation d p.source = .ok chain)
    (hItems : fromItems d nested (p.qualifies cx) cx chain.tables = (.ok items, cx')) :
    (p.render d nested cx).2.nextAlias = cx'.nextAlias := by
  rw [qualifies] at hItems
  rw [render_snd]
  unfold fromClause
  simp only [HasContext.context_self, HasContext.updateContext_self, hChain, hItems]
  -- neither opening nor closing a scope draws an alias
  split
  · rfl
  · rfl

/-- A statement is laid out over the texts of its items, in the scope of these: the scopes around it
and the aliases drawn so far leave no trace in its text. -/
theorem render_eq_layOut (hNested : nested.Progresses) {chain : JoinChain}
    {items : List (ScopeEntry × String)} (hChain : JoinChain.ofRelation d p.source = .ok chain)
    (hItems : fromItems d nested (p.qualifies cx) cx chain.tables = (.ok items, cx')) :
    (p.render d nested cx).1 =
      p.layOut d ((p.scope (items.map (·.1)) (p.qualifies cx)).alone cx.alwaysAlias) chain
        (items.map (·.2)) := by
  have hFlag := (reaches_fromItems (d := d) hNested (p.qualifies cx) chain.tables cx).flag
  rw [hItems] at hFlag
  let scope := p.scope (items.map (·.1)) (p.qualifies cx)
  have hColumns : (cx'.push scope).columnText = (scope.alone cx.alwaysAlias).columnText := rfl
  calc
    (p.render d nested cx).1 = p.layOut d (cx'.push scope) chain (items.map (·.2)) := by
      rw [qualifies] at hItems
      unfold render fromClause
      simp only [HasContext.context_self, HasContext.updateContext_self, hChain, hItems]
      cases items with
      | nil => rfl
      | cons first rest =>
          simp only [scope, List.map_cons, layOut, qualifies]
          cases joinLines d _ chain.steps (rest.map (·.2)) with
          | error e => rfl
          | ok joins => rfl
    _ = p.layOut d (scope.alone cx.alwaysAlias) chain (items.map (·.2)) :=
      p.layOut_congr hColumns hFlag chain _

theorem layOut_of_render {p : SelectPlan} {text : String} (hNested : nested.Progresses)
    (h : (p.render d nested cx).1 = .ok text) :
    ∃ chain items cx', JoinChain.ofRelation d p.source = .ok chain ∧
      fromItems d nested (p.qualifies cx) cx chain.tables = (.ok items, cx') ∧
      p.layOut d ((p.scope (items.map (·.1)) (p.qualifies cx)).alone cx.alwaysAlias) chain
        (items.map (·.2)) = .ok text := by
  rcases p.of_render h with ⟨chain, first, rest, -, cx', hChain, hItems, -, -⟩
  exact ⟨chain, first :: rest, cx', hChain, hItems,
    (p.render_eq_layOut hNested hChain hItems).symm.trans h⟩

end SelectPlan

/-! ## Written relations -/

/-- The tree is the layout of a relation's text, and accounts for the aliases drawn meanwhile. -/
structure SelectTree.LaysOut (t : SelectTree) (d : Dialect) (alwaysAlias : Bool) (r : Relation)
    (text : String) (selects : List Select) (c c' : Nat) : Prop where
  plan : SelectPlan.ofRelation r = .ok t.plan
  text : t.text d alwaysAlias = .ok text
  accounts : Accounts d alwaysAlias t.statements selects [] c c'

/-- A way of writing derived tables, each of which has a layout with the statements that `inner`
gives. -/
def Renderer.HasLayouts (nested : Renderer) (d : Dialect)
    (inner : Context → Relation → List Select) : Prop :=
  ∀ {cx r text}, (nested cx r).1 = .ok text → ∃ t : SelectTree,
    t.LaysOut d cx.alwaysAlias r text (inner cx r) cx.nextAlias (nested cx r).2.nextAlias

variable {inner : Context → Relation → List Select}

/-- What a table is written as. -/
theorem exists_item (hNested : nested.HasLayouts d inner) {table : Relation} {body : String}
    (h : (itemBody d nested cx table).1 = .ok body) (alias? : Option String) :
    ∃ item : FromItem, item.entry = ⟨table, alias?, table.columnNames⟩ ∧ item.Fits ∧
      item.text d cx.alwaysAlias = .ok (itemText body alias?) ∧
      Accounts d cx.alwaysAlias item.statements
        (match table.derived? with
          | some target => inner cx target
          | none => [])
        [] cx.nextAlias (itemBody d nested cx table).2.nextAlias := by
  have hNone (c : Nat) : Accounts d cx.alwaysAlias [] [] [] c c := .nil d cx.alwaysAlias c
  cases hDerived : table.derived? with
  | some target =>
      rw [itemBody_of_derived hDerived] at h ⊢
      rcases of_map_ok h with ⟨text, hText, rfl⟩
      rcases hNested hText with ⟨t, ht⟩
      refine ⟨.derived ⟨table, alias?, table.columnNames⟩ t, rfl, .derived hDerived ht.plan, ?_,
        ht.accounts⟩
      rw [FromItem.text, ht.text]
      rfl
  | none =>
      -- only names and queries are no derived tables
      cases table with
      | table id name schema =>
          exact ⟨.named _ body, rfl, .table alias? schema.names h, rfl, hNone _⟩
      | sqlQuery id query schema =>
          cases h
          exact ⟨.raw _ (Text.trim query), rfl, .query alias? schema.names, rfl, hNone _⟩
      | selfReference id target =>
          cases target with
          | table target name schema =>
              exact ⟨.named _ body, rfl, .view alias? schema.names h, rfl, hNone _⟩
          | _ => cases hDerived
      | _ => cases hDerived

/-- What the tables of a chain are written as. -/
theorem exists_items (hProgress : nested.Progresses) (hNested : nested.HasLayouts d inner)
    (qualify : Bool) {tables : List Relation} :
    ∀ {cx items}, (fromItems d nested qualify cx tables).1 = .ok items →
      ∃ trees : List FromItem, trees.map FromItem.entry = items.map (·.1) ∧
        textsOf d cx.alwaysAlias trees = .ok (items.map (·.2)) ∧
        (∀ item ∈ trees, item.Fits ∧ ∃ k, item.entry.alias? =
          if needsAlias qualify item.entry.relation then some (aliasName k) else none) ∧
        Accounts d cx.alwaysAlias (statementsIn trees)
          (itemSelects d nested inner qualify cx tables) (trees.filterMap (·.entry.alias?))
          cx.nextAlias (fromItems d nested qualify cx tables).2.nextAlias := by
  -- every item is written in the context that the one before it has left
  induction tables with
  | nil =>
      intro cx items h
      cases h
      exact ⟨[], rfl, rfl, by simp, .nil d cx.alwaysAlias cx.nextAlias⟩
  | cons table tables ih =>
      intro cx items h
      rcases of_fromItems_cons h with ⟨body, rest, hBody, hRest, rfl⟩
      -- the alias is drawn first, then the item is written, and then the others
      let drawn := (cx.drawAliasIf (needsAlias qualify table)).2
      have hDrawn : cx.Reaches drawn := .drawAliasIf cx _
      have hWritten := reaches_itemBody (d := d) hProgress drawn table
      rcases exists_item hNested hBody (cx.drawAliasIf (needsAlias qualify table)).1 with
        ⟨item, hEntry, hFits, hText, hItem⟩
      rcases ih hRest with ⟨trees, hEntries, hTexts, hTrees, hOthers⟩
      -- writing an item changes the counter only, so one flag holds for all of them
      rw [hWritten.flag, hDrawn.flag] at hTexts hOthers
      rw [hDrawn.flag] at hText hItem
      have hAll := hItem.append hOthers
      rw [fromItems_cons_snd_of_ok hBody]
      refine ⟨item :: trees, by simp [hEntry, hEntries], ?_, ?_, ?_⟩
      · rw [textsOf, hText, hTexts]
        rfl
      · refine List.forall_mem_cons.2 ⟨⟨hFits, cx.nextAlias, ?_⟩, hTrees⟩
        rw [hEntry]
        cases needsAlias qualify table with
        | true => rfl
        | false => rfl
      · have hOwn : (item :: trees).filterMap (·.entry.alias?) =
            (cx.drawAliasIf (needsAlias qualify table)).1.toList ++
              trees.filterMap (·.entry.alias?) := by
          rw [List.filterMap_cons, hEntry]
          cases (cx.drawAliasIf (needsAlias qualify table)).1 with
          | none => rfl
          | some a => rfl
        rw [hOwn]
        exact hAll.drawIf

/-- A statement whose derived tables have layouts has one. -/
theorem SelectPlan.exists_tree (hProgress : nested.Progresses) (hNested : nested.HasLayouts d inner)
    {r : Relation} {p : SelectPlan} {text : String} (hPlan : ofRelation r = .ok p)
    (h : (p.render d nested cx).1 = .ok text) :
    ∃ chain items cx', JoinChain.ofRelation d p.source = .ok chain ∧
      fromItems d nested (p.qualifies cx) cx chain.tables = (.ok items, cx') ∧
      ∃ t : SelectTree, t.LaysOut d cx.alwaysAlias r text
        (⟨p, chain, p.scope (items.map (·.1)) (p.qualifies cx)⟩ ::
          itemSelects d nested inner (p.qualifies cx) cx chain.tables)
        cx.nextAlias (p.render d nested cx).2.nextAlias := by
  rcases layOut_of_render hProgress h with ⟨chain, items, cx', hChain, hItems, hText⟩
  have hItems' := congrArg Prod.fst hItems
  rcases exists_items hProgress hNested (p.qualifies cx) hItems' with
    ⟨trees, hEntries, hTexts, hTrees, hAccounts⟩
  have hTables := (relations_fromItems (p.qualifies cx) hItems').1
  let t : SelectTree := .mk p chain (p.qualifies cx) trees
  have hFormed : t.Formed d cx.alwaysAlias := by
    refine ⟨rfl, hChain, ?_, fun item hItem => (hTrees item hItem).1,
      fun item hItem => (hTrees item hItem).2⟩
    calc
      trees.map (·.entry.relation) = (trees.map FromItem.entry).map (·.relation) := by simp
      _ = (items.map (·.1)).map (·.relation) := by rw [hEntries]
      _ = items.map (·.1.relation) := by simp
      _ = chain.tables := hTables
  rw [hItems] at hAccounts
  refine ⟨chain, items, cx', hChain, hItems, t, hPlan, ?_, ?_⟩
  · rw [SelectTree.text, hTexts, hEntries]
    exact hText
  · have hSelect : t.select = ⟨p, chain, p.scope (items.map (·.1)) (p.qualifies cx)⟩ := by
      rw [← hEntries]
      rfl
    rw [p.nextAlias_render hChain hItems, ← hSelect]
    exact hAccounts.statement hFormed

/-- Every statement has a layout, by induction on how deep statements may stand in one another. -/
theorem hasLayouts_statement (d : Dialect) :
    ∀ allowance, (statement d allowance).HasLayouts d (selects d allowance) := by
  intro allowance
  induction allowance with
  | zero =>
      intro cx r text h
      cases h
  | succ allowance ih =>
      intro cx r text h
      rcases of_statement h with ⟨p, hPlan, hText⟩
      rcases p.exists_tree (progresses_statement d allowance) ih hPlan hText with
        ⟨chain, items, cx', hChain, hItems, hTree⟩
      have hSelects : selects d (allowance + 1) cx r =
          ⟨p, chain, p.scope (items.map (·.1)) (p.qualifies cx)⟩ ::
            itemSelects d (statement d allowance) (selects d allowance) (p.qualifies cx) cx
              chain.tables := by
        rw [selects]
        simp only [hPlan, hChain, hItems]
      rw [hSelects, statement]
      simp only [hPlan]
      exact hTree

end Layouts

end TableQuery
