import TableQuery.Proofs.Scope.Sound
import TableQuery.Proofs.Sql.Tree

/-!
# Alias — who has a name, and where it can be used

The aliases of a text are the ones its generator has drawn for it, each introduced by one item. A
statement refers to nothing but its own items: by their aliases if its columns are qualified, and
without any alias if they are not. An item in parentheses has an alias, unless it is a view of a
view of a table that stands alone.
-/

namespace TableQuery

/-! ## The aliases of a text -/

theorem mem_drawnAliases {c c' : Nat} {a : String} :
    a ∈ drawnAliases c c' ↔ ∃ k, c ≤ k ∧ k < c' ∧ a = aliasName k := by
  unfold drawnAliases
  rw [List.mem_map]
  simp only [List.mem_range'_1]
  constructor
  · rintro ⟨k, ⟨hFrom, hTo⟩, rfl⟩
    exact ⟨k, hFrom, by omega, rfl⟩
  · rintro ⟨k, hFrom, hTo, rfl⟩
    exact ⟨k, ⟨hFrom, by omega⟩, rfl⟩

theorem nodup_drawnAliases (c c' : Nat) : (drawnAliases c c').Nodup :=
  List.Nodup.map (fun _ _ => aliasName_inj) List.nodup_range'

namespace SelectTree

variable {t : SelectTree} {d : Dialect} {alwaysAlias : Bool} {r : Relation} {text : String}
  {selects : List Select} {c c' : Nat}

/-- The statement writes its own outputs by their bare names, and every other column as one of its
own items: behind the alias of the item if columns are qualified, and by its bare name if not. -/
def RefersToOwn (t : SelectTree) (d : Dialect) : Prop :=
  ∀ ref ∈ t.select.references d,
    if t.scope.isOutput ref then t.scope.columnText ref = .ok (Identifier.quote ref.name)
    else
      ∃ item ∈ t.items, t.scope.resolve ref = .ok item.entry ∧
        if t.qualify then
          ∃ a, item.entry.alias? = some a ∧
            t.scope.columnText ref = .ok (a ++ "." ++ Identifier.quote ref.name)
        else t.scope.columnText ref = .ok (Identifier.quote ref.name)

theorem refersToOwn_of_wellScoped (h : t.select.WellScoped d r) : t.RefersToOwn d := by
  intro ref hRef
  rcases h.written ref hRef with ⟨text, hText⟩
  have hScope : t.select.scope = t.scope := rfl
  rw [hScope] at hText
  split
  · next hOwn =>
    rw [Scope.columnText, if_pos hOwn] at hText ⊢
    rw [hText, Identifier.safe_eq_ok hText]
  · next hOther =>
    rcases Scope.of_columnText (by simpa using hOther) hText with
      ⟨entry, hResolve, hBare, hQualified⟩
    have hEntry := (Scope.mem_of_resolve hResolve).1
    rcases List.mem_map.1 hEntry with ⟨item, hItem, rfl⟩
    refine ⟨item, hItem, hResolve, ?_⟩
    split
    · next hQualify =>
      rcases h.distinguished.named hQualify item.entry hEntry with ⟨k, hAlias⟩
      exact ⟨aliasName k, hAlias, by rw [hText, hQualified hQualify _ hAlias]⟩
    · next hQualify =>
      have hNot : t.select.scope.qualify = false := Bool.eq_false_iff.2 hQualify
      rw [hText, hBare hNot]

end SelectTree

/-- The text of a relation is laid out as a tree of statements. The aliases in it are those that the
generator has drawn, each introduced once, and every statement refers to its own items only. -/
theorem Generator.aliases_drawn {g : Generator} {r : Relation} {text : String}
    (h : (g.statement r).1 = .ok text) :
    ∃ t : SelectTree, t.text g.dialect g.context.alwaysAlias = .ok text ∧
      SelectPlan.ofRelation r = .ok t.plan ∧
      t.aliases.Nodup ∧ g.context.nextAlias ≤ (g.statement r).2.context.nextAlias ∧
      (∀ a, a ∈ t.aliases ↔ ∃ k, g.context.nextAlias ≤ k ∧
        k < (g.statement r).2.context.nextAlias ∧ a = aliasName k) ∧
      ∀ s ∈ t.statements, s.Formed g.dialect g.context.alwaysAlias ∧ s.RefersToOwn g.dialect := by
  rw [g.statement_eq_lift r] at h ⊢
  have hText : (TableQuery.statement g.dialect g.allowance g.context r).1 = .ok text := h
  rcases hasLayouts_statement g.dialect g.allowance hText with ⟨t, ht⟩
  have hAliases : t.aliases.Perm (drawnAliases g.context.nextAlias
      (g.lift (TableQuery.statement g.dialect g.allowance g.context r)).2.context.nextAlias) :=
    ht.accounts.perm
  refine ⟨t, ht.text, ht.plan, ?_, ht.accounts.le, ?_, ?_⟩
  · exact hAliases.nodup_iff.2 (nodup_drawnAliases _ _)
  · intro a
    rw [hAliases.mem_iff]
    exact mem_drawnAliases
  · intro s hs
    have hSelect : s.select ∈
        selects g.dialect g.allowance g.context r := by
      rw [← ht.accounts.selects]
      exact List.mem_map_of_mem hs
    exact ⟨ht.accounts.formed s hs,
      SelectTree.refersToOwn_of_wellScoped (wellScoped_of_statement hText hSelect)⟩

/-- A generator that has drawn three aliases already. -/
def Generator.later : Generator :=
  ⟨Dialect.standard, ⟨false, 3, []⟩, 0⟩

theorem Generator.aliases_drawn_joinedFirstRows :
    ∃ text, (later.statement Relation.joinedFirstRows).1 = .ok text ∧
      text = "SELECT *\nFROM t t3\n" ++
        "  JOIN (\n    SELECT a\n    FROM u\n    LIMIT 5\n  ) t4\n    ON t3.a = t4.a" ∧
      ∃ t : SelectTree, t.text Dialect.standard false = .ok text ∧ t.aliases.Nodup ∧
        ∀ a, a ∈ t.aliases ↔ a = "t3" ∨ a = "t4" := by
  have hText : (later.statement Relation.joinedFirstRows).1 = .ok ("SELECT *\nFROM t t3\n" ++
      "  JOIN (\n    SELECT a\n    FROM u\n    LIMIT 5\n  ) t4\n    ON t3.a = t4.a") := by
    decide +kernel
  have hNext : (later.statement Relation.joinedFirstRows).2.context.nextAlias = 5 := by
    decide +kernel
  rcases aliases_drawn hText with ⟨t, hTree, -, hNodup, -, hAliases, -⟩
  refine ⟨_, hText, rfl, t, hTree, hNodup, ?_⟩
  intro a
  rw [hAliases, hNext]
  constructor
  · rintro ⟨k, hFrom, hTo, rfl⟩
    have hFrom : 3 ≤ k := hFrom
    obtain rfl | rfl : k = 3 ∨ k = 4 := by omega
    · exact .inl rfl
    · exact .inr rfl
  · rintro (rfl | rfl)
    · exact ⟨3, Nat.le_refl 3, by decide, rfl⟩
    · exact ⟨4, by decide, by decide, rfl⟩

/-! ## Items in parentheses -/

/-- Whether the item is written as a statement or a query in parentheses. -/
def FromItem.isParenthesised : FromItem → Bool
  | .named .. => false
  | .raw .. | .derived .. => true

/-- Whether the relation is a view of a view of a table, or of more views of one. -/
def Relation.isNestedView : Relation → Bool
  | .selfReference _ (.selfReference _ target) => target.isBaseTable
  | _ => false

section Parenthesised

variable {d : Dialect} {alwaysAlias : Bool}

mutual

/-- A statement has a text only if all statements inside it have one. -/
theorem SelectTree.exists_text_of_mem (t : SelectTree) {text : String}
    (h : t.text d alwaysAlias = .ok text) {s : SelectTree} (hs : s ∈ t.statements) :
    ∃ inner, s.text d alwaysAlias = .ok inner := by
  match t with
  | .mk plan chain qualify items =>
      rw [SelectTree.statements] at hs
      rcases List.mem_cons.1 hs with rfl | hs
      · exact ⟨text, h⟩
      · rw [SelectTree.text] at h
        split at h
        · cases h
        · next texts hTexts => exact exists_text_of_mem_statementsIn items hTexts hs

theorem FromItem.exists_text_of_mem (item : FromItem) {text : String}
    (h : item.text d alwaysAlias = .ok text) {s : SelectTree} (hs : s ∈ item.statements) :
    ∃ inner, s.text d alwaysAlias = .ok inner := by
  match item with
  | .named entry name => cases hs
  | .raw entry query => cases hs
  | .derived entry inner =>
      rw [FromItem.text] at h
      rcases of_map_ok h with ⟨innerText, hInner, -⟩
      exact SelectTree.exists_text_of_mem inner hInner hs

theorem exists_text_of_mem_statementsIn (items : List FromItem) {texts : List String}
    (h : textsOf d alwaysAlias items = .ok texts) {s : SelectTree} (hs : s ∈ statementsIn items) :
    ∃ inner, s.text d alwaysAlias = .ok inner := by
  match items with
  | [] => cases hs
  | item :: items =>
      rw [textsOf] at h
      split at h
      · cases h
      · next text hText =>
        rcases of_map_ok h with ⟨rest, hRest, -⟩
        rcases List.mem_append.1 hs with hHere | hThere
        · exact FromItem.exists_text_of_mem item hText hHere
        · exact exists_text_of_mem_statementsIn items hRest hThere

end

theorem exists_text_of_textsOf {items : List FromItem} {texts : List String}
    (h : textsOf d alwaysAlias items = .ok texts) {item : FromItem} (hItem : item ∈ items) :
    ∃ text, item.text d alwaysAlias = .ok text := by
  induction items generalizing texts with
  | nil => cases hItem
  | cons first items ih =>
      rw [textsOf] at h
      split at h
      · cases h
      · next text hText =>
        rcases of_map_ok h with ⟨rest, hRest, -⟩
        rcases List.mem_cons.1 hItem with rfl | hItem
        · exact ⟨text, hText⟩
        · exact ih hRest hItem

theorem SelectTree.exists_text_of_mem_items {t : SelectTree} {text : String}
    (h : t.text d alwaysAlias = .ok text) {item : FromItem} (hItem : item ∈ t.items) :
    ∃ itemText, item.text d alwaysAlias = .ok itemText := by
  cases t with
  | mk plan chain qualify items =>
      rw [SelectTree.text] at h
      split at h
      · cases h
      · next texts hTexts => exact exists_text_of_textsOf hTexts hItem

/-- An item in parentheses is a derived table or a query with what its alias adds. -/
theorem FromItem.text_of_isParenthesised {item : FromItem} {text : String}
    (h : item.text d alwaysAlias = .ok text) (hParens : item.isParenthesised = true) :
    ∃ inner, text = itemText (parenthesised d inner) item.entry.alias? := by
  cases item with
  | named => cases hParens
  | raw entry query =>
      cases h
      exact ⟨query, rfl⟩
  | derived entry inner =>
      rw [FromItem.text] at h
      rcases of_map_ok h with ⟨innerText, -, rfl⟩
      exact ⟨innerText, rfl⟩

/-- The only items in parentheses that count as base tables are views of views. -/
theorem FromItem.Fits.isBaseTable_eq {item : FromItem} (h : item.Fits)
    (hParens : item.isParenthesised = true) :
    item.entry.relation.isBaseTable = item.entry.relation.isNestedView := by
  cases h with
  | table | view => cases hParens
  | query => rfl
  | @derived entry target inner hTarget hPlan =>
      change entry.relation.isBaseTable = entry.relation.isNestedView
      cases hRelation : entry.relation with
      | selfReference id inner =>
          cases inner with
          | table =>
              rw [hRelation] at hTarget
              cases hTarget
          | _ => rfl
      | table =>
          rw [hRelation] at hTarget
          cases hTarget
      | _ => rfl

/-- The text in parentheses is followed by an alias, or ends the item if the item is a view of a
view of a table whose columns are not qualified. -/
theorem SelectTree.Formed.alias_of_isParenthesised {s : SelectTree} {text : String}
    (h : s.Formed d alwaysAlias) (hText : s.text d alwaysAlias = .ok text) {item : FromItem}
    (hItem : item ∈ s.items) (hParens : item.isParenthesised = true) :
    ∃ inner,
      if s.qualify = false ∧ item.entry.relation.isNestedView = true then
        item.text d alwaysAlias = .ok (parenthesised d inner)
      else ∃ k, item.text d alwaysAlias = .ok (parenthesised d inner ++ " " ++ aliasName k) := by
  rcases exists_text_of_mem_items hText hItem with ⟨itemText, hItemText⟩
  rcases FromItem.text_of_isParenthesised hItemText hParens with ⟨inner, rfl⟩
  rcases h.aliases item hItem with ⟨k, hAlias⟩
  have hBase := (h.fits item hItem).isBaseTable_eq hParens
  refine ⟨inner, ?_⟩
  rw [needsAlias, hBase] at hAlias
  split
  · next hBare =>
    rw [hBare.1, hBare.2] at hAlias
    rw [hItemText, hAlias]
    rfl
  · next hNamed =>
    have hNeeded : (s.qualify || !item.entry.relation.isNestedView) = true := by
      cases hQualify : s.qualify with
      | true => rfl
      | false => simpa [hQualify] using hNamed
    rw [hNeeded] at hAlias
    exact ⟨k, by rw [hItemText, hAlias]; rfl⟩

end Parenthesised

/-- In a compiled text, every item in parentheses is followed by an alias, except for a view of a
view of a table in a statement whose columns are not qualified: that one never is. -/
theorem Dialect.aliased_of_compile {d : Dialect} {r : Relation} {text : String}
    (h : d.compile r = .ok text) :
    ∃ t : SelectTree, t.text d d.alwaysAlias = .ok text ∧ SelectPlan.ofRelation r = .ok t.plan ∧
      ∀ s ∈ t.statements, s.Formed d d.alwaysAlias ∧
        ∀ item ∈ s.items, item.isParenthesised = true → ∃ inner,
          if s.qualify = false ∧ item.entry.relation.isNestedView = true then
            item.text d d.alwaysAlias = .ok (parenthesised d inner)
          else
            ∃ k, item.text d d.alwaysAlias = .ok (parenthesised d inner ++ " " ++ aliasName k) := by
  rcases hasLayouts_statement d (d.maxDepth + 1) (of_compile h) with ⟨t, ht⟩
  refine ⟨t, ht.text, ht.plan, ?_⟩
  intro s hs
  have hFormed := ht.accounts.formed s hs
  rcases t.exists_text_of_mem ht.text hs with ⟨inner, hInner⟩
  exact ⟨hFormed, fun item hItem hParens => hFormed.alias_of_isParenthesised hInner hItem hParens⟩

/-- A view of a table, and a view of that. -/
def Relation.viewOfView : Relation :=
  .selfReference 3 (.selfReference 2 (.table 1 "t" ⟨[⟨"a", .string, true⟩]⟩))

/-- Alone in its clause, a view of a view of a table is a derived table without an alias. -/
theorem Dialect.unaliased_viewOfView :
    standard.compile Relation.viewOfView = .ok "SELECT *\nFROM (\n  SELECT *\n  FROM t\n)" := by
  decide +kernel

theorem Dialect.aliased_of_compile_viewOfView :
    ∃ text, standard.compile Relation.viewOfView = .ok text ∧
      ∃ t : SelectTree, t.text standard false = .ok text ∧ ∃ item ∈ t.items, ∃ inner,
        item.text standard false = .ok (parenthesised standard inner) := by
  have hText : standard.compile Relation.viewOfView =
      .ok "SELECT *\nFROM (\n  SELECT *\n  FROM t\n)" := by
    decide +kernel
  rcases aliased_of_compile hText with ⟨t, hTree, hPlan, hStatements⟩
  have hMem : t ∈ t.statements := by
    cases t
    exact List.mem_cons_self
  rcases hStatements t hMem with ⟨hFormed, hItems⟩
  -- the view is the only item, and its columns are not qualified
  have hPlan : SelectPlan.ofSource Relation.viewOfView = t.plan := Except.ok.inj hPlan
  have hQualify := hFormed.qualify
  have hChain := hFormed.chain
  have hTables := hFormed.tables
  rw [← hPlan] at hQualify hChain
  rw [← Except.ok.inj hChain] at hTables
  rcases List.map_eq_singleton_iff.1 hTables with ⟨item, hSingle, hRelation⟩
  have hItem : item ∈ t.items := by simp [hSingle]
  have hParens : item.isParenthesised = true := by
    cases hFormed.fits item hItem with
    | table | view => cases hRelation
    | query | derived => rfl
  rcases hItems item hItem hParens with ⟨inner, hInner⟩
  rw [if_pos ⟨hQualify, by rw [hRelation]; rfl⟩] at hInner
  exact ⟨_, hText, t, hTree, item, hItem, inner, hInner⟩

end TableQuery
