import Mathlib.Data.List.Induction
import TableQuery.Proofs.Scope.Alias

/-!
# Chain — join trees and the `FROM` clauses they are written as

A join tree is unravelled into a chain of tables, and the chain keeps all of it: the tables, their
joins and the conditions of these can be put together again, from the left, into the very tree
(`JoinChain.ofRelation_eq_ok_iff`). Joins of SQL associate to the left as well, so the clause that a
chain is written as denotes what the tree denotes, whatever tables hold and joins do.
-/

namespace TableQuery

/-! ## Chains and trees -/

/-- Joins tables to a first one, each to all that stand before it. Every list has one place for each
join. -/
def Relation.joinedTo : Relation → List Nat → List JoinKind → List Relation → List (List Expr) →
    Relation
  | left, id :: ids, kind :: kinds, right :: tables, conditions :: more =>
    joinedTo (.join id kind left right conditions) ids kinds tables more
  | left, _, _, _, _ => left

namespace JoinChain

variable {d : Dialect} {r : Relation} {c : JoinChain}

/-- The identities of the joins, from left to right. -/
def ids (c : JoinChain) : List Nat :=
  c.steps.map (·.id)

/-- The kinds of the joins, from left to right. -/
def kinds (c : JoinChain) : List JoinKind :=
  c.steps.map (·.kind)

/-- The conditions of the joins, from left to right. -/
def predicates (c : JoinChain) : List (List Expr) :=
  c.steps.map (·.predicates)

theorem toRelation_append (c : JoinChain) (s : JoinStep) :
    (c.append s).toRelation = .join s.id s.kind c.toRelation s.table s.predicates := by
  simp [toRelation, append]

/-- The tree of a chain, from the lists of its parts. -/
theorem joinedTo_eq_toRelation (c : JoinChain) :
    c.first.joinedTo c.ids c.kinds c.tables.tail c.predicates = c.toRelation := by
  rcases c with ⟨first, steps⟩
  simp only [ids, kinds, predicates, tables, toRelation, List.tail_cons]
  -- by induction on the joins, with the tree that is on their left
  induction steps generalizing first with
  | nil => simp [Relation.joinedTo]
  | cons s steps ih => exact ih (.join s.id s.kind first s.table s.predicates)

/-- A dialect takes the chain: no table of it is a join, and each join can be written. -/
structure Taken (c : JoinChain) (d : Dialect) : Prop where
  first : c.first.isJoin = false
  steps : ∀ s ∈ c.steps, d.Joins s.kind s.table s.predicates

theorem Taken.append {s : JoinStep} (h : c.Taken d) (hStep : d.Joins s.kind s.table s.predicates) :
    (c.append s).Taken d where
  first := h.first
  steps := by
    intro s' hs
    rcases List.mem_append.1 hs with hOld | hNew
    · exact h.steps s' hOld
    · rw [List.mem_singleton.1 hNew]
      exact hStep

theorem Taken.isJoin_eq_false (h : c.Taken d) : ∀ t ∈ c.tables, t.isJoin = false := by
  intro t ht
  rcases List.mem_cons.1 ht with rfl | ht
  · exact h.first
  · rcases List.mem_map.1 ht with ⟨s, hs, rfl⟩
    exact (h.steps s hs).right

/-- What is no join is a chain of one table. -/
theorem ofRelation_of_not_isJoin (h : r.isJoin = false) : ofRelation d r = .ok ⟨r, []⟩ := by
  cases r with
  | join => cases h
  | _ => rfl

/-- A join is taken after all that is on its left. -/
theorem ofRelation_join {id : Nat} {kind : JoinKind} {left right : Relation}
    {predicates : List Expr} (hLeft : ofRelation d left = .ok c)
    (hJoins : d.Joins kind right predicates) :
    ofRelation d (.join id kind left right predicates) =
      .ok (c.append ⟨id, kind, right, predicates⟩) := by
  rcases hJoins.label with ⟨label, hLabel⟩
  simp only [ofRelation, hJoins.right, hJoins.predicates, hLabel, hLeft]
  rfl

theorem of_ofRelation (h : ofRelation d r = .ok c) : c.toRelation = r ∧ c.Taken d := by
  induction r generalizing c with
  | join id kind left right predicates ihLeft _ =>
      rcases of_ofRelation_join h with ⟨hJoins, c', hLeft, rfl⟩
      rcases ihLeft hLeft with ⟨hTree, hTaken⟩
      refine ⟨?_, hTaken.append hJoins⟩
      rw [toRelation_append, hTree]
  | _ =>
      cases h
      exact ⟨rfl, ⟨rfl, by simp⟩⟩

theorem ofRelation_toRelation (h : c.Taken d) : ofRelation d c.toRelation = .ok c := by
  rcases c with ⟨first, steps⟩
  induction steps using List.reverseRecOn with
  | nil => exact ofRelation_of_not_isJoin h.first
  | append_singleton steps s ih =>
      -- the last join of the chain is the root of the tree
      have hLeft : ofRelation d (toRelation ⟨first, steps⟩) = .ok ⟨first, steps⟩ :=
        ih ⟨h.first, fun s' hs => h.steps s' (List.mem_append_left _ hs)⟩
      have hLast : d.Joins s.kind s.table s.predicates :=
        h.steps s (List.mem_append_right _ (List.mem_singleton.2 rfl))
      have hTree := toRelation_append ⟨first, steps⟩ s
      calc
        ofRelation d (toRelation ⟨first, steps ++ [s]⟩)
          = ofRelation d (.join s.id s.kind (toRelation ⟨first, steps⟩) s.table s.predicates) :=
            congrArg (ofRelation d) hTree
        _ = .ok ⟨first, steps ++ [s]⟩ := ofRelation_join hLeft hLast

/-- Unravelling a tree and putting a chain together are inverse to each other: a tree is unravelled
into a chain exactly if the chain is put together into the tree, and the dialect takes it. -/
theorem ofRelation_eq_ok_iff : ofRelation d r = .ok c ↔ c.toRelation = r ∧ c.Taken d := by
  constructor
  · exact of_ofRelation
  · rintro ⟨rfl, hTaken⟩
    exact ofRelation_toRelation hTaken

end JoinChain

/-! ## Chains in a text -/

universe u

/-- What a join tree denotes, if other relations denote what `leaf` says and the joins of a kind do
what `join` says. -/
def Relation.denoteJoins {α : Type u} (leaf : Relation → α)
    (join : JoinKind → α → α → List Expr → α) : Relation → α
  | .join _ kind left right predicates =>
    join kind (left.denoteJoins leaf join) (right.denoteJoins leaf join) predicates
  | r => leaf r

/-- A joined table as it is written, behind a keyword, and the conditions of its join. -/
structure JoinLine where
  keyword : String
  item : FromItem
  table : String
  predicates : List Expr
  conditions : List String

/-- A `FROM` clause: a first item and the lines of those that are joined to it. -/
structure FromChain where
  first : FromItem
  firstText : String
  lines : List JoinLine

def JoinLine.text (d : Dialect) (l : JoinLine) : String :=
  "\n" ++ Text.indent d.indent (l.keyword ++ " " ++ l.table) ++ "\n" ++
    Text.indent (2 * d.indent) (onText l.conditions)

namespace FromChain

def text (d : Dialect) (f : FromChain) : String :=
  "FROM " ++ f.firstText ++ String.join (f.lines.map (·.text d))

def items (f : FromChain) : List FromItem :=
  f.first :: f.lines.map (·.item)

/-- What the clause denotes: every line joins its table to all that stand before it. -/
def denote {α : Type u} (leaf : Relation → α) (join : String → α → α → List Expr → α)
    (f : FromChain) : α :=
  f.lines.foldl (fun left l => join l.keyword left (leaf l.item.entry.relation) l.predicates)
    (leaf f.first.entry.relation)

end FromChain

/-- The line is what a step of a chain is written as. -/
structure JoinLine.Writes (l : JoinLine) (d : Dialect) (cx : Context) (s : JoinStep) : Prop where
  keyword : d.joinLabel s.kind = .ok l.keyword
  table : l.item.entry.relation = s.table
  text : l.item.text d cx.alwaysAlias = .ok l.table
  predicates : l.predicates = s.predicates
  conditions : s.predicates.mapM (Expr.sql d cx) = .ok l.conditions

/-- The clause is what a chain is written as, each step by one line. -/
structure FromChain.Writes (f : FromChain) (d : Dialect) (cx : Context) (c : JoinChain) : Prop where
  first : f.first.entry.relation = c.first
  text : f.first.text d cx.alwaysAlias = .ok f.firstText
  lines : List.Forall₂ (fun l s => l.Writes d cx s) f.lines c.steps

section Lines

variable {d : Dialect} {cx : Context}

/-- The texts of joined tables are the texts of as many lines. -/
theorem exists_lines {steps : List JoinStep} : ∀ {items : List FromItem} {tables joins},
    items.map (·.entry.relation) = steps.map (·.table) →
    textsOf d cx.alwaysAlias items = .ok tables → joinLines d cx steps tables = .ok joins →
    ∃ lines : List JoinLine, lines.map (·.item) = items ∧
      List.Forall₂ (fun l s => l.Writes d cx s) lines steps ∧
      joins = String.join (lines.map (·.text d)) := by
  induction steps with
  | nil =>
      intro items tables joins hTables hTexts hJoins
      have hNone : items = [] := by simpa using hTables
      subst hNone
      cases hTexts
      cases hJoins
      exact ⟨[], rfl, .nil, rfl⟩
  | cons s steps ih =>
      intro items tables joins hTables hTexts hJoins
      cases items with
      | nil => cases hTables
      | cons item items =>
          rw [List.map_cons, List.map_cons, List.cons.injEq] at hTables
          rw [textsOf] at hTexts
          split at hTexts
          · cases hTexts
          · next table hTable =>
            rcases of_map_ok hTexts with ⟨rest, hRest, rfl⟩
            rcases of_joinLines_cons hJoins with ⟨label, ps, more, hLabel, hPs, hMore, rfl⟩
            rcases ih hTables.2 hRest hMore with ⟨lines, rfl, hLines, rfl⟩
            let line : JoinLine := ⟨label, item, table, s.predicates, ps⟩
            have hLine : line.Writes d cx s := ⟨hLabel, hTables.1, hTable, rfl, hPs⟩
            refine ⟨line :: lines, rfl, .cons hLine hLines, ?_⟩
            simp [line, JoinLine.text, String.join_cons]

/-- The keyword that stands for a kind of joins. -/
def Dialect.keyword (d : Dialect) (kind : JoinKind) : String :=
  (d.joinLabel? kind).getD ""

theorem Dialect.keyword_of_joinLabel {kind : JoinKind} {label : String}
    (h : d.joinLabel kind = .ok label) : d.keyword kind = label := by
  unfold joinLabel at h
  split at h
  · next hLabel =>
    cases h
    rw [keyword, hLabel]
    rfl
  · cases h

/-- The keywords and conditions of the lines are those of the chain, in order. -/
theorem FromChain.Writes.kinds {f : FromChain} {c : JoinChain} (h : f.Writes d cx c) :
    f.lines.map (·.keyword) = c.kinds.map d.keyword ∧
      f.lines.map (·.predicates) = c.predicates := by
  rcases f with ⟨first, firstText, lines⟩
  rcases c with ⟨head, steps⟩
  have hLines := h.lines
  clear h
  simp only [JoinChain.kinds, JoinChain.predicates, List.map_map] at hLines ⊢
  induction hLines with
  | nil => exact ⟨rfl, rfl⟩
  | cons hLine _ ih =>
      refine ⟨?_, ?_⟩
      · simp only [List.map_cons, ih.1, Function.comp_apply,
          Dialect.keyword_of_joinLabel hLine.keyword]
      · simp only [List.map_cons, ih.2, hLine.predicates]

/-- What is no join denotes what a leaf does. -/
theorem Relation.denoteJoins_of_not_isJoin {α : Type u} {leaf : Relation → α}
    {join : JoinKind → α → α → List Expr → α} {t : Relation} (h : t.isJoin = false) :
    t.denoteJoins leaf join = leaf t := by
  cases t with
  | join => cases h
  | _ => rfl

/-- Lines that are read after what a tree denotes denote what the tree does with their steps. -/
theorem denote_lines {α : Type u} (leaf : Relation → α) (join : String → α → α → List Expr → α)
    {lines : List JoinLine} {steps : List JoinStep}
    (h : List.Forall₂ (fun l s => l.Writes d cx s) lines steps)
    (hSteps : ∀ s ∈ steps, d.Joins s.kind s.table s.predicates) (tree : Relation) :
    lines.foldl (fun left l => join l.keyword left (leaf l.item.entry.relation) l.predicates)
        (tree.denoteJoins leaf (fun kind => join (d.keyword kind))) =
      (steps.foldl (fun left s => .join s.id s.kind left s.table s.predicates) tree).denoteJoins
        leaf (fun kind => join (d.keyword kind)) := by
  -- by induction on the lines, with the tree that is on their left
  induction h generalizing tree with
  | nil => rfl
  | @cons l s lines steps hLine _ ih =>
      have hStep := hSteps s List.mem_cons_self
      have hJoin : join l.keyword (tree.denoteJoins leaf (fun kind => join (d.keyword kind)))
          (leaf l.item.entry.relation) l.predicates =
            (Relation.join s.id s.kind tree s.table s.predicates).denoteJoins leaf
              (fun kind => join (d.keyword kind)) := by
        rw [Relation.denoteJoins, Relation.denoteJoins_of_not_isJoin hStep.right, hLine.table,
          hLine.predicates, Dialect.keyword_of_joinLabel hLine.keyword]
      rw [List.foldl_cons, List.foldl_cons, hJoin]
      exact ih (fun s' hs => hSteps s' (List.mem_cons_of_mem _ hs)) _

/-- The clause denotes the tree that its chain is put together into. -/
theorem FromChain.Writes.denote {α : Type u} (leaf : Relation → α)
    (join : String → α → α → List Expr → α) {f : FromChain} {c : JoinChain} (h : f.Writes d cx c)
    (hTaken : c.Taken d) :
    f.denote leaf join = c.toRelation.denoteJoins leaf (fun kind => join (d.keyword kind)) := by
  have hFirst : leaf f.first.entry.relation =
      c.first.denoteJoins leaf (fun kind => join (d.keyword kind)) := by
    rw [h.first, Relation.denoteJoins_of_not_isJoin hTaken.first]
  rw [FromChain.denote, hFirst]
  exact denote_lines leaf join h.lines hTaken.steps c.first

end Lines

/-- A statement with a text is written over a clause that its chain is written as. -/
theorem SelectTree.exists_fromChain {d : Dialect} {alwaysAlias : Bool} {s : SelectTree}
    {text : String} (hFormed : s.Formed d alwaysAlias) (h : s.text d alwaysAlias = .ok text) :
    ∃ f : FromChain, f.items = s.items ∧ f.Writes d (s.scope.alone alwaysAlias) s.chain ∧
      s.plan.clauses d (s.scope.alone alwaysAlias) (f.text d) = .ok text := by
  cases s with
  | mk plan chain qualify items =>
      have hTables : items.map (·.entry.relation) = chain.tables := hFormed.tables
      rw [SelectTree.text] at h
      split at h
      · cases h
      · next texts hTexts =>
        cases items with
        | nil => cases hTables
        | cons first items =>
            rw [JoinChain.tables, List.map_cons, List.cons.injEq] at hTables
            rw [textsOf] at hTexts
            split at hTexts
            · cases hTexts
            · next firstText hFirst =>
              rcases of_map_ok hTexts with ⟨tables, hRest, rfl⟩
              rw [SelectPlan.layOut] at h
              split at h
              · cases h
              · next joins hJoins =>
                rcases exists_lines hTables.2 hRest hJoins with ⟨lines, hItems, hLines, rfl⟩
                refine ⟨⟨first, firstText, lines⟩, ?_, ⟨hTables.1, hFirst, hLines⟩, h⟩
                exact congrArg (first :: ·) hItems

/-- Nothing of a join tree is lost. The tables of its chain are one more than the kinds and the
conditions, none of them is a join, and joined to one another from the left they are the tree again.
In a compiled text every statement is written over such a clause, one line for each join of the tree
that it selects from, with the keyword, the table and the conditions of that join: read from the
left, the clause denotes the tree, whatever tables hold and keywords do. -/
theorem Dialect.joins_kept (d : Dialect) :
    (∀ r c, JoinChain.ofRelation d r = .ok c →
      c.tables.length = c.kinds.length + 1 ∧ c.tables.length = c.predicates.length + 1 ∧
        (∀ t ∈ c.tables, t.isJoin = false) ∧
        c.first.joinedTo c.ids c.kinds c.tables.tail c.predicates = r) ∧
    ∀ r text, d.compile r = .ok text → ∃ t : SelectTree, t.text d d.alwaysAlias = .ok text ∧
      SelectPlan.ofRelation r = .ok t.plan ∧
      ∀ s ∈ t.statements, ∃ (c : JoinChain) (f : FromChain) (statement : String),
        JoinChain.ofRelation d s.plan.source = .ok c ∧
        s.text d d.alwaysAlias = .ok statement ∧
        s.plan.clauses d (s.scope.alone d.alwaysAlias) (f.text d) = .ok statement ∧
        f.Writes d (s.scope.alone d.alwaysAlias) c ∧
        f.items.map (·.entry.relation) = c.tables ∧
        f.lines.map (·.keyword) = c.kinds.map d.keyword ∧
        f.lines.map (·.predicates) = c.predicates ∧
        ∀ (α : Type u) (leaf : Relation → α) (join : String → α → α → List Expr → α),
          f.denote leaf join =
            s.plan.source.denoteJoins leaf (fun kind => join (d.keyword kind)) := by
  constructor
  · intro r c h
    rcases JoinChain.of_ofRelation h with ⟨rfl, hTaken⟩
    refine ⟨?_, ?_, hTaken.isJoin_eq_false, c.joinedTo_eq_toRelation⟩
    · simp [JoinChain.tables, JoinChain.kinds]
    · simp [JoinChain.tables, JoinChain.predicates]
  · intro r text h
    rcases hasLayouts_statement d (d.maxDepth + 1) (of_compile h) with ⟨t, ht⟩
    refine ⟨t, ht.text, ht.plan, ?_⟩
    intro s hs
    have hFormed := ht.accounts.formed s hs
    rcases t.exists_text_of_mem ht.text hs with ⟨statement, hStatement⟩
    rcases SelectTree.exists_fromChain hFormed hStatement with ⟨f, hItems, hWrites, hClauses⟩
    rcases JoinChain.of_ofRelation hFormed.chain with ⟨hTree, hTaken⟩
    have hTables : f.items.map (·.entry.relation) = s.chain.tables := by
      rw [hItems]
      exact hFormed.tables
    refine ⟨s.chain, f, statement, hFormed.chain, hStatement, hClauses, hWrites, hTables,
      hWrites.kinds.1, hWrites.kinds.2, ?_⟩
    intro α leaf join
    rw [hWrites.denote leaf join hTaken, hTree]

/-- Three tables, the last of which need not have a row to match. -/
def Relation.threeTables : Relation :=
  let t (id : Nat) (name : String) : Relation := .table id name ⟨[⟨"a", .string, true⟩]⟩
  .join 5 .left
    (.join 4 .inner (t 1 "t") (t 2 "u")
      [.call .equals [(t 1 "t").column "a", (t 2 "u").column "a"]])
    (t 3 "v") [.call .equals [(t 2 "u").column "a", (t 3 "v").column "a"]]

theorem Dialect.joins_kept_threeTables :
    (∃ c, JoinChain.ofRelation standard Relation.threeTables = .ok c ∧
      c.kinds = [.inner, .left] ∧ c.tables.length = 3 ∧
      c.first.joinedTo c.ids c.kinds c.tables.tail c.predicates = Relation.threeTables) ∧
    standard.compile Relation.threeTables =
      .ok ("SELECT *\nFROM t t0\n  JOIN u t1\n    ON t0.a = t1.a\n" ++
        "  LEFT JOIN v t2\n    ON t1.a = t2.a") ∧
    ∃ t : SelectTree, ∃ s ∈ t.statements, ∃ f : FromChain,
      f.lines.map (·.keyword) = ["JOIN", "LEFT JOIN"] ∧
      f.denote Relation.size (fun _ left right _ => left + right + 1) = 5 := by
  have hText : standard.compile Relation.threeTables =
      .ok ("SELECT *\nFROM t t0\n  JOIN u t1\n    ON t0.a = t1.a\n" ++
        "  LEFT JOIN v t2\n    ON t1.a = t2.a") := by
    decide +kernel
  rcases joins_kept standard with ⟨hKept, hWritten⟩
  refine ⟨?_, hText, ?_⟩
  · rcases hKept Relation.threeTables _ rfl with ⟨hKinds, -, -, hTree⟩
    exact ⟨_, rfl, rfl, hKinds, hTree⟩
  · rcases hWritten _ _ hText with ⟨t, -, hPlan, hStatements⟩
    have hMem := t.self_mem_statements
    have hPlan : SelectPlan.ofSource Relation.threeTables = t.plan := Except.ok.inj hPlan
    rcases hStatements t hMem with ⟨c, f, -, hChain, -, -, -, -, hKeywords, -, hDenote⟩
    rw [← hPlan] at hChain hDenote
    refine ⟨t, t, hMem, f, ?_, ?_⟩
    · rw [hKeywords, ← Except.ok.inj hChain]
      rfl
    · rw [hDenote]
      rfl

end TableQuery
