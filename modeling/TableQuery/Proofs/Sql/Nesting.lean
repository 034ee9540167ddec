import TableQuery.Proofs.Sql.Ordinary

/-!
# Nesting — how deep is too deep

How many statements stand inside one another can be told from a relation alone, by the derived
tables in its plan, in theirs, and so on (`Relation.nesting`). The bound of a dialect is exact for
this number: a relation within the bound is never refused for its depth, and a relation beyond it
never has a text (`Dialect.depth_exact`). Nothing is left of the count when a statement ends, so
that each relation is judged by its own nesting, whatever a generator has written or refused before.
-/

namespace TableQuery

/-- One more than the greatest of the numbers, or zero if there are none. -/
def above : List Nat → Nat
  | [] => 0
  | n :: ns => Nat.max (n + 1) (above ns)

theorem above_le_iff {ns : List Nat} {bound : Nat} : above ns ≤ bound ↔ ∀ n ∈ ns, n < bound := by
  induction ns with
  | nil => simp [above]
  | cons n ns ih => rw [above, Nat.max_le, ih, List.forall_mem_cons, Nat.succ_le_iff]

namespace Relation

/-- The greatest number of derived tables that stand inside one another in the statement of the
relation. -/
def nesting (r : Relation) : Nat :=
  above (r.derivedTables.attach.map fun m => m.1.nesting)
termination_by r.size
decreasing_by exact size_lt_of_mem_derivedTables m.2

theorem nesting_eq (r : Relation) : r.nesting = above (r.derivedTables.map nesting) := by
  rw [nesting, List.attach_map_val]

theorem nesting_le_iff {r : Relation} {bound : Nat} :
    r.nesting ≤ bound ↔ ∀ m ∈ r.derivedTables, m.nesting < bound := by
  rw [nesting_eq, above_le_iff, List.forall_mem_map]

end Relation

variable {d : Dialect} {r : Relation}

/-! ## The bound -/

/-- A relation with a text is nested less deep than statements are allowed to. -/
theorem nesting_lt_of_statement {allowance : Nat} :
    ∀ {cx r text}, (statement d allowance cx r).1 = .ok text → r.nesting < allowance := by
  induction allowance with
  | zero =>
      intro cx r text h
      cases h
  | succ allowance ih =>
      intro cx r text h
      refine Nat.lt_succ_of_le (Relation.nesting_le_iff.2 fun m hm => ?_)
      -- a derived table has a text with one statement less to spare
      rcases exists_statement_of_mem_derivedTables h hm with ⟨cx', inner, hInner⟩
      exact ih hInner

/-- A relation that is nested less deep than statements are allowed to is not refused for it. -/
theorem ordinary_statement {allowance : Nat} :
    ∀ {cx r}, r.nesting < allowance → Ordinary (statement d allowance cx r).1 := by
  induction allowance with
  | zero =>
      intro cx r h
      exact absurd h (Nat.not_lt_zero _)
  | succ allowance ih =>
      intro cx r h
      rw [statement]
      split
      · next hPlan => exact (SelectPlan.ordinary_ofRelation r).error hPlan
      · next p hPlan =>
        -- what is left after this statement is enough for each derived table
        refine SelectPlan.ordinary_render (fun cx t ht m hDerived => ?_) cx
        have hm : m ∈ r.derivedTables := (Relation.mem_derivedTables hPlan).2 ⟨t, ht, hDerived⟩
        exact ih (Relation.nesting_le_iff.1 (Nat.le_of_lt_succ h) m hm)

/-! ## Generators -/

namespace Generator

variable {g : Generator}

/-- The generator after it has written or refused some relations, one after the other. -/
def after (g : Generator) (earlier : List Relation) : Generator :=
  earlier.foldl (fun g r => (g.statement r).2) g

theorem level_after (earlier : List Relation) : (g.after earlier).level = g.level := by
  induction earlier generalizing g with
  | nil => rfl
  | cons r earlier ih => exact ih.trans (g.level_statement r)

theorem dialect_after (earlier : List Relation) : (g.after earlier).dialect = g.dialect := by
  induction earlier generalizing g with
  | nil => rfl
  | cons r earlier ih => exact ih.trans (g.dialect_statement r)

theorem nesting_lt_allowance_iff :
    r.nesting < g.allowance ↔ g.level + r.nesting ≤ g.dialect.maxDepth := by
  unfold allowance
  omega

theorem ordinary_statement_of_le (h : g.level + r.nesting ≤ g.dialect.maxDepth) :
    Ordinary (g.statement r).1 := by
  rw [statement_eq_lift]
  exact ordinary_statement (nesting_lt_allowance_iff.2 h)

theorem le_of_statement {text : String} (h : (g.statement r).1 = .ok text) :
    g.level + r.nesting ≤ g.dialect.maxDepth := by
  rw [statement_eq_lift] at h
  exact nesting_lt_allowance_iff.1 (nesting_lt_of_statement h)

end Generator

/-- A relation that is nested no deeper than its dialect allows is never refused for its depth, and
one that is nested deeper is never compiled. A generator has the same count of statements after each
relation, written or refused, so the next one is judged by its own nesting only. -/
theorem Dialect.depth_exact (d : Dialect) (r : Relation) :
    (r.nesting ≤ d.maxDepth → ∀ limit, d.compile r ≠ .error (.maxRecursion limit)) ∧
    (d.maxDepth < r.nesting → ∀ text, d.compile r ≠ .ok text) ∧
    ∀ (g : Generator) (earlier : List Relation),
      (g.after earlier).level = g.level ∧
      ((g.after earlier).statement r).2.level = g.level ∧
      (g.level + r.nesting ≤ g.dialect.maxDepth →
        ∀ limit, ((g.after earlier).statement r).1 ≠ .error (.maxRecursion limit)) ∧
      (g.dialect.maxDepth < g.level + r.nesting →
        ∀ text, ((g.after earlier).statement r).1 ≠ .ok text) := by
  refine ⟨fun hWithin => ?_, fun hBeyond text hText => ?_, fun g earlier => ?_⟩
  · have hOrdinary : Ordinary (d.compile r) := by
      rw [compile_eq]
      split
      · simp [SqlError.unionUnsupported]
      · exact ordinary_statement (Nat.lt_succ_of_le hWithin)
    exact hOrdinary
  · have hWithin := nesting_lt_of_statement (of_compile hText)
    omega
  · -- the count and the bound are what they were before the earlier relations
    rw [← g.level_after earlier, ← g.dialect_after earlier]
    refine ⟨rfl, Generator.level_statement _ r, Generator.ordinary_statement_of_le, ?_⟩
    intro hBeyond text hText
    exact absurd (Generator.le_of_statement hText) (Nat.not_le_of_lt hBeyond)

/-- The first rows of the first rows of a table, so many times over. -/
def Relation.limitedTimes : Nat → Relation
  | 0 => .table 0 "t" ⟨[⟨"a", .string, true⟩]⟩
  | times + 1 => .limit (times + 1) (limitedTimes times) 5 0

/-- The dialect of the server with another bound. -/
def Dialect.shallow (maxDepth : Nat) : Dialect :=
  { standard with maxDepth }

theorem Dialect.depth_exact_limitedTimes :
    (Relation.limitedTimes 3).nesting = 2 ∧
    (∀ limit, (shallow 2).compile (Relation.limitedTimes 3) ≠ .error (.maxRecursion limit)) ∧
    (∀ text, (shallow 1).compile (Relation.limitedTimes 3) ≠ .ok text) ∧
    ((Generator.new (shallow 2)).statement (Relation.limitedTimes 4)).1 =
      .error (.maxRecursion 2) ∧
    (∀ limit, (((Generator.new (shallow 2)).after [Relation.limitedTimes 4]).statement
      (Relation.limitedTimes 3)).1 ≠ .error (.maxRecursion limit)) ∧
    ∀ text, (((Generator.new (shallow 2)).after [Relation.limitedTimes 3]).statement
      (Relation.limitedTimes 4)).1 ≠ .ok text := by
  -- a limit takes a limited input as a derived table, and a table as it is
  have hNesting {times : Nat}
      (h : (Relation.limitedTimes (times + 1)).derivedTables = [Relation.limitedTimes times]) :
      (Relation.limitedTimes (times + 1)).nesting = (Relation.limitedTimes times).nesting + 1 := by
    rw [Relation.nesting_eq, h]
    rfl
  have hOne : (Relation.limitedTimes 1).nesting = 0 := by
    rw [Relation.nesting_eq]
    rfl
  have hTwo : (Relation.limitedTimes 2).nesting = 1 := by rw [hNesting rfl, hOne]
  have hThree : (Relation.limitedTimes 3).nesting = 2 := by rw [hNesting rfl, hTwo]
  have hFour : (Relation.limitedTimes 4).nesting = 3 := by rw [hNesting rfl, hThree]
  rcases (depth_exact (shallow 2) (Relation.limitedTimes 3)) with ⟨hWithin, -, hReused⟩
  rcases (depth_exact (shallow 1) (Relation.limitedTimes 3)) with ⟨-, hBeyond, -⟩
  rcases (depth_exact (shallow 2) (Relation.limitedTimes 4)) with ⟨-, -, hDeeper⟩
  rcases hReused (.new (shallow 2)) [Relation.limitedTimes 4] with ⟨-, -, hAgain, -⟩
  rcases hDeeper (.new (shallow 2)) [Relation.limitedTimes 3] with ⟨-, -, -, hRefused⟩
  have hError : ((Generator.new (shallow 2)).statement (Relation.limitedTimes 4)).1 =
      .error (.maxRecursion 2) := by decide +kernel
  refine ⟨hThree, hWithin ?_, hBeyond ?_, hError, hAgain ?_, hRefused ?_⟩
  · exact Nat.le_of_eq hThree
  · rw [hThree]
    exact Nat.lt_succ_self 1
  · rw [hThree]
    exact Nat.le_refl 2
  · rw [hFour]
    exact Nat.lt_succ_self 2

end TableQuery
