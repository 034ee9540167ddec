import TableQuery.Proofs.Sql.Progress

/-!
# Rollback — scopes are closed without being counted

A statement opens a scope in the middle of its `FROM` clause and never closes it by itself: it
remembers how many scopes were open before, and goes back to that number whatever has come of its
clauses. That is enough. Between remembering and going back, scopes may be opened and closed,
aliases drawn and other numbers remembered, as long as nothing is closed that was open before
(`ContextUse.reaches_run`); and so a generator is after a statement what it was, but for the aliases
that it has drawn (`Generator.scopes_restored`).
-/

namespace TableQuery

/-- What is done to a context from one moment to another. -/
inductive ContextUse where
  | nothing
  | push (s : Scope)
  | pop
  | draw
  | andThen (first second : ContextUse)
  /-- The number of open scopes is remembered before, and gone back to after. -/
  | enclosed (inner : ContextUse)

namespace ContextUse

/-- The context afterwards. -/
def run : ContextUse → Context → Context
  | .nothing, cx => cx
  | .push s, cx => cx.push s
  | .pop, cx => cx.pop
  | .draw, cx => cx.drawAlias.2
  | .andThen first second, cx => second.run (first.run cx)
  | .enclosed inner, cx => (inner.run cx).rollback cx.depth

/-- After a scope has been closed, at least `floor` scopes are open, in whatever is enclosed too. -/
def StaysAbove (floor : Nat) : ContextUse → Context → Prop
  | .pop, cx => floor ≤ cx.pop.depth
  | .andThen first second, cx =>
    first.StaysAbove floor cx ∧ second.StaysAbove floor (first.run cx)
  | .enclosed inner, cx => inner.StaysAbove floor cx
  | .nothing, _ | .push _, _ | .draw, _ => True

instance decidableStaysAbove (floor : Nat) :
    (use : ContextUse) → (cx : Context) → Decidable (use.StaysAbove floor cx)
  | .pop, cx => inferInstanceAs (Decidable (floor ≤ cx.pop.depth))
  | .andThen first second, cx =>
    have := decidableStaysAbove floor first cx
    have := decidableStaysAbove floor second (first.run cx)
    inferInstanceAs (Decidable (_ ∧ _))
  | .enclosed inner, cx => decidableStaysAbove floor inner cx
  | .nothing, _ | .push _, _ | .draw, _ => .isTrue trivial

/-- What was open before stays open below everything else, by induction on the use: each step keeps
it from whichever context the step starts in. -/
theorem reaches_run {use : ContextUse} {base cx : Context} (hBase : base.Reaches cx)
    (hAbove : use.StaysAbove base.depth cx) : base.Reaches (use.run cx) := by
  induction use generalizing cx with
  | nothing => exact hBase
  | push s => exact hBase.push s
  | pop =>
      -- enough scopes are left, so the one that is closed was opened since
      exact hBase.drop hAbove
  | draw => exact hBase.trans (.drawAliasIf cx true)
  | andThen first second ihFirst ihSecond => exact ihSecond (ihFirst hBase hAbove.1) hAbove.2
  | enclosed inner ih =>
      -- the number that is gone back to is remembered above the base
      exact (ih hBase hAbove).rollback hBase.scopes.length_le

end ContextUse

/-- After a statement, whether it has a text or an error from any depth, exactly those scopes are
open that were open before, the count of statements is the same, and no alias has been taken back.
The reason holds of every use of a context that closes nothing that was open when a number of scopes
was remembered: going back to the number brings back just these scopes, and leaves the aliases as
they are. -/
theorem Generator.scopes_restored :
    (∀ (g : Generator) (r : Relation),
      (g.statement r).2.context.scopes = g.context.scopes ∧
      (g.statement r).2.level = g.level ∧
      g.context.nextAlias ≤ (g.statement r).2.context.nextAlias) ∧
    ∀ (use : ContextUse) (cx : Context), use.StaysAbove cx.depth cx →
      ((use.run cx).rollback cx.depth).scopes = cx.scopes ∧
      ((use.run cx).rollback cx.depth).nextAlias = (use.run cx).nextAlias := by
  constructor
  · intro g r
    refine ⟨?_, g.level_statement r, ?_⟩
    · rw [g.statement_eq_lift r]
      exact scopes_statement _ _ _ _
    · rw [g.statement_eq_lift r]
      exact (progresses_statement _ _ _ _).aliases
  · intro use cx hAbove
    have hReaches := ContextUse.reaches_run (.refl cx) hAbove
    exact ⟨hReaches.scopes_rollback, rfl⟩

/-- A scope in which nothing can be found. -/
def Scope.vacant : Scope :=
  ⟨[], false, [], none⟩

/-- A scope is opened and closed between two others, one of which is closed again. -/
def ContextUse.mixed : ContextUse :=
  .andThen (.push .vacant)
    (.andThen (.enclosed (.andThen (.push .vacant) (.andThen .draw .pop)))
      (.andThen .pop (.andThen (.push .vacant) .draw)))

/-- A generator inside of a statement, with the scope of the statement open. -/
def Generator.inside : Generator :=
  ⟨Dialect.standard, ⟨false, 4, [.vacant]⟩, 1⟩

/-- The first rows of a table without the column that is selected from them. -/
def Relation.missingBelow : Relation :=
  let t : Relation := .table 1 "t" ⟨[⟨"a", .string, true⟩]⟩
  let inner : Relation := .selection 2 t [.column ⟨⟨1, .table⟩, "b"⟩] [] []
  .selection 4 (.limit 3 inner 5 0) [.column ⟨⟨3, .limit⟩, "b"⟩] [] []

theorem Generator.scopes_restored_missingBelow :
    (inside.statement Relation.missingBelow).1 = .error (.columnNotFound "b" ["a"]) ∧
      (inside.statement Relation.missingBelow).2.context.scopes = [.vacant] ∧
      (inside.statement Relation.missingBelow).2.level = 1 ∧
      ContextUse.mixed.StaysAbove 1 inside.context ∧
      (ContextUse.mixed.run inside.context).depth = 2 ∧
      ((ContextUse.mixed.run inside.context).rollback 1).scopes = [.vacant] ∧
      ((ContextUse.mixed.run inside.context).rollback 1).nextAlias = 6 := by
  have hError : (inside.statement Relation.missingBelow).1 =
      .error (.columnNotFound "b" ["a"]) := by decide +kernel
  have hAbove : ContextUse.mixed.StaysAbove inside.context.depth inside.context := by decide
  rcases scopes_restored.1 inside Relation.missingBelow with ⟨hScopes, hLevel, -⟩
  rcases scopes_restored.2 ContextUse.mixed inside.context hAbove with ⟨hBack, hAliases⟩
  exact ⟨hError, hScopes, hLevel, hAbove, rfl, hBack, hAliases⟩

end TableQuery
