import TableQuery.Proofs.Sql.Inversion

/-!
# Progress — what writing does to the context

Writing a relation, whether it succeeds or not, keeps the flag for aliases, never takes an alias
back that was drawn, and closes the scopes that it has opened.
-/

namespace TableQuery

/-- The second context can come after the first. -/
structure Context.Reaches (cx cx' : Context) : Prop where
  flag : cx'.alwaysAlias = cx.alwaysAlias
  aliases : cx.nextAlias ≤ cx'.nextAlias
  /-- What was open is still open, below all that has been opened since. -/
  scopes : cx.scopes <:+ cx'.scopes

namespace Context.Reaches

theorem refl (cx : Context) : cx.Reaches cx :=
  ⟨rfl, Nat.le_refl _, List.suffix_rfl⟩

theorem trans {a b c : Context} (hab : a.Reaches b) (hbc : b.Reaches c) : a.Reaches c :=
  ⟨hbc.flag.trans hab.flag, Nat.le_trans hab.aliases hbc.aliases, hab.scopes.trans hbc.scopes⟩

theorem drawAliasIf (cx : Context) (needed : Bool) : cx.Reaches (cx.drawAliasIf needed).2 := by
  cases needed with
  | false => exact refl cx
  | true => exact ⟨rfl, Nat.le_succ _, List.suffix_rfl⟩

theorem push {cx cx' : Context} (h : cx.Reaches cx') (s : Scope) : cx.Reaches (cx'.push s) :=
  ⟨h.flag, h.aliases, h.scopes.trans (List.suffix_cons s cx'.scopes)⟩

/-- Going back to the number of scopes that were open brings back just these. -/
theorem scopes_rollback {cx cx' : Context} (h : cx.Reaches cx') :
    (cx'.rollback cx.depth).scopes = cx.scopes := by
  rcases h.scopes with ⟨opened, hOpened⟩
  have hCount : cx'.depth - cx.depth = opened.length := by
    rw [depth, depth, ← hOpened, List.length_append]
    omega
  rw [rollback, hCount]
  simp only [← hOpened, List.drop_left]

/-- Closing the innermost scopes leaves those open that were, as long as no fewer are left. -/
theorem drop {cx cx' : Context} (h : cx.Reaches cx') {count : Nat}
    (hDepth : cx.depth ≤ (cx'.scopes.drop count).length) :
    cx.Reaches { cx' with scopes := cx'.scopes.drop count } :=
  ⟨h.flag, h.aliases,
    List.suffix_of_suffix_length_le h.scopes (List.drop_suffix count cx'.scopes) hDepth⟩

theorem rollback {cx cx' : Context} (h : cx.Reaches cx') {depth : Nat}
    (hDepth : cx.depth ≤ depth) : cx.Reaches (cx'.rollback depth) := by
  refine h.drop ?_
  have hOpen : cx.depth ≤ cx'.depth := h.scopes.length_le
  rw [List.length_drop]
  simp only [Context.depth] at hOpen hDepth ⊢
  omega

end Context.Reaches

/-- A way of writing derived tables that only moves the context on. -/
def Renderer.Progresses (nested : Renderer) : Prop :=
  ∀ (cx : Context) (r : Relation), cx.Reaches (nested cx r).2

variable {d : Dialect} {nested : Renderer}

theorem reaches_itemBody (hNested : nested.Progresses) (cx : Context) (r : Relation) :
    cx.Reaches (itemBody d nested cx r).2 := by
  cases r with
  | table | sqlQuery => exact .refl cx
  | selfReference id target =>
      cases target with
      | table => exact .refl cx
      | _ => exact hNested cx _
  | _ => exact hNested cx _

theorem reaches_fromItems (hNested : nested.Progresses) (qualify : Bool)
    (tables : List Relation) :
    ∀ cx : Context, cx.Reaches (fromItems d nested qualify cx tables).2 := by
  induction tables with
  | nil =>
      intro cx
      exact .refl cx
  | cons table tables ih =>
      intro cx
      have hItem := (Context.Reaches.drawAliasIf cx (needsAlias qualify table)).trans
        (reaches_itemBody (d := d) hNested _ table)
      rcases fromItems_cons_snd d nested qualify cx table tables with hEnd | hEnd
      · rw [hEnd]
        exact hItem
      · rw [hEnd]
        exact hItem.trans (ih _)

theorem SelectPlan.reaches_fromClause (hNested : nested.Progresses) (cx : Context)
    (p : SelectPlan) : cx.Reaches (p.fromClause d nested cx).2 := by
  unfold fromClause
  split
  · exact .refl cx
  · next chain _ =>
    have hItems := reaches_fromItems (d := d) hNested (p.qualifies cx) chain.tables cx
    rw [qualifies] at hItems
    simp only [HasContext.context_self, HasContext.updateContext_self]
    split
    · next hFailed => simpa only [hFailed] using hItems
    · next hDone =>
      rw [hDone] at hItems
      -- whatever comes of the conditions, the scope of the items is open
      split
      · exact hItems.push _
      · exact hItems.push _

/-- What a statement leaves behind is what its `FROM` clause leaves behind, rolled back. -/
theorem SelectPlan.render_snd (d : Dialect) (nested : Renderer) (cx : Context) (p : SelectPlan) :
    (p.render d nested cx).2 = (p.fromClause d nested cx).2.rollback cx.depth := by
  unfold render
  simp only [HasContext.context_self, HasContext.updateContext_self]
  split
  · next hFailed => rw [hFailed]
  · next hDone => rw [hDone]

theorem SelectPlan.reaches_render (hNested : nested.Progresses) (cx : Context) (p : SelectPlan) :
    cx.Reaches (p.render d nested cx).2 := by
  rw [render_snd]
  exact (p.reaches_fromClause hNested cx).rollback (Nat.le_refl _)

/-- Statements only move the context on, however deep they stand in one another. -/
theorem progresses_statement (d : Dialect) :
    ∀ allowance, Renderer.Progresses (statement d allowance) := by
  intro allowance
  induction allowance with
  | zero =>
      intro cx r
      exact .refl cx
  | succ allowance ih =>
      intro cx r
      rw [statement]
      split
      · exact .refl cx
      · exact SelectPlan.reaches_render ih cx _

/-- After a statement the scopes are those from before it, whether it has a text or not. -/
theorem scopes_statement (d : Dialect) (allowance : Nat) (cx : Context) (r : Relation) :
    (statement d allowance cx r).2.scopes = cx.scopes := by
  cases allowance with
  | zero => rfl
  | succ allowance =>
      rw [statement]
      split
      · rfl
      · next p _ =>
        -- the scopes that are left open inside are closed by the statement around
        rw [p.render_snd]
        exact (p.reaches_fromClause (progresses_statement d allowance) cx).scopes_rollback

end TableQuery
