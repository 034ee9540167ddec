import TableQuery.Proofs.Plan.Nested
import TableQuery.Sql.Statement

/-!
# Allowance — statements without a count

A generator counts the statements that it is inside of, and compares the count with the bound of its
dialect. The same texts and errors come about if every statement is told instead how many statements
may still be part of it: no count is left to keep, and induction goes over the allowance. Proofs
about the texts of statements use this form.

The count itself is the same after a statement as before it (`Generator.statement_eq_lift`).
-/

namespace TableQuery

open HasContext (context updateContext)

/-- The statement of a relation that at most `allowance` statements may be part of, itself
included. -/
def statement (d : Dialect) : Nat → Renderer
  | 0, cx, _ => (.error (.maxRecursion d.maxDepth), cx)
  | allowance + 1, cx, r =>
    match SelectPlan.ofRelation r with
    | .error e => (.error e, cx)
    | .ok plan => plan.render d (statement d allowance) cx

section Items

variable {σ : Type} {d : Dialect} {nested : RendererOf σ} {s : σ} {t m : Relation}

theorem itemBody_of_derived (h : t.derived? = some m) :
    itemBody d nested s t = derivedText d nested s m := by
  cases t with
  | table | sqlQuery => cases h
  | selfReference id inner =>
      cases inner with
      | table => cases h
      | _ =>
          cases h
          rfl
  | _ =>
      cases h
      rfl

end Items

namespace Generator

/-- The generator with another context. -/
def withContext (g : Generator) (cx : Context) : Generator :=
  { g with context := cx }

/-- What becomes of the generator if something becomes of its context. -/
def lift {α : Type} (g : Generator) (x : Rendered Context α) : Rendered Generator α :=
  (x.1, g.withContext x.2)

theorem context_withContext (g : Generator) (cx : Context) :
    HasContext.context (g.withContext cx) = cx := rfl

theorem updateContext_withContext (g : Generator) (cx : Context) (f : Context → Context) :
    updateContext f (g.withContext cx) = g.withContext (f cx) := rfl

/-- Whatever the context, writing the relation changes nothing else in the generator, and is to the
context what the second renderer does. -/
def Follows (g : Generator) (nested : RendererOf Generator) (plain : Renderer) (r : Relation) :
    Prop :=
  ∀ cx, nested (g.withContext cx) r = g.lift (plain cx r)

variable {g : Generator} {d : Dialect} {nested : RendererOf Generator} {plain : Renderer}

theorem itemBody_lift {t : Relation} (h : ∀ m, t.derived? = some m → g.Follows nested plain m)
    (cx : Context) : itemBody d nested (g.withContext cx) t = g.lift (itemBody d plain cx t) := by
  cases hDerived : t.derived? with
  | some m =>
      rw [itemBody_of_derived hDerived, itemBody_of_derived hDerived, derivedText, derivedText,
        h m hDerived cx]
      rfl
  | none =>
      -- names and queries leave every state as it is
      cases t with
      | table | sqlQuery => rfl
      | selfReference id target =>
          cases target with
          | table => rfl
          | _ => cases hDerived
      | _ => cases hDerived

theorem fromItems_lift {tables : List Relation}
    (h : ∀ t ∈ tables, ∀ m, t.derived? = some m → g.Follows nested plain m) (qualify : Bool) :
    ∀ cx, fromItems d nested qualify (g.withContext cx) tables =
      g.lift (fromItems d plain qualify cx tables) := by
  induction tables with
  | nil =>
      intro cx
      rfl
  | cons t tables ih =>
      intro cx
      rw [fromItems, fromItems]
      simp only [context_withContext, updateContext_withContext, HasContext.context_self,
        HasContext.updateContext_self]
      rw [itemBody_lift (h t (by simp))]
      have hRest := ih fun t' ht' => h t' (List.mem_cons_of_mem _ ht')
      rcases itemBody d plain (cx.drawAliasIf (qualify || !t.isBaseTable)).2 t with ⟨_ | body, cx'⟩
      · rfl
      · simp only [lift, hRest cx']

theorem fromClause_lift {p : SelectPlan}
    (h : ∀ t ∈ p.source.fromTables, ∀ m, t.derived? = some m → g.Follows nested plain m)
    (cx : Context) :
    p.fromClause d nested (g.withContext cx) = g.lift (p.fromClause d plain cx) := by
  unfold SelectPlan.fromClause
  cases hChain : JoinChain.ofRelation d p.source with
  | error e => rfl
  | ok chain =>
      rw [← JoinChain.tables_ofRelation hChain] at h
      simp only [context_withContext, HasContext.context_self]
      rw [fromItems_lift h]
      rcases fromItems d plain (p.source.isJoin || cx.alwaysAlias) cx chain.tables with
        ⟨_ | items, cx'⟩
      · rfl
      · -- the scope is opened in the context, and the rest depends on the context only
        simp only [lift, updateContext_withContext, context_withContext,
          HasContext.updateContext_self]
        split <;> rfl

theorem render_lift {p : SelectPlan}
    (h : ∀ t ∈ p.source.fromTables, ∀ m, t.derived? = some m → g.Follows nested plain m)
    (cx : Context) : p.render d nested (g.withContext cx) = g.lift (p.render d plain cx) := by
  unfold SelectPlan.render
  simp only [fromClause_lift h, context_withContext, HasContext.context_self]
  rcases p.fromClause d plain cx with ⟨_ | text, cx'⟩
  · rfl
  · rfl

/-- The number of statements that may be part of the next one. -/
def allowance (g : Generator) : Nat :=
  g.dialect.maxDepth + 1 - g.level

theorem allowance_eq_zero_iff : g.allowance = 0 ↔ g.dialect.maxDepth < g.level := by
  unfold allowance
  omega

theorem allowance_enter (g : Generator) : g.enter.allowance = g.allowance - 1 := by
  simp only [allowance, enter]
  omega

/-- Counting changes nothing but the bound: a statement is refused without an allowance, and the
count is taken back whatever comes of it. -/
theorem statementOver_eq_lift {r : Relation}
    (h : ∀ m ∈ r.derivedTables,
      g.enter.Follows nested (TableQuery.statement g.dialect (g.allowance - 1)) m) :
    g.statementOver nested r = g.lift (TableQuery.statement g.dialect g.allowance g.context r) := by
  unfold statementOver counted
  simp only
  split
  · next hDeep =>
    rw [allowance_eq_zero_iff.2 hDeep]
    rfl
  · next hNotDeep =>
    obtain ⟨k, hk⟩ : ∃ k, g.allowance = k + 1 :=
      ⟨g.allowance - 1, by have := mt allowance_eq_zero_iff.1 hNotDeep; omega⟩
    rw [hk] at h ⊢
    rw [TableQuery.statement]
    cases hPlan : SelectPlan.ofRelation r with
    | error e => rfl
    | ok p =>
        have hRender := render_lift (d := g.dialect) (g := g.enter) (p := p) (fun t ht m hm =>
          h m ((Relation.mem_derivedTables hPlan).2 ⟨t, ht, hm⟩)) g.context
        have hSelf : g.enter.withContext g.context = g.enter := rfl
        have hDialect : g.enter.dialect = g.dialect := rfl
        rw [hSelf] at hRender
        simp only [hDialect, hRender]
        rfl

/-- Within its size, a relation is written as its allowance says. -/
theorem statementWithin_eq_lift : ∀ {size : Nat} {g : Generator} {r : Relation}, r.size ≤ size →
    statementWithin size g r =
      g.lift (TableQuery.statement g.dialect g.allowance g.context r) := by
  intro size
  induction size with
  | zero =>
      intro g r hSize
      exact absurd r.size_pos (Nat.not_lt_of_le hSize)
  | succ size ih =>
      intro g r hSize
      rw [statementWithin]
      refine statementOver_eq_lift fun m hm cx => ?_
      -- a derived table is smaller, and one statement further inside
      have hSmaller := Relation.size_lt_of_mem_derivedTables hm
      rw [ih (by omega)]
      have hAllowance : (g.enter.withContext cx).allowance = g.allowance - 1 := allowance_enter g
      rw [hAllowance]
      rfl

/-- What the generator makes of a relation: its text or error, and the context after it. The count
of statements is what it was, and so is the dialect. -/
theorem statement_eq_lift (g : Generator) (r : Relation) :
    g.statement r = g.lift (TableQuery.statement g.dialect g.allowance g.context r) :=
  statementWithin_eq_lift (Nat.le_refl _)

@[simp]
theorem level_statement (g : Generator) (r : Relation) : (g.statement r).2.level = g.level := by
  rw [statement_eq_lift]
  rfl

@[simp]
theorem dialect_statement (g : Generator) (r : Relation) :
    (g.statement r).2.dialect = g.dialect := by
  rw [statement_eq_lift]
  rfl

/-- The number of nodes that is handed down stops nothing: derived tables are written by the
generator itself. -/
theorem statement_eq_statementOver (g : Generator) (r : Relation) :
    g.statement r = g.statementOver statement r := by
  rw [statement_eq_lift]
  refine (statementOver_eq_lift fun m _ cx => ?_).symm
  rw [statement_eq_lift, ← allowance_enter]
  rfl

end Generator

/-- Compiling writes the relation in an empty context, with the whole depth to spare. -/
theorem Dialect.compile_eq (d : Dialect) (r : Relation) :
    d.compile r = if !d.unions && r.containsUnion then .error SqlError.unionUnsupported
      else (statement d (d.maxDepth + 1) (Context.new d.alwaysAlias) r).1 := by
  rw [compile, Generator.statement_eq_lift]
  rfl

end TableQuery
