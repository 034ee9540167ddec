import TableQuery.Proofs.Numbering.Clause
import TableQuery.Proofs.Sql.Nesting

/-!
# Statement — statements up to the number of the next alias

The items of a `FROM` clause have their aliases in the order in which they are drawn, those of a
derived table between the ones before and behind it. So counted from the next alias they are the
same however many have been drawn before, and with them the scope of the statement. A relation has a
text for all numbers of the next alias, with the same number of aliases drawn for it, or for none
(`steady_statement`).
-/

namespace TableQuery

/-- The sum of the numbers. -/
def total : List Nat → Nat
  | [] => 0
  | n :: ns => n + total ns

theorem total_filterMap {α β : Type} (f : α → Option β) (g : β → Nat) (xs : List α) :
    total ((xs.filterMap f).map g) = total (xs.map fun x => ((f x).map g).getD 0) := by
  induction xs with
  | nil => rfl
  | cons x xs ih =>
      cases hx : f x with
      | none => simpa [hx, total] using ih
      | some y => simp [hx, total, ih]

/-- The number of places between two items of a select list in the statement of the relation, those
of the statements inside it included. -/
def Relation.separators (r : Relation) : Nat :=
  (match SelectPlan.ofRelation r with
    | .ok p => p.items.length - 1
    | .error _ => 0) + total (r.derivedTables.attach.map fun m => m.1.separators)
termination_by r.size
decreasing_by exact size_lt_of_mem_derivedTables m.2

theorem Relation.separators_eq {r : Relation} {p : SelectPlan}
    (h : SelectPlan.ofRelation r = .ok p) :
    r.separators = p.items.length - 1 +
      total (p.source.fromTables.map fun t => (t.derived?.map separators).getD 0) := by
  rw [separators, List.attach_map_val (f := separators), h, derivedTables, h, total_filterMap]

/-! ## Runs -/

/-- What is written in any context with a flag: texts of some kind, for which so many aliases are
drawn and after which the scopes are as before, or errors of one variant. -/
def SteadyRun {α : Type} (P : (Nat → α) → Prop) (flag : Bool)
    (run : Context → Rendered Context α) : Prop :=
  (∃ t drawn, P t ∧ ∀ k scopes, run ⟨flag, k, scopes⟩ = (.ok (t k), ⟨flag, k + drawn, scopes⟩)) ∨
    ∃ variant, ∀ k scopes, ∃ e cx, run ⟨flag, k, scopes⟩ = (.error e, cx) ∧ e.ctorIdx = variant

/-- What leaves the context alone. -/
theorem SteadyRun.const {α : Type} {P : (Nat → α) → Prop} {flag : Bool} (x : Except SqlError α)
    (h : ∀ a, P fun _ => a) : SteadyRun P flag fun cx => (x, cx) := by
  cases x with
  | error e => exact .inr ⟨e.ctorIdx, fun k scopes => ⟨e, _, rfl, rfl⟩⟩
  | ok a => exact .inl ⟨fun _ => a, 0, h a, fun k scopes => rfl⟩

/-- A run that hands on the errors of a part of it has errors of one variant if the part has,
wherever the part starts. -/
theorem SteadyRun.of_errors {α β : Type} {P : (Nat → β) → Prop} {flag : Bool} {variant : Nat}
    (part : Context → Rendered Context α) {run : Context → Rendered Context β}
    (hError : ∀ k scopes, ∃ e cx, part ⟨flag, k, scopes⟩ = (.error e, cx) ∧ e.ctorIdx = variant)
    (drawn : Nat) (h : ∀ k scopes e cx, part ⟨flag, k + drawn, scopes⟩ = (.error e, cx) →
      (run ⟨flag, k, scopes⟩).1 = .error e) : SteadyRun P flag run := by
  refine .inr ⟨variant, fun k scopes => ?_⟩
  rcases hError (k + drawn) scopes with ⟨e, cx, he, hVariant⟩
  exact ⟨e, _, Prod.ext (h k scopes e cx he) rfl, hVariant⟩

section Items

variable {d : Dialect} {flag : Bool} {nested : Renderer} {gaps : Relation → Nat}

theorem laid_parenthesised {n : Nat} {t : Nat → String} (ht : Laid n t) :
    Laid n fun k => parenthesised d (t k) :=
  ((ht.indent d.indent).behind "(\n").before "\n)"

theorem steady_itemBody {table : Relation}
    (h : ∀ m, table.derived? = some m → SteadyRun (Laid (gaps m)) flag (nested · m)) :
    SteadyRun (Laid ((table.derived?.map gaps).getD 0)) flag
      fun cx => itemBody d nested cx table := by
  cases hDerived : table.derived? with
  | some m =>
      simp only [itemBody_of_derived hDerived, Option.map_some, Option.getD_some]
      rcases h m hDerived with ⟨t, drawn, ht, hText⟩ | ⟨variant, hError⟩
      · refine .inl ⟨_, drawn, laid_parenthesised (d := d) ht, fun k scopes => ?_⟩
        simp only [derivedText, hText]
        rfl
      · refine .of_errors (nested · m) hError 0 fun k scopes e cx he => ?_
        rw [Nat.add_zero] at he
        simp only [derivedText, he]
        rfl
  | none =>
      -- names and queries have no aliases in them
      cases table with
      | table => exact .const _ laid_const
      | sqlQuery => exact .const _ laid_const
      | selfReference id target =>
          cases target with
          | table => exact .const _ laid_const
          | _ => cases hDerived
      | _ => cases hDerived

/-- Items of a `FROM` clause whose aliases are counted from the first one, with laid texts. -/
def LaidItems (gs : List Nat) (items : Nat → List (ScopeEntry × String)) : Prop :=
  ∃ forms : List (ItemForm × (Nat → String)), List.Forall₂ Laid gs (forms.map (·.2)) ∧
    ∀ k, items k = forms.map fun f => (f.1.entry k, f.2 k)

theorem LaidItems.cons {n : Nat} {gs : List Nat} {t : Nat → String}
    {items : Nat → List (ScopeEntry × String)} (i : ItemForm) (ht : Laid n t)
    (h : LaidItems gs items) : LaidItems (n :: gs) fun k => (i.entry k, t k) :: items k := by
  rcases h with ⟨forms, hTexts, hItems⟩
  exact ⟨(i, t) :: forms, .cons ht hTexts, fun k => congrArg _ (hItems k)⟩

theorem LaidItems.later {gs : List Nat} {items : Nat → List (ScopeEntry × String)}
    (h : LaidItems gs items) (drawn : Nat) : LaidItems gs fun k => items (k + drawn) := by
  rcases h with ⟨forms, hTexts, hItems⟩
  refine ⟨forms.map fun f => (f.1.later drawn, fun k => f.2 (k + drawn)), ?_, fun k => ?_⟩
  · rw [List.forall₂_map_right_iff] at hTexts ⊢
    rw [List.forall₂_map_right_iff]
    exact hTexts.imp fun n f hf => hf.later drawn
  · simp only [hItems, List.map_map, Function.comp_def, ItemForm.entry_later]

theorem drawAliasIf_eq (flag : Bool) (k : Nat) (scopes : List Scope) (needed : Bool) :
    (Context.mk flag k scopes).drawAliasIf needed =
      (if needed then some (aliasName k) else none, ⟨flag, k + needed.toNat, scopes⟩) := by
  cases needed <;> rfl

/-- The item of a table that is the next one in its clause. -/
def ItemForm.ofTable (qualify : Bool) (table : Relation) : ItemForm :=
  ⟨table, if needsAlias qualify table then some 0 else none, table.columnNames⟩

/-- The alias of such an item. -/
def nextAlias? (qualify : Bool) (table : Relation) (k : Nat) : Option String :=
  if needsAlias qualify table then some (aliasName k) else none

theorem ItemForm.entry_ofTable (qualify : Bool) (table : Relation) (k : Nat) :
    (ofTable qualify table).entry k = ⟨table, nextAlias? qualify table k, table.columnNames⟩ := by
  unfold ofTable nextAlias?
  cases needsAlias qualify table <;> rfl

theorem laid_itemText {n : Nat} {t : Nat → String} (ht : Laid n t) (qualify : Bool)
    (table : Relation) : Laid n fun k => itemText (t k) (nextAlias? qualify table k) := by
  unfold nextAlias?
  cases needsAlias qualify table with
  | true => exact (ht.before " ").append (numbered_alias 0).laid
  | false => exact ht

/-- A clause, by what becomes of its first item. -/
theorem fromItems_cons (qualify : Bool) (table : Relation) (tables : List Relation)
    (k : Nat) (scopes : List Scope) :
    fromItems d nested qualify ⟨flag, k, scopes⟩ (table :: tables) =
      match itemBody d nested ⟨flag, k + (needsAlias qualify table).toNat, scopes⟩ table with
      | (.error e, cx) => (.error e, cx)
      | (.ok body, cx) =>
        ((fromItems d nested qualify cx tables).1.map
          ((⟨table, nextAlias? qualify table k, table.columnNames⟩,
            itemText body (nextAlias? qualify table k)) :: ·),
          (fromItems d nested qualify cx tables).2) := by
  rw [fromItems]
  simp only [HasContext.context_self, HasContext.updateContext_self, nextAlias?, needsAlias]
  rw [drawAliasIf_eq]
  rcases itemBody d nested _ table with ⟨_ | body, cx⟩ <;> rfl

theorem steady_fromItems (qualify : Bool) {tables : List Relation}
    (h : ∀ t ∈ tables, ∀ m, t.derived? = some m → SteadyRun (Laid (gaps m)) flag (nested · m)) :
    SteadyRun (LaidItems (tables.map fun t => (t.derived?.map gaps).getD 0)) flag
      fun cx => fromItems d nested qualify cx tables := by
  induction tables with
  | nil => exact .inl ⟨fun _ => [], 0, ⟨[], .nil, fun _ => rfl⟩, fun k scopes => rfl⟩
  | cons table tables ih =>
      -- the alias is drawn before the item is written, and the other items come after both
      let own := (needsAlias qualify table).toNat
      rcases steady_itemBody (d := d) (h table (by simp)) with
        ⟨t, drawn, ht, hBody⟩ | ⟨variant, hError⟩
      · rcases ih fun u hu => h u (List.mem_cons_of_mem _ hu) with
          ⟨items, more, hLaid, hItems⟩ | ⟨variant, hError⟩
        · have hText := laid_itemText (ht.later own) qualify table
          have hAll := (hLaid.later (own + drawn)).cons (.ofTable qualify table) hText
          refine .inl ⟨_, own + drawn + more, hAll, fun k scopes => ?_⟩
          simp only [fromItems_cons, hBody, hItems, ItemForm.entry_ofTable, Except.map, own,
            Nat.add_assoc]
        · refine .of_errors (fromItems d nested qualify · tables) hError (own + drawn)
            fun k scopes e cx he => ?_
          rw [← Nat.add_assoc] at he
          simp only [fromItems_cons, hBody, own, he, Except.map]
      · refine .of_errors (itemBody d nested · table) hError own fun k scopes e cx he => ?_
        simp only [fromItems_cons, own, he]

end Items

/-! ## Statements -/

section Statements

variable {d : Dialect} {flag : Bool} {nested : Renderer} {gaps : Relation → Nat}

theorem steady_joinLines {cx : Nat → Context} (h : SteadyContext d flag cx)
    (steps : List JoinStep) :
    ∀ {gs : List Nat} {ts : List (Nat → String)}, List.Forall₂ Laid gs ts →
      steps.length = ts.length →
      Steady (Laid (total gs)) fun k => joinLines d (cx k) steps (ts.map (· k)) := by
  induction steps with
  | nil =>
      intro gs ts hTexts hCount
      obtain rfl : ts = [] := List.eq_nil_of_length_eq_zero hCount.symm
      cases hTexts
      exact .ok (laid_const "")
  | cons step steps ih =>
      intro gs ts hTexts hCount
      cases hTexts with
      | nil => cases hCount
      | @cons n t gs ts ht hRest =>
        simp only [List.map_cons, joinLines]
        cases d.joinLabel step.kind with
        | error e => exact .error e
        | ok label =>
            refine (h.conditions step.predicates).andThen (fun k e he => by simp only [he])
              fun ps hps hConditions => ?_
            simp only [hConditions]
            refine (ih hRest (Nat.succ.inj hCount)).map fun rest hRest => ?_
            have hTable := ((ht.behind (label ++ " ")).indent d.indent).behind "\n"
            have hOn := hps.numbered_onText.laid.indent (2 * d.indent)
            have hLines := ((hTable.before "\n").append hOn).append hRest
            simpa only [Nat.add_zero, total] using hLines

/-- A statement over laid items, in the scope of these. -/
theorem LaidItems.steady_layOut (hUniform : d.spellings.Uniform) (flag : Bool) (p : SelectPlan)
    (qualify : Bool) {chain : JoinChain} {gs : List Nat} {items : Nat → List (ScopeEntry × String)}
    (h : LaidItems gs items) (hCount : chain.tables.length = gs.length) :
    Steady (Laid (p.items.length - 1 + total gs)) fun k =>
      p.layOut d ((p.scope ((items k).map (·.1)) qualify).alone flag) chain
        ((items k).map (·.2)) := by
  rcases h with ⟨forms, hTexts, hForms⟩
  -- the scope in which the clauses are written, with aliases counted from the first one
  let own : ScopeForm := ⟨forms.map (·.1), qualify, p.folded.map (·.origin) ++ [p.source.origin],
    p.output.map fun r => (r.origin, r.columnNames)⟩
  have hScope : ∀ k, p.scope ((items k).map (·.1)) qualify = own.scope k := by
    intro k
    simp [hForms, SelectPlan.scope, ScopeForm.scope, own, Function.comp_def]
  have hLines : ∀ k, (items k).map (·.2) = (forms.map (·.2)).map (· k) := by
    intro k
    simp [hForms, Function.comp_def]
  have hSteady : SteadyContext d flag fun k => (own.scope k).alone flag :=
    ⟨hUniform, fun _ => rfl, own.steady_columnText⟩
  simp only [hScope, hLines]
  generalize forms.map (·.2) = texts at hTexts
  cases hTexts with
  | nil => cases hCount
  | @cons n t gs ts ht hRest =>
    simp only [List.map_cons, SelectPlan.layOut]
    have hSteps : chain.steps.length = ts.length := by
      simpa [JoinChain.tables, hRest.length_eq] using hCount
    refine (steady_joinLines hSteady chain.steps hRest hSteps).andThen
      (fun k e he => by simp only [he]) fun joins hJoins hText => ?_
    simp only [hText]
    exact hSteady.clauses p ((ht.behind "FROM ").append hJoins)

/-- After a statement the scopes and the flag are those from before it, and only the aliases of its
`FROM` clause have been drawn. -/
theorem SelectPlan.render_snd_of_fromItems (hNested : nested.Progresses) {p : SelectPlan}
    {cx cx' : Context} {chain : JoinChain} {items : List (ScopeEntry × String)}
    (hChain : JoinChain.ofRelation d p.source = .ok chain)
    (hItems : fromItems d nested (p.qualifies cx) cx chain.tables = (.ok items, cx')) :
    (p.render d nested cx).2 = ⟨cx.alwaysAlias, cx'.nextAlias, cx.scopes⟩ := by
  have hFlag := (p.reaches_render hNested cx (d := d)).flag
  have hScopes := (p.reaches_fromClause hNested cx (d := d)).scopes_rollback
  rw [← render_snd] at hScopes
  rw [← hFlag, ← hScopes, ← p.nextAlias_render hChain hItems]

theorem SelectPlan.render_of_fromItems_error {p : SelectPlan} {cx cx' : Context} {chain : JoinChain}
    {e : SqlError} (hChain : JoinChain.ofRelation d p.source = .ok chain)
    (hItems : fromItems d nested (p.qualifies cx) cx chain.tables = (.error e, cx')) :
    (p.render d nested cx).1 = .error e := by
  rw [qualifies] at hItems
  simp only [render, fromClause, HasContext.context_self, HasContext.updateContext_self, hChain,
    hItems]

/-- Over derived tables that are steady, a statement is. -/
theorem steady_render (hUniform : d.spellings.Uniform) (hNested : nested.Progresses)
    (p : SelectPlan)
    (h : ∀ t ∈ p.source.fromTables, ∀ m, t.derived? = some m →
      SteadyRun (Laid (gaps m)) flag (nested · m)) :
    SteadyRun (Laid (p.items.length - 1 +
      total (p.source.fromTables.map fun t => (t.derived?.map gaps).getD 0))) flag
      fun cx => p.render d nested cx := by
  cases hChain : JoinChain.ofRelation d p.source with
  | error e =>
      refine .inr ⟨e.ctorIdx, fun k scopes => ⟨e, _, Prod.ext ?_ rfl, rfl⟩⟩
      simp only [SelectPlan.render, SelectPlan.fromClause, hChain]
  | ok chain =>
      rw [← JoinChain.tables_ofRelation hChain] at h ⊢
      rcases steady_fromItems (d := d) (p.source.isJoin || flag) h with
        ⟨items, drawn, hLaid, hItems⟩ | ⟨variant, hError⟩
      · -- with its items the statement is laid out, and nothing else of it changes the context
        have hQualified : ∀ k scopes, fromItems d nested (p.qualifies ⟨flag, k, scopes⟩)
            ⟨flag, k, scopes⟩ chain.tables = (.ok (items k), ⟨flag, k + drawn, scopes⟩) := hItems
        have hText : ∀ k scopes, (p.render d nested ⟨flag, k, scopes⟩).1 = _ := fun k scopes =>
          p.render_eq_layOut hNested hChain (hQualified k scopes)
        have hAfter : ∀ k scopes,
            (p.render d nested ⟨flag, k, scopes⟩).2 = ⟨flag, k + drawn, scopes⟩ := fun k scopes =>
          SelectPlan.render_snd_of_fromItems hNested hChain (hQualified k scopes)
        have hCount : chain.tables.length =
            (chain.tables.map fun t => (t.derived?.map gaps).getD 0).length := by simp
        rcases hLaid.steady_layOut hUniform flag p (p.source.isJoin || flag) hCount with
          ⟨t, ht, hLayout⟩ | ⟨variant, hError⟩
        · exact .inl ⟨t, drawn, ht, fun k scopes =>
            Prod.ext ((hText k scopes).trans (hLayout k)) (hAfter k scopes)⟩
        · refine .inr ⟨variant, fun k scopes => ?_⟩
          rcases hError k with ⟨e, he, hVariant⟩
          exact ⟨e, _, Prod.ext ((hText k scopes).trans he) rfl, hVariant⟩
      · exact .of_errors (fromItems d nested (p.source.isJoin || flag) · chain.tables) hError 0
          fun k scopes e cx he => SelectPlan.render_of_fromItems_error hChain he

/-- Statements are steady, however deep they may stand in one another. -/
theorem steady_statement (hUniform : d.spellings.Uniform) (flag : Bool) :
    ∀ allowance r, SteadyRun (Laid r.separators) flag fun cx => statement d allowance cx r := by
  intro allowance
  induction allowance with
  | zero =>
      intro r
      exact .inr ⟨_, fun k scopes => ⟨_, _, rfl, rfl⟩⟩
  | succ allowance ih =>
      intro r
      simp only [statement]
      cases hPlan : SelectPlan.ofRelation r with
      | error e => exact .inr ⟨_, fun k scopes => ⟨e, _, rfl, rfl⟩⟩
      | ok p =>
          rw [Relation.separators_eq hPlan]
          exact steady_render hUniform (progresses_statement d allowance) p fun t _ m _ => ih m

end Statements

end TableQuery
