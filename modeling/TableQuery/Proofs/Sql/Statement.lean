import TableQuery.Proofs.Sql.Clause
import TableQuery.Proofs.Sql.Progress
import TableQuery.Proofs.Text.Indent

/-!
# Statement — the text of a statement is a phrase

A statement puts clauses, tables and other statements together, and what stands inside another
statement is moved to the right. Its quoted tokens are those of the names and literals that it was
put together from, each as often moved as the text around it.
-/

namespace TableQuery

open Lexeme

/-! ## Tokens and where they end up -/

/-- A quoted token with the widths by which the text around it is moved, the innermost first. -/
structure Placed where
  token : Token
  widths : List Nat
  deriving DecidableEq, Repr

namespace Placed

/-- Tokens that nothing has moved. -/
def fresh (ts : List Token) : List Placed :=
  ts.map (⟨·, []⟩)

/-- The token in text that is moved once more. -/
def shift (width : Nat) (p : Placed) : Placed :=
  { p with widths := p.widths ++ [width] }

/-- The token as it stands in the end. -/
def final (p : Placed) : Token :=
  p.widths.foldl (fun t width => t.moved width) p.token

@[simp]
theorem map_final_fresh (ts : List Token) : (fresh ts).map final = ts := by
  simp [fresh, final, Function.comp_def]

@[simp]
theorem map_final_map_shift (width : Nat) (ps : List Placed) :
    (ps.map (shift width)).map final = (ps.map final).map (Token.moved width) := by
  simp [shift, final, Function.comp_def]

end Placed

/-- No raw SQL anywhere in the tree, and every truncation is to a unit of time. -/
structure Relation.Tame (r : Relation) : Prop where
  noRawSql : ∀ m ∈ r.nodes, m.kind ≠ .sqlQuery
  unitsNamed : ∀ m ∈ r.nodes, ∀ e ∈ m.exprs, e.UnitsNamed

theorem Relation.Tame.mono {r m : Relation} (h : r.Tame) (hm : m.nodes ⊆ r.nodes) : m.Tame where
  noRawSql n hn := h.noRawSql n (hm hn)
  unitsNamed n hn := h.unitsNamed n (hm hn)

/-- The quoted tokens of a `FROM` item, from those of derived tables. -/
def itemQuotes (d : Dialect) (nested : Relation → List Placed) : Relation → List Placed
  | .table _ name _ => Placed.fresh (nameQuotes name)
  | .selfReference _ (.table _ name _) => Placed.fresh (nameQuotes name)
  | .selfReference _ target => (nested target).map (Placed.shift d.indent)
  | r => (nested r).map (Placed.shift d.indent)

/-- The quoted tokens of a joined table and its condition. -/
def stepQuotes (d : Dialect) (nested : Relation → List Placed) (s : JoinStep) : List Placed :=
  (itemQuotes d nested s.table).map (Placed.shift d.indent)
    ++ (Placed.fresh (s.predicates.flatMap Expr.quotes)).map (Placed.shift (2 * d.indent))

/-- The quoted tokens of a `FROM` clause. -/
def fromQuotes (d : Dialect) (nested : Relation → List Placed) (source : Relation) :
    List Placed :=
  match JoinChain.ofRelation d source with
  | .error _ => []
  | .ok chain => itemQuotes d nested chain.first ++ chain.steps.flatMap (stepQuotes d nested)

/-- The quoted tokens of a relation's statement that at most `allowance` statements are part of. -/
def statementQuotes (d : Dialect) : Nat → Relation → List Placed
  | 0, _ => []
  | allowance + 1, r =>
    match SelectPlan.ofRelation r with
    | .error _ => []
    | .ok p =>
      Placed.fresh (p.selectQuotes d.alwaysAlias)
        ++ fromQuotes d (statementQuotes d allowance) p.source
        ++ Placed.fresh p.tailQuotes

/-- The quoted tokens that names and literals of a relation bring into its statement, in order. -/
def Relation.quotes (r : Relation) (d : Dialect) : List Placed :=
  statementQuotes d (d.maxDepth + 1) r

/-! ## Items -/

variable {d : Dialect}

/-- A way of writing derived tables that moves the context on and makes phrases. -/
structure Renderer.Sound (d : Dialect) (nested : Renderer) (quotes : Relation → List Placed) :
    Prop where
  progresses : nested.Progresses
  phrase : ∀ cx r text, cx.alwaysAlias = d.alwaysAlias → r.Tame → (nested cx r).1 = .ok text →
    Phrase text ((quotes r).map Placed.final)

theorem phrase_parenthesised {text : String} {ts : List Token} (h : Phrase text ts) :
    Phrase (parenthesised d text) (ts.map (Token.moved d.indent)) := by
  have hBreak : Glue "\n" := Soft.glue (by decide) (by decide)
  have hInner := ((h.indent d.indent).behind hBreak).before hBreak
  refine hInner.paren.of_toList_eq ?_
  unfold parenthesised
  simp

variable {nested : Renderer} {quotes : Relation → List Placed}

theorem phrase_derivedText (hNested : nested.Sound d quotes) {cx : Context} {r : Relation}
    {text : String} (hcx : cx.alwaysAlias = d.alwaysAlias) (hr : r.Tame)
    (h : (derivedText d nested cx r).1 = .ok text) :
    Phrase text (((quotes r).map (Placed.shift d.indent)).map Placed.final) := by
  rcases of_map_ok h with ⟨inner, hInner, rfl⟩
  rw [Placed.map_final_map_shift]
  exact phrase_parenthesised (hNested.phrase cx r inner hcx hr hInner)

theorem phrase_itemBody (hNested : nested.Sound d quotes) {cx : Context} {r : Relation}
    {text : String} (hcx : cx.alwaysAlias = d.alwaysAlias) (hr : r.Tame)
    (h : (itemBody d nested cx r).1 = .ok text) :
    Phrase text ((itemQuotes d quotes r).map Placed.final) := by
  cases r with
  | table id name schema =>
      rw [itemQuotes, Placed.map_final_fresh]
      exact Identifier.phrase_of_safe h
  | selfReference id target =>
      have hTarget : target.Tame :=
        hr.mono (Relation.nodes_subset_of_mem_inputs (by simp [Relation.inputs]))
      cases target with
      | table id name schema =>
          rw [itemQuotes, Placed.map_final_fresh]
          exact Identifier.phrase_of_safe h
      | _ => exact phrase_derivedText hNested hcx hTarget h
  | sqlQuery id query schema => exact absurd rfl (hr.noRawSql _ (Relation.self_mem_nodes _))
  | _ => exact phrase_derivedText hNested hcx hr h

theorem soft_alias (k : Nat) : Soft ("t" ++ toString k) := by
  have hLetter : Soft "t" := by decide
  exact hLetter.append (soft_natText k)

theorem phrase_itemText {body : String} {ts : List Token} {alias? : Option String}
    (hBody : Phrase body ts) (hAlias : ∀ a ∈ alias?, Soft a) :
    Phrase (itemText body alias?) ts := by
  cases alias? with
  | none => exact hBody
  | some a =>
      have hText : Phrase (body ++ " " ++ a) ts := by
        simpa using hBody.join Expr.glueBlank (hAlias a rfl).phrase
      exact hText

/-! ## The `FROM` clause -/

/-- The items of a clause are phrases, one for each table. -/
theorem phrases_fromItems (hNested : nested.Sound d quotes) (qualify : Bool)
    {tables : List Relation} (hTables : ∀ t ∈ tables, t.Tame) :
    ∀ {cx items}, cx.alwaysAlias = d.alwaysAlias →
      (fromItems d nested qualify cx tables).1 = .ok items →
      List.Forall₂ (fun item t => Phrase item.2 ((itemQuotes d quotes t).map Placed.final)) items
        tables := by
  induction tables with
  | nil =>
      intro cx items _ h
      cases h
      exact .nil
  | cons table tables ih =>
      intro cx items hcx h
      rw [List.forall_mem_cons] at hTables
      rcases of_fromItems_cons h with ⟨body, rest, hBody, hRest, rfl⟩
      -- drawing an alias and writing the item leave the flag, which the other items need
      have hSoft := alias_of_drawAliasIf soft_alias cx (needsAlias qualify table)
      have hDrawn := Context.Reaches.drawAliasIf cx (needsAlias qualify table)
      have hWritten := hDrawn.trans (reaches_itemBody (d := d) hNested.progresses _ table)
      have hPhrase := phrase_itemBody hNested (hDrawn.flag.trans hcx) hTables.1 hBody
      exact .cons (phrase_itemText hPhrase hSoft) (ih hTables.2 (hWritten.flag.trans hcx) hRest)

theorem soft_joinLabel {kind : JoinKind} {label : String} (h : d.joinLabel kind = .ok label) :
    Soft label := by
  cases kind with
  | right | outer | leftAnti => cases h
  | _ =>
      cases h
      decide

theorem map_final_stepQuotes (s : JoinStep) :
    (stepQuotes d quotes s).map Placed.final =
      ((itemQuotes d quotes s.table).map Placed.final).map (Token.moved d.indent) ++
        (s.predicates.flatMap Expr.quotes).map (Token.moved (2 * d.indent)) := by
  rw [stepQuotes, List.map_append, Placed.map_final_map_shift, Placed.map_final_map_shift,
    Placed.map_final_fresh]

theorem phrase_joinLines (hd : d.IsStandard) {cx : Context} (hcx : cx.AliasesSoft)
    {steps : List JoinStep} {tables : List String}
    (hTables : List.Forall₂
      (fun text s => Phrase text ((itemQuotes d quotes s.table).map Placed.final)) tables steps)
    (hUnits : ∀ s ∈ steps, ∀ e ∈ s.predicates, e.UnitsNamed) :
    ∀ {text}, joinLines d cx steps tables = .ok text →
      Phrase text ((steps.flatMap (stepQuotes d quotes)).map Placed.final) ∧ Leads text := by
  have hBreak : Glue "\n" := Soft.glue (by decide) (by decide)
  induction hTables with
  | nil =>
      intro text h
      cases h
      exact ⟨.empty, by decide⟩
  | @cons table step tables steps hTable _ ih =>
      intro text h
      rw [List.forall_mem_cons] at hUnits
      rcases of_joinLines_cons h with ⟨label, ps, rest, hLabel, hPs, hRest, rfl⟩
      rcases ih hUnits.2 hRest with ⟨hMore, hLeads⟩
      have hOn := phrase_onText (SelectPlan.phrases_mapM_sql hd hcx hUnits.1 hPs)
      have hLabelled : Phrase (label ++ " " ++ table)
          ((itemQuotes d quotes step.table).map Placed.final) := by
        simpa using (soft_joinLabel hLabel).phrase.join Expr.glueBlank hTable
      have hLines := ((hLabelled.indent d.indent).behind hBreak).join hBreak
        (hOn.indent (2 * d.indent))
      constructor
      · rw [List.flatMap_cons, List.map_append, map_final_stepQuotes, List.flatMap_def]
        exact hLines.append_of_leads hMore hLeads
      · simp only [String.append_assoc]
        exact hBreak.leads.append hBreak.nonempty

/-- The text of a plan is a phrase: its clauses, with the items of its `FROM` clause and the
conditions that join them. -/
theorem phrase_render (hd : d.IsStandard) (hNested : nested.Sound d quotes) {cx : Context}
    {p : SelectPlan} {text : String} (hcx : cx.alwaysAlias = d.alwaysAlias)
    (hSource : p.source.Tame) (hUnits : ∀ e ∈ p.exprs, e.UnitsNamed)
    (h : (p.render d nested cx).1 = .ok text) :
    Phrase text ((Placed.fresh (p.selectQuotes d.alwaysAlias) ++ fromQuotes d quotes p.source ++
      Placed.fresh p.tailQuotes).map Placed.final) := by
  rcases p.of_render h with ⟨chain, first, rest, joins, cx', hChain, hItems, hJoins, hClauses⟩
  have hDrawn := JoinChain.drawnFrom_ofRelation hChain
  have hTables : ∀ t ∈ chain.tables, t.Tame := fun t ht => hSource.mono (hDrawn.tables t ht)
  have hConditions : ∀ s ∈ chain.steps, ∀ e ∈ s.predicates, e.UnitsNamed := by
    intro s hs e he
    rcases hDrawn.predicates s hs e he with ⟨m, hm, hExpr⟩
    exact hSource.unitsNamed m hm e hExpr
  have hPhrases := phrases_fromItems hNested (p.qualifies cx) hTables hcx
    (congrArg Prod.fst hItems)
  have hSoft : (cx'.push (p.scope ((first :: rest).map (·.1)) (p.qualifies cx))).AliasesSoft :=
    alias_of_top_push (alias_of_fromItems soft_alias (congrArg Prod.fst hItems)) cx' p _
  have hFlag : cx'.alwaysAlias = d.alwaysAlias := by
    have hReaches := reaches_fromItems (d := d) hNested.progresses (p.qualifies cx) chain.tables cx
    rw [hItems] at hReaches
    exact hReaches.flag.trans hcx
  -- the first item stands behind the keyword, the others in the lines of their joins
  rcases hPhrases with _ | ⟨hFirst, hRest⟩
  have hLines : List.Forall₂ (fun text (s : JoinStep) =>
      Phrase text ((itemQuotes d quotes s.table).map Placed.final)) (rest.map (·.2))
      chain.steps := by
    rw [List.forall₂_map_left_iff]
    rwa [List.forall₂_map_right_iff] at hRest
  rcases phrase_joinLines hd hSoft hLines hConditions hJoins with ⟨hMore, hLeads⟩
  have hKeyword : Glue "FROM " := Soft.glue (by decide) (by decide)
  have hFrom := (hFirst.behind hKeyword).append_of_leads hMore hLeads
  have hText := SelectPlan.phrase_clauses hd hSoft hUnits hFrom hClauses
  rw [fromQuotes, hChain]
  rw [show (cx'.push _).alwaysAlias = d.alwaysAlias from hFlag] at hText
  simpa only [List.map_append, Placed.map_final_fresh] using hText

/-! ## Statements -/

/-- Every statement is a phrase, by induction on how deep statements may stand in one another. -/
theorem sound_statement (hd : d.IsStandard) :
    ∀ allowance, Renderer.Sound d (statement d allowance) (statementQuotes d allowance) := by
  intro allowance
  induction allowance with
  | zero =>
      refine ⟨progresses_statement d 0, ?_⟩
      intro cx r text _ _ h
      cases h
  | succ allowance ih =>
      refine ⟨progresses_statement d (allowance + 1), ?_⟩
      intro cx r text hcx hr h
      rcases of_statement h with ⟨plan, hPlan, hRender⟩
      have hDrawn := SelectPlan.drawnFrom_ofRelation hPlan
      -- planning invents no expressions, so their units are those of the relation
      have hUnits : ∀ e ∈ plan.exprs, e.UnitsNamed := by
        intro e he
        rcases hDrawn.exprs e he with ⟨m, hm, hExpr⟩
        exact hr.unitsNamed m hm e hExpr
      rw [statementQuotes, hPlan]
      exact phrase_render hd ih hcx (hr.mono hDrawn.source) hUnits hRender

theorem phrase_compile (hd : d.IsStandard) {r : Relation} (hr : r.Tame) {text : String}
    (h : d.compile r = .ok text) : Phrase text ((r.quotes d).map Placed.final) :=
  (sound_statement hd (d.maxDepth + 1)).phrase (Context.new d.alwaysAlias) r text rfl hr
    (of_compile h)

end TableQuery
