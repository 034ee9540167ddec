import TableQuery.Proofs.Plan.Parts
import TableQuery.Proofs.Sql.Expr
import TableQuery.Sql.Clause

/-!
# Clause — the text of a clause is a phrase

Clauses put the texts of expressions and names in a row, with keywords, commas and line breaks
between them. Their tokens are those of the expressions and names, in this order.
-/

namespace TableQuery

variable {d : Dialect} {cx : Context}

/-! ## Layout -/

theorem soft_spaces (n : Nat) : Soft (Text.spaces n) := by
  intro c hc
  rw [Text.spaces, String.toList_ofList] at hc
  rw [List.eq_of_mem_replicate hc]
  decide

theorem phrase_moreItems {items : List String} {tss : List (List Token)}
    (h : List.Forall₂ Phrase items tss) :
    ∀ length, Phrase (moreItems length items) tss.flatten ∧ Leads (moreItems length items) := by
  have hBreak : Glue (",\n" ++ Text.spaces continuationIndent) := by
    have hComma : Soft ",\n" := by decide
    exact (hComma.append (soft_spaces _)).glue (by simp)
  have hComma : Glue ", " := SpellingRule.comma_glue
  induction h with
  | nil =>
      intro length
      exact ⟨.empty, by simp [Leads, moreItems]⟩
  | @cons item ts items tss hItem _ ih =>
      intro length
      have hLine {g : String} (hGlue : Glue g) (n : Nat) :
          Phrase (g ++ item ++ moreItems n items) (ts ++ tss.flatten) ∧
            Leads (g ++ item ++ moreItems n items) := by
        constructor
        · exact (hItem.behind hGlue).append_of_leads (ih n).1 (ih n).2
        · rw [String.append_assoc]
          exact hGlue.leads.append hGlue.nonempty
      rw [moreItems]
      split
      -- a wrapped line differs only in what stands before the item
      · exact hLine hBreak _
      · exact hLine hComma _

theorem phrase_selectText (dropsRepeats : Bool) {items : List String} {tss : List (List Token)}
    (h : List.Forall₂ Phrase items tss) : Phrase (selectText dropsRepeats items) tss.flatten := by
  have hOpening : Glue (if dropsRepeats then "SELECT DISTINCT " else "SELECT ") := by
    cases dropsRepeats with
    | false => exact Soft.glue (by decide) (by decide)
    | true => exact Soft.glue (by decide) (by decide)
  cases h with
  | nil =>
      have hStar : Phrase "*" [] := .of_bare (by decide)
      exact hStar.behind hOpening
  | cons hItem hRest =>
      rcases phrase_moreItems hRest (lengthAfter (String.utf8ByteSize
        (if dropsRepeats then "SELECT DISTINCT " else "SELECT ")) _) with ⟨hMore, hLeads⟩
      exact (hItem.behind hOpening).append_of_leads hMore hLeads

theorem phrase_conjunctionText {keyword : String} (hKeyword : Soft keyword) {ps : List String}
    {tss : List (List Token)} (h : List.Forall₂ Phrase ps tss) :
    Phrase (conjunctionText keyword ps) tss.flatten := by
  have hBlank : Soft " " := by decide
  have hOpening : Glue (keyword ++ " ") := (hKeyword.append hBlank).glue (by simp)
  have hGap : Glue (" AND\n" ++ Text.spaces (keyword.length + 1)) := by
    have hAnd : Soft " AND\n" := by decide
    exact (hAnd.append (soft_spaces _)).glue (by simp)
  -- a single condition stands bare, several in parentheses
  have hParens : List.Forall₂ Phrase (ps.map fun p => "(" ++ p ++ ")") tss :=
    List.forall₂_map_left_iff.2 (h.imp fun _ _ hp => hp.paren)
  have hMany := (Phrase.intercalate hGap hParens).behind hOpening
  unfold conjunctionText
  split
  · next p =>
    rcases h with _ | ⟨hp, _ | _⟩
    simpa using hp.behind hOpening
  · exact hMany

theorem phrase_onText {ps : List String} {tss : List (List Token)}
    (h : List.Forall₂ Phrase ps tss) : Phrase (onText ps) tss.flatten := by
  unfold onText
  split
  · next hEmpty =>
    have hTrue : Soft "ON TRUE" := by decide
    cases h with
    | nil => exact hTrue.phrase
    | cons => cases hEmpty
  · exact phrase_conjunctionText (by decide) h

theorem RowLimit.phrase_text (l : RowLimit) : Phrase l.text [] := by
  have hLimit : Soft "LIMIT " := by decide
  have hComma : Soft ", " := by decide
  unfold text
  split
  · exact (hLimit.append (soft_natText _)).phrase
  · exact (((hLimit.append (soft_natText _)).append hComma).append (soft_natText _)).phrase

/-! ## Items -/

/-- The quoted tokens of an item of the select list, with its name where that is written. -/
def Expr.namedQuotes (alwaysAlias : Bool) (e : Expr) : List Token :=
  e.quotes ++
    match e.outputName? with
    | none => []
    | some name => if e.isBareColumn && !alwaysAlias then [] else nameQuotes name

theorem Expr.phrase_namedSql (hd : d.IsStandard) (hcx : cx.AliasesSoft) {e : Expr} {text : String}
    (hUnits : e.UnitsNamed) (h : e.namedSql d cx = .ok text) :
    Phrase text (e.namedQuotes cx.alwaysAlias) := by
  unfold namedSql at h
  unfold namedQuotes
  split at h
  · cases h
  · next inner hInner =>
    have hExpr := phrase_sql hd hcx hUnits hInner
    cases hName : e.outputName? with
    | none =>
        simp only [hName, Except.ok.injEq] at h
        simpa [← h] using hExpr
    | some name =>
        simp only [hName] at h
        by_cases hBare : (e.isBareColumn && !cx.alwaysAlias) = true
        · simp only [hBare, if_true, Except.ok.injEq] at h
          simpa [hBare, ← h] using hExpr
        · simp only [hBare] at h
          rcases of_map_ok h with ⟨safe, hSafe, rfl⟩
          have hAs : Glue " AS " := Soft.glue (by decide) (by decide)
          simpa [hBare] using hExpr.join hAs (Identifier.phrase_of_safe hSafe)

/-! ## Clauses -/

namespace SelectPlan

/-- The quoted tokens of the select list. -/
def selectQuotes (p : SelectPlan) (alwaysAlias : Bool) : List Token :=
  p.items.flatMap (Expr.namedQuotes alwaysAlias)

/-- The quoted tokens of the name by which a key is grouped. -/
def groupKeyQuotes (key : Expr) : List Token :=
  match key.outputName? with
  | some name => nameQuotes name
  | none => []

/-- The quoted tokens behind the `FROM` clause. -/
def tailQuotes (p : SelectPlan) : List Token :=
  p.predicates.flatMap Expr.quotes
    ++ (p.groupKeys.flatMap groupKeyQuotes ++ p.having.flatMap Expr.quotes)
    ++ p.sortKeys.flatMap (·.key.quotes)

/-- Phrases with the given tokens altogether. -/
def Phrases (texts : List String) (ts : List Token) : Prop :=
  ∃ tss, List.Forall₂ Phrase texts tss ∧ tss.flatten = ts

theorem Phrases.nil : Phrases [] [] :=
  ⟨[], .nil, rfl⟩

theorem Phrases.singleton {text : String} {ts : List Token} (h : Phrase text ts) :
    Phrases [text] ts :=
  ⟨[ts], .cons h .nil, by simp⟩

theorem Phrases.append {as bs : List String} {ss ts : List Token} (ha : Phrases as ss)
    (hb : Phrases bs ts) : Phrases (as ++ bs) (ss ++ ts) := by
  rcases ha with ⟨sss, hAs, rfl⟩
  rcases hb with ⟨tss, hBs, rfl⟩
  exact ⟨sss ++ tss, List.rel_append hAs hBs, by simp⟩

variable {p : SelectPlan} (hd : d.IsStandard) (hcx : cx.AliasesSoft)
include hd hcx

theorem phrases_mapM_sql {es : List Expr} {texts : List String}
    (hUnits : ∀ e ∈ es, e.UnitsNamed) (h : es.mapM (Expr.sql d cx) = .ok texts) :
    List.Forall₂ Phrase texts (es.map Expr.quotes) :=
  forall₂_map_of_mapM h fun e he _ hText => Expr.phrase_sql hd hcx (hUnits e he) hText

theorem phrase_selectClause (hUnits : ∀ e ∈ p.items, e.UnitsNamed) {text : String}
    (h : p.selectClause d cx = .ok text) : Phrase text (p.selectQuotes cx.alwaysAlias) := by
  rcases of_map_ok h with ⟨items, hItems, rfl⟩
  have hPhrases : List.Forall₂ Phrase items (p.items.map (Expr.namedQuotes cx.alwaysAlias)) :=
    forall₂_map_of_mapM hItems fun e he _ hText => Expr.phrase_namedSql hd hcx (hUnits e he) hText
  simpa [selectQuotes, List.flatMap_def] using phrase_selectText p.distinct hPhrases

theorem phrases_whereClause (hUnits : ∀ e ∈ p.predicates, e.UnitsNamed) {clause : Option String}
    (h : p.whereClause d cx = .ok clause) :
    Phrases clause.toList (p.predicates.flatMap Expr.quotes) := by
  rcases of_map_ok h with ⟨ps, hPs, rfl⟩
  have hPhrases := phrases_mapM_sql hd hcx hUnits hPs
  rw [List.flatMap_def]
  generalize p.predicates.map Expr.quotes = tss at hPhrases
  cases hPhrases with
  | nil => exact .nil
  | cons hp hRest => exact .singleton (phrase_conjunctionText (by decide) (.cons hp hRest))

theorem phrase_havingText (hUnits : ∀ e ∈ p.having, e.UnitsNamed) {having : List String}
    (h : p.having.mapM (Expr.sql d cx) = .ok having) :
    Phrase (havingText having) (p.having.flatMap Expr.quotes) ∧ Leads (havingText having) := by
  have hPhrases := phrases_mapM_sql hd hcx hUnits h
  have hAnd : Glue " AND " := Soft.glue (by decide) (by decide)
  have hKeyword : Glue "\nHAVING " := Soft.glue (by decide) (by decide)
  rw [List.flatMap_def]
  generalize p.having.map Expr.quotes = tss at hPhrases
  unfold havingText
  cases hPhrases with
  | nil => exact ⟨.empty, by decide⟩
  | cons hp hRest =>
      have hList := Phrase.intercalate hAnd (.cons hp hRest)
      exact ⟨hList.behind hKeyword, hKeyword.leads.append hKeyword.nonempty⟩

omit hd hcx in
theorem phrase_groupKeyText {key : Expr} {text : String} (h : groupKeyText key = .ok text) :
    Phrase text (groupKeyQuotes key) := by
  unfold groupKeyText at h
  unfold groupKeyQuotes
  cases hName : key.outputName? with
  | none => simp [hName] at h
  | some name =>
      simp only [hName] at h
      exact Identifier.phrase_of_safe h

theorem phrases_groupClause (hUnits : ∀ e ∈ p.having, e.UnitsNamed) {clause : Option String}
    (h : p.groupClause d cx = .ok clause) :
    Phrases clause.toList
      (p.groupKeys.flatMap groupKeyQuotes ++ p.having.flatMap Expr.quotes) := by
  rcases of_groupClause h with ⟨hKeys, hHaving, rfl⟩ | ⟨keys, having, hKeys, hHaving, rfl⟩
  · rw [hKeys, hHaving]
    exact .nil
  · have hNames : List.Forall₂ Phrase keys (p.groupKeys.map groupKeyQuotes) :=
      forall₂_map_of_mapM hKeys fun _ _ _ hText => phrase_groupKeyText hText
    have hKeyword : Glue "GROUP BY " := Soft.glue (by decide) (by decide)
    have hGroup := (Phrase.intercalate SpellingRule.comma_glue hNames).behind hKeyword
    rcases phrase_havingText hd hcx hUnits hHaving with ⟨hText, hLeads⟩
    rw [← List.flatMap_def] at hGroup
    exact .singleton (hGroup.append_of_leads hText hLeads)

theorem phrases_orderClause (hUnits : ∀ k ∈ p.sortKeys, k.key.UnitsNamed)
    {clause : Option String} (h : p.orderClause d cx = .ok clause) :
    Phrases clause.toList (p.sortKeys.flatMap (·.key.quotes)) := by
  rcases of_map_ok h with ⟨keys, hKeys, rfl⟩
  have hPhrases : List.Forall₂ Phrase keys (p.sortKeys.map (·.key.quotes)) := by
    refine forall₂_map_of_mapM hKeys fun k hk _ hKey => ?_
    rcases of_map_ok hKey with ⟨text, hText, rfl⟩
    exact Expr.phrase_sortKeyText (Expr.phrase_sql hd hcx (hUnits k hk) hText) _
  have hKeyword : Glue "ORDER BY " := Soft.glue (by decide) (by decide)
  rw [List.flatMap_def]
  generalize (p.sortKeys.map fun k => k.key.quotes) = tss at hPhrases
  cases hPhrases with
  | nil => exact .nil
  | cons hk hRest =>
      have hList := Phrase.intercalate SpellingRule.comma_glue (.cons hk hRest)
      exact .singleton (hList.behind hKeyword)

/-- The clauses of a statement in a row, its `FROM` clause second. -/
theorem phrase_clauses (hUnits : ∀ e ∈ p.exprs, e.UnitsNamed) {fromText text : String}
    {ts : List Token} (hFrom : Phrase fromText ts) (h : p.clauses d cx fromText = .ok text) :
    Phrase text (p.selectQuotes cx.alwaysAlias ++ ts ++ p.tailQuotes) := by
  have hItems : ∀ e ∈ p.items, e.UnitsNamed := fun e he => hUnits e (by simp [exprs, he])
  have hPredicates : ∀ e ∈ p.predicates, e.UnitsNamed := fun e he => hUnits e (by simp [exprs, he])
  have hHaving : ∀ e ∈ p.having, e.UnitsNamed := fun e he => hUnits e (by simp [exprs, he])
  have hSortKeys : ∀ k ∈ p.sortKeys, k.key.UnitsNamed := by
    intro k hk
    refine hUnits k.key ?_
    simp only [exprs, List.mem_append, List.mem_map]
    exact .inr ⟨k, hk, rfl⟩
  have hLimit : Phrases (p.limit.map RowLimit.text).toList [] := by
    cases p.limit with
    | none => exact .nil
    | some l => exact .singleton l.phrase_text
  have hBreak : Glue "\n" := Soft.glue (by decide) (by decide)
  rcases of_clauses h with ⟨select, filter, group, order, hSelect, hFilter, hGroup, hOrder, rfl⟩
  have hHead := Phrases.append (.singleton (phrase_selectClause hd hcx hItems hSelect))
    (.singleton hFrom)
  have hAll := (((hHead.append (phrases_whereClause hd hcx hPredicates hFilter)).append
    (phrases_groupClause hd hcx hHaving hGroup)).append
    (phrases_orderClause hd hcx hSortKeys hOrder)).append hLimit
  -- clauses that are left out have no tokens, so the lists fit without a case split
  rcases hAll with ⟨tss, hTss, hFlatten⟩
  have hText := Phrase.intercalate hBreak hTss
  rw [hFlatten] at hText
  simpa [tailQuotes] using hText

end SelectPlan

end TableQuery
