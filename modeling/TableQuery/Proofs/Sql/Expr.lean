import TableQuery.Proofs.Expr.Quotes
import TableQuery.Proofs.Scope.Resolve
import TableQuery.Proofs.Sql.Inversion

/-!
# Expr — the text of an expression is a phrase

By induction over expressions: every operation is spelled by a rule that keeps phrases, and every
leaf is an atom. The tokens of the text are those of the expression, before or after rewriting.
-/

namespace TableQuery

/-- The dialect spells and rewrites operations in the standard way; its layout, its limits and its
aliases are free. -/
structure Dialect.IsStandard (d : Dialect) : Prop where
  spellings : d.spellings = Spellings.standard
  rewrites : d.rewrites = RewriteSet.standard

/-- The aliases of the innermost scope are plain words. -/
def Context.AliasesSoft (cx : Context) : Prop :=
  ∀ s ∈ cx.top?, ∀ e ∈ s.entries, ∀ a ∈ e.alias?, Soft a

variable {d : Dialect} {cx : Context}

/-! ## Leaves -/

theorem Scope.phrase_columnText {s : Scope} {col : ColumnRef} {text : String}
    (hAliases : ∀ e ∈ s.entries, ∀ a ∈ e.alias?, Soft a) (h : s.columnText col = .ok text) :
    Phrase text (nameQuotes col.name) := by
  unfold columnText at h
  split at h
  · exact Identifier.phrase_of_safe h
  · split at h
    · cases h
    · next entry hEntry =>
      rcases of_map_ok h with ⟨name, hName, rfl⟩
      have hPhrase := Identifier.phrase_of_safe hName
      split
      · next a hAlias _ =>
        have hSoft : Soft a := hAliases entry (mem_of_resolve hEntry).1 a hAlias
        have hPoint : Soft "." := by decide
        exact hPhrase.behind ((hSoft.append hPoint).glue (by simp))
      · exact hPhrase

theorem Context.phrase_columnText {col : ColumnRef} {text : String} (hcx : cx.AliasesSoft)
    (h : cx.columnText col = .ok text) : Phrase text (nameQuotes col.name) := by
  unfold columnText at h
  split at h
  · next s hTop => exact s.phrase_columnText (hcx s hTop) h
  · cases h

theorem FrameBound.soft_sql (b : FrameBound) : Soft b.sql := by
  cases b with
  | preceding n => exact (soft_natText n).append (by decide)
  | following n => exact (soft_natText n).append (by decide)
  | unboundedPreceding | currentRow | unboundedFollowing => decide

theorem WindowFrame.soft_sql (f : WindowFrame) : Soft f.sql := by
  rcases f with ⟨units, first, last⟩
  have hBounds {word : String} (hWord : Soft word) :
      Soft (word ++ " BETWEEN " ++ first.sql ++ " AND " ++ last.sql) :=
    (((hWord.append (by decide)).append first.soft_sql).append (by decide)).append last.soft_sql
  cases units with
  | rows => exact hBounds (show Soft "ROWS" by decide)
  | range => exact hBounds (show Soft "RANGE" by decide)

/-! ## Operands -/

namespace Expr

theorem phrase_operandText {e : Expr} {text : String} {ts : List Token} (wrap : Bool)
    (h : Phrase text ts) : Phrase (e.operandText d wrap text) ts := by
  unfold operandText
  split
  · exact h.paren
  · exact h

theorem length_quotesList (es : List Expr) : (quotesList es).length = es.length := by
  induction es with
  | nil => rfl
  | cons e es ih => simp [quotesList, ih]

theorem of_ruleFor (hd : d.IsStandard) {op : Operation} {n : Nat} {rule : SpellingRule}
    (h : d.ruleFor op n = .ok rule) :
    Spellings.standardRule? op = some rule ∧ rule.arity.accepts n = true := by
  have hRule := Dialect.of_ruleFor h
  rwa [hd.spellings] at hRule

/-- A call of any operation but a truncation. -/
theorem phrase_call (hd : d.IsStandard) {op : Operation} {args : List Expr} {rule : SpellingRule}
    {texts : List String} (hRule : d.ruleFor op args.length = .ok rule)
    (hOp : op ≠ .dateTruncate) (hTexts : List.Forall₂ Phrase texts (quotesList args)) :
    Phrase (rule.render texts) (call op args).quotes := by
  rcases of_ruleFor hd hRule with ⟨hStandard, hArity⟩
  have hLength : texts.length = args.length := by
    rw [hTexts.length_eq, length_quotesList]
  rw [← hLength] at hArity
  rw [quotes, callQuotes, if_neg hOp]
  exact Spellings.keepsPhrases_of_standardRule hStandard hOp texts _ hArity hTexts

/-- The operands of a truncation to a unit of time: the second is the keyword of the unit, so its
text is that keyword in quotes. -/
theorem of_truncation (hd : d.IsStandard) {args : List Expr} {rule : SpellingRule}
    {texts : List String} (hRule : d.ruleFor .dateTruncate args.length = .ok rule)
    (hUnit : truncatesToUnit (.call .dateTruncate args) = true)
    (h : operandsSql d cx rule.isOperatorLike args = .ok texts) :
    Spellings.standardRule? .dateTruncate = some rule ∧
      ∃ (u : TemporalUnit) (text : String), texts = [text, quoteString u.keyword] := by
  rcases of_ruleFor hd hRule with ⟨hStandard, hArity⟩
  refine ⟨hStandard, ?_⟩
  cases hStandard
  rcases Arity.exists_two hArity with ⟨a, unit, rfl⟩
  have hKeyword : ∃ u : TemporalUnit, unit = .literal (.string u.keyword) := by
    change unit.isUnit = true at hUnit
    unfold isUnit at hUnit
    split at hUnit
    · next word =>
      rcases Option.isSome_iff_exists.1 hUnit with ⟨u, hu⟩
      have hWord : u.keyword = word := by simpa using List.find?_some hu
      exact ⟨u, by rw [hWord]⟩
    · cases hUnit
  rcases hKeyword with ⟨u, rfl⟩
  rcases of_operandsSql_cons h with ⟨text, rest, -, hRest, rfl⟩
  rcases of_operandsSql_cons hRest with ⟨keyword, none, hText, hNone, rfl⟩
  have hQuoted : keyword = quoteString u.keyword := by
    rw [plainSql, Literal.sql, Except.ok.injEq] at hText
    exact hText.symm
  rw [operandsSql, Except.ok.injEq] at hNone
  rw [← hNone, hQuoted]
  exact ⟨u, _, rfl⟩

/-- A truncation, whose unit is the quoted keyword of a unit of time. -/
theorem phrase_truncation (hd : d.IsStandard) {args : List Expr} {rule : SpellingRule}
    {texts : List String} (hRule : d.ruleFor .dateTruncate args.length = .ok rule)
    (hUnit : truncatesToUnit (.call .dateTruncate args) = true)
    (hTexts : List.Forall₂ Phrase texts (quotesList args))
    (h : operandsSql d cx rule.isOperatorLike args = .ok texts) :
    Phrase (rule.render texts) (call .dateTruncate args).quotes := by
  rcases of_truncation hd hRule hUnit h with ⟨hStandard, u, text, rfl⟩
  cases hStandard
  rw [quotes, callQuotes, if_pos rfl]
  generalize quotesList args = tss at hTexts
  rcases hTexts with _ | ⟨ha, -⟩
  exact Spellings.phrase_dateTruncateText ha u

/-! ## Windows -/

theorem glueBlank : Glue " " :=
  Soft.glue (by decide) (by decide)

/-- A list behind a keyword, unless it is empty. -/
theorem phrases_clause {keyword : String} (hKeyword : Glue keyword) {texts : List String}
    {tss : List (List Token)} (h : List.Forall₂ Phrase texts tss) :
    ∃ uss, List.Forall₂ Phrase
        (if texts.isEmpty then [] else [keyword ++ ", ".intercalate texts]) uss ∧
      uss.flatten = tss.flatten := by
  cases h with
  | nil => exact ⟨[], .nil, rfl⟩
  | cons hText hRest =>
      have hList := Phrase.intercalate SpellingRule.comma_glue (.cons hText hRest)
      exact ⟨_, .cons (hList.behind hKeyword) .nil, by simp⟩

theorem phrase_windowClauses {partition order : List String} (frame : Option WindowFrame)
    {pss oss : List (List Token)} (hPartition : List.Forall₂ Phrase partition pss)
    (hOrder : List.Forall₂ Phrase order oss) :
    Phrase (windowClauses partition order frame) (pss.flatten ++ oss.flatten) := by
  have hPartitionBy : Glue "PARTITION BY " := Soft.glue (by decide) (by decide)
  have hOrderBy : Glue "ORDER BY " := Soft.glue (by decide) (by decide)
  rcases phrases_clause hPartitionBy hPartition with ⟨uss, hUss, hUssEq⟩
  rcases phrases_clause hOrderBy hOrder with ⟨vss, hVss, hVssEq⟩
  have hFrame : ∃ wss, List.Forall₂ Phrase (frame.map WindowFrame.sql).toList wss ∧
      wss.flatten = [] := by
    cases frame with
    | none => exact ⟨[], .nil, rfl⟩
    | some f => exact ⟨[[]], .cons f.soft_sql.phrase .nil, rfl⟩
  rcases hFrame with ⟨wss, hWss, hWssEq⟩
  have hAll := Phrase.intercalate glueBlank (List.rel_append (List.rel_append hUss hVss) hWss)
  simpa [windowClauses, hUssEq, hVssEq, hWssEq] using hAll

theorem phrase_windowText (op : Operation) {func : String} {ts : List Token}
    {partition order : List String} {frame : Option WindowFrame} {pss oss : List (List Token)}
    (hFunc : Phrase func ts) (hPartition : List.Forall₂ Phrase partition pss)
    (hOrder : List.Forall₂ Phrase order oss) :
    Phrase (windowText op func partition order frame)
      (ts ++ pss.flatten ++ oss.flatten) := by
  have hOver : Glue " OVER " := Soft.glue (by decide) (by decide)
  have hOne : Glue " - 1" := ⟨.of_bare (by decide), by decide, by decide, by decide⟩
  have hWindow : Phrase (func ++ " OVER (" ++ windowClauses partition order frame ++ ")")
      (ts ++ pss.flatten ++ oss.flatten) := by
    have hCall := (hFunc.before hOver).call (phrase_windowClauses frame hPartition hOrder)
    rw [List.append_assoc]
    refine hCall.of_toList_eq ?_
    simp
  unfold windowText
  split
  · refine (hWindow.before hOne).paren.of_toList_eq ?_
    simp
  · exact hWindow

theorem phrase_sortKeyText {text : String} {ts : List Token} (h : Phrase text ts) (up : Bool) :
    Phrase (sortKeyText text up) ts := by
  have hDesc : Glue " DESC" := Soft.glue (by decide) (by decide)
  cases up with
  | false => exact h.before hDesc
  | true => exact h

/-! ## Expressions -/

/-- An analytic function or a reduction is no truncation. -/
theorem ne_dateTruncate {op : Operation} (h : (op.isAnalytic || op.isReduction) = true) :
    op ≠ .dateTruncate := by
  rintro rfl
  cases h

theorem phrases_operandsSql {wrap : Bool} {es : List Expr} {texts : List String}
    (hes : ∀ e ∈ es, ∀ text, e.plainSql d cx = .ok text → Phrase text e.quotes)
    (h : operandsSql d cx wrap es = .ok texts) : List.Forall₂ Phrase texts (quotesList es) := by
  rw [operandsSql_eq_mapM] at h
  rw [quotesList_eq_map]
  refine forall₂_map_of_mapM h fun e he operand hOperand => ?_
  rcases of_map_ok hOperand with ⟨text, hText, rfl⟩
  exact phrase_operandText wrap (hes e he text hText)

theorem phrases_listSql {es : List Expr} {texts : List String}
    (hes : ∀ e ∈ es, ∀ text, e.plainSql d cx = .ok text → Phrase text e.quotes)
    (h : listSql d cx es = .ok texts) : List.Forall₂ Phrase texts (quotesList es) := by
  rw [listSql_eq_mapM] at h
  rw [quotesList_eq_map]
  exact forall₂_map_of_mapM h hes

theorem phrases_keysSql {ks : List (SortKey Expr)} {texts : List String}
    (hks : ∀ k ∈ ks, ∀ text, k.key.plainSql d cx = .ok text → Phrase text k.key.quotes)
    (h : keysSql d cx ks = .ok texts) : List.Forall₂ Phrase texts (quotesKeys ks) := by
  rw [keysSql_eq_mapM] at h
  rw [quotesKeys_eq_map]
  refine forall₂_map_of_mapM h fun k hk sorted hSorted => ?_
  rcases of_map_ok hSorted with ⟨text, hText, rfl⟩
  exact phrase_sortKeyText (hks k hk text hText) k.ascending

theorem phrase_plainSql (hd : d.IsStandard) (hcx : cx.AliasesSoft) (e : Expr) {text : String}
    (hUnits : e.UnitsNamed) (h : e.plainSql d cx = .ok text) : Phrase text e.quotes := by
  induction e using writtenInduction generalizing text with
  | column ref => exact cx.phrase_columnText hcx h
  | literal value => exact Literal.phrase_of_sql h
  | call op args ih =>
      rw [unitsNamed_call] at hUnits
      rcases of_plainSql_call h with ⟨rule, texts, -, hRule, hTexts, rfl⟩
      have hPhrases := phrases_operandsSql (fun a ha _ => ih a ha (hUnits.2 a ha)) hTexts
      -- truncations take their unit apart, which needs the operand and not only its text
      by_cases hOp : op = .dateTruncate
      · subst hOp
        exact phrase_truncation hd hRule hUnits.1 hPhrases hTexts
      · exact phrase_call hd hRule hOp hPhrases
  | cast arg target ih =>
      rw [unitsNamed_cast] at hUnits
      rw [plainSql] at h
      split at h
      · cases h
      · next inner hInner =>
        have hArg := ih hUnits hInner
        rcases of_map_ok h with ⟨name, hName, rfl⟩
        have hAs : Glue " AS " := Soft.glue (by decide) (by decide)
        have hCast := (hArg.join hAs (target.phrase_sqlName hName)).enclosed (o := "CAST(")
          (by decide)
        simpa [quotes, String.append_assoc] using hCast
  | aliased expr name ih =>
      rw [unitsNamed_alias] at hUnits
      rw [plainSql] at h
      exact ih hUnits h
  | window op args partition order frame ihArgs ihPartition ihOrder =>
      rw [unitsNamed_window, unitsNamed_call] at hUnits
      rcases hUnits with ⟨⟨-, hArgs⟩, hPartition, hOrder⟩
      rcases of_plainSql_window h with
        ⟨_, _, rule, operands, keys, sorted, hFunc, hWindow, hRule, hOperands, hKeys, hSorted, rfl⟩
      cases hFunc
      -- only analytic functions and reductions stand over a window, so no unit is taken apart
      have hCall := phrase_call hd hRule (ne_dateTruncate hWindow)
        (phrases_operandsSql (fun a ha _ => ihArgs a ha (hArgs a ha)) hOperands)
      exact phrase_windowText op hCall
        (phrases_listSql (fun p hp _ => ihPartition p hp (hPartition p hp)) hKeys)
        (phrases_keysSql (fun k hk _ => ihOrder k hk (hOrder k hk)) hSorted)
  | misplaced func partition order frame hFunc =>
      rcases of_plainSql_window h with ⟨op, args, _, _, _, _, hCall, -⟩
      exact absurd hCall (hFunc op args)
  | udf name args output ih =>
      rw [unitsNamed_udf] at hUnits
      rw [plainSql] at h
      split at h
      · cases h
      · next texts hTexts =>
        have hArgs := Phrase.intercalate SpellingRule.comma_glue
          (phrases_listSql (fun a ha _ => ih a ha (hUnits a ha)) hTexts)
        rcases of_map_ok h with ⟨safe, hSafe, rfl⟩
        have hCall := (Identifier.phrase_of_safe hSafe).call hArgs
        simpa [quotes, String.append_assoc] using hCall

/-- An expression that has a text is a phrase with the expression's tokens. -/
theorem phrase_sql (hd : d.IsStandard) (hcx : cx.AliasesSoft) {e : Expr} {text : String}
    (hUnits : e.UnitsNamed) (h : e.sql d cx = .ok text) : Phrase text e.quotes := by
  unfold sql at h
  rw [hd.rewrites] at h
  have hPhrase := phrase_plainSql hd hcx _ (RewriteSet.unitsNamed_apply hUnits) h
  rwa [RewriteSet.quotes_apply] at hPhrase

end Expr

end TableQuery
