import TableQuery.Proofs.Arity
import TableQuery.Proofs.Sql.Atom
import TableQuery.Proofs.Text.Numeral
import TableQuery.Spelling.Standard

/-!
# Spelling — the standard rules keep operands apart

Every standard rule makes a phrase of phrases, with the operands' tokens in their order. The one
exception takes its second operand apart: a unit of time loses its quotes and stands first.
-/

namespace TableQuery

open Lexeme

/-! ## Rules -/

/-- The tokens of a call, from those of its operands: all of them in order, but the unit of a
truncation is written without quotes. -/
def callQuotes (op : Operation) (tss : List (List Token)) : List Token :=
  if op = .dateTruncate then tss.headD [] else tss.flatten

/-- Whether phrases stay phrases between, before or behind what the shape puts around them. -/
def Shape.IsBare : Shape → Prop
  | .between symbol => Bare (" " ++ symbol ++ " ")
  | .before symbol | .after symbol => Soft symbol ∧ symbol ≠ ""
  | .function name => Soft name
  | .splice _ _ => False

instance : DecidablePred Shape.IsBare
  | .between symbol => inferInstanceAs (Decidable (Bare (" " ++ symbol ++ " ")))
  | .before symbol => inferInstanceAs (Decidable (Soft symbol ∧ symbol ≠ ""))
  | .after symbol => inferInstanceAs (Decidable (Soft symbol ∧ symbol ≠ ""))
  | .function name => inferInstanceAs (Decidable (Soft name))
  | .splice _ _ => inferInstanceAs (Decidable False)

namespace SpellingRule

/-- As many phrases as the rule takes become a phrase with all of their tokens. -/
def KeepsPhrases (rule : SpellingRule) : Prop :=
  ∀ texts tss, rule.arity.accepts texts.length = true → List.Forall₂ Phrase texts tss →
    Phrase (rule.render texts) tss.flatten

@[simp]
theorem render_splice (arity : Arity) (operatorLike : Bool) (text : List String → String)
    (texts : List String) : render ⟨arity, .splice operatorLike text⟩ texts = text texts := rfl

theorem comma_glue : Glue ", " :=
  Soft.glue (by decide) (by decide)

theorem keepsPhrases_of_isBare {rule : SpellingRule} (h : rule.shape.IsBare) :
    rule.KeepsPhrases := by
  intro texts tss hArity hTexts
  rcases rule with ⟨arity, shape⟩
  have hList := Phrase.intercalate comma_glue hTexts
  cases shape with
  | between symbol =>
      have hLeads : Leads (" " ++ symbol ++ " ") := by
        rw [String.append_assoc]
        exact Leads.append (by decide) (by decide)
      have hTrails : Trails (" " ++ symbol ++ " ") := Trails.append (by decide) (by decide)
      exact Phrase.intercalate ⟨.of_bare h, hLeads, hTrails, by simp⟩ hTexts
  | before symbol => exact hList.behind (h.1.glue h.2)
  | after symbol => exact hList.before (h.1.glue h.2)
  | function name =>
      have hCall := Phrase.call (Soft.phrase h) hList
      simpa [render, String.append_assoc] using hCall
  | splice operatorLike text => exact h.elim

end SpellingRule

/-! ## Splices -/

namespace Spellings

variable {a b c : String} {s t u : List Token}

theorem phrase_negateText (ha : Phrase a s) : Phrase (negateText [a]) s := by
  unfold negateText
  simp only [operand, List.getD_cons_zero]
  split
  · -- an operand with a sign of its own stands in parentheses
    exact (ha.paren.minus (by simp)).of_toList_eq (by simp)
  · next hHead => exact ha.minus (by simpa using hHead)

theorem phrase_betweenText (ha : Phrase a s) (hb : Phrase b t) (hc : Phrase c u) :
    Phrase (betweenText [a, b, c]) (s ++ t ++ u) := by
  have hBetween : Glue " BETWEEN " := Soft.glue (by decide) (by decide)
  have hAnd : Glue " AND " := Soft.glue (by decide) (by decide)
  exact (ha.join hBetween hb).join hAnd hc

theorem phrase_listText {keyword : String} (hKeyword : Soft keyword) {rest : List String}
    {tss : List (List Token)} (ha : Phrase a s) (hRest : List.Forall₂ Phrase rest tss) :
    Phrase (listText keyword (a :: rest)) (s ++ tss.flatten) := by
  have hBlank : Soft " " := by decide
  have hGap : Glue (" " ++ keyword ++ " ") :=
    ((hBlank.append hKeyword).append hBlank).glue (by simp)
  have hList := Phrase.intercalate SpellingRule.comma_glue hRest
  refine ((ha.before hGap).call hList).of_toList_eq ?_
  unfold listText operand
  simp

theorem phrase_ifElseText (ha : Phrase a s) (hb : Phrase b t) (hc : Phrase c u) :
    Phrase (ifElseText [a, b, c]) (s ++ t ++ u) := by
  have hThen : Glue " THEN " := Soft.glue (by decide) (by decide)
  have hElse : Glue " ELSE " := Soft.glue (by decide) (by decide)
  have hWhen : Glue "CASE WHEN " := Soft.glue (by decide) (by decide)
  have hEnd : Glue " END" := Soft.glue (by decide) (by decide)
  have hWhole := (((ha.join hThen hb).join hElse hc).before hEnd).behind hWhen
  unfold ifElseText operand
  simpa [String.append_assoc] using hWhole

theorem phrase_branchesText {texts : List String} {tss : List (List Token)}
    (h : List.Forall₂ Phrase texts tss) :
    Phrase (branchesText texts) tss.flatten ∧ Leads (branchesText texts) := by
  have hThen : Glue " THEN " := Soft.glue (by decide) (by decide)
  have hElse : Glue " ELSE " := Soft.glue (by decide) (by decide)
  have hWhen : Glue " WHEN " := Soft.glue (by decide) (by decide)
  fun_induction branchesText texts generalizing tss with
  | case1 =>
      cases h
      exact ⟨.empty, by decide⟩
  | case2 text =>
      rcases h with _ | ⟨hText, _ | _⟩
      exact ⟨by simpa using hText.behind hElse, hElse.leads.append hElse.nonempty⟩
  | case3 condition value rest ih =>
      rcases h with _ | ⟨hCondition, _ | ⟨hValue, hRest⟩⟩
      rcases ih hRest with ⟨hMore, hLeads⟩
      have hBranch := (hCondition.join hThen hValue).behind hWhen
      have hWhole := hBranch.append_of_leads hMore hLeads
      constructor
      · simpa [String.append_assoc] using hWhole
      · simp only [String.append_assoc]
        exact hWhen.leads.append hWhen.nonempty

theorem phrase_searchedCaseText {texts : List String} {tss : List (List Token)}
    (h : List.Forall₂ Phrase texts tss) : Phrase (searchedCaseText texts) tss.flatten := by
  have hCase : Soft "CASE" := by decide
  have hEnd : Glue " END" := Soft.glue (by decide) (by decide)
  exact ((phrase_branchesText h).1.behind (hCase.glue (by decide))).before hEnd

theorem phrase_logText_one (ha : Phrase a s) : Phrase (logText [a]) s := by
  have hWhole := ha.enclosed (o := "LN(") (by decide)
  unfold logText
  simpa [String.append_assoc] using hWhole

theorem phrase_logText_two (ha : Phrase a s) (hb : Phrase b t) :
    Phrase (logText [a, b]) (s ++ t) := by
  have hDivide : Glue " / " := ⟨.of_bare (by decide), by decide, by decide, by decide⟩
  have hWhole := (ha.enclosed (o := "LN(") (by decide)).join hDivide
    (hb.enclosed (o := "LN(") (by decide))
  refine hWhole.of_toList_eq ?_
  unfold logText operand
  simp

/-- Text without quotes has no tokens. -/
theorem tokens_eq_nil (ha : Phrase a s) (h : ∀ q ∈ a.toList, isQuote q = false) : s = [] := by
  rcases ha with ⟨ls, hText, hTidy, rfl⟩
  refine List.filterMap_eq_nil_iff.2 fun l hl => ?_
  cases l with
  | mark c => rfl
  | quoted t =>
      have hQuote : isQuote t.quote = true := hTidy.tidy (.quoted t) hl
      have hMem : t.quote ∈ a.toList := by
        rw [hText]
        exact List.mem_flatMap.2 ⟨.quoted t, hl, by simp [chars]⟩
      simp [h t.quote hMem] at hQuote

theorem isQuote_of_readInt {lo hi n : Int} (h : Text.readInt? lo hi a = some n) :
    ∀ q ∈ a.toList, isQuote q = false := by
  intro q hq
  rcases Text.isDigit_or_of_readInt h q hq with hDigit | rfl | rfl
  · -- digits are soft, and quotes are not
    have hSoft := isSoft_of_isDigit hDigit
    by_contra hQuote
    rw [Bool.not_eq_false] at hQuote
    simp [isSoft, isNeutral, hQuote] at hSoft
  · rfl
  · rfl

/-- A start counted from one has the tokens of the start. -/
theorem phrase_oneBased (ha : Phrase a s) : Phrase (oneBased a) s := by
  have hSum : Phrase ("(" ++ a ++ " + 1)") s := by
    have hPlus : Glue " + 1" := Soft.glue (by decide) (by decide)
    exact (ha.before hPlus).paren.of_toList_eq (by simp)
  unfold oneBased
  split
  · next n hn =>
    split
    · -- a number is replaced by the next one, and neither has tokens
      rcases Option.map_eq_some_iff.1 hn with ⟨k, hk, -⟩
      rw [tokens_eq_nil ha (isQuote_of_readInt hk)]
      exact phrase_intText n
    · exact hSum
  · exact hSum

theorem phrase_substringText_two (ha : Phrase a s) (hb : Phrase b t) :
    Phrase (substringText [a, b]) (s ++ t) := by
  have hArgs := ha.join SpellingRule.comma_glue (phrase_oneBased hb)
  unfold substringText
  simpa [String.append_assoc] using hArgs.enclosed (o := "SUBSTRING(") (by decide)

theorem phrase_substringText_three (ha : Phrase a s) (hb : Phrase b t) (hc : Phrase c u) :
    Phrase (substringText [a, b, c]) (s ++ t ++ u) := by
  have hArgs := (ha.join SpellingRule.comma_glue (phrase_oneBased hb)).join
    SpellingRule.comma_glue hc
  unfold substringText operand
  simpa [String.append_assoc] using hArgs.enclosed (o := "SUBSTRING(") (by decide)

theorem phrase_extractText {field : String} (hField : Soft field) (ha : Phrase a s) :
    Phrase (extractText field [a]) s := by
  have hGlue : Soft " FROM " := by decide
  have hInner := ha.behind ((hField.append hGlue).glue (by simp))
  unfold extractText operand
  simpa [String.append_assoc] using hInner.enclosed (o := "EXTRACT(") (by decide)

theorem toList_epochText (a : String) : (epochText [a]).toList =
    ("CAST(" ++ (extractText "EPOCH" [a] ++ " AS INT" ++ ")")).toList := by
  have hOpening : "CAST(EXTRACT(EPOCH FROM ".toList =
      "CAST(".toList ++ ("EXTRACT(".toList ++ ("EPOCH".toList ++ " FROM ".toList)) := by
    decide
  have hClosing : ") AS INT)".toList = ")".toList ++ (" AS INT".toList ++ ")".toList) := by
    decide
  unfold epochText extractText operand
  simp only [String.toList_append, List.append_assoc, hOpening, hClosing]

theorem phrase_epochText (ha : Phrase a s) : Phrase (epochText [a]) s := by
  have hInt : Glue " AS INT" := Soft.glue (by decide) (by decide)
  have hExtract : Phrase (extractText "EPOCH" [a]) s := phrase_extractText (by decide) ha
  have hCast := (hExtract.before hInt).enclosed (o := "CAST(") (by decide)
  exact hCast.of_toList_eq (toList_epochText a).symm

theorem phrase_countDistinctText (ha : Phrase a s) : Phrase (countDistinctText [a]) s := by
  have hDistinct : Glue "DISTINCT " := Soft.glue (by decide) (by decide)
  have hCount := (ha.behind hDistinct).enclosed (o := "COUNT(") (by decide)
  have hOpening : "COUNT(DISTINCT ".toList = "COUNT(".toList ++ "DISTINCT ".toList := by decide
  refine hCount.of_toList_eq ?_
  unfold countDistinctText operand
  simp only [String.toList_append, List.append_assoc, hOpening, List.getD_cons_zero]

theorem phrase_countStarText : Phrase "COUNT(*)" [] := by
  have hStar : Phrase "*" [] := .of_bare (by decide)
  exact (hStar.enclosed (o := "COUNT(") (by decide)).of_toList_eq (by simp)

/-- The unit is bare and stands first. -/
theorem phrase_dateTruncateText (ha : Phrase a s) (unit : TemporalUnit) :
    Phrase (dateTruncateText [a, quoteString unit.keyword]) s := by
  have hUnit : unitKeyword (quoteString unit.keyword) = unit.keyword := by
    cases unit <;> decide
  have hArgs := unit.soft_keyword.phrase.join SpellingRule.comma_glue ha
  unfold dateTruncateText operand
  simpa [hUnit, String.append_assoc] using hArgs.enclosed (o := "DATE_TRUNC(") (by decide)

/-! ## The standard rules -/

section Arity

open SpellingRule

variable {text : List String → String} {operatorLike : Bool}

theorem keepsPhrases_one (h : ∀ a s, Phrase a s → Phrase (text [a]) s) :
    KeepsPhrases ⟨.exactly 1, .splice operatorLike text⟩ := by
  intro texts tss hArity hTexts
  rcases Arity.exists_one hArity with ⟨a, rfl⟩
  rcases hTexts with _ | ⟨ha, _ | _⟩
  simpa using h _ _ ha

theorem keepsPhrases_three
    (h : ∀ a b c s t u, Phrase a s → Phrase b t → Phrase c u →
      Phrase (text [a, b, c]) (s ++ t ++ u)) :
    KeepsPhrases ⟨.exactly 3, .splice operatorLike text⟩ := by
  intro texts tss hArity hTexts
  rcases Arity.exists_three hArity with ⟨a, b, c, rfl⟩
  rcases hTexts with _ | ⟨ha, _ | ⟨hb, _ | ⟨hc, _ | _⟩⟩⟩
  simpa using h _ _ _ _ _ _ ha hb hc

theorem keepsPhrases_listText {keyword : String} (hKeyword : Soft keyword) :
    KeepsPhrases ⟨.atLeast 2, .splice operatorLike (listText keyword)⟩ := by
  intro texts tss hArity hTexts
  cases hTexts with
  | nil => simp [Arity.accepts] at hArity
  | cons ha hRest => exact phrase_listText hKeyword ha hRest

theorem keepsPhrases_logText : KeepsPhrases ⟨.range 1 2, .splice operatorLike logText⟩ := by
  intro texts tss hArity hTexts
  rcases Arity.one_or_two hArity with ⟨a, rfl⟩ | ⟨a, b, rfl⟩
  · rcases hTexts with _ | ⟨ha, _ | _⟩
    simpa using phrase_logText_one ha
  · rcases hTexts with _ | ⟨ha, _ | ⟨hb, _ | _⟩⟩
    simpa using phrase_logText_two ha hb

theorem keepsPhrases_substringText :
    KeepsPhrases ⟨.range 2 3, .splice operatorLike substringText⟩ := by
  intro texts tss hArity hTexts
  rcases Arity.two_or_three hArity with ⟨a, b, rfl⟩ | ⟨a, b, c, rfl⟩
  · rcases hTexts with _ | ⟨ha, _ | ⟨hb, _ | _⟩⟩
    simpa using phrase_substringText_two ha hb
  · rcases hTexts with _ | ⟨ha, _ | ⟨hb, _ | ⟨hc, _ | _⟩⟩⟩
    simpa using phrase_substringText_three ha hb hc

theorem keepsPhrases_countStar :
    KeepsPhrases ⟨.exactly 0, .splice operatorLike fun _ => "COUNT(*)"⟩ := by
  intro texts tss hArity hTexts
  cases hTexts with
  | nil => exact phrase_countStarText
  | cons => simp [Arity.accepts] at hArity

end Arity

/-- Every standard rule but that of truncation keeps phrases. -/
theorem keepsPhrases_of_standardRule {op : Operation} {rule : SpellingRule}
    (h : standardRule? op = some rule) (hOp : op ≠ .dateTruncate) : rule.KeepsPhrases := by
  -- The splices by name; all other rules are plain enough to be checked.
  cases op
  case negate =>
    cases h
    exact keepsPhrases_one fun _ _ => phrase_negateText
  case between =>
    cases h
    exact keepsPhrases_three fun _ _ _ _ _ _ => phrase_betweenText
  case inList | notInList =>
    cases h
    exact keepsPhrases_listText (by decide)
  case ifElse =>
    cases h
    exact keepsPhrases_three fun _ _ _ _ _ _ => phrase_ifElseText
  case searchedCase =>
    cases h
    exact fun _ _ _ => phrase_searchedCaseText
  case log =>
    cases h
    exact keepsPhrases_logText
  case substring =>
    cases h
    exact keepsPhrases_substringText
  case extractYear | extractQuarter | extractMonth | extractWeek | extractDay | extractDayOfWeek |
      extractDayOfYear | extractHour | extractMinute | extractSecond | extractMillisecond =>
    cases h
    exact keepsPhrases_one fun _ _ => phrase_extractText (by decide)
  case extractEpochSeconds =>
    cases h
    exact keepsPhrases_one fun _ _ => phrase_epochText
  case dateTruncate => exact absurd rfl hOp
  case countStar =>
    cases h
    exact keepsPhrases_countStar
  case countDistinct =>
    cases h
    exact keepsPhrases_one fun _ _ => phrase_countDistinctText
  all_goals
    cases h <;> exact SpellingRule.keepsPhrases_of_isBare (by decide +kernel)

end Spellings

end TableQuery
