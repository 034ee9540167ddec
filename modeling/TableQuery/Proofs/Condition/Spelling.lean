import TableQuery.Proofs.Condition.Atom
import TableQuery.Proofs.Sql.Spelling

/-!
# Spelling — which rules leave a connective outside of brackets

The operands of an operator are flat, those of a function may be any legible text. A standard rule
makes a flat text of them, with three exceptions: `AND` and `OR` connect their operands, and
`BETWEEN` has an `AND` of its own, for which it no longer waits at the end.
-/

namespace TableQuery

/-! ## Rules -/

namespace SpellingRule

/-- What the rule makes of as many operands as it takes has the property. The operands are legible,
and flat where the rule puts the others in parentheses. -/
def Renders (rule : SpellingRule) (P : String → Prop) : Prop :=
  ∀ texts, rule.arity.accepts texts.length = true →
    (∀ text ∈ texts, Legible rule.isOperatorLike text) → P (rule.render texts)

end SpellingRule

/-- Whether the shape puts only quiet text around its operands. -/
def Shape.IsQuiet : Shape → Prop
  | .between symbol => Gap (" " ++ symbol ++ " ")
  | .before symbol => Quiet symbol ∧ EndsApart symbol
  | .after symbol => Quiet symbol ∧ StartsApart symbol
  | .function name => Quiet name
  | .splice _ _ => False

instance : DecidablePred Shape.IsQuiet
  | .between symbol => inferInstanceAs (Decidable (Gap (" " ++ symbol ++ " ")))
  | .before symbol => inferInstanceAs (Decidable (Quiet symbol ∧ EndsApart symbol))
  | .after symbol => inferInstanceAs (Decidable (Quiet symbol ∧ StartsApart symbol))
  | .function name => inferInstanceAs (Decidable (Quiet name))
  | .splice _ _ => inferInstanceAs (Decidable False)

theorem gap_comma : Gap ", " := by decide

namespace SpellingRule

theorem flat_of_isQuiet {rule : SpellingRule} (h : rule.shape.IsQuiet) :
    rule.Renders (Legible true) := by
  intro texts _ hTexts
  rcases rule with ⟨arity, shape⟩
  have hList := Legible.intercalate gap_comma hTexts
  cases shape with
  | between symbol => exact .intercalate h hTexts
  | before symbol => exact .behind h.1 h.2 hList
  | after symbol => exact hList.before h.1 h.2
  | function name =>
      have hName : Legible true name := .of_quiet h
      exact (hName.call hList).of_toList_eq (by simp [render])
  | splice operatorLike text => exact h.elim

end SpellingRule

/-! ## Splices -/

/-- A minus sign in front of text that starts with no other. -/
theorem Legible.minus {q : Bool} {a : String} (ha : Legible q a)
    (hHead : a.toList.head? ≠ some '-') : Legible q ("-" ++ a) := by
  rcases ha with ⟨xs, ⟨⟨ts, ha⟩, hReads⟩, hQuiet⟩
  have hMinus : Reads [.mark '-'] [.symbol (.mark '-')] := .symbol (by decide) (by decide)
  refine ⟨.symbol (.mark '-') :: xs, ⟨⟨ts, ha.minus hHead⟩, ?_⟩, fun hq => ?_⟩
  · rw [symbolsOf_minus ha hHead]
    exact hMinus.append hReads
  · exact List.forall_mem_cons.2 ⟨rfl, hQuiet hq⟩

namespace Spellings

variable {q : Bool} {a b c : String}

theorem legible_negateText (ha : Legible q a) : Legible q (negateText [a]) := by
  unfold negateText
  simp only [operand, List.getD_cons_zero]
  -- two minus signs would open a comment, so an operand that has one is put in parentheses
  split
  · have hClosed : Legible false a := by
      rcases ha with ⟨xs, ha, -⟩
      exact ⟨xs, ha, fun h => absurd h (by decide)⟩
    exact (hClosed.paren.minus (by simp)).of_toList_eq (by simp)
  · next hHead => exact ha.minus (by simpa using hHead)

theorem legible_listText {keyword : String} (hGap : Gap (" " ++ keyword ++ " "))
    {rest : List String} (ha : Legible q a) (hRest : ∀ text ∈ rest, Legible false text) :
    Legible q (listText keyword (a :: rest)) := by
  have hList := Legible.intercalate gap_comma hRest
  refine ((ha.before hGap.1 hGap.2.1).call hList).of_toList_eq ?_
  unfold listText operand
  simp

theorem legible_branchesText {texts : List String} (h : ∀ text ∈ texts, Legible false text) :
    Legible false (branchesText texts) ∧ StartsApart (branchesText texts) := by
  -- the texts are taken two by two, and one that is left over stands behind `ELSE`
  fun_induction branchesText texts with
  | case1 => exact ⟨.of_quiet (by decide), by decide⟩
  | case2 text =>
      have hText := h text (by simp)
      exact ⟨.behind (by decide) (by decide) hText, StartsApart.append (by decide) (by decide)⟩
  | case3 condition value rest ih =>
      simp only [List.forall_mem_cons] at h
      rcases h with ⟨hCondition, hValue, hRest⟩
      rcases ih hRest with ⟨hMore, hStarts⟩
      have hPair : Legible false (condition ++ " THEN " ++ value) :=
        hCondition.join (by decide) hValue
      have hBranch : Legible false (" WHEN " ++ (condition ++ " THEN " ++ value)) :=
        .behind (by decide) (by decide) hPair
      constructor
      · exact (hBranch.append_of_startsApart hMore hStarts).of_toList_eq (by simp)
      · simp only [String.append_assoc]
        exact StartsApart.append (by decide) (by decide)

theorem legible_searchedCaseText {texts : List String}
    (h : ∀ text ∈ texts, Legible false text) : Legible q (searchedCaseText texts) := by
  rcases legible_branchesText h with ⟨hBranches, hStarts⟩
  exact hBranches.choice hStarts

/-- A choice by one condition is a choice by several. -/
theorem legible_ifElseText (ha : Legible false a) (hb : Legible false b)
    (hc : Legible false c) : Legible q (ifElseText [a, b, c]) := by
  have hCase : Legible q (searchedCaseText [a, b, c]) :=
    legible_searchedCaseText (by simp [ha, hb, hc])
  refine hCase.of_toList_eq ?_
  unfold searchedCaseText ifElseText operand
  simp [branchesText]

theorem legible_logText_one (ha : Legible false a) : Legible q (logText [a]) :=
  (ha.enclosed (o := "LN(") (by decide)).of_toList_eq (by simp [logText])

theorem legible_logText_two (ha : Legible false a) (hb : Legible false b) :
    Legible q (logText [a, b]) := by
  have hLeft : Legible q ("LN(" ++ (a ++ ")")) := ha.enclosed (by decide)
  have hRight : Legible q ("LN(" ++ (b ++ ")")) := hb.enclosed (by decide)
  exact (hLeft.join (g := " / ") (by decide) hRight).of_toList_eq (by simp [logText, operand])

theorem legible_oneBased (ha : Legible false a) : Legible q (oneBased a) := by
  have hSum : Legible q ("(" ++ a ++ " + 1)") := by
    have hInner : Legible false (a ++ " + 1") := ha.before (by decide) (by decide)
    exact hInner.paren.of_toList_eq (by simp)
  unfold oneBased
  split
  · split
    · exact legible_intText _
    · exact hSum
  · exact hSum

theorem legible_substringText_two (ha : Legible false a) (hb : Legible false b) :
    Legible q (substringText [a, b]) := by
  have hArgs := ha.join gap_comma (legible_oneBased hb)
  refine (hArgs.enclosed (o := "SUBSTRING(") (by decide)).of_toList_eq ?_
  unfold substringText
  simp

theorem legible_substringText_three (ha : Legible false a) (hb : Legible false b)
    (hc : Legible false c) : Legible q (substringText [a, b, c]) := by
  have hArgs := (ha.join gap_comma (legible_oneBased hb)).join gap_comma hc
  refine (hArgs.enclosed (o := "SUBSTRING(") (by decide)).of_toList_eq ?_
  unfold substringText operand
  simp

theorem legible_extractText {field : String} (hField : Quiet field) (ha : Legible false a) :
    Legible q (extractText field [a]) := by
  have hGap : Gap " FROM " := by decide
  have hInner := Legible.join (.of_quiet hField) hGap ha
  refine (hInner.enclosed (o := "EXTRACT(") (by decide)).of_toList_eq ?_
  unfold extractText operand
  simp

theorem legible_epochText (ha : Legible false a) : Legible q (epochText [a]) := by
  have hExtract : Legible false (extractText "EPOCH" [a]) := legible_extractText (by decide) ha
  have hInner : Legible false (extractText "EPOCH" [a] ++ " AS INT") :=
    hExtract.before (by decide) (by decide)
  exact (hInner.enclosed (o := "CAST(") (by decide)).of_toList_eq (toList_epochText a).symm

theorem legible_countDistinctText (ha : Legible false a) :
    Legible q (countDistinctText [a]) := by
  have hInner : Legible false ("DISTINCT " ++ a) := .behind (by decide) (by decide) ha
  refine (hInner.enclosed (o := "COUNT(") (by decide)).of_toList_eq ?_
  unfold countDistinctText operand
  simp

theorem legible_countStarText : Legible q "COUNT(*)" := by
  have hStar : Legible false "*" := .of_quiet (by decide)
  exact (hStar.enclosed (o := "COUNT(") (by decide)).of_toList_eq (by simp)

/-- A unit that has a name is a quiet word. -/
theorem legible_dateTruncateText (ha : Legible false a) (unit : TemporalUnit) :
    Legible q (dateTruncateText [a, quoteString unit.keyword]) := by
  have hUnit : unitKeyword (quoteString unit.keyword) = unit.keyword := by
    cases unit <;> decide
  have hArgs := (legible_keyword unit).join gap_comma ha
  refine (hArgs.enclosed (o := "DATE_TRUNC(") (by decide)).of_toList_eq ?_
  unfold dateTruncateText operand
  simp [hUnit]

/-! ## Flat rules -/

section Arity

open SpellingRule

variable {text : List String → String} {like : Bool} {P : String → Prop}

theorem renders_one (h : ∀ a, Legible like a → P (text [a])) :
    Renders ⟨.exactly 1, .splice like text⟩ P := by
  intro texts hArity hTexts
  rcases Arity.exists_one hArity with ⟨a, rfl⟩
  exact h a (hTexts a (by simp))

theorem renders_three
    (h : ∀ a b c, Legible like a → Legible like b → Legible like c → P (text [a, b, c])) :
    Renders ⟨.exactly 3, .splice like text⟩ P := by
  intro texts hArity hTexts
  rcases Arity.exists_three hArity with ⟨a, b, c, rfl⟩
  exact h a b c (hTexts a (by simp)) (hTexts b (by simp)) (hTexts c (by simp))

theorem renders_listText {keyword : String} (hGap : Gap (" " ++ keyword ++ " ")) :
    Renders ⟨.atLeast 2, .splice true (listText keyword)⟩ (Legible true) := by
  intro texts hArity hTexts
  cases texts with
  | nil => simp [Arity.accepts] at hArity
  | cons a rest =>
      rw [List.forall_mem_cons] at hTexts
      exact legible_listText hGap hTexts.1 fun text hText => (hTexts.2 text hText).of_flat

theorem renders_logText : Renders ⟨.range 1 2, .splice true logText⟩ (Legible true) := by
  intro texts hArity hTexts
  rcases Arity.one_or_two hArity with ⟨a, rfl⟩ | ⟨a, b, rfl⟩
  · exact legible_logText_one (hTexts a (by simp)).of_flat
  · exact legible_logText_two (hTexts a (by simp)).of_flat (hTexts b (by simp)).of_flat

theorem renders_substringText :
    Renders ⟨.range 2 3, .splice false substringText⟩ (Legible true) := by
  intro texts hArity hTexts
  rcases Arity.two_or_three hArity with ⟨a, b, rfl⟩ | ⟨a, b, c, rfl⟩
  · exact legible_substringText_two (hTexts a (by simp)) (hTexts b (by simp))
  · exact legible_substringText_three (hTexts a (by simp)) (hTexts b (by simp))
      (hTexts c (by simp))

end Arity

/-- The operations whose texts have a connective of their own, or an `AND` that is none. -/
def connects (op : Operation) : Bool :=
  op == .and || op == .or || op == .between

/-- Every other standard rule makes flat texts, but for that of truncation, which may leave what
stands for the unit without its quotes. -/
theorem flat_of_standardRule {op : Operation} {rule : SpellingRule}
    (h : standardRule? op = some rule) (hUnit : op ≠ .dateTruncate) (hOp : connects op = false) :
    rule.Renders (Legible true) := by
  -- The splices by name; all other rules are plain enough to be checked.
  cases op
  case and | or | between => cases hOp
  case negate =>
    cases h
    exact renders_one fun _ => legible_negateText
  case inList | notInList =>
    cases h
    exact renders_listText (by decide)
  case ifElse =>
    cases h
    exact renders_three fun _ _ _ => legible_ifElseText
  case searchedCase =>
    cases h
    exact fun _ _ => legible_searchedCaseText
  case log =>
    cases h
    exact renders_logText
  case substring =>
    cases h
    exact renders_substringText
  case extractYear | extractQuarter | extractMonth | extractWeek | extractDay | extractDayOfWeek |
      extractDayOfYear | extractHour | extractMinute | extractSecond | extractMillisecond =>
    cases h
    exact renders_one fun _ => legible_extractText (by decide)
  case extractEpochSeconds =>
    cases h
    exact renders_one fun _ => legible_epochText
  case dateTruncate => exact absurd rfl hUnit
  case countStar =>
    cases h
    exact fun _ _ _ => legible_countStarText
  case countDistinct =>
    cases h
    exact renders_one fun _ => legible_countDistinctText
  all_goals
    cases h <;> exact SpellingRule.flat_of_isQuiet (by decide +kernel)

/-! ## Connectives -/

section Connectives

open Segment

/-- A binary connective between flat texts. -/
theorem settled_connective {symbol : String} {s : Symbol} (hLink : Link (" " ++ symbol ++ " ") s)
    (hWaits : (Segment.symbol s).waits false = false) :
    (SpellingRule.binary symbol).Renders (Settled (s.isKeyword "OR")) := by
  intro texts hArity hTexts
  rcases Arity.exists_two hArity with ⟨a, b, rfl⟩
  rcases hTexts a (by simp) with ⟨xs, ha, hxs⟩
  rcases hTexts b (by simp) with ⟨ys, hb, hys⟩
  have hText : (SpellingRule.binary symbol).render [a, b] = a ++ (" " ++ symbol ++ " ") ++ b := by
    simp [SpellingRule.render, SpellingRule.binary, String.intercalate_cons_cons]
  rw [hText]
  -- flat operands leave nothing waiting and have no `OR`, so the connective decides alone
  refine ⟨_, ha.link hLink hb, ?_, ?_⟩
  · rw [waitsAfter_append, waitsAfter_of_isQuiet (hxs rfl), waitsAfter_cons, hWaits,
      waitsAfter_of_isQuiet (hys rfl)]
  · simp [isConjunctive_of_isQuiet (hxs rfl), isConjunctive_of_isQuiet (hys rfl)]

/-- The `AND` of a `BETWEEN` is the one that it waits for. -/
theorem settled_between :
    SpellingRule.Renders ⟨.exactly 3, .splice true betweenText⟩ (Settled false) := by
  refine renders_three fun a b c ha hb hc => ?_
  rcases ha with ⟨xs, ha, hxs⟩
  rcases hb with ⟨ys, hb, hys⟩
  rcases hc with ⟨zs, hc, hzs⟩
  have hBetween : Link " BETWEEN " (.word "BETWEEN".toList) := by decide
  have hAnd : Link " AND " (.word "AND".toList) := by decide
  have hWaits : (Segment.symbol (.word "BETWEEN".toList)).waits false = true := by decide
  have hMet : (Segment.symbol (.word "AND".toList)).waits true = false := by decide
  have hOr : (Symbol.word "BETWEEN".toList).isKeyword "OR" = false ∧
      (Symbol.word "AND".toList).isKeyword "OR" = false := by decide
  -- nothing between the two words ends the waiting, since all of the operand is flat
  refine ⟨_, (ha.link hBetween hb).link hAnd hc, ?_, ?_⟩
  · simp only [waitsAfter_append, waitsAfter_cons, waitsAfter_of_isQuiet (hxs rfl), hWaits,
      waitsAfter_of_isQuiet (hys rfl), hMet, waitsAfter_of_isQuiet (hzs rfl)]
  · simp only [isConjunctive_append, isConjunctive_symbol_cons, hOr,
      isConjunctive_of_isQuiet (hxs rfl), isConjunctive_of_isQuiet (hys rfl),
      isConjunctive_of_isQuiet (hzs rfl), and_self]

/-- No rule leaves a `BETWEEN` that waits, and only that of `OR` has one outside of brackets. -/
theorem settled_of_standardRule {op : Operation} {rule : SpellingRule}
    (h : standardRule? op = some rule) (hUnit : op ≠ .dateTruncate) :
    rule.Renders (Settled (op == .or)) := by
  by_cases hOp : connects op = true
  · simp only [connects, Bool.or_eq_true, beq_iff_eq] at hOp
    rcases hOp with (rfl | rfl) | rfl
    · cases h
      exact settled_connective (s := .word "AND".toList) (by decide) (by decide)
    · cases h
      exact settled_connective (s := .word "OR".toList) (by decide) (by decide)
    · cases h
      exact settled_between
  · rw [Bool.not_eq_true] at hOp
    have hOr : (op == .or) = false := by
      simp only [connects, Bool.or_eq_false_iff] at hOp
      exact hOp.1.2
    intro texts hArity hTexts
    rw [hOr]
    exact (flat_of_standardRule h hUnit hOp texts hArity hTexts).settled

end Connectives

end Spellings

end TableQuery
