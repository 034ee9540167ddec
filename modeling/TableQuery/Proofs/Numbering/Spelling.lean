import TableQuery.Proofs.Numbering.Text
import TableQuery.Proofs.Sql.Atom
import TableQuery.Proofs.Text.Numeral
import TableQuery.Spelling.Standard

/-!
# Uniform — spelling rules that do not look at the numbers of aliases

A rule of a dialect sees the texts of the operands, so it could tell one alias from another. A rule
is *uniform* if it does not: of numbered texts it makes a numbered text. Whatever only puts the
operands side by side is uniform. The standard rules are uniform as well
(`Spellings.uniform_standard`), though three of them look into an operand: for a minus sign, for a
number, and for a unit of time.
-/

namespace TableQuery

/-- As many numbered texts as the rule takes become a numbered text. -/
def SpellingRule.Uniform (rule : SpellingRule) : Prop :=
  ∀ ts : List (Nat → String), rule.arity.accepts ts.length = true → (∀ t ∈ ts, Numbered t) →
    Numbered fun first => rule.render (ts.map (· first))

/-- All rules are uniform. -/
def Spellings.Uniform (s : Spellings) : Prop :=
  ∀ op rule, s.rule? op = some rule → rule.Uniform

namespace SpellingRule

/-- Whatever the arity, a splice is uniform if its text is. -/
theorem uniform_splice {arity : Arity} {operatorLike : Bool} {text : List String → String}
    (h : ∀ ts : List (Nat → String), (∀ t ∈ ts, Numbered t) →
      Numbered fun first => text (ts.map (· first))) :
    Uniform ⟨arity, .splice operatorLike text⟩ :=
  fun ts _ hts => h ts hts

theorem uniform_of_not_splice {rule : SpellingRule}
    (h : ∀ operatorLike text, rule.shape ≠ .splice operatorLike text) : rule.Uniform := by
  rcases rule with ⟨arity, shape⟩
  intro ts _ hts
  cases shape with
  | between symbol => exact numbered_intercalate _ hts
  | before symbol => exact (numbered_const symbol).append (numbered_intercalate _ hts)
  | after symbol => exact (numbered_intercalate _ hts).append (numbered_const symbol)
  | function name =>
      have hOpen := (numbered_const name).append (numbered_const "(")
      exact (hOpen.append (numbered_intercalate _ hts)).append (numbered_const ")")
  | splice operatorLike text => exact absurd rfl (h operatorLike text)

end SpellingRule

/-! ## Looking into numbered texts -/

namespace Numbered

variable {t : Nat → String}

/-- Whether a text starts with a sign does not depend on the numbers of aliases. -/
theorem head?_minus (h : Numbered t) :
    (∀ k, (t k).toList.head? = some '-') ∨ ∀ k, ¬(t k).toList.head? = some '-' := by
  rcases h with ⟨marks, hMarks⟩
  cases marks with
  | nil => exact .inr fun k => by simp [hMarks]
  | cons m marks =>
      cases m with
      | char c =>
          by_cases hc : c = '-'
          · exact .inl fun k => by simp [hMarks, Mark.write, hc]
          · exact .inr fun k => by simp [hMarks, Mark.write, hc]
      | «alias» n => exact .inr fun k => by simp [hMarks, Mark.write, toList_aliasName]
      | capital n => exact .inr fun k => by simp [hMarks, Mark.write]

/-- A text has no aliases and is the same for all numbers, or it always has the letter of an
alias. -/
theorem constant_or (h : Numbered t) :
    (∃ text, t = fun _ => text) ∨ ∀ k, 't' ∈ (t k).toList ∨ 'T' ∈ (t k).toList := by
  rcases h with ⟨marks, hMarks⟩
  by_cases hChars : ∀ m ∈ marks, ∃ c, m = .char c
  · -- characters are written the same way whatever the number is
    have hSame : ∀ k, t k = t 0 := by
      intro k
      refine String.toList_injective ?_
      rw [hMarks, hMarks]
      refine List.flatMap_congr fun m hm => ?_
      rcases hChars m hm with ⟨c, rfl⟩
      rfl
    exact .inl ⟨t 0, funext hSame⟩
  · refine .inr fun k => ?_
    push Not at hChars
    rcases hChars with ⟨m, hm, hNot⟩
    rw [hMarks]
    cases m with
    | char c => exact absurd rfl (hNot c)
    | «alias» n =>
        exact .inl (List.mem_flatMap.2 ⟨_, hm, by simp [Mark.write, toList_aliasName]⟩)
    | capital n => exact .inr (List.mem_flatMap.2 ⟨_, hm, by simp [Mark.write]⟩)

end Numbered

namespace Spellings

variable {ts : List (Nat → String)} {t : Nat → String}

/-! ## Single rules -/

theorem numbered_operand (h : ∀ t ∈ ts, Numbered t) (i : Nat) :
    Numbered fun k => operand (ts.map (· k)) i := by
  have hOperand : ∀ k, operand (ts.map (· k)) i = ts.getD i (fun _ => "NULL") k := by
    intro k
    simp only [operand, List.getD_eq_getElem?_getD, List.getElem?_map]
    cases ts[i]? <;> rfl
  simp only [hOperand, List.getD_eq_getElem?_getD]
  cases hGet : ts[i]? with
  | none => exact numbered_const "NULL"
  | some t => exact h t (List.mem_of_getElem? hGet)

theorem numbered_negateText (h : ∀ t ∈ ts, Numbered t) :
    Numbered fun k => negateText (ts.map (· k)) := by
  have hOperand := numbered_operand h 0
  simp only [negateText, beq_iff_eq]
  refine .ite hOperand.head?_minus ?_ ?_
  · exact hOperand.enclosed "-(" ")"
  · exact (numbered_const "-").append hOperand

theorem numbered_betweenText (h : ∀ t ∈ ts, Numbered t) :
    Numbered fun k => betweenText (ts.map (· k)) := by
  have hLow := (numbered_operand h 0).join " BETWEEN " (numbered_operand h 1)
  exact hLow.join " AND " (numbered_operand h 2)

theorem numbered_listText (keyword : String) (h : ∀ t ∈ ts, Numbered t) :
    Numbered fun k => listText keyword (ts.map (· k)) := by
  have hOperand := ((numbered_operand h 0).append (numbered_const " ")).append
    (numbered_const keyword)
  have hItems : ∀ t ∈ ts.drop 1, Numbered t := fun t ht => h t (List.mem_of_mem_drop ht)
  have hList := numbered_intercalate ", " hItems
  simp only [listText, ← List.map_drop]
  exact ((hOperand.append (numbered_const " (")).append hList).append (numbered_const ")")

theorem numbered_ifElseText (h : ∀ t ∈ ts, Numbered t) :
    Numbered fun k => ifElseText (ts.map (· k)) := by
  have hThen := ((numbered_const "CASE WHEN ").append (numbered_operand h 0)).join " THEN "
    (numbered_operand h 1)
  exact (hThen.join " ELSE " (numbered_operand h 2)).append (numbered_const " END")

theorem numbered_branchesText : ∀ {ts : List (Nat → String)}, (∀ t ∈ ts, Numbered t) →
    Numbered fun k => branchesText (ts.map (· k))
  | [], _ => numbered_const ""
  | [t], h => (numbered_const " ELSE ").append (h t (by simp))
  | t :: u :: rest, h => by
      have hOthers : ∀ v ∈ rest, Numbered v := fun v hv =>
        h v (List.mem_cons_of_mem _ (List.mem_cons_of_mem _ hv))
      have hRest := numbered_branchesText hOthers
      have hWhen := (numbered_const " WHEN ").append (h t (by simp))
      have hThen := (hWhen.append (numbered_const " THEN ")).append (h u (by simp))
      exact hThen.append hRest

theorem numbered_searchedCaseText (h : ∀ t ∈ ts, Numbered t) :
    Numbered fun k => searchedCaseText (ts.map (· k)) :=
  (numbered_branchesText h).enclosed "CASE" " END"

theorem numbered_logText (h : ∀ t ∈ ts, Numbered t) :
    Numbered fun k => logText (ts.map (· k)) := by
  have hQuotient : Numbered fun k =>
      "LN(" ++ operand (ts.map (· k)) 0 ++ ") / LN(" ++ operand (ts.map (· k)) 1 ++ ")" := by
    have hFirst := (numbered_const "LN(").append (numbered_operand h 0)
    exact (hFirst.join ") / LN(" (numbered_operand h 1)).append (numbered_const ")")
  rcases ts with _ | ⟨t, _ | ⟨u, rest⟩⟩
  · exact hQuotient
  · exact (h t (by simp)).enclosed "LN(" ")"
  · exact hQuotient

/-- A text with an alias in it is no number. -/
theorem numbered_oneBased (h : Numbered t) : Numbered fun k => oneBased (t k) := by
  rcases h.constant_or with ⟨text, rfl⟩ | hLetter
  · exact numbered_const (oneBased text)
  · have hSum : ∀ k, oneBased (t k) = "(" ++ t k ++ " + 1)" := by
      intro k
      unfold oneBased
      split
      · -- a number has digits and signs only
        next n hNumber =>
        rcases Option.map_eq_some_iff.1 hNumber with ⟨m, hm, -⟩
        have hDigits := Text.isDigit_or_of_readInt hm
        rcases hLetter k with hSmall | hCapital
        · exact absurd (hDigits _ hSmall) (by decide)
        · exact absurd (hDigits _ hCapital) (by decide)
      · rfl
    simp only [hSum]
    exact h.enclosed "(" " + 1)"

theorem numbered_substringText (h : ∀ t ∈ ts, Numbered t) :
    Numbered fun k => substringText (ts.map (· k)) := by
  have hPart : Numbered fun k => "SUBSTRING(" ++ operand (ts.map (· k)) 0 ++ ", "
      ++ oneBased (operand (ts.map (· k)) 1) ++ ", " ++ operand (ts.map (· k)) 2 ++ ")" := by
    have hText := (numbered_const "SUBSTRING(").append (numbered_operand h 0)
    have hStart := hText.join ", " (numbered_oneBased (numbered_operand h 1))
    exact (hStart.join ", " (numbered_operand h 2)).append (numbered_const ")")
  rcases ts with _ | ⟨s, _ | ⟨start, _ | ⟨length, rest⟩⟩⟩
  · exact hPart
  · exact hPart
  · have hText := (numbered_const "SUBSTRING(").append (h s (by simp))
    have hStart := hText.join ", " (numbered_oneBased (h start (by simp)))
    exact hStart.append (numbered_const ")")
  · exact hPart

/-! ## Units of time -/

/-- Taking quotes away in front takes away the marks that are quotes, where no other mark is written
with a quote. -/
theorem dropWhile_flatMap {w : Mark → List Char} (hQuote : w (.char '\'') = ['\''])
    (hOther : ∀ m, m ≠ .char '\'' → w m ≠ [] ∧ '\'' ∉ w m) (marks : List Mark) :
    (marks.flatMap w).dropWhile (· == '\'') =
      (marks.dropWhile (· == .char '\'')).flatMap w := by
  induction marks with
  | nil => rfl
  | cons m marks ih =>
      by_cases hm : m = .char '\''
      · rw [List.flatMap_cons, hm, hQuote]
        simpa using ih
      · rcases hOther m hm with ⟨hSome, hNone⟩
        obtain ⟨c, cs, hw⟩ := List.exists_cons_of_ne_nil hSome
        have hc : c ≠ '\'' := by
          rintro rfl
          exact hNone (by simp [hw])
        rw [List.dropWhile_cons_of_neg (by simpa using hm), List.flatMap_cons, hw]
        exact List.dropWhile_cons_of_neg (by simpa using hc)

theorem notMem_write (first : Nat) {m : Mark} (hm : m ≠ .char '\'') :
    m.write first ≠ [] ∧ '\'' ∉ m.write first := by
  have hDigits : ∀ n : Nat, '\'' ∉ (toString n).toList := by
    intro n hc
    exact absurd (Text.isDigit_of_mem_natText hc) (by decide)
  cases m with
  | char c =>
      have hc : '\'' ≠ c := fun h => hm (h ▸ rfl)
      exact ⟨List.cons_ne_nil _ _, by simpa [Mark.write] using hc⟩
  | «alias» n =>
      rw [Mark.write, toList_aliasName, List.mem_cons, not_or]
      exact ⟨List.cons_ne_nil _ _, by decide, hDigits _⟩
  | capital n =>
      rw [Mark.write, List.mem_cons, not_or]
      exact ⟨List.cons_ne_nil _ _, by decide, hDigits _⟩

theorem write_upper (first : Nat) (m : Mark) :
    m.upper.write first = (m.write first).map Char.toUpper := by
  have hDigits : ∀ n : Nat, (toString n).toList.map Char.toUpper = (toString n).toList := by
    intro n
    calc (toString n).toList.map Char.toUpper
        = (toString n).toList.map id :=
          List.map_congr_left fun c hc =>
            toUpper_of_not_isAlpha (not_isAlpha_of_isDigit (Text.isDigit_of_mem_natText hc))
      _ = (toString n).toList := List.map_id _
  cases m with
  | char c => rfl
  | «alias» n =>
      rw [Mark.upper, Mark.write, Mark.write, toList_aliasName, List.map_cons, hDigits]
      rfl
  | capital n =>
      rw [Mark.upper, Mark.write, List.map_cons, hDigits]
      rfl

/-- A column in place of a unit has its alias put in capitals. -/
theorem numbered_unitKeyword (h : Numbered t) : Numbered fun k => unitKeyword (t k) := by
  rcases h with ⟨marks, hMarks⟩
  let front := marks.dropWhile (· == .char '\'')
  let bare := (front.reverse.dropWhile (· == .char '\'')).reverse
  refine ⟨bare.map Mark.upper, fun first => ?_⟩
  have hFront := dropWhile_flatMap (w := Mark.write first) rfl (fun _ => notMem_write first) marks
  -- at the other end the marks are written from the back
  have hBack := dropWhile_flatMap (w := List.reverse ∘ Mark.write first) rfl
    (fun m hm => by simpa using notMem_write first hm) front.reverse
  calc (unitKeyword (t first)).toList
      = (((marks.flatMap (Mark.write first)).dropWhile (· == '\'')).reverse.dropWhile
          (· == '\'')).reverse.map Char.toUpper := by
        simp [unitKeyword, Text.upperAscii, hMarks]
    _ = (bare.flatMap (Mark.write first)).map Char.toUpper := by
        rw [hFront, List.reverse_flatMap, hBack, List.reverse_flatMap]
        simp [bare, Function.comp_def]
    _ = (bare.map Mark.upper).flatMap (Mark.write first) := by
        rw [List.map_flatMap, List.flatMap_map]
        exact List.flatMap_congr fun m _ => (write_upper first m).symm

theorem numbered_dateTruncateText (h : ∀ t ∈ ts, Numbered t) :
    Numbered fun k => dateTruncateText (ts.map (· k)) := by
  have hUnit := (numbered_const "DATE_TRUNC(").append (numbered_unitKeyword (numbered_operand h 1))
  exact (hUnit.join ", " (numbered_operand h 0)).append (numbered_const ")")

/-! ## The standard rules -/

theorem uniform_of_standardRule {op : Operation} {rule : SpellingRule}
    (h : standardRule? op = some rule) : rule.Uniform := by
  -- The splices by name; all other rules only put their operands side by side.
  cases op
  case negate =>
    cases h
    exact SpellingRule.uniform_splice fun _ => numbered_negateText
  case between =>
    cases h
    exact SpellingRule.uniform_splice fun _ => numbered_betweenText
  case inList | notInList =>
    cases h
    exact SpellingRule.uniform_splice fun _ => numbered_listText _
  case ifElse =>
    cases h
    exact SpellingRule.uniform_splice fun _ => numbered_ifElseText
  case searchedCase =>
    cases h
    exact SpellingRule.uniform_splice fun _ => numbered_searchedCaseText
  case log =>
    cases h
    exact SpellingRule.uniform_splice fun _ => numbered_logText
  case substring =>
    cases h
    exact SpellingRule.uniform_splice fun _ => numbered_substringText
  case extractYear | extractQuarter | extractMonth | extractWeek | extractDay | extractDayOfWeek |
      extractDayOfYear | extractHour | extractMinute | extractSecond | extractMillisecond =>
    cases h
    exact SpellingRule.uniform_splice fun _ hts =>
      (numbered_operand hts 0).enclosed ("EXTRACT(" ++ _ ++ " FROM ") ")"
  case extractEpochSeconds =>
    cases h
    exact SpellingRule.uniform_splice fun _ hts =>
      (numbered_operand hts 0).enclosed "CAST(EXTRACT(EPOCH FROM " ") AS INT)"
  case dateTruncate =>
    cases h
    exact SpellingRule.uniform_splice fun _ => numbered_dateTruncateText
  case countStar =>
    cases h
    exact SpellingRule.uniform_splice fun _ _ => numbered_const "COUNT(*)"
  case countDistinct =>
    cases h
    exact SpellingRule.uniform_splice fun _ hts =>
      (numbered_operand hts 0).enclosed "COUNT(DISTINCT " ")"
  all_goals
    cases h <;> exact SpellingRule.uniform_of_not_splice fun _ _ hShape => by cases hShape

theorem uniform_standard : standard.Uniform :=
  fun _ _ => uniform_of_standardRule

end Spellings

end TableQuery
