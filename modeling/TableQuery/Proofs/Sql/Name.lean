import TableQuery.Proofs.Expr.Refs
import TableQuery.Proofs.Number.Shortest
import TableQuery.Proofs.Rewrite.Complete
import TableQuery.Proofs.Sql.Expr
import TableQuery.Proofs.Sql.Reader

/-!
# Name — which expressions are written as names

Only a column, perhaps under other names, is written as an identifier and nothing more. The text of
any other expression goes on behind the first name in it, or starts with something that is no name:
a keyword, a digit, a sign, a quote or a parenthesis.

The main result, `Expr.column_of_sql`, is by induction over expressions. What carries it is that a
text ends the name it starts with, so that a sign behind the text stands outside of that name.
-/

namespace TableQuery

/-! ## The name at the front of a text -/

/-- What stands behind the name that a text starts with: behind the quote that closes it, or behind
the letters, digits and underscores at the front. -/
def behindName : List Char → List Char
  | '"' :: cs => ((Reader.quoted '"' cs).map (·.2)).getD []
  | cs => cs.dropWhile Identifier.isWordChar

/-- Whether the character is no part of a name and no quote around one. -/
def endsName (c : Char) : Bool :=
  !Identifier.isWordChar c && c != '"'

theorem behindName_of_head {cs : List Char} (h : cs.head? ≠ some '"') :
    behindName cs = cs.dropWhile Identifier.isWordChar := by
  unfold behindName
  split
  · simp at h
  · rfl

/-- What does not start with a quote does not start with one in front of another text either. -/
theorem head?_append_ne_quote {cs ds : List Char} (hFront : cs.head? ≠ some '"')
    (hBack : cs = [] → ds.head? ≠ some '"') : (cs ++ ds).head? ≠ some '"' := by
  cases cs with
  | nil => exact hBack rfl
  | cons c cs => exact hFront

/-- A name is written in quotes, or as it is if it needs none. -/
theorem Identifier.quote_cases (name : String) :
    (∃ content, (quote name).toList = '"' :: (Lexeme.doubled '"' content ++ ['"'])) ∨
      (quote name = name ∧ needsQuotes name = false) := by
  by_cases hQuoted : isQuoted name = true
  · left
    rcases exists_content_of_isQuotedChars hQuoted with ⟨content, hContent⟩
    exact ⟨content, by simpa [quote, hQuoted] using hContent⟩
  · rw [Bool.not_eq_true] at hQuoted
    cases hNeeds : needsQuotes name with
    | true =>
        left
        exact ⟨name.toList, by simp [quote, hQuoted, hNeeds, doubleQuotes_eq_doubled]⟩
    | false =>
        right
        exact ⟨by simp [quote, hNeeds], rfl⟩

/-- A written name ends where it should. -/
theorem behindName_quote (name : String) {cs : List Char}
    (hEnd : ∀ c ∈ cs.head?, endsName c = true) :
    behindName ((Identifier.quote name).toList ++ cs) = cs := by
  rcases Identifier.quote_cases name with ⟨content, hText⟩ | ⟨hText, hNeeds⟩
  · have hNoQuote : cs.head? ≠ some '"' := by
      intro hHead
      exact absurd (hEnd '"' hHead) (by decide)
    have hList : (Identifier.quote name).toList ++ cs =
        '"' :: (Lexeme.doubled '"' content ++ '"' :: cs) := by simp [hText]
    rw [hList, behindName, Reader.quoted_append content hNoQuote]
    rfl
  · simp only [Identifier.needsQuotes, Bool.or_eq_false_iff, Bool.not_eq_false'] at hNeeds
    have hWord : ∀ c ∈ name.toList, Identifier.isWordChar c = true :=
      List.all_eq_true.1 hNeeds.2
    have hWordEnd : ∀ c ∈ cs.head?, Identifier.isWordChar c = false := by
      intro c hc
      have hBoth := hEnd c hc
      simp only [endsName, Bool.and_eq_true, Bool.not_eq_true'] at hBoth
      exact hBoth.1
    have hHead : (name.toList ++ cs).head? ≠ some '"' := by
      apply head?_append_ne_quote
      · intro hQuote
        exact absurd (hWord '"' (List.mem_of_head? hQuote)) (by decide)
      · intro _ hQuote
        exact absurd (hEnd '"' hQuote) (by decide)
    rw [hText, behindName_of_head hHead]
    exact (Reader.span_append hWord hWordEnd).2

/-- Whatever name the text starts with, a sign behind the text stands outside of it. -/
def EndsItsName (text : String) : Prop :=
  ∀ c cs, endsName c = true → behindName (text.toList ++ c :: cs) ≠ []

theorem endsItsName_quote (name : String) : EndsItsName (Identifier.quote name) := by
  intro c cs hc
  have hEnd : ∀ c' ∈ (c :: cs).head?, endsName c' = true := by
    intro c' hc'
    obtain rfl : c = c' := by simpa using hc'
    exact hc
  rw [behindName_quote name hEnd]
  exact List.cons_ne_nil c cs

/-- A text that does not start with a quote ends its name, since no sign is part of a bare name. -/
theorem endsItsName_of_head {text : String} (h : text.toList.head? ≠ some '"') :
    EndsItsName text := by
  intro c cs hc hNil
  have hHead : (text.toList ++ c :: cs).head? ≠ some '"' := by
    apply head?_append_ne_quote h
    rintro - ⟨⟩
    exact absurd hc (by decide)
  rw [behindName_of_head hHead, List.dropWhile_eq_nil_iff] at hNil
  have hWord := hNil c (by simp)
  simp [endsName, hWord] at hc

/-- The text is not what a name is written as, and ends the name that it may start with. -/
structure NoName (text : String) : Prop where
  ends : EndsItsName text
  ne : ∀ name, text ≠ Identifier.quote name

namespace NoName

theorem of_toList_eq {a b : String} (h : NoName a) (hText : a.toList = b.toList) : NoName b :=
  String.toList_inj.1 hText ▸ h

/-- A text that would need quotes, and has none in front, is no name. -/
theorem of_needsQuotes {a : String} (hHead : a.toList.head? ≠ some '"')
    (h : Identifier.needsQuotes a = true) : NoName a where
  ends := endsItsName_of_head hHead
  ne := by
    rintro name rfl
    rcases Identifier.quote_cases name with ⟨content, hText⟩ | ⟨hText, hNeeds⟩
    · simp [hText] at hHead
    · rw [hText, hNeeds] at h
      cases h

/-- A text goes on behind the name that it starts with. -/
theorem append {a b : String} (ha : EndsItsName a) (hb : b.toList.head?.any endsName = true) :
    NoName (a ++ b) := by
  cases hText : b.toList with
  | nil => simp [hText] at hb
  | cons c cs =>
      have hc : endsName c = true := by simpa [hText] using hb
      constructor
      · intro c' cs' _
        have hList : (a ++ b).toList ++ c' :: cs' = a.toList ++ c :: (cs ++ c' :: cs') := by
          simp [hText]
        rw [hList]
        exact ha c (cs ++ c' :: cs') hc
      · intro name hName
        have hBehind : behindName ((Identifier.quote name).toList ++ []) = [] :=
          behindName_quote name (by simp)
        rw [List.append_nil, ← hName, String.toList_append, hText] at hBehind
        exact ha c cs hc hBehind

/-- A text that goes on with a mark does so whatever stands behind the mark. -/
theorem appendMark {a mark : String} (ha : EndsItsName a)
    (hMark : mark.toList.head?.any endsName = true) (b : String) : NoName (a ++ (mark ++ b)) := by
  apply append ha
  cases hText : mark.toList with
  | nil => simp [hText] at hMark
  | cons c cs => simpa [hText] using hMark

/-- A text that starts like no name, whatever stands behind. -/
theorem behind {a : String} (hHead : a.toList.head? ≠ some '"')
    (hMark : a.toList.any endsName = true) (b : String) : NoName (a ++ b) := by
  rcases List.any_eq_true.1 hMark with ⟨c, hc, hEnds⟩
  apply of_needsQuotes
  · rw [String.toList_append]
    apply head?_append_ne_quote hHead
    intro hNil
    rw [hNil] at hc
    cases hc
  · have hNot : Identifier.isWordChar c = false := by
      simp only [endsName, Bool.and_eq_true, Bool.not_eq_true'] at hEnds
      exact hEnds.1
    have hSome : (a ++ b).toList.all Identifier.isWordChar = false := by
      rw [List.all_eq_false]
      exact ⟨c, by simp [hc], by simp [hNot]⟩
    rw [Identifier.needsQuotes, hSome]
    exact Bool.or_true _

end NoName

theorem endsItsName_intercalate {sep : String} (hSep : sep.toList.head?.any endsName = true)
    {texts : List String} (h : ∀ t ∈ texts, EndsItsName t) :
    EndsItsName (sep.intercalate texts) := by
  match texts with
  | [] => exact endsItsName_of_head (by simp [String.intercalate])
  | [a] => simpa using h a List.mem_cons_self
  | a :: b :: rest =>
      have hFirst := h a List.mem_cons_self
      rw [String.intercalate_cons_cons, String.append_assoc]
      exact (NoName.appendMark hFirst hSep _).ends

/-! ## Numbers -/

/-- A text that starts with a digit is no name. -/
theorem NoName.of_digit {a : String} {c : Char} {cs : List Char} (h : a.toList = c :: cs)
    (hc : c.isDigit = true) : NoName a := by
  apply of_needsQuotes
  · rw [h]
    rintro ⟨⟩
    exact absurd hc (by decide)
  · simp [Identifier.needsQuotes, h, hc]

theorem noName_natText (n : Nat) : NoName (toString n) := by
  have hText : (toString n).toList = Nat.toDigits 10 n := by
    rw [Nat.toString_eq_ofList_toDigits, String.toList_ofList]
  cases hDigits : Nat.toDigits 10 n with
  | nil => exact absurd hDigits Nat.toDigits_ne_nil
  | cons c cs =>
      have hMem : c ∈ Nat.toDigits 10 n := by simp [hDigits]
      have hDigit := Nat.isDigit_of_mem_toDigits (by decide) (by decide) hMem
      exact .of_digit (hText.trans hDigits) hDigit

theorem noName_intText (n : Int) : NoName (toString n) := by
  cases n with
  | ofNat n => exact noName_natText n
  | negSucc n => exact NoName.behind (a := "-") (by decide) (by decide) (toString (n + 1))

namespace Binary64

theorem noName_positional {d : Digits} (h : ∀ c ∈ d.digits, c.isDigit = true) :
    NoName (positional d) := by
  have hChars := isDigit_or_of_mem_positional h
  have hPoint : '.' ∈ (positional d).toList := by
    unfold positional
    split <;> simp
  have hNotAll : (positional d).toList.all Identifier.isWordChar = false := by
    rw [List.all_eq_false]
    exact ⟨'.', hPoint, by decide⟩
  apply NoName.of_needsQuotes
  · intro hQuote
    rcases hChars '"' (List.mem_of_head? hQuote) with hDigit | hDot
    · exact absurd hDigit (by decide)
    · exact absurd hDot (by decide)
  · rw [Identifier.needsQuotes, hNotAll]
    exact Bool.or_true _

/-- Without digits there is a sign in the power. -/
theorem noName_scientific {d : Digits} (h : ∀ c ∈ d.digits, c.isDigit = true)
    (hDigits : d.digits ≠ [] ∨ d.point < 0) : NoName (scientific sqlLayout.plus d) := by
  cases hFirst : d.digits with
  | cons c cs =>
      have hText : (scientific sqlLayout.plus d).toList = c :: ((if cs.isEmpty then ""
          else "." ++ String.ofList cs) ++ "e" ++ toString (d.point - 1)).toList := by
        simp [scientific, sqlLayout, hFirst]
      exact .of_digit hText (h c (by simp [hFirst]))
  | nil =>
      have hNegative : d.point < 0 := hDigits.resolve_left (not_not_intro hFirst)
      obtain ⟨n, hPower⟩ : ∃ n, d.point - 1 = Int.negSucc n := Int.eq_negSucc_of_lt_zero (by omega)
      have hText : "e-" ++ toString (n + 1) = scientific sqlLayout.plus d := by
        have hSign : toString (Int.negSucc n) = "-" ++ toString (n + 1) := rfl
        simp [scientific, sqlLayout, hFirst, hPower, hSign, ← String.append_assoc]
      rw [← hText]
      exact NoName.behind (by decide) (by decide) _

theorem noName_text {x : Binary64} (hFinite : x.isFinite = true) : NoName (x.text sqlLayout) := by
  cases x with
  | nan => cases hFinite
  | infinite negative => cases hFinite
  | finite negative m q =>
      have hDigits := isDigit_of_mem_shortest sqlLayout.tie m q
      cases negative with
      | true =>
          have hText : ∃ b, (finite true m q).text sqlLayout = "-" ++ b := by
            simp only [text, if_true]
            split
            · exact ⟨_, rfl⟩
            · exact ⟨_, rfl⟩
          rcases hText with ⟨b, hText⟩
          rw [hText]
          exact .behind (by decide) (by decide) b
      | false =>
          simp only [text, Bool.false_eq_true, if_false, String.empty_append]
          split
          · exact .of_needsQuotes (by decide) (by decide +kernel)
          · next hm =>
            split
            · exact noName_positional hDigits
            · exact noName_scientific hDigits (digits_shortest sqlLayout.tie hm q)

end Binary64

/-- No literal is written as a name. -/
theorem Literal.noName_of_sql {v : Literal} {text : String} (h : v.sql = .ok text) :
    NoName text := by
  cases v with
  | null =>
      cases h
      exact .of_needsQuotes (by decide) (by decide +kernel)
  | boolean b =>
      cases b with
      | false =>
          cases h
          exact .of_needsQuotes (by decide) (by decide +kernel)
      | true =>
          cases h
          exact .of_needsQuotes (by decide) (by decide +kernel)
  | int n =>
      cases h
      exact noName_intText n
  | float x =>
      by_cases hFinite : x.isFinite = true
      · obtain rfl : x.text Binary64.sqlLayout = text := by simpa [sql, hFinite] using h
        exact Binary64.noName_text hFinite
      · simp [sql, hFinite] at h
  | string s =>
      cases h
      have hOpening : quoteString s =
          "'" ++ String.ofList (doubleApostrophes s.toList ++ ['\'']) := by
        rw [← String.toList_inj]
        simp [quoteString]
      rw [hOpening]
      exact .behind (by decide) (by decide) _
  | date d =>
      cases h
      rw [String.append_assoc]
      exact .behind (by decide) (by decide) _
  | time t =>
      cases h
      rw [String.append_assoc]
      exact .behind (by decide) (by decide) _
  | timestamp t =>
      cases h
      rw [String.append_assoc]
      exact .behind (by decide) (by decide) _
  | interval n unit =>
      cases h
      simp only [String.append_assoc]
      exact .behind (by decide) (by decide) _
  | geometry wkt srid =>
      cases srid with
      | none =>
          cases h
          rw [String.append_assoc]
          exact .behind (by decide) (by decide) _
      | some n =>
          cases h
          simp only [String.append_assoc]
          exact .behind (by decide) (by decide) _

/-! ## Spellings -/

namespace SpellingRule

/-- A call that is spelled by the rule is no name, as long as its operands end theirs. -/
def NamesNothing (rule : SpellingRule) : Prop :=
  ∀ texts, rule.arity.accepts texts.length = true → (∀ t ∈ texts, EndsItsName t) →
    NoName (rule.render texts)

/-- Whether what the shape puts around its operands is enough to tell a call from a name. -/
def isMarked (rule : SpellingRule) : Bool :=
  match rule.shape with
  | .between _ => !rule.arity.accepts 0 && !rule.arity.accepts 1
  | .before symbol => symbol.toList.head? != some '"' && symbol.toList.any endsName
  | .after symbol => symbol.toList.head?.any endsName
  | .function name => name.toList.head? != some '"'
  | .splice _ _ => false

theorem namesNothing_of_isMarked {rule : SpellingRule} (h : rule.isMarked = true) :
    rule.NamesNothing := by
  intro texts hArity hTexts
  rcases rule with ⟨arity, shape⟩
  cases shape with
  | between symbol =>
      have hFew : arity.accepts 0 = false ∧ arity.accepts 1 = false := by
        simpa [isMarked] using h
      match texts with
      | [] => simp [hFew.1] at hArity
      | [a] => simp [hFew.2] at hArity
      | a :: b :: rest =>
          have hFirst := hTexts a List.mem_cons_self
          have hText : render ⟨arity, .between symbol⟩ (a :: b :: rest) =
              a ++ (" " ++ (symbol ++ " " ++ (" " ++ symbol ++ " ").intercalate (b :: rest))) := by
            simp [render, String.intercalate_cons_cons, String.append_assoc]
          rw [hText]
          exact NoName.appendMark hFirst (by decide) _
  | before symbol =>
      simp only [isMarked, Bool.and_eq_true, bne_iff_ne] at h
      exact NoName.behind h.1 h.2 _
  | after symbol =>
      exact NoName.append (endsItsName_intercalate (by decide) hTexts) h
  | function name =>
      simp only [isMarked, bne_iff_ne] at h
      have hCall : NoName (name ++ ("(" ++ (", ".intercalate texts ++ ")"))) :=
        NoName.appendMark (endsItsName_of_head h) (by decide) _
      simpa [render, String.append_assoc] using hCall
  | splice operatorLike text => cases h

end SpellingRule

namespace Spellings

variable {a b c : String}

theorem noName_negateText : NoName (negateText [a]) := by
  unfold negateText
  simp only [operand, List.getD_cons_zero]
  split
  · simpa [String.append_assoc] using NoName.behind (a := "-(") (by decide) (by decide) (a ++ ")")
  · exact NoName.behind (by decide) (by decide) a

theorem noName_betweenText (ha : EndsItsName a) : NoName (betweenText [a, b, c]) := by
  have hWhole : NoName (a ++ (" BETWEEN " ++ (b ++ " AND " ++ c))) :=
    NoName.appendMark ha (by decide) _
  exact hWhole.of_toList_eq (by simp [betweenText, operand])

theorem noName_listText {keyword : String} {rest : List String} (ha : EndsItsName a) :
    NoName (listText keyword (a :: rest)) := by
  have hWhole : NoName (a ++ (" " ++ (keyword ++ " (" ++ ", ".intercalate rest ++ ")"))) :=
    NoName.appendMark ha (by decide) _
  exact hWhole.of_toList_eq (by simp [listText, operand])

theorem noName_searchedCaseText (texts : List String) : NoName (searchedCaseText texts) := by
  unfold searchedCaseText
  rw [String.append_assoc]
  -- the keyword alone could be the front of a name, and what stands behind it starts with a blank
  refine NoName.append (endsItsName_of_head (by decide)) ?_
  have hBlank : (branchesText texts ++ " END").toList.head? = some ' ' := by
    match texts with
    | [] => rfl
    | [a] => simp [branchesText]
    | a :: b :: rest => simp [branchesText]
  rw [hBlank]
  decide

theorem noName_ifElseText (texts : List String) : NoName (ifElseText texts) := by
  unfold ifElseText
  simp only [String.append_assoc]
  exact NoName.behind (by decide) (by decide) _

theorem noName_extractText (field : String) (texts : List String) :
    NoName (extractText field texts) := by
  unfold extractText
  simp only [String.append_assoc]
  exact NoName.behind (by decide) (by decide) _

theorem noName_epochText (texts : List String) : NoName (epochText texts) := by
  unfold epochText
  simp only [String.append_assoc]
  exact NoName.behind (by decide) (by decide) _

theorem noName_dateTruncateText (texts : List String) : NoName (dateTruncateText texts) := by
  unfold dateTruncateText
  simp only [String.append_assoc]
  exact NoName.behind (by decide) (by decide) _

theorem noName_countDistinctText (texts : List String) : NoName (countDistinctText texts) := by
  unfold countDistinctText
  simp only [String.append_assoc]
  exact NoName.behind (by decide) (by decide) _

theorem noName_logText (texts : List String) : NoName (logText texts) := by
  unfold logText
  split
  · rw [String.append_assoc]
    exact NoName.behind (by decide) (by decide) _
  · simp only [String.append_assoc]
    exact NoName.behind (by decide) (by decide) _

theorem noName_substringText (texts : List String) : NoName (substringText texts) := by
  unfold substringText
  split
  · simp only [String.append_assoc]
    exact NoName.behind (by decide) (by decide) _
  · simp only [String.append_assoc]
    exact NoName.behind (by decide) (by decide) _

/-- No call of the standard spellings is written as a name. -/
theorem namesNothing_of_standardRule {op : Operation} {rule : SpellingRule}
    (h : standardRule? op = some rule) : rule.NamesNothing := by
  -- The splices by name; all other rules are marked plainly enough to be checked.
  cases op
  case negate =>
    cases h
    intro texts hArity _
    rcases Arity.exists_one hArity with ⟨a, rfl⟩
    exact noName_negateText
  case between =>
    cases h
    intro texts hArity hTexts
    rcases Arity.exists_three hArity with ⟨a, b, c, rfl⟩
    exact noName_betweenText (hTexts a List.mem_cons_self)
  case inList | notInList =>
    cases h
    intro texts hArity hTexts
    cases texts with
    | nil => cases hArity
    | cons a rest => exact noName_listText (hTexts a List.mem_cons_self)
  case searchedCase =>
    cases h
    exact fun texts _ _ => noName_searchedCaseText texts
  case log =>
    cases h
    exact fun texts _ _ => noName_logText texts
  case substring =>
    cases h
    exact fun texts _ _ => noName_substringText texts
  case ifElse =>
    cases h
    exact fun texts _ _ => noName_ifElseText texts
  case extractYear | extractQuarter | extractMonth | extractWeek | extractDay | extractDayOfWeek |
      extractDayOfYear | extractHour | extractMinute | extractSecond | extractMillisecond =>
    cases h
    exact fun texts _ _ => noName_extractText _ texts
  case extractEpochSeconds =>
    cases h
    exact fun texts _ _ => noName_epochText texts
  case dateTruncate =>
    cases h
    exact fun texts _ _ => noName_dateTruncateText texts
  case countDistinct =>
    cases h
    exact fun texts _ _ => noName_countDistinctText texts
  case countStar =>
    cases h
    intro texts _ _
    exact NoName.of_needsQuotes (a := "COUNT(*)") (by decide) (by decide +kernel)
  all_goals
    cases h <;> exact SpellingRule.namesNothing_of_isMarked (by decide +kernel)

end Spellings

/-- A name behind an alias is more than a name. -/
theorem noName_qualified {a : String} (h : Soft a) (b : String) : NoName (a ++ "." ++ b) := by
  have hEnds : EndsItsName a := by
    apply endsItsName_of_head
    intro hQuote
    exact absurd (h '"' (List.mem_of_head? hQuote)) (by decide)
  rw [String.append_assoc]
  exact NoName.appendMark hEnds (by decide) b

/-! ## Expressions -/

/-- The column that the expression is, under whatever names. -/
def Expr.column? : Expr → Option ColumnRef
  | .column ref => some ref
  | .alias expr _ => expr.column?
  | _ => none

variable {d : Dialect} {cx : Context}

theorem Scope.endsItsName_columnText {s : Scope} {ref : ColumnRef} {text : String}
    (hAliases : ∀ e ∈ s.entries, ∀ a ∈ e.alias?, Soft a) (h : s.columnText ref = .ok text) :
    EndsItsName text := by
  unfold columnText at h
  split at h
  · rw [Identifier.safe_eq_ok h]
    exact endsItsName_quote ref.name
  · split at h
    · cases h
    · next entry hEntry =>
      rcases of_map_ok h with ⟨name, hName, rfl⟩
      split
      · next a hAlias _ =>
        have hSoft : Soft a := hAliases entry (mem_of_resolve hEntry).1 a hAlias
        exact (noName_qualified hSoft name).ends
      · rw [Identifier.safe_eq_ok hName]
        exact endsItsName_quote ref.name

namespace Expr

theorem plainSql_of_column {e : Expr} {ref : ColumnRef} (h : e.column? = some ref) :
    e.plainSql d cx = cx.columnText ref := by
  induction e with
  | column ref' =>
      cases h
      rfl
  | aliased expr name ih =>
      rw [plainSql]
      exact ih h
  | _ => cases h

theorem endsItsName_operandText {e : Expr} {text : String} (wrap : Bool) (h : EndsItsName text) :
    EndsItsName (e.operandText d wrap text) := by
  unfold operandText
  split
  · rw [String.append_assoc]
    exact (NoName.behind (by decide) (by decide) _).ends
  · exact h

theorem endsItsName_operandsSql {wrap : Bool} {es : List Expr} {texts : List String}
    (hes : ∀ e ∈ es, ∀ text, e.plainSql d cx = .ok text → EndsItsName text)
    (h : operandsSql d cx wrap es = .ok texts) : ∀ t ∈ texts, EndsItsName t := by
  rw [operandsSql_eq_mapM] at h
  refine forall_mem_of_mapM h fun e he operand hOperand => ?_
  rcases of_map_ok hOperand with ⟨text, hText, rfl⟩
  exact endsItsName_operandText wrap (hes e he text hText)

/-- The text of an expression ends the name it starts with, and is a name only if the expression is
a column. -/
theorem noName_plainSql (hd : d.IsStandard) (hcx : cx.AliasesSoft) (e : Expr) {text : String}
    (h : e.plainSql d cx = .ok text) :
    EndsItsName text ∧ (e.column? = none → NoName text) := by
  -- a call is no name as soon as its operands end theirs
  have hCall {op : Operation} {args : List Expr} {rule : SpellingRule} {operands : List String}
      (ih : ∀ a ∈ args, ∀ t, a.plainSql d cx = .ok t → EndsItsName t)
      (hRule : d.ruleFor op args.length = .ok rule)
      (hOperands : operandsSql d cx rule.isOperatorLike args = .ok operands) :
      NoName (rule.render operands) := by
    rcases of_ruleFor hd hRule with ⟨hStandard, hArity⟩
    have hLength : operands.length = args.length := by
      rw [operandsSql_eq_mapM] at hOperands
      exact (forall₂_of_mapM hOperands).length_eq.symm
    refine Spellings.namesNothing_of_standardRule hStandard operands ?_ ?_
    · rw [hLength]
      exact hArity
    · exact endsItsName_operandsSql ih hOperands
  have hNoName {t : String} {P : Prop} (ht : NoName t) : EndsItsName t ∧ (P → NoName t) :=
    ⟨ht.ends, fun _ => ht⟩
  induction e using writtenInduction generalizing text with
  | column ref =>
      refine ⟨?_, by simp [column?]⟩
      rw [plainSql, Context.columnText] at h
      split at h
      · next s hTop => exact Scope.endsItsName_columnText (hcx s hTop) h
      · cases h
  | literal value => exact hNoName (Literal.noName_of_sql h)
  | call op args ih =>
      rcases of_plainSql_call h with ⟨rule, operands, -, hRule, hOperands, rfl⟩
      exact hNoName (hCall (fun a ha t ht => (ih a ha ht).1) hRule hOperands)
  | cast arg target ih =>
      rw [plainSql] at h
      split at h
      · cases h
      · rcases of_map_ok h with ⟨name, -, rfl⟩
        simp only [String.append_assoc]
        exact hNoName (.behind (by decide) (by decide) _)
  | aliased expr name ih =>
      rw [plainSql] at h
      exact ih h
  | window op args partition order frame ihArgs _ _ =>
      rcases of_plainSql_window h with
        ⟨_, _, rule, operands, keys, sorted, hFunc, -, hRule, hOperands, -, -, rfl⟩
      cases hFunc
      have hFunction := hCall (fun a ha t ht => (ihArgs a ha ht).1) hRule hOperands
      apply hNoName
      unfold windowText
      simp only [String.append_assoc]
      split
      · exact .behind (by decide) (by decide) _
      · exact .appendMark hFunction.ends (by decide) _
  | misplaced func partition order frame hFunc =>
      rcases of_plainSql_window h with ⟨op, args, _, _, _, _, hFunction, -⟩
      exact absurd hFunction (hFunc op args)
  | udf name args output ih =>
      rw [plainSql] at h
      split at h
      · cases h
      · rcases of_map_ok h with ⟨safe, hSafe, rfl⟩
        rw [Identifier.safe_eq_ok hSafe]
        simp only [String.append_assoc]
        exact hNoName (.appendMark (endsItsName_quote name) (by decide) _)

end Expr

/-! ## Rewriting -/

/-- The standard rewriting leaves every column where it is, and makes no other. -/
theorem RewriteSet.column?_apply (e : Expr) : (standard.apply e).column? = e.column? := by
  have hCall (op : Operation) (args : List Expr) :
      (standard.rewriteNode (.call op args)).column? = none := by
    rcases rewriteNode_call_cases op args with
      hNode | ⟨a, b, -, -, hNode⟩ | ⟨a, fold, -, -, -, hNode | hNode⟩
    · rw [hNode]
      rfl
    · rw [hNode]
      rfl
    · rw [hNode]
      rfl
    · rw [hNode]
      rfl
  rw [apply_eq_transformUp]
  induction e with
  | column ref => rfl
  | literal value => rfl
  | call op args ih => exact hCall op _
  | cast arg target ih => rfl
  | aliased expr name ih => exact ih
  | window func partition order frame ihFunc ihPartition ihOrder => rfl
  | udf name args output ih => rfl

/-- Rules are for calls, so any rewriting leaves a column what it is. -/
theorem RewriteSet.column?_apply_of_some (s : RewriteSet) {e : Expr} {ref : ColumnRef}
    (h : e.column? = some ref) : (s.apply e).column? = some ref := by
  rw [apply_eq_transformUp]
  induction e with
  | column ref' => exact h
  | aliased expr name ih => exact ih h
  | _ => cases h

/-- A column stands in the text of the expression that it is. -/
theorem Expr.mem_written_of_column {e : Expr} {ref : ColumnRef} (h : e.column? = some ref) :
    ref ∈ e.written d := by
  have hMem {e : Expr} (h : e.column? = some ref) : ref ∈ e.refs := by
    induction e with
    | column ref' =>
        cases h
        exact List.mem_singleton.2 rfl
    | aliased expr name ih => exact ih h
    | _ => cases h
  exact hMem (d.rewrites.column?_apply_of_some h)

/-- An expression is written as a name only if it is a column, under whatever names. -/
theorem Expr.column_of_sql (hd : d.IsStandard) (hcx : cx.AliasesSoft) {e : Expr} {name : String}
    (h : e.sql d cx = .ok (Identifier.quote name)) :
    ∃ ref, e.column? = some ref ∧ cx.columnText ref = .ok (Identifier.quote name) := by
  rw [sql, hd.rewrites] at h
  cases hColumn : (RewriteSet.standard.apply e).column? with
  | some ref =>
      refine ⟨ref, ?_, ?_⟩
      · rw [← hColumn, RewriteSet.column?_apply]
      · rw [← plainSql_of_column hColumn, h]
  | none =>
      have hNot := (noName_plainSql hd hcx _ h).2 hColumn
      exact absurd rfl (hNot.ne name)

end TableQuery
