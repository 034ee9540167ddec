import Mathlib.Data.List.TakeWhile
import TableQuery.Proofs.Sql.Expr

/-!
# Truncation — the unit that loses its quotes

A truncation writes its second operand as a bare keyword: apostrophes at the ends of its text are
dropped and small letters become capital ones. Nothing checks that what is left is a unit of time.
It is one if the operand writes one (`Expr.WritesUnit`), and in no other case: a string that spells
no unit is written out bare all the same (`Expr.unit_of_truncation`).
-/

namespace TableQuery

open Lexeme

namespace Spellings

/-! ## Bare keywords -/

/-- The characters without the apostrophes at their ends. -/
def trimmed (cs : List Char) : List Char :=
  ((cs.dropWhile (· == '\'')).reverse.dropWhile (· == '\'')).reverse

theorem toList_unitKeyword (text : String) :
    (unitKeyword text).toList = (trimmed text.toList).map Char.toUpper := by
  simp [unitKeyword, Text.upperAscii, trimmed]

theorem mem_dropWhile_of_ne {c : Char} {cs : List Char} (hc : c ≠ '\'') (h : c ∈ cs) :
    c ∈ cs.dropWhile (· == '\'') := by
  rw [← List.takeWhile_append_dropWhile (p := (· == '\'')) (l := cs), List.mem_append] at h
  rcases h with hTaken | hLeft
  · have hSame := List.mem_takeWhile_imp hTaken
    exact absurd (beq_iff_eq.1 hSame) hc
  · exact hLeft

theorem mem_trimmed_of_ne {c : Char} {cs : List Char} (hc : c ≠ '\'') (h : c ∈ cs) :
    c ∈ trimmed cs :=
  List.mem_reverse.2 (mem_dropWhile_of_ne hc (List.mem_reverse.2 (mem_dropWhile_of_ne hc h)))

theorem trimmed_of_notMem {cs : List Char} (h : '\'' ∉ cs) : trimmed cs = cs := by
  have hDrop {ds : List Char} (hd : '\'' ∉ ds) : ds.dropWhile (· == '\'') = ds := by
    cases ds with
    | nil => rfl
    | cons d ds =>
        have hHead : (d == '\'') = false := beq_false_of_ne fun hSame => hd (by simp [hSame])
        simp [hHead]
  rw [trimmed, hDrop h, hDrop (by simpa using h), List.reverse_reverse]

/-- Apostrophes around the characters do not matter. -/
theorem trimmed_enclosed (cs : List Char) : trimmed ('\'' :: (cs ++ ['\''])) = trimmed cs := by
  unfold trimmed
  rw [List.dropWhile_cons_of_pos rfl, List.dropWhile_append]
  -- if there are apostrophes only, the closing one goes with those before it
  split
  · next hEmpty =>
    rw [List.isEmpty_iff.1 hEmpty]
    rfl
  · rw [List.reverse_append, List.reverse_singleton, List.singleton_append,
      List.dropWhile_cons_of_pos rfl]

theorem dropWhile_doubled (cs : List Char) :
    (doubled '\'' cs).dropWhile (· == '\'') = doubled '\'' (cs.dropWhile (· == '\'')) := by
  induction cs with
  | nil => rfl
  | cons c cs ih =>
      by_cases hc : c = '\''
      · simp [doubled, hc, ih]
      · simp [doubled, hc]

theorem reverse_doubled (cs : List Char) :
    (doubled '\'' cs).reverse = doubled '\'' cs.reverse := by
  induction cs with
  | nil => rfl
  | cons c cs ih =>
      rw [List.reverse_cons, doubled_append, ← ih]
      by_cases hc : c = '\'' <;> simp [doubled, hc]

/-- Apostrophes inside stay doubled, and those at the ends are dropped, doubled or not. -/
theorem trimmed_doubled (cs : List Char) :
    trimmed (doubled '\'' cs) = doubled '\'' (trimmed cs) := by
  simp only [trimmed, dropWhile_doubled, reverse_doubled]

theorem mem_doubled {c q : Char} {cs : List Char} (h : c ∈ cs) : c ∈ doubled q cs := by
  induction cs with
  | nil => cases h
  | cons d cs ih =>
      by_cases hd : d = q <;> rcases List.mem_cons.1 h with rfl | h <;> simp [doubled, *]

theorem isAlpha_of_mem_keyword {unit : TemporalUnit} {c : Char} (h : c ∈ unit.keyword.toList) :
    c.isAlpha = true := by
  have hAll : unit.keyword.toList.all Char.isAlpha = true := by
    cases unit <;> decide
  exact List.all_eq_true.1 hAll c h

/-- Some character of the text is neither an ASCII letter nor an apostrophe. -/
def Marked (text : String) : Prop :=
  ∃ c ∈ text.toList, c.isAlpha = false ∧ c ≠ '\''

instance : DecidablePred Marked := fun text =>
  List.decidableBEx (fun c : Char => c.isAlpha = false ∧ c ≠ '\'') text.toList

theorem marked_append {a b : String} : Marked (a ++ b) ↔ Marked a ∨ Marked b := by
  simp [Marked, or_and_right, exists_or]

/-- What is neither a letter nor an apostrophe is not dropped, and no unit has it. -/
theorem unitKeyword_ne_of_marked {text : String} (h : Marked text) (unit : TemporalUnit) :
    unitKeyword text ≠ unit.keyword := by
  intro hSame
  rcases h with ⟨c, hMem, hLetter, hApostrophe⟩
  have hKeyword : c ∈ unit.keyword.toList := by
    rw [← hSame, toList_unitKeyword, ← toUpper_of_not_isAlpha hLetter]
    exact List.mem_map_of_mem (mem_trimmed_of_ne hApostrophe hMem)
  rw [isAlpha_of_mem_keyword hKeyword] at hLetter
  cases hLetter

/-- A string is written out with the apostrophes inside doubled, and without those at its ends. -/
theorem toList_unitKeyword_quoteString (s : String) :
    (unitKeyword (quoteString s)).toList =
      (doubled '\'' (trimmed s.toList)).map Char.toUpper := by
  rw [toList_unitKeyword, quoteString, String.toList_ofList, doubleApostrophes_eq_doubled,
    trimmed_enclosed, trimmed_doubled]

/-- A string without apostrophes is written out as it is, in capital letters. -/
theorem unitKeyword_quoteString_of_notMem {s : String} (h : '\'' ∉ s.toList) :
    unitKeyword (quoteString s) = Text.upperAscii s := by
  refine String.toList_inj.1 ?_
  rw [toList_unitKeyword_quoteString, trimmed_of_notMem h, doubled_of_notMem h, Text.upperAscii,
    String.toList_ofList]

/-- The quotes of a string make no difference to the unit. -/
theorem unitKeyword_quoteString_eq_iff (s : String) (unit : TemporalUnit) :
    unitKeyword (quoteString s) = unit.keyword ↔ unitKeyword s = unit.keyword := by
  rw [← String.toList_inj, ← String.toList_inj, toList_unitKeyword_quoteString,
    toList_unitKeyword]
  by_cases hInside : '\'' ∈ trimmed s.toList
  · -- an apostrophe that is left is in neither of the two words
    have hNone {cs : List Char} (hMem : '\'' ∈ cs) :
        ¬ cs.map Char.toUpper = unit.keyword.toList := by
      intro hSame
      have hKeyword : ('\'').toUpper ∈ unit.keyword.toList := hSame ▸ List.mem_map_of_mem hMem
      cases isAlpha_of_mem_keyword hKeyword
    exact iff_of_false (hNone (mem_doubled hInside)) (hNone hInside)
  · rw [doubled_of_notMem hInside]

/-! ## Texts that are no units -/

theorem marked_natText (n : Nat) : Marked (toString n) := by
  rw [Marked, Nat.toString_eq_ofList_toDigits, String.toList_ofList]
  rcases List.exists_mem_of_ne_nil (Nat.toDigits 10 n) Nat.toDigits_ne_nil with ⟨c, hc⟩
  have hDigit : c.isDigit = true := Nat.isDigit_of_mem_toDigits (by decide) (by decide) hc
  exact ⟨c, hc, not_isAlpha_of_isDigit hDigit, by rintro rfl; cases hDigit⟩

theorem marked_intText (n : Int) : Marked (toString n) := by
  cases n with
  | ofNat n => exact marked_natText n
  | negSucc n => exact marked_append.2 (.inr (marked_natText (n + 1)))

theorem marked_floatText {x : Binary64} (hFinite : x.isFinite = true) :
    Marked (x.text Binary64.sqlLayout) := by
  have hPositional (d : Binary64.Digits) : Marked (Binary64.positional d) := by
    have hPoint : Marked "." := by decide
    have hZero : Marked "0." := by decide
    unfold Binary64.positional
    split <;> simp [marked_append, hPoint, hZero]
  have hScientific (d : Binary64.Digits) :
      Marked (Binary64.scientific Binary64.sqlLayout.plus d) :=
    marked_append.2 (.inr (marked_intText _))
  cases x with
  | nan => cases hFinite
  | infinite negative => cases hFinite
  | finite negative m q =>
      -- behind the sign there is a point or a power of ten
      unfold Binary64.text
      by_cases hm : m = 0
      · simp only [hm, if_true]
        exact marked_append.2 (.inr (by decide))
      · simp only [hm, if_false]
        refine marked_append.2 (.inr ?_)
        split
        · exact hPositional _
        · exact hScientific _

/-- A literal that is no string writes no unit. -/
theorem unitKeyword_ne_of_literal {v : Literal} {text : String} (h : v.sql = .ok text)
    (hString : ∀ s, v ≠ .string s) (unit : TemporalUnit) : unitKeyword text ≠ unit.keyword := by
  cases v with
  | null =>
      obtain rfl : "NULL" = text := by simpa [Literal.sql] using h
      cases unit <;> decide
  | boolean b =>
      cases b with
      | false =>
          obtain rfl : "FALSE" = text := by simpa [Literal.sql] using h
          cases unit <;> decide
      | true =>
          obtain rfl : "TRUE" = text := by simpa [Literal.sql] using h
          cases unit <;> decide
  | int n =>
      obtain rfl : toString n = text := by simpa [Literal.sql] using h
      exact unitKeyword_ne_of_marked (marked_intText n) unit
  | float x =>
      by_cases hFinite : x.isFinite = true
      · obtain rfl : x.text Binary64.sqlLayout = text := by
          simpa [Literal.sql, hFinite] using h
        exact unitKeyword_ne_of_marked (marked_floatText hFinite) unit
      · simp [Literal.sql, hFinite] at h
  | string s => exact absurd rfl (hString s)
  | date d =>
      obtain rfl : "DATE '" ++ d.text ++ "'" = text := by simpa [Literal.sql] using h
      have hTag : Marked "DATE '" := by decide
      exact unitKeyword_ne_of_marked (by simp [marked_append, hTag]) unit
  | time t =>
      obtain rfl : "TIME '" ++ t.text ++ "'" = text := by simpa [Literal.sql] using h
      have hTag : Marked "TIME '" := by decide
      exact unitKeyword_ne_of_marked (by simp [marked_append, hTag]) unit
  | timestamp t =>
      obtain rfl : "TIMESTAMP(0) '" ++ t.text ++ "'" = text := by simpa [Literal.sql] using h
      have hTag : Marked "TIMESTAMP(0) '" := by decide
      exact unitKeyword_ne_of_marked (by simp [marked_append, hTag]) unit
  | interval n unit' =>
      obtain rfl : "INTERVAL '" ++ toString n ++ "' " ++ unit'.keyword = text := by
        simpa [Literal.sql] using h
      have hTag : Marked "INTERVAL '" := by decide
      exact unitKeyword_ne_of_marked (by simp [marked_append, hTag]) unit
  | geometry wkt srid =>
      have hName : Marked "ST_GeomFromText(" := by decide
      cases srid with
      | none =>
          obtain rfl : "ST_GeomFromText(" ++ quoteString wkt ++ ")" = text := by
            simpa [Literal.sql] using h
          exact unitKeyword_ne_of_marked (by simp [marked_append, hName]) unit
      | some n =>
          obtain rfl : "ST_GeomFromText(" ++ quoteString wkt ++ ", " ++ toString n ++ ")" =
              text := by
            simpa [Literal.sql] using h
          exact unitKeyword_ne_of_marked (by simp [marked_append, hName]) unit

/-- Whether a call of the shape shows a character that no unit has, whatever its operands are. -/
def MarksShape : Shape → Prop
  | .between _ | .function _ => True
  | .before symbol | .after symbol => Marked symbol
  | .splice _ text => ∀ args, Marked (text args)

theorem marked_render {rule : SpellingRule} {texts : List String} (h : MarksShape rule.shape)
    (hBinary : ∀ symbol, rule.shape = .between symbol → 2 ≤ texts.length) :
    Marked (rule.render texts) := by
  rcases rule with ⟨arity, shape⟩
  cases shape with
  | between symbol =>
      match texts, hBinary symbol rfl with
      | a :: b :: rest, _ =>
        have hBlank : Marked " " := by decide
        simp [SpellingRule.render, String.intercalate_cons_cons, marked_append, hBlank]
  | before symbol => exact marked_append.2 (.inl h)
  | after symbol => exact marked_append.2 (.inr h)
  | function name =>
      have hOpens : Marked "(" := by decide
      simp [SpellingRule.render, marked_append, hOpens]
  | splice operatorLike text => exact h texts

/-- Text that opens with a mark is marked. -/
theorem marked_tagged {tag rest : String} (h : Marked tag) : Marked (tag ++ rest) :=
  marked_append.2 (.inl h)

theorem marked_negateText (args : List String) : Marked (negateText args) := by
  unfold negateText
  dsimp only
  split
  · exact marked_append.2 (.inl (marked_tagged (by decide)))
  · exact marked_tagged (by decide)

theorem marked_betweenText (args : List String) : Marked (betweenText args) := by
  have hBetween : Marked " BETWEEN " := by decide
  simp [betweenText, marked_append, hBetween]

theorem marked_listText (keyword : String) (args : List String) :
    Marked (listText keyword args) := by
  have hBlank : Marked " " := by decide
  simp [listText, marked_append, hBlank]

theorem marked_searchedCaseText (args : List String) : Marked (searchedCaseText args) :=
  marked_append.2 (.inr (by decide))

theorem marked_ifElseText (args : List String) : Marked (ifElseText args) :=
  marked_append.2 (.inr (by decide))

theorem marked_logText (args : List String) : Marked (logText args) := by
  have hName : Marked "LN(" := by decide
  unfold logText
  split <;> simp [marked_append, hName]

theorem marked_substringText (args : List String) : Marked (substringText args) := by
  have hName : Marked "SUBSTRING(" := by decide
  unfold substringText
  split <;> simp [marked_append, hName]

theorem marked_extractText (field : String) (args : List String) :
    Marked (extractText field args) :=
  marked_append.2 (.inr (by decide))

theorem marksShape_of_standardRule {op : Operation} {rule : SpellingRule}
    (h : standardRule? op = some rule) : MarksShape rule.shape := by
  -- the splices by name; the symbols of all other rules can be checked
  cases op
  case negate => cases h; exact marked_negateText
  case between => cases h; exact marked_betweenText
  case inList => cases h; exact marked_listText "IN"
  case notInList => cases h; exact marked_listText "NOT IN"
  case ifElse => cases h; exact marked_ifElseText
  case searchedCase => cases h; exact marked_searchedCaseText
  case log => cases h; exact marked_logText
  case substring => cases h; exact marked_substringText
  case extractYear | extractQuarter | extractMonth | extractWeek | extractDay | extractDayOfWeek |
      extractDayOfYear | extractHour | extractMinute | extractSecond | extractMillisecond =>
    cases h
    exact marked_extractText _
  case extractEpochSeconds | dateTruncate | countDistinct =>
    cases h
    exact fun args => marked_append.2 (.inr (by decide))
  case countStar => cases h; exact fun _ => (by decide : Marked "COUNT(*)")
  case isNull => cases h; exact (by decide : Marked " IS NULL")
  case notNull => cases h; exact (by decide : Marked " IS NOT NULL")
  case not => cases h; exact (by decide : Marked "NOT ")
  all_goals
    cases h <;> trivial

/-- Only binary operators stand between their operands. -/
theorem arity_of_between {op : Operation} {rule : SpellingRule} {symbol : String}
    (h : standardRule? op = some rule) (hShape : rule.shape = .between symbol) :
    rule.arity = .exactly 2 := by
  cases op <;> cases h <;> cases hShape <;> rfl

/-- A call is written with a character that no unit has, whatever its operands are. -/
theorem marked_of_standardRule {op : Operation} {rule : SpellingRule} {texts : List String}
    (h : standardRule? op = some rule) (hArity : rule.arity.accepts texts.length = true) :
    Marked (rule.render texts) := by
  refine marked_render (marksShape_of_standardRule h) fun symbol hShape => ?_
  rw [arity_of_between h hShape] at hArity
  exact (beq_iff_eq.1 hArity).ge

end Spellings

/-! ## Operands that write a unit -/

namespace Expr

open Spellings

variable {d : Dialect} {cx : Context} {unit : TemporalUnit}

/-- As the unit of a truncation, the expression writes this unit: it is a string with the keyword,
in any letter case and with any number of apostrophes around it, or a column whose text is such a
word, or one of these under another name. -/
inductive WritesUnit (cx : Context) (unit : TemporalUnit) : Expr → Prop where
  | string {s : String} (h : unitKeyword s = unit.keyword) :
      WritesUnit cx unit (.literal (.string s))
  | column {ref : ColumnRef} {text : String} (hText : cx.columnText ref = .ok text)
      (h : unitKeyword text = unit.keyword) : WritesUnit cx unit (.column ref)
  | named {expr : Expr} {name : String} (h : WritesUnit cx unit expr) :
      WritesUnit cx unit (.alias expr name)

section Forms

variable {op : Operation} {args : List Expr} {expr func : Expr} {name : String}
  {target : DataType} {partition : List Expr} {order : List (SortKey Expr)}
  {frame : Option WindowFrame}

theorem writesUnit_string_iff {s : String} :
    (literal (.string s)).WritesUnit cx unit ↔ unitKeyword s = unit.keyword := by
  constructor
  · intro h
    cases h with
    | string hWord => exact hWord
  · exact .string

theorem writesUnit_column_iff {ref : ColumnRef} {text : String}
    (hText : cx.columnText ref = .ok text) :
    (column ref).WritesUnit cx unit ↔ unitKeyword text = unit.keyword := by
  constructor
  · intro h
    cases h with
    | column hOther hWord =>
        cases hText.symm.trans hOther
        exact hWord
  · exact .column hText

theorem writesUnit_alias_iff :
    (Expr.alias expr name).WritesUnit cx unit ↔ expr.WritesUnit cx unit := by
  constructor
  · intro h
    cases h with
    | named hExpr => exact hExpr
  · exact .named

theorem not_writesUnit_call : ¬ (call op args).WritesUnit cx unit := by
  intro h
  cases h

theorem not_writesUnit_cast : ¬ (cast expr target).WritesUnit cx unit := by
  intro h
  cases h

theorem not_writesUnit_window : ¬ (window func partition order frame).WritesUnit cx unit := by
  intro h
  cases h

theorem not_writesUnit_udf : ¬ (udf name args target).WritesUnit cx unit := by
  intro h
  cases h

end Forms

/-- Rewriting neither makes nor takes away a unit: it turns calls into calls. -/
theorem writesUnit_apply_iff (u : Expr) :
    (RewriteSet.standard.apply u).WritesUnit cx unit ↔ u.WritesUnit cx unit := by
  change (u.transformUp RewriteSet.standard.rewriteNode).WritesUnit cx unit ↔ _
  induction u with
  | call op args =>
      refine iff_of_false ?_ not_writesUnit_call
      rw [transformUp]
      rcases RewriteSet.rewriteNode_call_cases op (transformList _ args) with
        hNode | ⟨_, _, -, -, hNode⟩ | ⟨_, _, -, -, -, hNode | hNode⟩ <;>
      · rw [hNode]
        exact not_writesUnit_call
  | aliased expr name ih => exact writesUnit_alias_iff.trans (ih.trans writesUnit_alias_iff.symm)
  | column ref => rfl
  | literal value => rfl
  | cast arg target => exact iff_of_false not_writesUnit_cast not_writesUnit_cast
  | window func partition order frame =>
      exact iff_of_false not_writesUnit_window not_writesUnit_window
  | udf name args output => exact iff_of_false not_writesUnit_udf not_writesUnit_udf

/-- The text of a call, alone or over a window, shows that it is one. -/
theorem marked_operandsSql (hd : d.IsStandard) {op : Operation} {args : List Expr}
    {rule : SpellingRule} {texts : List String} (hRule : d.ruleFor op args.length = .ok rule)
    (hTexts : operandsSql d cx rule.isOperatorLike args = .ok texts) :
    Marked (rule.render texts) := by
  rcases of_ruleFor hd hRule with ⟨hStandard, hArity⟩
  rw [operandsSql_eq_mapM] at hTexts
  rw [(forall₂_of_mapM hTexts).length_eq] at hArity
  exact marked_of_standardRule hStandard hArity

/-- What is written for an expression is a unit exactly if the expression writes one. -/
theorem unitKeyword_eq_iff (hd : d.IsStandard) {u : Expr} {text : String}
    (h : u.plainSql d cx = .ok text) :
    unitKeyword text = unit.keyword ↔ u.WritesUnit cx unit := by
  -- strings and columns write what they say; all other forms leave a mark in their texts
  induction u using writtenInduction generalizing text with
  | column ref => exact (writesUnit_column_iff h).symm
  | literal value =>
      by_cases hString : ∃ s, value = .string s
      · rcases hString with ⟨s, rfl⟩
        obtain rfl : quoteString s = text := Except.ok.inj h
        exact (unitKeyword_quoteString_eq_iff s unit).trans writesUnit_string_iff.symm
      · have hOther := unitKeyword_ne_of_literal h (not_exists.1 hString) unit
        refine iff_of_false hOther ?_
        rintro (hWord | _)
        exact hString ⟨_, rfl⟩
  | call op args =>
      rcases of_plainSql_call h with ⟨rule, texts, -, hRule, hTexts, rfl⟩
      have hCall := marked_operandsSql hd hRule hTexts
      exact iff_of_false (unitKeyword_ne_of_marked hCall unit) not_writesUnit_call
  | cast arg target =>
      rw [plainSql] at h
      split at h
      · cases h
      · rcases of_map_ok h with ⟨name, -, rfl⟩
        have hName : Marked "CAST(" := by decide
        refine iff_of_false (unitKeyword_ne_of_marked ?_ unit) not_writesUnit_cast
        simp [marked_append, hName]
  | aliased expr name ih =>
      rw [plainSql] at h
      exact (ih h).trans writesUnit_alias_iff.symm
  | window op args partition order frame =>
      rcases of_plainSql_window h with
        ⟨_, _, rule, operands, keys, sorted, hFunc, -, hRule, hOperands, -, -, rfl⟩
      cases hFunc
      have hCall := marked_operandsSql hd hRule hOperands
      refine iff_of_false (unitKeyword_ne_of_marked ?_ unit) not_writesUnit_window
      unfold windowText
      split <;> simp [marked_append, hCall]
  | misplaced func partition order frame hFunc =>
      rcases of_plainSql_window h with ⟨op, args, _, _, _, _, hCall, -⟩
      exact absurd hCall (hFunc op args)
  | udf name args output =>
      rw [plainSql] at h
      split at h
      · cases h
      · rcases of_map_ok h with ⟨safe, -, rfl⟩
        have hOpens : Marked "(" := by decide
        refine iff_of_false (unitKeyword_ne_of_marked ?_ unit) not_writesUnit_udf
        simp [marked_append, hOpens]

/-! ## Truncations -/

theorem apply_call_dateTruncate (x u : Expr) :
    RewriteSet.standard.apply (call .dateTruncate [x, u]) =
      call .dateTruncate [RewriteSet.standard.apply x, RewriteSet.standard.apply u] := rfl

/-- The word that a truncation writes as its unit is a unit of time exactly if the second operand
writes that unit: if it is a string with the keyword in any letter case, or a column whose text is
such a word. Whatever else the operand is, its own text stands there, in capital letters and without
the quotes of a string. -/
theorem unit_of_truncation (hd : d.IsStandard) {x u : Expr} {text : String}
    (h : (call .dateTruncate [x, u]).sql d cx = .ok text) :
    ∃ operand written, x.sql d cx = .ok operand ∧ u.sql d cx = .ok written ∧
      text = "DATE_TRUNC(" ++ unitKeyword written ++ ", " ++ operand ++ ")" ∧
      (∀ unit : TemporalUnit, unitKeyword written = unit.keyword ↔ u.WritesUnit cx unit) ∧
      ∀ s, u = .literal (.string s) → '\'' ∉ s.toList →
        unitKeyword written = Text.upperAscii s := by
  unfold sql at h ⊢
  rw [hd.rewrites] at h ⊢
  -- a truncation is not rewritten itself, only its operands are
  rw [apply_call_dateTruncate] at h
  rcases of_plainSql_call h with ⟨rule, texts, -, hRule, hTexts, rfl⟩
  rcases of_ruleFor hd hRule with ⟨hStandard, -⟩
  cases hStandard
  rcases of_operandsSql_cons hTexts with ⟨operand, rest, hOperand, hRest, rfl⟩
  rcases of_operandsSql_cons hRest with ⟨written, rest, hWritten, hNil, rfl⟩
  refine ⟨operand, written, hOperand, hWritten, ?_, fun unit => ?_, ?_⟩
  · rfl
  · rw [unitKeyword_eq_iff hd hWritten, writesUnit_apply_iff]
  · rintro s rfl hPlain
    obtain rfl : quoteString s = written := Except.ok.inj hWritten
    exact unitKeyword_quoteString_of_notMem hPlain

/-- A table with one time. -/
def times : Relation :=
  .table 1 "t" ⟨[⟨"a", .timestamp, true⟩]⟩

/-- The context of a statement over the table. -/
def overTimes : Context :=
  (Context.new false).push ⟨[⟨times, none, ["a"]⟩], false, [], none⟩

/-- The time, cut to what a string says. -/
def cutTo (s : String) : Expr :=
  .call .dateTruncate [times.column "a", .literal (.string s)]

/-- A unit is found in any letter case, and with apostrophes around it. -/
theorem unit_of_truncation_day :
    ∃ written, (cutTo "'Day").sql .standard overTimes =
        .ok ("DATE_TRUNC(" ++ unitKeyword written ++ ", " ++ "a" ++ ")") ∧
      unitKeyword written = TemporalUnit.day.keyword := by
  have hText : (cutTo "'Day").sql .standard overTimes = .ok "DATE_TRUNC(DAY, a)" := by
    decide +kernel
  rcases unit_of_truncation ⟨rfl, rfl⟩ hText with ⟨operand, written, hOperand, -, hCall, hUnit, -⟩
  have hColumn : (times.column "a").sql .standard overTimes = .ok "a" := by decide +kernel
  cases hColumn.symm.trans hOperand
  refine ⟨written, hText.trans (congrArg Except.ok hCall), (hUnit .day).2 (.string ?_)⟩
  decide

/-- A string that is no unit leaves its quotes, and with them the call and the statement. -/
theorem truncation_leaves_quotes :
    (cutTo "day, a); --").sql .standard overTimes =
        .ok ("DATE_TRUNC(" ++ "DAY, A); --" ++ ", " ++ "a" ++ ")") ∧
      (∀ unit : TemporalUnit, "DAY, A); --" ≠ unit.keyword) ∧
      Dialect.standard.compile
          (.selection 2 times [.alias (cutTo "day, a); --") "d"] [] []) =
        .ok "SELECT DATE_TRUNC(DAY, A); --, a) AS d\nFROM t" := by
  refine ⟨by decide +kernel, fun unit => ?_, by decide +kernel⟩
  cases unit <;> decide

end Expr

end TableQuery
