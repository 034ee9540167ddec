import Mathlib.Order.Filter.AtTopBot.Basic
import TableQuery.Proofs.Arity
import TableQuery.Proofs.Scope.Resolve
import TableQuery.Proofs.Sql.Inversion
import TableQuery.Proofs.Sql.ReaderLaws

/-!
# Readback — the text of an expression tells its structure

The reader takes back what was written: from the text of a readable expression it gets the canonical
form of that expression, once its bound on the nesting is large enough. So two readable expressions
with one text have one canonical form, and parentheses stand wherever an operand could otherwise be
taken for a part of another.
-/

namespace TableQuery
namespace Reader

open Filter

/-! ## Rules -/

section Rules

variable {o : Origin} {expr : Reader Expr} {n : Nat} {op : Operation} {arity : Arity}
  {texts : List String} {es : List Expr}

/-- The rule of an operator with a symbol takes as many operands as the symbol stands between. -/
def hasOperands : SpellingRule → Bool
  | ⟨arity, .between _⟩ => arity = .exactly 2
  | ⟨arity, .before _⟩ => arity = .exactly 1
  | ⟨arity, .after _⟩ => arity = .exactly 1
  | _ => true

theorem standard_hasOperands :
    ∀ op ∈ Operation.catalog, ((Spellings.standardRule? op).all hasOperands) = true := by
  decide +kernel

theorem hasOperands_of_rule {rule : SpellingRule} (h : Spellings.standardRule? op = some rule) :
    hasOperands rule = true := by
  have hAll := standard_hasOperands op op.mem_catalog
  rwa [h, Option.all_some] at hAll

theorem eq_of_forall₂_one {R : String → Expr → Prop} (h : List.Forall₂ R texts es)
    (hArity : (Arity.exactly 1).accepts es.length = true) :
    ∃ t x, texts = [t] ∧ es = [x] ∧ R t x := by
  rcases Arity.exists_one hArity with ⟨x, rfl⟩
  rcases List.forall₂_cons_right_iff.1 h with ⟨t, rest, ht, hRest, rfl⟩
  cases hRest
  exact ⟨t, x, rfl, rfl, ht⟩

theorem eq_of_forall₂_two {R : String → Expr → Prop} (h : List.Forall₂ R texts es)
    (hArity : (Arity.exactly 2).accepts es.length = true) :
    ∃ t u x y, texts = [t, u] ∧ es = [x, y] ∧ R t x ∧ R u y := by
  rcases Arity.exists_two hArity with ⟨x, y, rfl⟩
  rcases List.forall₂_cons_right_iff.1 h with ⟨t, rest, ht, hRest, rfl⟩
  rcases eq_of_forall₂_one hRest rfl with ⟨u, _, rfl, ⟨⟩, hu⟩
  exact ⟨t, u, x, y, rfl, rfl, ht, hu⟩

theorem eq_of_forall₂_three {R : String → Expr → Prop} (h : List.Forall₂ R texts es)
    (hArity : (Arity.exactly 3).accepts es.length = true) :
    ∃ t u v x y z, texts = [t, u, v] ∧ es = [x, y, z] ∧ R t x ∧ R u y ∧ R v z := by
  rcases Arity.exists_three hArity with ⟨x, y, z, rfl⟩
  rcases List.forall₂_cons_right_iff.1 h with ⟨t, rest, ht, hRest, rfl⟩
  rcases eq_of_forall₂_two hRest rfl with ⟨u, v, _, _, rfl, ⟨⟩, hu, hv⟩
  exact ⟨t, u, v, x, y, z, rfl, rfl, ht, hu, hv⟩

/-- A splice of a transparent operation is an operator expression of four kinds, or a choice. -/
theorem splice_cases (hOp : op.isTransparent = true) {like : Bool} {text : List String → String}
    (hRule : Spellings.standardRule? op = some ⟨arity, .splice like text⟩) :
    (like = true ∧ (op = .negate ∨ op = .between ∨ op = .inList ∨ op = .notInList)) ∨
      (like = false ∧ (op = .ifElse ∨ op = .searchedCase)) := by
  unfold Operation.isTransparent at hOp
  rw [hRule] at hOp
  have hSix : op = .negate ∨ op = .between ∨ op = .inList ∨ op = .notInList ∨ op = .ifElse ∨
      op = .searchedCase := by simpa using hOp
  rcases hSix with rfl | rfl | rfl | rfl | rfl | rfl
  all_goals
    cases hRule
    simp

/-- No operand starts with a minus sign, so none needs parentheses behind one. -/
theorem negateText_of_takes {t : String} {x : Expr} (h : Takes (operand o expr n) Bounded t x) :
    Spellings.negateText [t] = "-" ++ t := by
  have hHead : t.toList.head? ≠ some '-' := by
    intro hMinus
    cases hText : t.toList with
    | nil => simp [hText] at hMinus
    | cons c cs =>
        have hc : c = '-' := by simpa [hText] using hMinus
        have hRead := h [] (by simp [Bounded])
        rw [hText, List.cons_append, operand_mark (.inl hc)] at hRead
        cases hRead
  simp [Spellings.negateText, Spellings.operand, hHead]

/-- The text of a membership in a list is read as a whole. -/
theorem whole_listText {keyword : String}
    (hEntry : (" " ++ keyword ++ " (", Continuation.among op) ∈ continuations)
    (hLength : 2 ≤ es.length) (hExprs : List.Forall₂ (Takes expr Follows) texts es)
    (hOperands : List.Forall₂ (Takes (operand o expr n) Bounded) texts es) (hn : texts.length < n) :
    Takes (whole o expr n) Follows (Spellings.listText keyword texts) (.call op es) := by
  cases hOperands with
  | nil => simp at hLength
  | @cons t x texts es hx hRest =>
      cases hExprs with
      | cons _ hMore =>
          have hNe : texts ≠ [] := by
            rintro rfl
            cases hMore
            simp at hLength
          have hText : Spellings.listText keyword (t :: texts) =
              t ++ (" " ++ keyword ++ " (") ++ ", ".intercalate texts ++ ")" := by
            simp [Spellings.listText, Spellings.operand, String.append_assoc]
          rw [hText]
          exact whole_among hEntry hx hMore hNe (by simp only [List.length_cons] at hn; omega)

/-- The text of a spliced operator expression is read as a whole. -/
theorem whole_splice {text : List String → String}
    (hRule : Spellings.standardRule? op = some ⟨arity, .splice true text⟩)
    (hOp : op.isTransparent = true) (hArity : arity.accepts es.length = true)
    (hExprs : List.Forall₂ (Takes expr Follows) texts es)
    (hOperands : List.Forall₂ (Takes (operand o expr n) Bounded) texts es) (hn : texts.length < n) :
    Takes (whole o expr n) Follows (text texts) (.call op es) := by
  rcases splice_cases hOp hRule with ⟨-, rfl | rfl | rfl | rfl⟩ | ⟨hFalse, -⟩
  · cases hRule
    rcases eq_of_forall₂_one hOperands hArity with ⟨t, x, rfl, rfl, hx⟩
    rw [negateText_of_takes hx]
    exact whole_opening (mem_openings .negate rfl) hx
  · cases hRule
    rcases eq_of_forall₂_three hOperands hArity with
      ⟨t, u, v, x, y, z, rfl, rfl, hx, hy, hz⟩
    exact whole_range hx hy hz
  · cases hRule
    have hLength : 2 ≤ es.length := by simpa [Arity.accepts] using hArity
    exact whole_listText (mem_continuations .inList rfl) hLength hExprs hOperands hn
  · cases hRule
    have hLength : 2 ≤ es.length := by simpa [Arity.accepts] using hArity
    exact whole_listText (mem_continuations .notInList rfl) hLength hExprs hOperands hn
  · cases hFalse

/-- The text of an operator expression is read as a whole. -/
theorem whole_render {rule : SpellingRule} (hRule : Spellings.standardRule? op = some rule)
    (hOp : op.isTransparent = true) (hLike : rule.isOperatorLike = true)
    (hArity : rule.arity.accepts es.length = true)
    (hExprs : List.Forall₂ (Takes expr Follows) texts es)
    (hOperands : List.Forall₂ (Takes (operand o expr n) Bounded) texts es) (hn : texts.length < n) :
    Takes (whole o expr n) Follows (rule.render texts) (.call op es) := by
  -- for a symbol the arity says how many operands there are, and the table how to go on
  have hFits := hasOperands_of_rule hRule
  rcases rule with ⟨arity, shape⟩
  cases shape with
  | between symbol =>
      obtain rfl : arity = .exactly 2 := by simpa [hasOperands] using hFits
      rcases eq_of_forall₂_two hOperands hArity with
        ⟨t, u, x, y, rfl, rfl, hx, hy⟩
      have hEntry : (" " ++ symbol ++ " ", Continuation.between op) ∈ continuations :=
        mem_continuations op (by simp [continuationOf, hRule])
      have hText : SpellingRule.render ⟨.exactly 2, .between symbol⟩ [t, u] =
          t ++ (" " ++ symbol ++ " ") ++ u := by
        simp [SpellingRule.render, String.intercalate_cons_cons]
      rw [hText]
      exact whole_between hEntry hx hy
  | before symbol =>
      obtain rfl : arity = .exactly 1 := by simpa [hasOperands] using hFits
      rcases eq_of_forall₂_one hOperands hArity with
        ⟨t, x, rfl, rfl, hx⟩
      have hEntry : (symbol, op) ∈ openings := mem_openings op (by simp [openingOf, hRule])
      have hText : SpellingRule.render ⟨.exactly 1, .before symbol⟩ [t] = symbol ++ t := by
        simp [SpellingRule.render]
      rw [hText]
      exact whole_opening hEntry hx
  | after symbol =>
      obtain rfl : arity = .exactly 1 := by simpa [hasOperands] using hFits
      rcases eq_of_forall₂_one hOperands hArity with
        ⟨t, x, rfl, rfl, hx⟩
      have hEntry : (symbol, Continuation.behind op) ∈ continuations :=
        mem_continuations op (by simp [continuationOf, hRule])
      have hText : SpellingRule.render ⟨.exactly 1, .after symbol⟩ [t] = t ++ symbol := by
        simp [SpellingRule.render]
      rw [hText]
      exact whole_behind hEntry hx
  | function name => cases hLike
  | splice like text =>
      obtain rfl : like = true := hLike
      exact whole_splice hRule hOp hArity hExprs hOperands hn

/-- A choice by one condition is spelled as a choice by several is. -/
theorem ifElseText_eq (t u v : String) :
    Spellings.ifElseText [t, u, v] = Spellings.searchedCaseText [t, u, v] := by
  apply String.toList_inj.1
  simp [Spellings.ifElseText, Spellings.searchedCaseText, Spellings.branchesText, Spellings.operand]

/-- The text of a function or a choice is read as an operand. -/
theorem operand_render {rule : SpellingRule} (hRule : Spellings.standardRule? op = some rule)
    (hOp : op.isTransparent = true) (hLike : rule.isOperatorLike = false)
    (hArity : rule.arity.accepts es.length = true) (hClosing : ∀ cs, expr (")".toList ++ cs) = none)
    (hExprs : List.Forall₂ (Takes expr Follows) texts es) (hn : texts.length < n) :
    Takes (operand o expr n) Bounded (rule.render texts) (Expr.canonicalNode (.call op es)) := by
  rcases rule with ⟨arity, shape⟩
  cases shape with
  | between symbol | before symbol | after symbol => cases hLike
  | function name =>
      have hName : functionName? op = some name := by simp [functionName?, hRule]
      have hCanonical : Expr.canonicalNode (.call op es) =
          .call (if op = .ifNull then .coalesce else op) es := by
        by_cases hNull : op = .ifNull
        · subst hNull
          cases hRule
          rcases Arity.exists_two hArity with ⟨x, y, rfl⟩
          rfl
        · have hChoice : op ≠ .ifElse := by
            rintro rfl
            cases hRule
          rw [if_neg hNull, Expr.canonicalNode_of_ne hNull hChoice]
      rw [hCanonical]
      exact operand_function hClosing hName hExprs (Nat.le_of_lt hn)
  | splice like text =>
      obtain rfl : like = false := hLike
      rcases splice_cases hOp hRule with ⟨hTrue, -⟩ | ⟨-, rfl | rfl⟩
      · cases hTrue
      · cases hRule
        rcases eq_of_forall₂_three hExprs hArity with
          ⟨t, u, v, x, y, z, rfl, rfl, -⟩
        change Takes _ _ (Spellings.ifElseText [t, u, v]) _
        rw [ifElseText_eq]
        exact operand_choice hExprs hn
      · cases hRule
        exact operand_choice hExprs hn

end Rules

/-! ## Expressions -/

section Expressions

variable {o : Origin} {d : Dialect} {cx : Context} {e : Expr} {text : String}

/-- A bound on the nesting is enough for the text of an expression, alone and as an operand. -/
structure ReadsBack (o : Origin) (d : Dialect) (e : Expr) (text : String) (n : Nat) : Prop where
  bare : Takes (read o n) Follows text e.canonical
  wrapped : Takes (read o n) Follows (e.operandText d true text) e.canonical
  operand : Takes (operand o (read o n) n) Bounded (e.operandText d true text) e.canonical

theorem eventually_of_succ {P : Nat → Prop} (h : ∀ᶠ n in atTop, P (n + 1)) :
    ∀ᶠ n in atTop, P n := by
  rw [← map_add_atTop_eq_nat 1]
  exact h

/-- What is read as an operand is read as a whole expression one level up. -/
theorem readsBack_of_operand (hPlain : e.isCompound d = false)
    (h : ∀ᶠ n in atTop, Takes (operand o (read o n) n) Bounded text e.canonical) :
    ∀ᶠ n in atTop, ReadsBack o d e text n := by
  have hText : e.operandText d true text = text := by
    simp [Expr.operandText, hPlain]
  have hWhole : ∀ᶠ n in atTop, Takes (read o n) Follows text e.canonical :=
    eventually_of_succ (h.mono fun n hn => whole_of_operand hn)
  filter_upwards [h, hWhole] with n hOperand hBare
  exact ⟨hBare, by rwa [hText], by rwa [hText]⟩

/-- What is read as a whole expression is read in parentheses as an operand. -/
theorem readsBack_of_whole (hCompound : e.isCompound d = true)
    (h : ∀ᶠ n in atTop, Takes (whole o (read o n) n) Follows text e.canonical) :
    ∀ᶠ n in atTop, ReadsBack o d e text n := by
  have hText : e.operandText d true text = "(" ++ text ++ ")" := by
    simp [Expr.operandText, hCompound]
  have hBare : ∀ᶠ n in atTop, Takes (read o n) Follows text e.canonical := eventually_of_succ h
  have hOperand : ∀ᶠ n in atTop,
      Takes (operand o (read o n) n) Bounded ("(" ++ text ++ ")") e.canonical :=
    hBare.mono fun n hn => operand_paren hn
  have hWrapped : ∀ᶠ n in atTop, Takes (read o n) Follows ("(" ++ text ++ ")") e.canonical :=
    eventually_of_succ (hOperand.mono fun n hn => whole_of_operand hn)
  filter_upwards [hBare, hWrapped, hOperand] with n hBare hWrapped hOperand
  exact ⟨hBare, by rwa [hText], by rwa [hText]⟩

theorem read_closing (n : Nat) (cs : List Char) : read o n (")".toList ++ cs) = none := by
  cases n with
  | zero => rfl
  | succ n =>
      have hOperand : operand o (read o n) n (")".toList ++ cs) = none :=
        operand_mark (.inr rfl) cs
      have hOpening : lookup openings (")".toList ++ cs) = none :=
        lookup_of_apart (by rw [openings_eq]; decide) cs
      rw [read, whole, hOperand, hOpening]
      rfl

/-- The operands of a call are read back if each of them is. -/
theorem eventually_of_operandsSql {wrap : Bool} {args : List Expr} {texts : List String}
    (h : Expr.operandsSql d cx wrap args = .ok texts)
    (hArgs : ∀ a ∈ args, ∀ text, a.plainSql d cx = .ok text →
      ∀ᶠ n in atTop, ReadsBack o d a text n) :
    ∀ᶠ n in atTop, List.Forall₂ (Takes (read o n) Follows) texts (args.map Expr.canonical) ∧
      (wrap = true → List.Forall₂ (Takes (operand o (read o n) n) Bounded) texts
        (args.map Expr.canonical)) := by
  induction args generalizing texts with
  | nil =>
      cases h
      exact .of_forall fun n => ⟨.nil, fun _ => .nil⟩
  | cons a args ih =>
      rcases Expr.of_operandsSql_cons h with ⟨text, rest, hText, hRest, rfl⟩
      rw [List.forall_mem_cons] at hArgs
      filter_upwards [hArgs.1 text hText, ih hRest hArgs.2] with n hHead hTail
      refine ⟨.cons ?_ hTail.1, fun hWrap => .cons ?_ (hTail.2 hWrap)⟩
      · cases wrap with
        | true => exact hHead.wrapped
        | false => exact hHead.bare
      · subst hWrap
        exact hHead.operand

theorem readsBack_call (hSpell : d.spellings = Spellings.standard) {op : Operation}
    {args : List Expr} (hOp : op.isTransparent = true)
    (hText : (Expr.call op args).plainSql d cx = .ok text)
    (hArgs : ∀ a ∈ args, ∀ text, a.plainSql d cx = .ok text →
      ∀ᶠ n in atTop, ReadsBack o d a text n) :
    ∀ᶠ n in atTop, ReadsBack o d (.call op args) text n := by
  rcases Expr.of_plainSql_call hText with ⟨rule, texts, -, hFor, hTexts, rfl⟩
  rcases Dialect.of_ruleFor hFor with ⟨hOwn, hArity⟩
  have hRule : Spellings.standardRule? op = some rule := by
    rwa [hSpell] at hOwn
  have hLength : (args.map Expr.canonical).length = args.length := List.length_map _
  rw [← hLength] at hArity
  have hCompound : (Expr.call op args).isCompound d = rule.isOperatorLike := by
    rw [Expr.isCompound, hOwn]
  have hParts := eventually_of_operandsSql hTexts hArgs
  -- the rule that wraps the operands is the rule that makes the call an operand to be wrapped
  cases hLike : rule.isOperatorLike with
  | true =>
      have hCanonical : (Expr.call op args).canonical = .call op (args.map Expr.canonical) := by
        rw [Expr.canonical_call]
        apply Expr.canonicalNode_of_ne
        all_goals
          rintro rfl
          cases hRule
          cases hLike
      apply readsBack_of_whole (hCompound.trans hLike)
      filter_upwards [hParts, eventually_gt_atTop texts.length] with n hn hBound
      rw [hCanonical]
      exact whole_render hRule hOp hLike hArity hn.1 (hn.2 hLike) hBound
  | false =>
      apply readsBack_of_operand (hCompound.trans hLike)
      filter_upwards [hParts, eventually_gt_atTop texts.length] with n hn hBound
      rw [Expr.canonical_call]
      exact operand_render hRule hOp hLike hArity (read_closing n) hn.1 hBound

theorem readsBack_cast {target : DataType} (hText : (Expr.cast e target).plainSql d cx = .ok text)
    (hArg : ∀ text, e.plainSql d cx = .ok text → ∀ᶠ n in atTop, ReadsBack o d e text n) :
    ∀ᶠ n in atTop, ReadsBack o d (.cast e target) text n := by
  rw [Expr.plainSql] at hText
  split at hText
  · cases hText
  · next inner hInner =>
    rcases of_map_ok hText with ⟨name, hName, rfl⟩
    have hTarget : target.sqlName? = some name := by
      unfold DataType.sqlName at hName
      split at hName
      · next found hFound =>
        cases hName
        exact hFound
      · cases hName
    apply readsBack_of_operand rfl
    filter_upwards [hArg inner hInner] with n hn
    exact operand_cast hn.bare hTarget

/-- From the text of a readable expression, the reader gets its canonical form. -/
theorem readsBack_of_readable (hSpell : d.spellings = Spellings.standard)
    (hColumns : ∀ ref text, cx.columnText ref = .ok text → Identifier.safe ref.name = .ok text)
    (h : e.Readable o) (hText : e.plainSql d cx = .ok text) :
    ∀ᶠ n in atTop, ReadsBack o d e text n := by
  induction h generalizing text with
  | column hName =>
      rw [Expr.plainSql] at hText
      exact readsBack_of_operand rfl
        (.of_forall fun n => operand_column hName (hColumns _ text hText))
  | literal hValue =>
      rw [Expr.plainSql] at hText
      exact readsBack_of_operand rfl (.of_forall fun n => operand_literal hValue hText)
  | call hOp _ ih => exact readsBack_call hSpell hOp hText fun a ha text hText => ih a ha hText
  | cast _ ih => exact readsBack_cast hText fun text hText => ih hText
  | @named expr name _ ih =>
      rw [Expr.plainSql] at hText
      -- a name is written nowhere in an expression, and parentheses look through it
      refine (ih hText).mono fun n hn => ⟨hn.bare, ?_, ?_⟩
      · simpa [Expr.operandText, Expr.isCompound] using hn.wrapped
      · simpa [Expr.operandText, Expr.isCompound] using hn.operand

end Expressions

end Reader

/-! ## One text, one structure -/

/-- Over items without aliases, columns are written by their bare names. -/
theorem Context.safe_of_columnText {cx : Context} {s : Scope} (hTop : cx.top? = some s)
    (hEntries : ∀ entry ∈ s.entries, entry.alias? = none) {ref : ColumnRef} {text : String}
    (h : cx.columnText ref = .ok text) : Identifier.safe ref.name = .ok text := by
  unfold columnText at h
  rw [hTop] at h
  simp only [Scope.columnText] at h
  split at h
  · exact h
  · split at h
    · cases h
    · next entry hEntry =>
      have hNone := hEntries entry (Scope.mem_of_resolve hEntry).1
      rcases of_map_ok h with ⟨name, hName, rfl⟩
      simpa [hNone] using hName

/-- Two expressions over the columns of one relation that are built by operators, functions, choices
and casts from plain literals and columns have one text only if they are the same but for names and
for operations that are spelled alike. -/
theorem Expr.canonical_eq_of_plainSql_eq {d : Dialect} {cx : Context} {s : Scope} {o : Origin}
    (hSpell : d.spellings = Spellings.standard) (hTop : cx.top? = some s)
    (hEntries : ∀ entry ∈ s.entries, entry.alias? = none) {a b : Expr} (ha : a.Readable o)
    (hb : b.Readable o) {text : String} (hTextA : a.plainSql d cx = .ok text)
    (hTextB : b.plainSql d cx = .ok text) : a.canonical = b.canonical := by
  have hColumns (ref : ColumnRef) (text : String) (h : cx.columnText ref = .ok text) :
      Identifier.safe ref.name = .ok text := Context.safe_of_columnText hTop hEntries h
  have hReadA := Reader.readsBack_of_readable hSpell hColumns ha hTextA
  have hReadB := Reader.readsBack_of_readable hSpell hColumns hb hTextB
  -- one bound serves both, and one reader gives one answer
  rcases (hReadA.and hReadB).exists with ⟨n, hA, hB⟩
  have hSame := (hA.bare [] (.inl rfl)).symm.trans (hB.bare [] (.inl rfl))
  simpa using hSame

/-- A name on an operand in parentheses and two functions that are spelled alike. -/
theorem Expr.canonical_eq_of_plainSql_eq_named :
    let table : Relation := .table 0 "t" ⟨[⟨"x", .int32, true⟩]⟩
    let s : Scope := ⟨[⟨table, none, ["x"]⟩], false, [], none⟩
    let cx : Context := ⟨false, 0, [s]⟩
    let x : Expr := .column ⟨table.origin, "x"⟩
    let sum : Expr := .call .add [x, .literal (.int 1)]
    let a : Expr := .call .multiply [.alias sum "next", .call .ifNull [x, sum]]
    let b : Expr := .call .multiply [sum, .call .coalesce [x, sum]]
    let text := "(x + 1) * COALESCE(x, x + 1)"
    Dialect.standard.spellings = Spellings.standard ∧ cx.top? = some s ∧
      (∀ entry ∈ s.entries, entry.alias? = none) ∧ a.Readable table.origin ∧
      b.Readable table.origin ∧ a.plainSql Dialect.standard cx = .ok text ∧
      b.plainSql Dialect.standard cx = .ok text ∧ a ≠ b ∧ a.canonical = b.canonical := by
  intro table s cx x sum a b text
  have hEntries : ∀ entry ∈ s.entries, entry.alias? = none := by simp [s]
  have hx : x.Readable table.origin := .column (by decide)
  have hPair {op : Operation} (hOp : op.isTransparent = true) {y z : Expr}
      (hy : y.Readable table.origin) (hz : z.Readable table.origin) :
      (Expr.call op [y, z]).Readable table.origin := by
    refine .call hOp ?_
    simp only [List.forall_mem_cons, List.not_mem_nil, false_imp_iff, implies_true, and_true]
    exact ⟨hy, hz⟩
  have hSum : sum.Readable table.origin :=
    hPair (by decide) hx (.literal (show (0 : Int) ≤ 1 by decide))
  have ha : a.Readable table.origin := hPair (by decide) (.named hSum) (hPair (by decide) hx hSum)
  have hb : b.Readable table.origin := hPair (by decide) hSum (hPair (by decide) hx hSum)
  have hTextA : a.plainSql Dialect.standard cx = .ok text := by decide +kernel
  have hTextB : b.plainSql Dialect.standard cx = .ok text := by decide +kernel
  have hSame : a.canonical = b.canonical :=
    Expr.canonical_eq_of_plainSql_eq rfl rfl hEntries ha hb hTextA hTextB
  exact ⟨rfl, rfl, hEntries, ha, hb, hTextA, hTextB, by simp [a, b], hSame⟩

end TableQuery
