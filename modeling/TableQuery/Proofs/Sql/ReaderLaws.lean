import TableQuery.Proofs.Sql.Reader

/-!
# Reader laws — what the reader makes of each form of text

For each form in which expressions are written there is one law: if the parts of a text are read as
they should be, so is the text. An operand is taken whatever stands behind it, as long as that
cannot be taken for a part of a word; a whole expression is taken where something ends it that no
operator starts with.
-/

namespace TableQuery
namespace Reader

/-! ## What may stand behind -/

/-- Whether the character may stand behind an operand. -/
def isBound (c : Char) : Bool :=
  c == ' ' || c == ',' || c == ')'

/-- Behind an operand stands nothing, or a blank, a comma or a parenthesis. -/
def Bounded (cs : List Char) : Prop :=
  ∀ c ∈ cs.head?, isBound c = true

/-- What ends a whole expression. -/
def ends : List String :=
  [")", ", ", " THEN ", " WHEN ", " ELSE ", " END", " AS "]

/-- Behind a whole expression stands nothing, or what ends it. -/
def Follows (cs : List Char) : Prop :=
  cs = [] ∨ ∃ s ∈ ends, ∃ rest, cs = s.toList ++ rest

theorem isWordChar_of_isBound {c : Char} (h : isBound c = true) :
    Identifier.isWordChar c = false := by
  simp only [isBound, Bool.or_eq_true, beq_iff_eq] at h
  rcases h with (rfl | rfl) | rfl <;> decide

theorem Bounded.word_ends {cs : List Char} (h : Bounded cs) :
    ∀ c ∈ cs.head?, Identifier.isWordChar c = false :=
  fun c hc => isWordChar_of_isBound (h c hc)

theorem bounded_append {s : String} (h : s.toList.head?.any isBound = true) (cs : List Char) :
    Bounded (s.toList ++ cs) := by
  intro c hc
  cases hText : s.toList with
  | nil => simp [hText] at h
  | cons d ds => simp_all

theorem ends_bounded : ∀ s ∈ ends, s.toList.head?.any isBound = true := by
  decide +kernel

theorem follows_append {s : String} (h : s ∈ ends) (cs : List Char) : Follows (s.toList ++ cs) :=
  .inr ⟨s, h, cs, rfl⟩

theorem Follows.bounded {cs : List Char} (h : Follows cs) : Bounded cs := by
  rcases h with rfl | ⟨s, hs, rest, rfl⟩
  · simp [Bounded]
  · exact bounded_append (ends_bounded s hs) rest

theorem continuations_bounded :
    ∀ entry ∈ continuations, entry.1.toList.head?.any isBound = true := by
  decide +kernel

theorem continuations_apart_ends : ∀ s ∈ ends, ∀ entry ∈ continuations, apart entry.1 s = true := by
  decide +kernel

/-- Behind a whole expression no operator follows. -/
theorem Follows.lookup_continuations {cs : List Char} (h : Follows cs) :
    lookup continuations cs = none := by
  rcases h with rfl | ⟨s, hs, rest, rfl⟩
  · decide +kernel
  · exact lookup_of_apart (continuations_apart_ends s hs) rest

/-- The reader takes the text for the value, whatever may stand behind it. -/
def Takes {α : Type} (r : Reader α) (Behind : List Char → Prop) (text : String) (a : α) : Prop :=
  ∀ cs, Behind cs → r (text.toList ++ cs) = some (a, cs)

/-! ## Operands -/

section Parts

variable {o : Origin} {expr : Reader Expr} {n : Nat}

theorem operand_paren {text : String} {e : Expr} (h : Takes expr Follows text e) :
    Takes (operand o expr n) Bounded ("(" ++ text ++ ")") e := by
  intro cs _
  have hInner := h (")".toList ++ cs) (follows_append (by decide) cs)
  have hText : ("(" ++ text ++ ")").toList ++ cs = '(' :: (text.toList ++ (")".toList ++ cs)) := by
    simp
  rw [hText, operand, hInner]
  simp only [Option.bind_eq_bind, Option.bind_some, after_append]
  rfl

theorem operand_string (s : String) :
    Takes (operand o expr n) Bounded (quoteString s) (.literal (.string s)) := by
  intro cs hBounded
  -- a quote behind the closing one would be read as part of the text
  have hEnd : cs.head? ≠ some '\'' := by
    intro hHead
    exact absurd (hBounded _ hHead) (by decide)
  have hText : (quoteString s).toList ++ cs =
      '\'' :: (Lexeme.doubled '\'' s.toList ++ '\'' :: cs) := by
    simp [quoteString, doubleApostrophes_eq_doubled]
  rw [hText, operand, quoted_append _ hEnd]
  simp

/-- A word starts neither a quoted text nor a parenthesis. -/
theorem operand_word {w : String} (hWord : isWord w = true)
    (hNe : w ≠ "") (cs : List Char) :
    operand o expr n (w.toList ++ cs) = named o expr n (w.toList ++ cs) := by
  cases hText : w.toList with
  | nil => exact absurd (String.toList_eq_nil_iff.1 hText) hNe
  | cons c w =>
      have hc : Identifier.isWordChar c = true := List.all_eq_true.1 hWord c (by simp [hText])
      rw [List.cons_append, operand]
      all_goals
        intro rest hOpening
        cases hOpening
        exact absurd hc (by decide)

theorem Bounded.after_paren {cs : List Char} (h : Bounded cs) : after "(" cs = none := by
  cases cs with
  | nil => rfl
  | cons c cs =>
      have hc : c ≠ '(' := by
        rintro rfl
        exact absurd (h '(' rfl) (by decide)
      simp [after, List.dropPrefix?, hc]

/-- A word that stands alone is a constant or a column. -/
theorem operand_atom {w : String} {e : Expr} (hWord : isWord w = true) (hNe : w ≠ "")
    (hCase : w ≠ "CASE") (h : atom o w = some e) :
    Takes (operand o expr n) Bounded w e := by
  intro cs hBounded
  rw [operand_word hWord hNe, named, word_append hWord hBounded.word_ends]
  simp [hBounded.after_paren, hCase, h]

theorem operand_int (m : Nat) :
    Takes (operand o expr n) Bounded (toString m) (.literal (.int m)) := by
  have hText : (toString m).toList = Nat.toDigits 10 m := by
    rw [Nat.toString_eq_ofList_toDigits, String.toList_ofList]
  have hDigit : ∀ c ∈ (toString m).toList, c.isDigit = true := by
    intro c hc
    rw [hText] at hc
    exact Nat.isDigit_of_mem_toDigits (by decide) (by decide) hc
  have hWord : isWord (toString m) = true := by
    apply List.all_eq_true.2
    intro c hc
    simp [Identifier.isWordChar, Char.isAlphanum, hDigit c hc]
  have hHead : (toString m).toList.head?.any Char.isDigit = true := by
    cases hDigits : (toString m).toList with
    | nil => exact absurd (hText.symm.trans hDigits) Nat.toDigits_ne_nil
    | cons c cs => simpa using hDigit c (by rw [hDigits]; exact List.mem_cons_self)
  -- a keyword starts with a letter
  have hOther : ∀ w : String, w.toList.head?.any Char.isDigit = false → toString m ≠ w := by
    rintro w hw rfl
    rw [hHead] at hw
    cases hw
  have hAtom : atom o (toString m) = some (.literal (.int m)) := by
    unfold atom
    rw [if_neg (hOther _ (by decide)), if_neg (hOther _ (by decide)), if_neg (hOther _ (by decide)),
      if_pos hHead, hText, Nat.ofDigitChars_ten_toDigits]
  exact operand_atom hWord (hOther _ (by decide)) (hOther _ (by decide)) hAtom

theorem keywords_quoted : ∀ w ∈ ["NULL", "TRUE", "FALSE", "CASE"],
    Identifier.needsQuotes w = true := by
  decide +kernel

/-- A name that is written bare is no keyword and no number. -/
theorem operand_bareColumn {name : String} (hValid : name ≠ "")
    (hBare : Identifier.needsQuotes name = false) :
    Takes (operand o expr n) Bounded name (.column ⟨o, name⟩) := by
  have hOther : ∀ w ∈ ["NULL", "TRUE", "FALSE", "CASE"], name ≠ w := by
    rintro w hw rfl
    rw [keywords_quoted _ hw] at hBare
    cases hBare
  -- what makes quotes needless: no keyword, no digit in front, word characters only
  have hParts := hBare
  simp only [Identifier.needsQuotes, Bool.or_eq_false_iff, Bool.not_eq_false'] at hParts
  have hAtom : atom o name = some (.column ⟨o, name⟩) := by
    unfold atom
    rw [if_neg (hOther _ (by simp)), if_neg (hOther _ (by simp)), if_neg (hOther _ (by simp))]
    simp [hParts.1.2, hValid, hBare]
  exact operand_atom hParts.2 hValid (hOther _ (by simp)) hAtom

/-- A column is read from its quoted or bare name, unless the name brings quotes of its own. -/
theorem operand_column {name text : String} (hName : name.toList.head? ≠ some '"')
    (h : Identifier.safe name = .ok text) :
    Takes (operand o expr n) Bounded text (.column ⟨o, name⟩) := by
  have hOwn : Identifier.isQuoted name = false := by
    unfold Identifier.isQuoted Identifier.isQuotedChars
    split
    · next hOpening => simp [hOpening] at hName
    · rfl
  have hValid : name ≠ "" := by
    rintro rfl
    cases h
  rw [Identifier.safe_eq_ok h, Identifier.quote, hOwn]
  cases hBare : Identifier.needsQuotes name with
  | false => exact operand_bareColumn hValid hBare
  | true =>
      intro cs hBounded
      have hEnd : cs.head? ≠ some '"' := by
        intro hHead
        exact absurd (hBounded _ hHead) (by decide)
      have hText : (String.ofList ('"' :: (Identifier.doubleQuotes name.toList ++ ['"']))).toList ++
          cs = '"' :: (Lexeme.doubled '"' name.toList ++ '"' :: cs) := by
        simp [Identifier.doubleQuotes_eq_doubled]
      simp only [Bool.not_true, Bool.or_false, Bool.false_eq_true, if_false]
      rw [hText, operand, quoted_append _ hEnd]
      simp

theorem operand_literal {value : Literal} {text : String} (hPlain : value.IsPlain)
    (h : value.sql = .ok text) : Takes (operand o expr n) Bounded text (.literal value) := by
  cases value with
  | null =>
      cases h
      exact operand_atom (by decide) (by decide) (by decide) rfl
  | boolean b =>
      cases b <;> cases h
      · exact operand_atom (by decide) (by decide) (by decide) rfl
      · exact operand_atom (by decide) (by decide) (by decide) rfl
  | int i =>
      cases h
      rcases Int.eq_ofNat_of_zero_le hPlain with ⟨m, rfl⟩
      exact operand_int m
  | string s =>
      cases h
      exact operand_string s
  | _ => cases hPlain

/-- Neither a minus sign nor a parenthesis that closes starts an operand. -/
theorem operand_mark {c : Char} (hc : c = '-' ∨ c = ')') (cs : List Char) :
    operand o expr n (c :: cs) = none := by
  have hMark : Identifier.isWordChar c = false := by
    rcases hc with rfl | rfl <;> decide
  have hWord : word (c :: cs) = ("", c :: cs) := by
    simp [word, hMark]
  have hParen : after "(" (c :: cs) = none := by
    rcases hc with rfl | rfl <;> rfl
  have hNamed : operand o expr n (c :: cs) = named o expr n (c :: cs) := by
    rcases hc with rfl | rfl <;> rfl
  rw [hNamed, named, hWord]
  simp [hParen, atom]

/-- A word and a parenthesis start a cast or a function. -/
theorem operand_call {w : String} (hWord : isWord w = true)
    (hNe : w ≠ "") (cs : List Char) :
    operand o expr n (w.toList ++ ("(".toList ++ cs)) =
      if w = "CAST" then do
        let (arg, cs) ← expr cs
        let cs ← after " AS " cs
        let (target, cs) ← typeName cs
        let cs ← after ")" cs
        return (.cast arg target, cs)
      else do
        let op ← functionNamed? w
        let (args, cs) ← arguments expr n cs
        return (.call op args, cs) := by
  rw [operand_word hWord hNe, named, word_append hWord (word_ends_at_paren cs)]
  simp only [after_append]

theorem operand_cast {text name : String} {e : Expr} {t : DataType} (h : Takes expr Follows text e)
    (hTarget : t.sqlName? = some name) :
    Takes (operand o expr n) Bounded ("CAST(" ++ text ++ " AS " ++ name ++ ")") (.cast e t) := by
  intro cs _
  have hText : ("CAST(" ++ text ++ " AS " ++ name ++ ")").toList ++ cs = "CAST".toList ++
      ("(".toList ++ (text.toList ++ (" AS ".toList ++ (name.toList ++ (")".toList ++ cs))))) := by
    simp
  have hArg := h (" AS ".toList ++ (name.toList ++ (")".toList ++ cs)))
    (follows_append (by decide) _)
  have hType : typeName (name.toList ++ (")".toList ++ cs)) = some (t, ")".toList ++ cs) :=
    typeName_append hTarget (bounded_append (by decide) cs).word_ends
  rw [hText, operand_call (by decide) (by decide), if_pos rfl, hArg]
  simp only [Option.bind_eq_bind, Option.bind_some, after_append, hType]
  rfl

/-! ## Lists and branches -/

theorem list_takes {texts : List String} {es : List Expr}
    (h : List.Forall₂ (Takes expr Follows) texts es) (hNe : texts ≠ []) {k : Nat}
    (hk : texts.length ≤ k) (cs : List Char) :
    list expr k ((", ".intercalate texts).toList ++ (")".toList ++ cs)) = some (es, cs) := by
  -- one expression per step; the comma behind it tells whether another one follows
  induction h generalizing k with
  | nil => exact absurd rfl hNe
  | @cons text e texts es hHead hTail ih =>
      cases k with
      | zero => cases hk
      | succ k =>
          rw [list]
          cases hTail with
          | nil =>
              have hLast := hHead (")".toList ++ cs) (follows_append (by decide) cs)
              have hComma : after ", " (")".toList ++ cs) = none := after_of_apart (by decide) cs
              rw [String.intercalate_singleton, hLast]
              simp only [Option.bind_eq_bind, Option.bind_some, hComma, after_append]
              rfl
          | @cons text' e' texts es hNext hRest =>
              have hTail := ih (by simp) (Nat.le_of_succ_le_succ hk)
              have hText :
                  (", ".intercalate (text :: text' :: texts)).toList ++ (")".toList ++ cs) =
                    text.toList ++ (", ".toList ++ ((", ".intercalate (text' :: texts)).toList ++
                      (")".toList ++ cs))) := by
                rw [String.intercalate_cons_cons]
                simp only [String.toList_append, List.append_assoc]
              rw [hText, hHead _ (follows_append (by decide) _)]
              simp only [Option.bind_eq_bind, Option.bind_some, after_append, hTail]
              rfl

/-- Where no expression starts with a parenthesis that closes, a function may have no arguments. -/
theorem arguments_takes (hClosing : ∀ cs, expr (")".toList ++ cs) = none) {texts : List String}
    {es : List Expr} (h : List.Forall₂ (Takes expr Follows) texts es) (hn : texts.length ≤ n)
    (cs : List Char) :
    arguments expr n ((", ".intercalate texts).toList ++ (")".toList ++ cs)) = some (es, cs) := by
  cases h with
  | nil =>
      -- the reader of lists has to give up at once before the empty list is tried
      have hNone : list expr n (")".toList ++ cs) = none := by
        cases n with
        | zero => rfl
        | succ n => rw [list, hClosing]; rfl
      rw [String.intercalate_nil, arguments]
      simp only [String.toList_empty, List.nil_append, hNone, after_append]
      rfl
  | cons hHead hTail =>
      rw [arguments, list_takes (.cons hHead hTail) (by simp) hn]
      rfl

theorem operand_function (hClosing : ∀ cs, expr (")".toList ++ cs) = none) {op : Operation}
    {name : String} (hName : functionName? op = some name) {texts : List String} {es : List Expr}
    (h : List.Forall₂ (Takes expr Follows) texts es) (hn : texts.length ≤ n) :
    Takes (operand o expr n) Bounded (name ++ "(" ++ ", ".intercalate texts ++ ")")
      (.call (if op = .ifNull then .coalesce else op) es) := by
  intro cs _
  rcases of_functionName hName with ⟨hWord, hNe, hCast, hFound⟩
  have hText : (name ++ "(" ++ ", ".intercalate texts ++ ")").toList ++ cs = name.toList ++
      ("(".toList ++ ((", ".intercalate texts).toList ++ (")".toList ++ cs))) := by
    simp only [String.toList_append, List.append_assoc]
  rw [hText, operand_call hWord hNe, if_neg hCast, hFound]
  simp only [Option.bind_eq_bind, Option.bind_some, arguments_takes hClosing h hn]
  rfl

/-- A branch ends where the next one, the default or the choice itself does. -/
theorem follows_branches (texts : List String) (cs : List Char) :
    Follows ((Spellings.branchesText texts).toList ++ (" END".toList ++ cs)) := by
  match texts with
  | [] => exact follows_append (by decide) cs
  | [text] =>
      rw [Spellings.branchesText, String.toList_append, List.append_assoc]
      exact follows_append (by decide) _
  | condition :: value :: texts =>
      simp only [Spellings.branchesText, String.toList_append, List.append_assoc]
      exact follows_append (by decide) _

theorem branches_takes {texts : List String} {es : List Expr}
    (h : List.Forall₂ (Takes expr Follows) texts es) {k : Nat} (hk : texts.length < k)
    (cs : List Char) :
    branches expr k ((Spellings.branchesText texts).toList ++ (" END".toList ++ cs)) =
      some (es, cs) := by
  have hWhen (t : String) (ht : apart " WHEN " t = true) (rest : List Char) :
      after " WHEN " (t.toList ++ rest) = none := after_of_apart ht rest
  induction texts using Spellings.branchesText.induct generalizing es k with
  | case1 =>
      cases h
      cases k with
      | zero => cases hk
      | succ k =>
          have hElse : after " ELSE " (" END".toList ++ cs) = none := after_of_apart (by decide) cs
          rw [branches, Spellings.branchesText, String.toList_empty, List.nil_append]
          simp only [hWhen " END" (by decide), hElse, after_append]
          rfl
  | case2 text =>
      rcases List.forall₂_cons_left_iff.1 h with ⟨e, rest, hDefault, hRest, rfl⟩
      cases hRest
      cases k with
      | zero => cases hk
      | succ k =>
          have hEnd := hDefault (" END".toList ++ cs) (follows_append (by decide) cs)
          rw [branches, Spellings.branchesText, String.toList_append, List.append_assoc]
          simp only [hWhen " ELSE " (by decide), after_append, hEnd, Option.bind_eq_bind,
            Option.bind_some]
          rfl
  | case3 condition value texts ih =>
      rcases List.forall₂_cons_left_iff.1 h with ⟨e, rest, hCondition, hRest, rfl⟩
      rcases List.forall₂_cons_left_iff.1 hRest with ⟨e', es, hValue, hMore, rfl⟩
      cases k with
      | zero => cases hk
      | succ k =>
          have hNext := follows_branches texts cs
          have hTail := ih hMore (k := k) (by simp only [List.length_cons] at hk; omega)
          rw [branches, Spellings.branchesText]
          simp only [String.toList_append, List.append_assoc, after_append,
            hCondition _ (follows_append (s := " THEN ") (by decide) _), hValue _ hNext, hTail,
            Option.bind_eq_bind, Option.bind_some]
          rfl

theorem operand_choice {texts : List String} {es : List Expr}
    (h : List.Forall₂ (Takes expr Follows) texts es) (hn : texts.length < n) :
    Takes (operand o expr n) Bounded (Spellings.searchedCaseText texts)
      (.call .searchedCase es) := by
  intro cs _
  have hWord : isWord "CASE" = true := by decide
  have hText : (Spellings.searchedCaseText texts).toList ++ cs = "CASE".toList ++
      ((Spellings.branchesText texts).toList ++ (" END".toList ++ cs)) := by
    simp only [Spellings.searchedCaseText, String.toList_append, List.append_assoc]
  have hNext := (follows_branches texts cs).bounded
  rw [hText, operand_word hWord (by decide), named, word_append hWord hNext.word_ends]
  simp only [hNext.after_paren, if_true, branches_takes h hn]
  rfl

/-! ## Whole expressions -/

theorem whole_of_operand {text : String} {e : Expr} (h : Takes (operand o expr n) Bounded text e) :
    Takes (whole o expr n) Follows text e := by
  intro cs hFollows
  rw [whole, h cs hFollows.bounded]
  simp only [continued, hFollows.lookup_continuations]

section Operators

variable {s t u : String} {x y z : Expr}

/-- Behind the first operand, the reader goes on as the table says. -/
theorem whole_continued {k : Continuation} (hx : Takes (operand o expr n) Bounded s x)
    (hEntry : (t, k) ∈ continuations) (cs : List Char) :
    whole o expr n (s.toList ++ (t.toList ++ cs)) = continued o expr n x (t.toList ++ cs) ∧
      lookup continuations (t.toList ++ cs) = some (k, cs) := by
  refine ⟨?_, lookup_append continuations_apart hEntry cs⟩
  rw [whole, hx _ (bounded_append (continuations_bounded _ hEntry) cs)]

theorem whole_between {op : Operation} (hEntry : (t, .between op) ∈ continuations)
    (hx : Takes (operand o expr n) Bounded s x) (hy : Takes (operand o expr n) Bounded u y) :
    Takes (whole o expr n) Follows (s ++ t ++ u) (.call op [x, y]) := by
  intro cs hFollows
  rcases whole_continued hx hEntry (u.toList ++ cs) with ⟨hWhole, hLookup⟩
  rw [String.toList_append, String.toList_append, List.append_assoc, List.append_assoc, hWhole,
    continued, hLookup]
  simp only [hy cs hFollows.bounded]
  rfl

theorem whole_behind {op : Operation} (hEntry : (t, .behind op) ∈ continuations)
    (hx : Takes (operand o expr n) Bounded s x) :
    Takes (whole o expr n) Follows (s ++ t) (.call op [x]) := by
  intro cs hFollows
  rcases whole_continued hx hEntry cs with ⟨hWhole, hLookup⟩
  rw [String.toList_append, List.append_assoc, hWhole, continued, hLookup]

theorem whole_range (hx : Takes (operand o expr n) Bounded s x)
    (hy : Takes (operand o expr n) Bounded t y) (hz : Takes (operand o expr n) Bounded u z) :
    Takes (whole o expr n) Follows (s ++ " BETWEEN " ++ t ++ " AND " ++ u)
      (.call .between [x, y, z]) := by
  intro cs hFollows
  have hEntry : (" BETWEEN ", Continuation.range) ∈ continuations :=
    mem_continuations .between rfl
  have hText : (s ++ " BETWEEN " ++ t ++ " AND " ++ u).toList ++ cs = s.toList ++
      (" BETWEEN ".toList ++ (t.toList ++ (" AND ".toList ++ (u.toList ++ cs)))) := by
    simp only [String.toList_append, List.append_assoc]
  rcases whole_continued hx hEntry (t.toList ++ (" AND ".toList ++ (u.toList ++ cs)))
    with ⟨hWhole, hLookup⟩
  rw [hText, hWhole, continued, hLookup]
  simp only [hy _ (bounded_append (s := " AND ") (by decide) _), after_append,
    hz cs hFollows.bounded, Option.bind_eq_bind, Option.bind_some]
  rfl

theorem whole_among {op : Operation} {texts : List String} {es : List Expr}
    (hEntry : (t, .among op) ∈ continuations) (hx : Takes (operand o expr n) Bounded s x)
    (h : List.Forall₂ (Takes expr Follows) texts es) (hNe : texts ≠ []) (hn : texts.length ≤ n) :
    Takes (whole o expr n) Follows (s ++ t ++ ", ".intercalate texts ++ ")")
      (.call op (x :: es)) := by
  intro cs _
  have hText : (s ++ t ++ ", ".intercalate texts ++ ")").toList ++ cs = s.toList ++
      (t.toList ++ ((", ".intercalate texts).toList ++ (")".toList ++ cs))) := by
    simp only [String.toList_append, List.append_assoc]
  rcases whole_continued hx hEntry ((", ".intercalate texts).toList ++ (")".toList ++ cs))
    with ⟨hWhole, hLookup⟩
  rw [hText, hWhole, continued, hLookup]
  simp only [list_takes h hNe hn]
  rfl

/-- No operand starts with an operator. -/
theorem operand_opening {op : Operation} (hEntry : (s, op) ∈ openings) (cs : List Char) :
    operand o expr n (s.toList ++ cs) = none := by
  rw [openings_eq] at hEntry
  simp only [List.mem_cons, Prod.mk.injEq, List.not_mem_nil, or_false] at hEntry
  rcases hEntry with ⟨rfl, -⟩ | ⟨rfl, -⟩
  · exact operand_mark (.inl rfl) cs
  · -- the keyword is a word of its own, which no column is written as
    have hWord : isWord "NOT" = true := by decide
    have hQuoted : Identifier.needsQuotes "NOT" = true := by decide +kernel
    have hEnd : Bounded (" ".toList ++ cs) := bounded_append (by decide) cs
    have hText : "NOT ".toList ++ cs = "NOT".toList ++ (" ".toList ++ cs) := by simp
    rw [hText, operand_word hWord (by decide), named, word_append hWord hEnd.word_ends]
    simp only [hEnd.after_paren]
    simp [atom, hQuoted]

theorem whole_opening {op : Operation} (hEntry : (s, op) ∈ openings)
    (hx : Takes (operand o expr n) Bounded t x) :
    Takes (whole o expr n) Follows (s ++ t) (.call op [x]) := by
  intro cs hFollows
  have hTable : openings.Pairwise fun a b => apart a.1 b.1 = true := by
    rw [openings_eq]
    decide
  rw [String.toList_append, List.append_assoc, whole, operand_opening hEntry,
    lookup_append hTable hEntry]
  simp only [hx cs hFollows.bounded, Option.bind_eq_bind, Option.bind_some]
  rfl

end Operators

end Parts
end Reader
end TableQuery
