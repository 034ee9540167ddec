import TableQuery.Proofs.Identifier
import TableQuery.Proofs.Text.Numeral
import TableQuery.Proofs.Text.Phrase
import TableQuery.Sql.Literal
import TableQuery.TypeName

/-!
# Atom — names, literals and types keep to themselves

The texts that expressions are built from are phrases, whatever strings they hold. This file also
says which quoted tokens a text has on its own: a name at most the one it stands in, a literal those
of its strings, a number or a type none.
-/

namespace TableQuery

open Lexeme

/-! ## The tokens of a text -/

/-- The quoted tokens of a text; none if a quote stays open. -/
def quotesOf (text : String) : List Token :=
  ((lex text.toList).map tokens).getD []

/-- The quoted tokens of a name as it is written. -/
def nameQuotes (name : String) : List Token :=
  quotesOf (Identifier.quote name)

/-- The quoted tokens of a literal as it is written. -/
def Literal.quotes (v : Literal) : List Token :=
  match v.sql with
  | .ok text => quotesOf text
  | .error _ => []

theorem Phrase.quotesOf_eq {text : String} {ts : List Token} (h : Phrase text ts) :
    quotesOf text = ts := by
  rcases h with ⟨ls, hText, hTidy, rfl⟩
  simp [quotesOf, hText, hTidy.lex_spell]

theorem Phrase.own {text : String} {ts : List Token} (h : Phrase text ts) :
    Phrase text (quotesOf text) := by
  rwa [h.quotesOf_eq]

/-! ## Text between quotes -/

theorem Phrase.quoted {q : Char} (hq : isQuote q = true) (content : List Char) :
    Phrase (String.ofList (q :: (doubled q content ++ [q]))) [⟨q, content⟩] := by
  refine ⟨[.quoted ⟨q, content⟩], by simp [chars], ?_, rfl⟩
  exact ⟨by simpa [isTidy] using hq, .singleton _, fun _ => rfl⟩

theorem ofList_doubled_of_notMem {text : String} (h : '\'' ∉ text.toList) :
    String.ofList ('\'' :: (doubled '\'' text.toList ++ ['\''])) = "'" ++ text ++ "'" := by
  rw [doubled_of_notMem h, ← String.toList_inj]
  simp

/-- Text between single quotes that has none inside, behind a keyword. -/
theorem Phrase.tagged {opening text : String} (tag : String) (hOpening : opening = tag ++ "'")
    (hTag : Glue tag) (hText : '\'' ∉ text.toList) :
    Phrase (opening ++ text ++ "'") [⟨'\'', text.toList⟩] := by
  have hWhole := (Phrase.quoted (q := '\'') rfl text.toList).behind hTag
  rw [ofList_doubled_of_notMem hText] at hWhole
  rw [hOpening]
  simpa [String.append_assoc] using hWhole

theorem doubleApostrophes_eq_doubled (cs : List Char) :
    doubleApostrophes cs = doubled '\'' cs := by
  induction cs with
  | nil => rfl
  | cons c cs ih => simp [doubleApostrophes, doubled, ih]

theorem phrase_quoteString (s : String) : Phrase (quoteString s) [⟨'\'', s.toList⟩] := by
  rw [quoteString, doubleApostrophes_eq_doubled]
  exact .quoted rfl s.toList

/-! ## Letters and digits -/

theorem isSoft_of_isWordChar {c : Char} (h : Identifier.isWordChar c = true) :
    isSoft c = true := by
  -- each character that is not soft is checked to be no part of a word
  by_contra hSoft
  have hCases : c = '\'' ∨ c = '"' ∨ c = '-' ∨ c = '/' ∨ c = '*' ∨ c = ';' ∨ c = '\r' ∨
      c = '(' ∨ c = ')' := by
    simp only [isSoft, isNeutral, isQuote, Bool.and_eq_true, bne_iff_ne, Bool.not_eq_true',
      Bool.or_eq_false_iff, beq_eq_false_iff_ne] at hSoft
    tauto
  rcases hCases with rfl | rfl | rfl | rfl | rfl | rfl | rfl | rfl | rfl <;>
    exact absurd h (by decide)

/-- Digits stand below all letters. -/
theorem not_isAlpha_of_isDigit {c : Char} (h : c.isDigit = true) : c.isAlpha = false := by
  simp only [Char.isDigit, Bool.and_eq_true, decide_eq_true_eq] at h
  have hUpper : c.isUpper = false :=
    decide_eq_false fun hLe => absurd (UInt32.le_trans hLe.1 h.2) (by decide)
  have hLower : c.isLower = false :=
    Bool.and_eq_false_iff.2 <| .inl <| decide_eq_false fun hLe =>
      absurd (UInt32.le_trans hLe h.2) (by decide)
  exact Bool.or_eq_false_iff.2 ⟨hUpper, hLower⟩

theorem toUpper_of_not_isAlpha {c : Char} (h : c.isAlpha = false) : c.toUpper = c := by
  unfold Char.toUpper
  refine dif_neg fun hSmall => ?_
  have hLower : c.isLower = true :=
    Bool.and_eq_true_iff.2 ⟨decide_eq_true hSmall.1, decide_eq_true hSmall.2⟩
  rw [(Bool.or_eq_false_iff.1 h).2] at hLower
  cases hLower

theorem isSoft_of_isDigit {c : Char} (h : c.isDigit = true) : isSoft c = true :=
  isSoft_of_isWordChar (by simp [Identifier.isWordChar, Char.isAlphanum, h])

/-- Text of digits only. -/
theorem Soft.ofList_digits {cs : List Char} (h : ∀ c ∈ cs, c.isDigit = true) :
    Soft (String.ofList cs) := by
  intro c hc
  rw [String.toList_ofList] at hc
  exact isSoft_of_isDigit (h c hc)

theorem soft_natText (n : Nat) : Soft (toString n) :=
  fun _ hc => isSoft_of_isDigit (Text.isDigit_of_mem_natText hc)

theorem soft_padded (width n : Nat) : Soft (Text.padded width n) :=
  fun _ hc => isSoft_of_isDigit (Text.isDigit_of_mem_padded hc)

/-- A minus sign may touch whatever starts with no other. -/
theorem Tidy.minus {ls : List Lexeme} (hl : Tidy ls) (hHead : (spell ls).head? ≠ some '-') :
    Tidy (.mark '-' :: ls) := by
  have hMinus : Tidy [.mark '-'] := ⟨by decide, .singleton _, fun _ => rfl⟩
  refine hMinus.append hl fun x hx y hy => ?_
  obtain rfl : .mark '-' = x := by simpa using hx
  cases y with
  | quoted t => rfl
  | mark c =>
      have hc : c ≠ '-' := by
        rintro rfl
        rcases List.head?_eq_some_iff.1 hy with ⟨ms, rfl⟩
        exact hHead (by simp [chars])
      simp [mayTouch, hc]

/-- A minus sign in front of text that starts with no other. -/
theorem Phrase.minus {text : String} {ts : List Token} (h : Phrase text ts)
    (hHead : text.toList.head? ≠ some '-') : Phrase ("-" ++ text) ts := by
  rcases h with ⟨ls, hText, hTidy, rfl⟩
  rw [hText] at hHead
  exact ⟨.mark '-' :: ls, by simp [chars, hText], hTidy.minus hHead, rfl⟩

theorem Soft.minus {text : String} (h : Soft text) : Phrase ("-" ++ text) [] := by
  refine h.phrase.minus fun hHead => ?_
  have hMinus := h '-' (List.mem_of_mem_head? hHead)
  exact absurd hMinus (by decide)

/-- The text of a whole number. -/
theorem phrase_intText (n : Int) : Phrase (toString n) [] := by
  cases n with
  | ofNat n => exact (soft_natText n).phrase
  | negSucc n => exact (soft_natText (n + 1)).minus

/-! ## Names -/

namespace Identifier

theorem doubleQuotes_eq_doubled (cs : List Char) : doubleQuotes cs = doubled '"' cs := by
  induction cs with
  | nil => rfl
  | cons c cs ih => simp [doubleQuotes, doubled, ih]

theorem exists_doubled_of_quotesPaired (cs : List Char) (h : quotesPaired cs = true) :
    ∃ content, cs = doubled '"' content := by
  fun_induction quotesPaired cs with
  | case1 => exact ⟨[], rfl⟩
  | case2 cs ih =>
      rcases ih h with ⟨content, rfl⟩
      exact ⟨'"' :: content, by simp [doubled]⟩
  | case3 c cs hPair ih =>
      rw [Bool.and_eq_true, bne_iff_ne] at h
      rcases ih h.2 with ⟨content, rfl⟩
      exact ⟨c :: content, by simp [doubled, h.1]⟩

theorem exists_content_of_isQuotedChars {cs : List Char} (h : isQuotedChars cs = true) :
    ∃ content, cs = '"' :: (doubled '"' content ++ ['"']) := by
  unfold isQuotedChars at h
  split at h
  · next rest =>
    split at h
    · next inner hInner =>
      -- the last quote is read off the reversed text
      rcases exists_doubled_of_quotesPaired inner.reverse h with ⟨content, hContent⟩
      have hRest : rest = inner.reverse ++ ['"'] := by
        rw [← List.reverse_reverse rest, hInner, List.reverse_cons]
      exact ⟨content, by rw [hRest, hContent]⟩
    · simp at h
  · simp at h

/-- A name as it is written is one quoted token or has none. -/
theorem phrase_quote (name : String) : Phrase (quote name) (nameQuotes name) := by
  -- the tokens of a phrase are those of its text, so it is enough that there are some
  suffices h : ∃ ts, Phrase (quote name) ts by
    rcases h with ⟨ts, h⟩
    exact h.own
  by_cases hQuoted : isQuoted name = true
  · rcases exists_content_of_isQuotedChars hQuoted with ⟨content, hContent⟩
    have hName : quote name = String.ofList ('"' :: (doubled '"' content ++ ['"'])) := by
      rw [quote, hQuoted, Bool.true_or, if_pos rfl, ← hContent, String.ofList_toList]
    refine ⟨[⟨'"', content⟩], ?_⟩
    rw [hName]
    exact .quoted rfl content
  · by_cases hNeeds : needsQuotes name = true
    · refine ⟨[⟨'"', name.toList⟩], ?_⟩
      simp only [quote, hQuoted, hNeeds, doubleQuotes_eq_doubled]
      exact .quoted rfl name.toList
    · refine ⟨[], ?_⟩
      have hWord : name.toList.all isWordChar = true := by
        simp only [needsQuotes, Bool.or_eq_true, Bool.not_eq_true', not_or, Bool.not_eq_false]
          at hNeeds
        exact hNeeds.2
      have hSoft : Soft name := fun c hc => isSoft_of_isWordChar (List.all_eq_true.1 hWord c hc)
      simpa [quote, hNeeds] using hSoft.phrase

theorem phrase_of_safe {name text : String} (h : safe name = .ok text) :
    Phrase text (nameQuotes name) := by
  rw [safe_eq_ok h]
  exact phrase_quote name

end Identifier

/-! ## Floating-point numbers -/

namespace Binary64

theorem isDigit_of_mem_shortest (tie : Tie) (m : Nat) (q : Int) :
    ∀ c ∈ (shortest tie m q).digits, c.isDigit = true := by
  intro c hc
  simp only [shortest, List.mem_reverse] at hc
  have hDigits := (List.dropWhile_suffix _).subset hc
  rw [List.mem_reverse] at hDigits
  exact Nat.isDigit_of_mem_toDigits (by decide) (by decide) hDigits

theorem isDigit_or_of_mem_positional {d : Digits} (h : ∀ c ∈ d.digits, c.isDigit = true) :
    ∀ c ∈ (positional d).toList, c.isDigit = true ∨ c = '.' := by
  have hZeros : ∀ n, ∀ c ∈ List.replicate n '0', c.isDigit = true := by
    intro n c hc
    rw [List.eq_of_mem_replicate hc]
    decide
  intro c hc
  unfold positional at hc
  split at hc
  · simp only [String.toList_append, String.toList_ofList, List.mem_append] at hc
    rcases hc with hc | hc | hc
    · have hLead : c = '0' ∨ c = '.' := by simpa using hc
      rcases hLead with rfl | rfl
      · exact .inl rfl
      · exact .inr rfl
    · exact .inl (hZeros _ c hc)
    · exact .inl (h c hc)
  · simp only [String.toList_append, String.toList_ofList, List.mem_append] at hc
    rcases hc with ((hc | hc) | hc) | hc
    · exact .inl (h c (List.mem_of_mem_take hc))
    · exact .inl (hZeros _ c hc)
    · exact .inr (by simpa using hc)
    · split at hc
      · obtain rfl : c = '0' := by simpa using hc
        exact .inl rfl
      · exact .inl (h c (List.mem_of_mem_drop (by simpa using hc)))

theorem soft_positional {d : Digits} (h : ∀ c ∈ d.digits, c.isDigit = true) :
    Soft (positional d) := by
  intro c hc
  rcases isDigit_or_of_mem_positional h c hc with hDigit | rfl
  · exact isSoft_of_isDigit hDigit
  · decide

/-- Digits, a point and a power of ten. -/
theorem phrase_scientific {d : Digits} (h : ∀ c ∈ d.digits, c.isDigit = true) :
    Phrase (scientific sqlLayout.plus d) [] ∧ Leads (scientific sqlLayout.plus d) := by
  have hHead : Soft (String.ofList (d.digits.take 1)) :=
    .ofList_digits fun c hc => h c (List.mem_of_mem_take hc)
  have hFraction : Soft (if (d.digits.drop 1).isEmpty then ""
      else "." ++ String.ofList (d.digits.drop 1)) := by
    split
    · decide
    · exact Soft.append (by decide) (.ofList_digits fun c hc => h c (List.mem_of_mem_drop hc))
  have hFront := (hHead.append hFraction).append (b := "e") (by decide)
  have hText : scientific sqlLayout.plus d = String.ofList (d.digits.take 1) ++
      (if (d.digits.drop 1).isEmpty then "" else "." ++ String.ofList (d.digits.drop 1)) ++ "e" ++
      toString (d.point - 1) := by
    simp [scientific, sqlLayout]
  rw [hText]
  constructor
  · simpa using hFront.phrase.append_of_trails (phrase_intText _) hFront.trails
  · exact hFront.leads.append (by simp)

theorem phrase_text {x : Binary64} (hFinite : x.isFinite = true) :
    Phrase (x.text sqlLayout) [] := by
  cases x with
  | nan => cases hFinite
  | infinite negative => cases hFinite
  | finite negative m q =>
      have hSigned {text : String} (h : Phrase text []) (hLeads : Leads text) :
          Phrase ((if negative then "-" else "") ++ text) [] := by
        cases negative with
        | false => simpa using h
        | true =>
            -- two signs in a row would open a comment
            refine h.minus fun hHead => ?_
            exact absurd (hLeads '-' hHead) (by decide)
      have hDigits := isDigit_of_mem_shortest sqlLayout.tie m q
      have hForm (isPositional : Bool) :
          Phrase (if isPositional then positional (shortest sqlLayout.tie m q)
            else scientific sqlLayout.plus (shortest sqlLayout.tie m q)) [] ∧
          Leads (if isPositional then positional (shortest sqlLayout.tie m q)
            else scientific sqlLayout.plus (shortest sqlLayout.tie m q)) := by
        cases isPositional with
        | false => exact phrase_scientific hDigits
        | true => exact ⟨(soft_positional hDigits).phrase, (soft_positional hDigits).leads⟩
      have hZero : Soft "0.0" := by decide
      unfold text
      by_cases hm : m = 0
      · simpa only [hm, if_true] using hSigned hZero.phrase hZero.leads
      · simpa only [hm, if_false] using hSigned (hForm _).1 (hForm _).2

end Binary64

/-! ## Dates and times -/

theorem Soft.apostrophe_notMem {text : String} (h : Soft text) : '\'' ∉ text.toList :=
  fun hMem => absurd (h '\'' hMem) (by decide)

theorem CivilDate.apostrophe_notMem_text (d : CivilDate) : '\'' ∉ d.text.toList := by
  have hPadded := fun width n => (soft_padded width n).apostrophe_notMem
  have hYear : '\'' ∉ (yearText d.year).toList := by
    unfold yearText
    split
    · simp [hPadded]
    · split <;> simp [hPadded]
  simp [text, hYear, hPadded]

theorem TimeOfDay.apostrophe_notMem_text (t : TimeOfDay) : '\'' ∉ t.text.toList := by
  have hPadded := fun width n => (soft_padded width n).apostrophe_notMem
  simp [text, hPadded]

theorem Timestamp.apostrophe_notMem_text (t : Timestamp) : '\'' ∉ t.text.toList := by
  simp [text, t.date.apostrophe_notMem_text, t.time.apostrophe_notMem_text]

theorem apostrophe_notMem_intText (n : Int) : '\'' ∉ (toString n).toList := by
  intro hMem
  rcases Text.isDigit_or_of_mem_intText hMem with hDigit | hSign
  · exact absurd hDigit (by decide)
  · exact absurd hSign (by decide)

theorem TemporalUnit.soft_keyword (u : TemporalUnit) : Soft u.keyword := by
  cases u <;> decide

/-! ## Literals and types -/

/-- A literal with a text is written so that the text around it cannot be reached. -/
theorem Literal.phrase_of_sql {v : Literal} {text : String} (h : v.sql = .ok text) :
    Phrase text v.quotes := by
  suffices hSome : ∃ ts, Phrase text ts by
    rcases hSome with ⟨ts, hPhrase⟩
    simpa [quotes, h] using hPhrase.own
  cases v with
  | null =>
      obtain rfl : "NULL" = text := by simpa [sql] using h
      exact ⟨[], Soft.phrase (by decide)⟩
  | boolean b =>
      cases b with
      | false =>
          obtain rfl : "FALSE" = text := by simpa [sql] using h
          exact ⟨[], Soft.phrase (by decide)⟩
      | true =>
          obtain rfl : "TRUE" = text := by simpa [sql] using h
          exact ⟨[], Soft.phrase (by decide)⟩
  | int n =>
      obtain rfl : toString n = text := by simpa [sql] using h
      exact ⟨[], phrase_intText n⟩
  | float x =>
      by_cases hFinite : x.isFinite = true
      · obtain rfl : x.text Binary64.sqlLayout = text := by simpa [sql, hFinite] using h
        exact ⟨[], Binary64.phrase_text hFinite⟩
      · simp [sql, hFinite] at h
  | string s =>
      obtain rfl : quoteString s = text := by simpa [sql] using h
      exact ⟨_, phrase_quoteString s⟩
  | date d =>
      obtain rfl : "DATE '" ++ d.text ++ "'" = text := by simpa [sql] using h
      exact ⟨_, .tagged "DATE " rfl (Soft.glue (by decide) (by decide)) d.apostrophe_notMem_text⟩
  | time t =>
      obtain rfl : "TIME '" ++ t.text ++ "'" = text := by simpa [sql] using h
      exact ⟨_, .tagged "TIME " rfl (Soft.glue (by decide) (by decide)) t.apostrophe_notMem_text⟩
  | timestamp t =>
      obtain rfl : "TIMESTAMP(0) '" ++ t.text ++ "'" = text := by simpa [sql] using h
      -- the keyword has parentheses, so it is glue without being soft
      have hZero : Soft "0" := by decide
      have hTag : Phrase "TIMESTAMP(0)" [] :=
        hZero.phrase.enclosed (o := "TIMESTAMP(") (by decide)
      have hGlue : Glue "TIMESTAMP(0) " :=
        ⟨hTag.before (g := " ") (Soft.glue (by decide) (by decide)), by decide, by decide, by simp⟩
      exact ⟨_, .tagged _ rfl hGlue t.apostrophe_notMem_text⟩
  | interval n unit =>
      obtain rfl : "INTERVAL '" ++ toString n ++ "' " ++ unit.keyword = text := by
        simpa [sql] using h
      have hCount := Phrase.tagged "INTERVAL " rfl (Soft.glue (by decide) (by decide))
        (apostrophe_notMem_intText n)
      have hWhole := hCount.join (g := " ") (Soft.glue (by decide) (by decide))
        unit.soft_keyword.phrase
      exact ⟨_, by simpa [String.append_assoc] using hWhole⟩
  | geometry wkt srid =>
      have hOpens : Opens "ST_GeomFromText(" := by decide
      cases srid with
      | none =>
          obtain rfl : "ST_GeomFromText(" ++ quoteString wkt ++ ")" = text := by
            simpa [sql] using h
          exact ⟨_, by simpa [String.append_assoc] using (phrase_quoteString wkt).enclosed hOpens⟩
      | some n =>
          obtain rfl : "ST_GeomFromText(" ++ quoteString wkt ++ ", " ++ toString n ++ ")" =
              text := by
            simpa [sql] using h
          have hArgs := (phrase_quoteString wkt).join (g := ", ")
            (Soft.glue (by decide) (by decide)) (phrase_intText n)
          exact ⟨_, by simpa [String.append_assoc] using hArgs.enclosed hOpens⟩

theorem DataType.of_sqlName {t : DataType} {text : String} (h : t.sqlName = .ok text) :
    t.sqlName? = some text := by
  unfold sqlName at h
  cases hName : t.sqlName? with
  | none => simp [hName] at h
  | some name => simpa [hName] using h

/-- The name of a type has no quotes at all. -/
theorem DataType.phrase_sqlName {t : DataType} {text : String} (h : t.sqlName = .ok text) :
    Phrase text [] := by
  have hName := of_sqlName h
  cases t with
  | decimal p s =>
      obtain rfl : "DECIMAL(" ++ toString p ++ ", " ++ toString s ++ ")" = text := by
        simpa [sqlName?] using hName
      have hArgs := (soft_natText p).phrase.join (g := ", ") (Soft.glue (by decide) (by decide))
        (soft_natText s).phrase
      simpa [String.append_assoc] using hArgs.enclosed (o := "DECIMAL(")
        (by decide)
  | null | binary | interval | array => cases hName
  | _ =>
      cases hName
      exact Soft.phrase (by decide)

end TableQuery
