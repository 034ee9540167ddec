import TableQuery.Proofs.Condition.Sentence
import TableQuery.Proofs.Scope.Select

/-!
# Atom — names, literals and types are flat

Names, literals and types have no connectives and no brackets that stay open, whatever strings they
hold: a name that is a keyword is written in quotes, and the letters of a number spell no keyword.
-/

namespace TableQuery

open Lexeme

/-! ## Characters -/

/-- Whether all characters of a symbol outside of quotes are of a kind. -/
def Symbol.All (p : Char → Bool) : Symbol → Prop
  | .word letters => ∀ c ∈ letters, p c = true
  | .quoted _ => True
  | .mark c => p c = true

theorem all_symbolsFrom {p : Char → Bool} {ls : List Lexeme}
    (hls : ∀ c, .mark c ∈ ls → p c = true) :
    ∀ begun, (∀ c ∈ begun, p c = true) → ∀ s ∈ symbolsFrom begun ls, s.All p := by
  have hBegun (begun : List Char) (h : ∀ c ∈ begun, p c = true) :
      ∀ s ∈ begunWord begun, s.All p := by
    cases begun with
    | nil => simp [begunWord]
    | cons c cs => simpa [begunWord, Symbol.All] using h
  -- a word that has begun is all of the kind, so it can be ended anywhere
  induction ls with
  | nil => exact hBegun
  | cons l ls ih =>
      intro begun h
      have hRest := ih fun c hc => hls c (List.mem_cons_of_mem _ hc)
      cases l with
      | quoted t =>
          simp only [symbolsFrom, List.forall_mem_append, List.forall_mem_cons]
          exact ⟨hBegun begun h, trivial, hRest [] (by simp)⟩
      | mark c =>
          have hc := hls c (by simp)
          simp only [symbolsFrom]
          split
          · refine hRest _ fun d hd => ?_
            rcases List.mem_append.1 hd with hd | hd
            · exact h d hd
            · rw [List.mem_singleton.1 hd, hc]
          · split
            · exact List.forall_mem_append.2 ⟨hBegun begun h, hRest [] (by simp)⟩
            · refine List.forall_mem_append.2 ⟨hBegun begun h, List.forall_mem_cons.2 ?_⟩
              exact ⟨hc, hRest [] (by simp)⟩

/-- Digits, points, signs and the letter before a power of ten. -/
def isNumeral (c : Char) : Bool :=
  c.isDigit || c == '.' || c == '-' || c == 'e'

theorem toUpper_of_isNumeral {c : Char} (h : isNumeral c = true) :
    c.toUpper ∉ ['N', 'R', 'A'] ∧ c ≠ '(' ∧ c ≠ ')' := by
  simp only [isNumeral, Bool.or_eq_true, beq_iff_eq] at h
  rcases h with ((hDigit | rfl) | rfl) | rfl
  · rw [toUpper_of_not_isAlpha (not_isAlpha_of_isDigit hDigit)]
    refine ⟨fun hMem => ?_, ?_, ?_⟩
    · simp only [List.mem_cons, List.not_mem_nil, or_false] at hMem
      rcases hMem with rfl | rfl | rfl <;> cases hDigit
    · rintro rfl
      cases hDigit
    · rintro rfl
      cases hDigit
  all_goals decide

/-- Every keyword of the reader has one of three letters that are in no number. -/
theorem isQuiet_of_all {s : Symbol} (h : s.All isNumeral) : s.isQuiet = true := by
  cases s with
  | quoted t => rfl
  | mark c =>
      rcases toUpper_of_isNumeral h with ⟨-, hOpen, hClose⟩
      simp [Symbol.isQuiet, Symbol.opens, Symbol.closes, Symbol.isKeyword, hOpen, hClose]
  | word letters =>
      have hNone (keyword : String)
          (hKeyword : (keyword.toList.any fun c => decide (c ∈ ['N', 'R', 'A'])) = true) :
          (Symbol.word letters).isKeyword keyword = false := by
        rcases List.any_eq_true.1 hKeyword with ⟨c, hc, hMem⟩
        rw [Symbol.isKeyword, beq_eq_false_iff_ne]
        intro hSame
        rw [← hSame] at hc
        rcases List.mem_map.1 hc with ⟨d, hd, rfl⟩
        exact (toUpper_of_isNumeral (h d hd)).1 (of_decide_eq_true hMem)
      simp [Symbol.isQuiet, Symbol.opens, Symbol.closes, hNone "CASE" (by decide),
        hNone "END" (by decide), hNone "AND" (by decide), hNone "OR" (by decide),
        hNone "BETWEEN" (by decide)]

/-! ## Numbers -/

/-- Text of numeral characters only. -/
def Numeral (text : String) : Prop :=
  ∀ c ∈ text.toList, isNumeral c = true

instance (text : String) : Decidable (Numeral text) :=
  List.decidableBAll (fun c => isNumeral c = true) text.toList

variable {q : Bool}

namespace Numeral

theorem append {a b : String} (ha : Numeral a) (hb : Numeral b) : Numeral (a ++ b) := by
  intro c hc
  rw [String.toList_append, List.mem_append] at hc
  exact hc.elim (ha c) (hb c)

theorem of_isDigit {c : Char} (h : c.isDigit = true) : isNumeral c = true := by
  simp [isNumeral, h]

theorem ofList_digits {cs : List Char} (h : ∀ c ∈ cs, c.isDigit = true) :
    Numeral (String.ofList cs) := by
  intro c hc
  rw [String.toList_ofList] at hc
  exact of_isDigit (h c hc)

theorem natText (n : Nat) : Numeral (toString n) :=
  fun _ hc => of_isDigit (Text.isDigit_of_mem_natText hc)

theorem intText (n : Int) : Numeral (toString n) := by
  intro c hc
  rcases Text.isDigit_or_of_mem_intText hc with hDigit | rfl
  · exact of_isDigit hDigit
  · rfl

/-- The letters of a number spell no keyword. -/
theorem legible {text : String} {ts : List Token} (h : Numeral text) (hPhrase : Phrase text ts) :
    Legible q text := by
  refine .of_symbols hPhrase fun s hs => isQuiet_of_all ?_
  rcases hPhrase with ⟨ls, hText, hTidy, -⟩
  rw [symbolsOf_eq hText hTidy] at hs
  refine all_symbolsFrom (fun c hc => h c ?_) [] (by simp) s hs
  rw [hText]
  exact List.mem_flatMap.2 ⟨.mark c, hc, by simp [chars]⟩

end Numeral

theorem legible_intText (n : Int) : Legible q (toString n) :=
  (Numeral.intText n).legible (phrase_intText n)

theorem legible_natText (n : Nat) : Legible q (toString n) :=
  legible_intText n

namespace Binary64

theorem numeral_text {x : Binary64} (hFinite : x.isFinite = true) :
    Numeral (x.text sqlLayout) := by
  cases x with
  | nan => cases hFinite
  | infinite negative => cases hFinite
  | finite negative m q =>
      have hSign : Numeral (if negative then "-" else "") := by cases negative <;> decide
      have hDigits := isDigit_of_mem_shortest sqlLayout.tie m q
      have hPositional : Numeral (positional (shortest sqlLayout.tie m q)) := by
        intro c hc
        rcases isDigit_or_of_mem_positional hDigits c hc with hDigit | rfl
        · exact Numeral.of_isDigit hDigit
        · decide
      have hScientific : Numeral (scientific sqlLayout.plus (shortest sqlLayout.tie m q)) := by
        have hHead : Numeral (String.ofList ((shortest sqlLayout.tie m q).digits.take 1)) :=
          .ofList_digits fun c hc => hDigits c (List.mem_of_mem_take hc)
        have hTail : Numeral (String.ofList ((shortest sqlLayout.tie m q).digits.drop 1)) :=
          .ofList_digits fun c hc => hDigits c (List.mem_of_mem_drop hc)
        have hPlus : Numeral (if (sqlLayout.plus &&
            decide (0 ≤ (shortest sqlLayout.tie m q).point - 1)) = true then "+" else "") :=
          show Numeral "" by decide
        refine (((hHead.append ?_).append (by decide)).append hPlus).append (.intText _)
        split
        · decide
        · exact Numeral.append (by decide) hTail
      unfold text
      by_cases hm : m = 0
      · simp only [hm, if_true]
        exact hSign.append (by decide)
      · simp only [hm, if_false]
        refine hSign.append ?_
        split
        · exact hPositional
        · exact hScientific

end Binary64

/-! ## Names -/

/-- A text in quotes is one symbol. -/
theorem legible_quoted {quote : Char} (hQuote : isQuote quote = true) (content : List Char) :
    Legible q (String.ofList (quote :: (doubled quote content ++ [quote]))) := by
  refine .of_symbols (.quoted hQuote content) fun s hs => ?_
  rw [symbolsOf_quoted hQuote, List.mem_singleton] at hs
  rw [hs]
  rfl

theorem symbolsFrom_word {cs : List Char} (h : ∀ c ∈ cs, Identifier.isWordChar c = true) :
    ∀ begun, symbolsFrom begun (cs.map .mark) = begunWord (begun ++ cs) := by
  induction cs with
  | nil => simp [symbolsFrom]
  | cons c cs ih =>
      intro begun
      simp [symbolsFrom, h c (by simp), ih fun d hd => h d (List.mem_cons_of_mem _ hd)]

theorem symbolsOf_word {text : String}
    (h : ∀ c ∈ text.toList, Identifier.isWordChar c = true) :
    symbolsOf text = begunWord text.toList := by
  have hSoft : Soft text := fun c hc => isSoft_of_isWordChar (h c hc)
  rw [symbolsOf_eq (by simp) hSoft.bare.tidy]
  exact symbolsFrom_word h []

theorem of_mem_begunWord {cs : List Char} {s : Symbol} (h : s ∈ begunWord cs) : s = .word cs := by
  cases cs with
  | nil => cases h
  | cons c cs => exact List.mem_singleton.1 h

/-- A word that is no keyword is at most one symbol. -/
theorem legible_word {text : String} (hWord : ∀ c ∈ text.toList, Identifier.isWordChar c = true)
    (hQuiet : (Symbol.word text.toList).isQuiet = true) : Legible q text := by
  have hSoft : Soft text := fun c hc => isSoft_of_isWordChar (hWord c hc)
  refine .of_symbols hSoft.phrase fun s hs => ?_
  rw [symbolsOf_word hWord] at hs
  rwa [of_mem_begunWord hs]

namespace Identifier

/-- A name that is written bare is no reserved word. -/
theorem isKeyword_of_not_isReserved {name keyword : String} (h : isReserved name = false)
    (hKeyword : isReserved keyword = true) (hUpper : Text.upperAscii keyword = keyword) :
    (Symbol.word name.toList).isKeyword keyword = false := by
  rw [Symbol.isKeyword, beq_eq_false_iff_ne]
  intro hSame
  have hCapitals : Text.upperAscii name = Text.upperAscii keyword := by
    rw [hUpper, Text.upperAscii, hSame, String.ofList_toList]
  rw [isReserved, hCapitals] at h
  rw [isReserved, h] at hKeyword
  cases hKeyword

/-- The keywords of the reader are reserved words. -/
theorem isQuiet_of_not_isReserved {name : String} (h : isReserved name = false) :
    (Symbol.word name.toList).isQuiet = true := by
  have hNone (keyword : String) (hKeyword : isReserved keyword = true)
      (hUpper : Text.upperAscii keyword = keyword) :=
    isKeyword_of_not_isReserved h hKeyword hUpper
  simp [Symbol.isQuiet, Symbol.opens, Symbol.closes,
    hNone "CASE" (by decide +kernel) (by decide),
    hNone "END" (by decide +kernel) (by decide),
    hNone "AND" (by decide +kernel) (by decide),
    hNone "OR" (by decide +kernel) (by decide),
    hNone "BETWEEN" (by decide +kernel) (by decide)]

/-- A name as it is written is one quoted token, or a word that is not reserved. -/
theorem of_mem_symbolsOf_quote {name : String} {s : Symbol} (hs : s ∈ symbolsOf (quote name)) :
    (∃ t, s = .quoted t) ∨ (isReserved name = false ∧ s = .word name.toList) := by
  -- a name may come with its quotes, need them, or stand bare
  by_cases hQuoted : isQuoted name = true
  · rcases exists_content_of_isQuotedChars hQuoted with ⟨content, hContent⟩
    have hName : quote name = String.ofList ('"' :: (doubled '"' content ++ ['"'])) := by
      rw [quote, hQuoted, Bool.true_or, if_pos rfl, ← hContent, String.ofList_toList]
    rw [hName, symbolsOf_quoted rfl, List.mem_singleton] at hs
    exact .inl ⟨_, hs⟩
  · by_cases hNeeds : needsQuotes name = true
    · have hName : quote name = String.ofList ('"' :: (doubled '"' name.toList ++ ['"'])) := by
        simp [quote, hQuoted, hNeeds, doubleQuotes_eq_doubled]
      rw [hName, symbolsOf_quoted rfl, List.mem_singleton] at hs
      exact .inl ⟨_, hs⟩
    · have hBare : quote name = name := by simp [quote, hNeeds]
      simp only [needsQuotes, Bool.or_eq_true, Bool.not_eq_true', not_or, Bool.not_eq_true,
        Bool.not_eq_false] at hNeeds
      rw [hBare, symbolsOf_word (List.all_eq_true.1 hNeeds.2)] at hs
      exact .inr ⟨hNeeds.1.1, of_mem_begunWord hs⟩

theorem legible_quote (name : String) : Legible q (quote name) := by
  refine .of_symbols (phrase_quote name) fun s hs => ?_
  rcases of_mem_symbolsOf_quote hs with ⟨t, rfl⟩ | ⟨hReserved, rfl⟩
  · rfl
  · exact isQuiet_of_not_isReserved hReserved

theorem legible_of_safe {name text : String} (h : safe name = .ok text) : Legible q text := by
  rw [safe_eq_ok h]
  exact legible_quote name

end Identifier

/-- An alias is a word, and no keyword of the reader starts as it does. -/
theorem legible_aliasName (k : Nat) : Legible q (aliasName k) := by
  have hText : (aliasName k).toList = 't' :: Nat.toDigits 10 k := by simp [aliasName]
  refine legible_word ?_ ?_
  · rw [hText, List.forall_mem_cons]
    refine ⟨by decide, fun c hc => ?_⟩
    have hDigit : c.isDigit = true := Nat.isDigit_of_mem_toDigits (by decide) (by decide) hc
    simp [Identifier.isWordChar, Char.isAlphanum, hDigit]
  · rw [hText]
    rfl

/-! ## Literals and types -/

theorem legible_keyword (u : TemporalUnit) : Legible q u.keyword := by
  refine .of_quiet ?_
  cases u <;> decide

/-- Text between single quotes that has none inside, behind a tag. -/
theorem Legible.tagged {tag text : String} (hTag : Legible q tag) (hEnds : EndsApart tag)
    (hText : '\'' ∉ text.toList) : Legible q (tag ++ ("'" ++ text ++ "'")) := by
  rw [← ofList_doubled_of_notMem hText]
  exact hTag.append_of_endsApart (legible_quoted rfl text.toList) hEnds

theorem legible_quoteString (s : String) : Legible q (quoteString s) := by
  rw [quoteString, doubleApostrophes_eq_doubled]
  exact legible_quoted rfl s.toList

theorem Literal.legible_of_sql {v : Literal} {text : String} (h : v.sql = .ok text) :
    Legible q text := by
  cases v with
  | null =>
      obtain rfl : "NULL" = text := by simpa [sql] using h
      exact .of_quiet (by decide)
  | boolean b =>
      cases b with
      | false =>
          obtain rfl : "FALSE" = text := by simpa [sql] using h
          exact .of_quiet (by decide)
      | true =>
          obtain rfl : "TRUE" = text := by simpa [sql] using h
          exact .of_quiet (by decide)
  | int n =>
      obtain rfl : toString n = text := by simpa [sql] using h
      exact legible_intText n
  | float x =>
      by_cases hFinite : x.isFinite = true
      · obtain rfl : x.text Binary64.sqlLayout = text := by simpa [sql, hFinite] using h
        exact (x.numeral_text hFinite).legible (x.phrase_text hFinite)
      · simp [sql, hFinite] at h
  | string s =>
      obtain rfl : quoteString s = text := by simpa [sql] using h
      exact legible_quoteString s
  | date d =>
      obtain rfl : "DATE '" ++ d.text ++ "'" = text := by simpa [sql] using h
      have hTag : Legible q "DATE " := .of_quiet (by decide)
      exact (hTag.tagged (by decide) d.apostrophe_notMem_text).of_toList_eq (by simp)
  | time t =>
      obtain rfl : "TIME '" ++ t.text ++ "'" = text := by simpa [sql] using h
      have hTag : Legible q "TIME " := .of_quiet (by decide)
      exact (hTag.tagged (by decide) t.apostrophe_notMem_text).of_toList_eq (by simp)
  | timestamp t =>
      obtain rfl : "TIMESTAMP(0) '" ++ t.text ++ "'" = text := by simpa [sql] using h
      -- the tag has parentheses, so it is a sentence without being bare
      have hZero : Legible false "0" := .of_quiet (by decide)
      have hTag : Legible q "TIMESTAMP(0) " :=
        (hZero.enclosed (o := "TIMESTAMP(") (by decide)).before (g := " ") (by decide) (by decide)
      exact (hTag.tagged (by decide) t.apostrophe_notMem_text).of_toList_eq (by simp)
  | interval n unit =>
      obtain rfl : "INTERVAL '" ++ toString n ++ "' " ++ unit.keyword = text := by
        simpa [sql] using h
      have hTag : Legible q "INTERVAL " := .of_quiet (by decide)
      have hCount := hTag.tagged (by decide) (apostrophe_notMem_intText n)
      exact (hCount.join (g := " ") (by decide) (legible_keyword unit)).of_toList_eq (by simp)
  | geometry wkt srid =>
      have hCalls : Calls "ST_GeomFromText(" := by decide
      cases srid with
      | none =>
          obtain rfl : "ST_GeomFromText(" ++ quoteString wkt ++ ")" = text := by
            simpa [sql] using h
          exact ((legible_quoteString wkt).enclosed hCalls).of_toList_eq (by simp)
      | some n =>
          obtain rfl : "ST_GeomFromText(" ++ quoteString wkt ++ ", " ++ toString n ++ ")" =
              text := by
            simpa [sql] using h
          have hArgs : Legible false (quoteString wkt ++ ", " ++ toString n) :=
            (legible_quoteString wkt).join (by decide) (legible_intText n)
          exact (hArgs.enclosed hCalls).of_toList_eq (by simp)

theorem DataType.legible_sqlName {t : DataType} {text : String} (h : t.sqlName = .ok text) :
    Legible q text := by
  have hName := of_sqlName h
  cases t with
  | decimal p s =>
      obtain rfl : "DECIMAL(" ++ toString p ++ ", " ++ toString s ++ ")" = text := by
        simpa [sqlName?] using hName
      have hArgs : Legible false (toString p ++ ", " ++ toString s) :=
        (legible_natText p).join (by decide) (legible_natText s)
      exact (hArgs.enclosed (o := "DECIMAL(") (by decide)).of_toList_eq (by simp)
  | null | binary | interval | array => cases hName
  | _ =>
      cases hName
      exact .of_quiet (by decide)

end TableQuery
