import TableQuery.Proofs.Calendar
import TableQuery.Proofs.Sql.Atom
import TableQuery.Sql.Statement

/-!
# Literal — one text for one value

The text of a literal is at most one quoted token with bare text on both sides of it. What stands in
front of the token tells the kind of the literal, so a string cannot pass for a date, however it is
spelled, and the token together with what stands behind it tells the value
(`Dialect.literalText_faithful`). Floating-point numbers are left out, and fractions of a second are
not written.
-/

namespace TableQuery

open Lexeme

/-! ## Reading a token between bare texts -/

/-- Text without quotes. -/
def Unquoted (text : String) : Prop :=
  ∀ c ∈ text.toList, isQuote c = false

instance : DecidablePred Unquoted := fun text =>
  List.decidableBAll (fun c => isQuote c = false) text.toList

theorem Unquoted.append {a b : String} (ha : Unquoted a) (hb : Unquoted b) :
    Unquoted (a ++ b) := by
  intro c hc
  rw [String.toList_append, List.mem_append] at hc
  exact hc.elim (ha c) (hb c)

theorem unquoted_intText (n : Int) : Unquoted (toString n) := by
  intro c hc
  rcases Text.isDigit_or_of_mem_intText hc with hDigit | rfl
  · have hSoft := isSoft_of_isDigit hDigit
    simp only [isSoft, isNeutral, Bool.and_eq_true, Bool.not_eq_true'] at hSoft
    exact hSoft.1.1.1.1.1.1.1
  · rfl

namespace Lexeme

theorem lexFrom_outside_append {cs : List Char} (h : ∀ c ∈ cs, isQuote c = false)
    (rest : List Char) :
    lexFrom .outside (cs ++ rest) = (lexFrom .outside rest).map (cs.map .mark ++ ·) := by
  induction cs with
  | nil => simp
  | cons c cs ih =>
      rw [List.forall_mem_cons] at h
      rw [List.cons_append, lexFrom, if_neg (by simp [h.1]), ih h.2, Option.map_map]
      rfl

/-- Between bare texts, a quoted token is read with its content, and ends at its last quote. -/
theorem lex_framed {opening closing : List Char} (hOpening : ∀ c ∈ opening, isQuote c = false)
    (hClosing : ∀ c ∈ closing, isQuote c = false) {q : Char} (hq : isQuote q = true)
    (content : List Char) :
    lex (opening ++ q :: (doubled q content ++ q :: closing)) =
      some (opening.map .mark ++ .quoted ⟨q, content⟩ :: closing.map .mark) := by
  have hBehind : lexFrom .outside closing = some (closing.map .mark) := by
    simpa [lexFrom] using lexFrom_outside_append hClosing []
  -- what follows the last quote is no quote, so the token ends there
  have hEnd : lexFrom (.closing q content) closing =
      some (.quoted ⟨q, content⟩ :: closing.map .mark) := by
    have hProper : ∀ l ∈ closing.map Lexeme.mark, l.isProper = true := by simpa [isProper]
    have hTouch : ∀ l ∈ (closing.map Lexeme.mark).head?,
        mayTouch (.quoted ⟨q, content⟩) l = true := by
      intro l hl
      rcases List.mem_map.1 (List.mem_of_mem_head? hl) with ⟨c, -, rfl⟩
      rfl
    have hLexemes := lexFrom_closing content hProper hq hTouch
    rwa [spell_map_mark, hBehind] at hLexemes
  have hToken : lexFrom .outside (q :: (doubled q content ++ q :: closing)) =
      some (.quoted ⟨q, content⟩ :: closing.map .mark) := by
    rw [lexFrom, if_pos hq, lexFrom_inside, List.nil_append, hEnd]
  rw [lex, lexFrom_outside_append hOpening, hToken]
  rfl

end Lexeme

theorem TemporalUnit.keyword_injective : Function.Injective keyword := by
  -- each keyword is that of one unit only
  have hFound (unit : TemporalUnit) : ofKeyword? unit.keyword = some unit := by
    cases unit <;> decide
  intro unit unit' h
  have hSame := hFound unit
  rw [h, hFound unit'] at hSame
  exact (Option.some.inj hSame).symm

namespace Literal

/-! ## The parts of a literal -/

/-- The text says all there is to the literal: it is no floating-point number, and has no fraction of
a second. -/
def IsWhole : Literal → Prop
  | .float _ => False
  | .time t => t.IsWhole
  | .timestamp t => t.time.IsWhole
  | _ => True

/-- What is written in front of the quoted text; all there is if none is quoted. -/
def opening : Literal → String
  | .null => "NULL"
  | .boolean true => "TRUE"
  | .boolean false => "FALSE"
  | .int n => toString n
  | .float _ | .string _ => ""
  | .date _ => "DATE "
  | .time _ => "TIME "
  | .timestamp _ => "TIMESTAMP(0) "
  | .interval .. => "INTERVAL "
  | .geometry .. => "ST_GeomFromText("

/-- The text that is written between quotes. -/
def quotedText? : Literal → Option String
  | .null | .boolean _ | .int _ | .float _ => none
  | .string s => some s
  | .date d => some d.text
  | .time t => some t.text
  | .timestamp t => some t.text
  | .interval n _ => some (toString n)
  | .geometry wkt _ => some wkt

/-- What is written behind the quoted text. -/
def closing : Literal → String
  | .interval _ unit => " " ++ unit.keyword
  | .geometry _ none => ")"
  | .geometry _ (some srid) => ", " ++ toString srid ++ ")"
  | _ => ""

theorem unquoted_opening (v : Literal) : Unquoted v.opening := by
  cases v with
  | boolean b => cases b <;> decide
  | int n => exact unquoted_intText n
  | _ =>
      simp only [opening]
      decide

theorem unquoted_closing (v : Literal) : Unquoted v.closing := by
  cases v with
  | interval n unit =>
      have hKeyword : Unquoted unit.keyword := by cases unit <;> decide
      exact Unquoted.append (by decide) hKeyword
  | geometry wkt srid =>
      cases srid with
      | none =>
          simp only [closing]
          decide
      | some srid =>
          have hSrid := unquoted_intText srid
          exact (Unquoted.append (by decide) hSrid).append (by decide)
  | _ =>
      simp only [closing]
      decide

/-- The quoted token, if there is one. -/
def token? (v : Literal) : Option Token :=
  v.quotedText?.map fun s => ⟨'\'', s.toList⟩

/-- The lexemes of a literal: its quoted token between bare characters. -/
def lexemes (v : Literal) : List Lexeme :=
  v.opening.toList.map .mark ++ v.token?.toList.map .quoted ++ v.closing.toList.map .mark

theorem lexemes_of_quotedText?_eq_some {v : Literal} {s : String} (h : v.quotedText? = some s) :
    v.lexemes = v.opening.toList.map .mark ++ .quoted ⟨'\'', s.toList⟩ ::
      v.closing.toList.map .mark := by
  simp [lexemes, token?, h]

/-- A text without apostrophes is put between them as it is. -/
theorem toList_quoteString_of_notMem {s : String} (h : '\'' ∉ s.toList) :
    (quoteString s).toList = '\'' :: (s.toList ++ ['\'']) := by
  rw [quoteString, doubleApostrophes_eq_doubled, doubled_of_notMem h, String.toList_ofList]

/-- Every literal but the floating-point numbers is written in its three parts. -/
theorem sql_eq_parts {v : Literal} (h : v.IsWhole) :
    v.sql = .ok (v.opening ++ (v.quotedText?.map quoteString).getD "" ++ v.closing) := by
  cases v with
  | null => rfl
  | boolean b => cases b <;> rfl
  | int n => simp [sql, opening, quotedText?, closing]
  | float x => exact h.elim
  | string s => simp [sql, opening, quotedText?, closing]
  | date d =>
      rw [sql, Except.ok.injEq, ← String.toList_inj]
      simp [opening, quotedText?, closing,
        toList_quoteString_of_notMem d.apostrophe_notMem_text]
  | time t =>
      rw [sql, Except.ok.injEq, ← String.toList_inj]
      simp [opening, quotedText?, closing,
        toList_quoteString_of_notMem t.apostrophe_notMem_text]
  | timestamp t =>
      rw [sql, Except.ok.injEq, ← String.toList_inj]
      simp [opening, quotedText?, closing,
        toList_quoteString_of_notMem t.apostrophe_notMem_text]
  | interval n unit =>
      have hCount := toList_quoteString_of_notMem (apostrophe_notMem_intText n)
      rw [sql, Except.ok.injEq, ← String.toList_inj]
      simp only [opening, quotedText?, closing, Option.map_some, Option.getD_some,
        String.toList_append, hCount]
      simp
  | geometry wkt srid =>
      cases srid <;> simp [sql, opening, quotedText?, closing, String.append_assoc]

/-- What is written without a quoted token has nothing behind its opening. -/
theorem closing_of_quotedText?_eq_none {v : Literal} (h : v.quotedText? = none) :
    v.closing = "" := by
  cases v with
  | null | boolean | int | float => rfl
  | _ => cases h

/-- The text of a literal is read as its lexemes. -/
theorem lex_of_sql {v : Literal} (h : v.IsWhole) {text : String} (hText : v.sql = .ok text) :
    lex text.toList = some v.lexemes := by
  rw [sql_eq_parts h, Except.ok.injEq] at hText
  subst hText
  cases hQuoted : v.quotedText? with
  | none =>
      have hBare := lexFrom_outside_append v.unquoted_opening []
      simpa [lex, lexFrom, lexemes, token?, hQuoted, closing_of_quotedText?_eq_none hQuoted]
        using hBare
  | some s =>
      have hFramed := lex_framed v.unquoted_opening v.unquoted_closing (q := '\'') rfl s.toList
      rw [lexemes_of_quotedText?_eq_some hQuoted]
      simpa [quoteString, doubleApostrophes_eq_doubled] using hFramed

/-! ## From the parts to the literal -/

/-- The parts are read off the lexemes: there is at most one token, and bare characters are on
either side of it. -/
theorem parts_eq_of_lexemes_eq {v w : Literal} (h : v.lexemes = w.lexemes) :
    v.opening = w.opening ∧ v.quotedText? = w.quotedText? ∧ v.closing = w.closing := by
  have hText : v.quotedText? = w.quotedText? := by
    have hTokens (u : Literal) : (tokens u.lexemes).head? = u.token? := by
      cases hToken : u.token? <;> simp [lexemes, hToken]
    have hToken : v.token? = w.token? := by
      rw [← hTokens v, h, hTokens w]
    refine Option.map_injective (fun s t hSame => ?_) hToken
    exact String.toList_inj.1 (Token.mk.inj hSame).2
  have hMarks {s t : String} (hSame : s.toList.map Lexeme.mark = t.toList.map Lexeme.mark) :
      s = t := by
    have hInjective : Function.Injective Lexeme.mark := fun _ _ hSame => Lexeme.mark.inj hSame
    exact String.toList_inj.1 (List.map_injective_iff.2 hInjective hSame)
  cases hQuoted : w.quotedText? with
  | none =>
      have hNone := hText.trans hQuoted
      have hClosing : v.closing = w.closing := by
        rw [closing_of_quotedText?_eq_none hNone, closing_of_quotedText?_eq_none hQuoted]
      refine ⟨hMarks ?_, hNone, hClosing⟩
      simpa [lexemes, token?, hNone, hQuoted, hClosing] using h
  | some s =>
      have hSome := hText.trans hQuoted
      have hBare (u : Literal) : Lexeme.quoted ⟨'\'', s.toList⟩ ∉ u.closing.toList.map .mark := by
        simp
      rw [lexemes_of_quotedText?_eq_some hSome, lexemes_of_quotedText?_eq_some hQuoted] at h
      have hSplit := eq_of_append_cons_eq (hBare v) (hBare w) h
      exact ⟨hMarks hSplit.1, hSome, hMarks hSplit.2⟩

/-- A number is written unlike every keyword. -/
theorem intText_ne {word : String} (h : word.toList.any Char.isAlpha = true) (n : Int) :
    toString n ≠ word := by
  intro hSame
  rcases List.any_eq_true.1 h with ⟨c, hMem, hLetter⟩
  rw [← hSame] at hMem
  rcases Text.isDigit_or_of_mem_intText hMem with hDigit | rfl
  · rw [not_isAlpha_of_isDigit hDigit] at hLetter
    cases hLetter
  · cases hLetter

/-- What follows the token of a geometry tells its reference system. -/
theorem srid_eq_of_closing_eq {wkt : String} {m n : Option Int}
    (h : (geometry wkt m).closing = (geometry wkt n).closing) : m = n := by
  have hUnlike (k : Int) : ")" ≠ ", " ++ toString k ++ ")" := by
    rw [Ne, ← String.toList_inj]
    simp
  cases m with
  | none =>
      cases n with
      | none => rfl
      | some n => exact absurd h (hUnlike n)
  | some m =>
      cases n with
      | none => exact absurd h.symm (hUnlike m)
      | some n =>
          have hDigits : toString m = toString n := by simpa [closing] using h
          rw [Text.intText_injective hDigits]

/-- The opening tells the kind of a literal, and the token and what follows it tell the rest. -/
theorem eq_of_parts_eq {v w : Literal} (hv : v.IsWhole) (hw : w.IsWhole)
    (hOpening : v.opening = w.opening) (hText : v.quotedText? = w.quotedText?)
    (hClosing : v.closing = w.closing) : v = w := by
  cases v with
  | null =>
      cases w with
      | null => rfl
      | boolean c => cases c <;> simp [opening] at hOpening
      | int n => exact absurd hOpening.symm (intText_ne rfl n)
      | _ => simp [opening] at hOpening
  | boolean b =>
      cases w with
      | boolean c => cases b <;> cases c <;> simp [opening] at hOpening ⊢
      | int n => cases b <;> exact absurd hOpening.symm (intText_ne rfl n)
      | _ => cases b <;> simp [opening] at hOpening
  | int m =>
      cases w with
      | null => exact absurd hOpening (intText_ne rfl m)
      | boolean c => cases c <;> exact absurd hOpening (intText_ne rfl m)
      | int n => rw [Text.intText_injective hOpening]
      | float x => exact hw.elim
      | _ => cases hText
  | float x => exact hv.elim
  | string s =>
      cases w with
      | string t => rw [Option.some.inj hText]
      | _ => simp [opening, quotedText?] at hOpening hText
  | date d =>
      cases w with
      | date e => rw [CivilDate.text_injective (Option.some.inj hText)]
      | _ => simp [opening, quotedText?] at hOpening hText
  | time t =>
      cases w with
      | time u => rw [TimeOfDay.text_injective hv hw (Option.some.inj hText)]
      | _ => simp [opening, quotedText?] at hOpening hText
  | timestamp t =>
      cases w with
      | timestamp u => rw [Timestamp.text_injective hv hw (Option.some.inj hText)]
      | _ => simp [opening, quotedText?] at hOpening hText
  | interval m unit =>
      cases w with
      | interval n unit' =>
          have hCount := Text.intText_injective (Option.some.inj hText)
          have hKeyword : unit.keyword = unit'.keyword := String.append_right_inj _ |>.1 hClosing
          rw [hCount, TemporalUnit.keyword_injective hKeyword]
      | _ => simp [opening, quotedText?] at hOpening hText
  | geometry wkt m =>
      cases w with
      | geometry wkt' n =>
          obtain rfl : wkt = wkt' := Option.some.inj hText
          rw [srid_eq_of_closing_eq hClosing]
      | _ => simp [opening, quotedText?] at hOpening hText

end Literal

/-- A literal holds no call that a rule could take and no column, so neither the rules of the dialect
nor its settings play a part. -/
theorem Dialect.literalText_eq (d : Dialect) (v : Literal) : d.literalText v = v.sql := by
  have hAtRest : d.rewrites.apply (.literal v) = .literal v := by
    unfold RewriteSet.apply
    split <;> rfl
  rw [literalText, Expr.sql, hAtRest]
  rfl

end TableQuery
