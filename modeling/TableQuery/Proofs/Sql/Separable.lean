import TableQuery.Proofs.Sql.Literal
import TableQuery.Proofs.Sql.ReaderLaws

/-!
# Separable — texts that tell where they end

Where texts stand behind one another, the whole tells the parts if each of them tells where it ends:
of two texts that go on to the same text neither can be a part of the other. Names, types and
literals are written this way when a blank, a comma or a parenthesis follows, although each of these
may stand inside them, and so are lists of such texts.
-/

namespace TableQuery

open Lexeme Reader

/-- The texts tell their values and where they end: if two of them go on to the same text, the
values are the same, and so is what stands behind the texts. -/
def Separable {α : Type} (Writes : α → String → Prop) (Behind : List Char → Prop) : Prop :=
  ∀ ⦃a b : α⦄ ⦃s t : String⦄ ⦃cs ds : List Char⦄, Writes a s → Writes b t → Behind cs → Behind ds →
    s.toList ++ cs = t.toList ++ ds → a = b ∧ cs = ds

/-- Behind the text stands a character of another kind, or nothing. -/
def Stops (p : Char → Bool) (cs : List Char) : Prop :=
  ∀ c ∈ cs.head?, p c = false

/-- Nothing is written for nothing, and a keyword in front of the text of a value. -/
def Optionally {α : Type} (keyword : String) (Writes : α → String → Prop) :
    Option α → String → Prop
  | none, text => text = ""
  | some a, text => ∃ s, Writes a s ∧ text = keyword ++ s

/-- The texts of the values of a list stand with commas between them. -/
inductive Listed {α : Type} (Writes : α → String → Prop) : List α → String → Prop where
  | single {a : α} {s : String} : Writes a s → Listed Writes [a] s
  | cons {a : α} {as : List α} {s t : String} : Writes a s → Listed Writes as t →
      Listed Writes (a :: as) (s ++ (", " ++ t))

/-! ## Ways of writing -/

/-- Runs of characters of one kind end where another kind begins. -/
theorem eq_of_run_eq {p : Char → Bool} {ws vs cs ds : List Char} (hw : ∀ c ∈ ws, p c = true)
    (hv : ∀ c ∈ vs, p c = true) (hcs : Stops p cs) (hds : Stops p ds) (h : ws ++ cs = vs ++ ds) :
    ws = vs ∧ cs = ds := by
  rcases span_append hw hcs with ⟨hTake, hDrop⟩
  rcases span_append hv hds with ⟨hTake', hDrop'⟩
  constructor
  · rw [← hTake, h, hTake']
  · rw [← hDrop, h, hDrop']

/-- What follows a character of another kind is not looked at. -/
theorem takeWhile_append_cons {p : Char → Bool} {c : Char} (h : p c = false) (ws cs : List Char) :
    (ws ++ c :: cs).takeWhile p = ws.takeWhile p := by
  induction ws with
  | nil => simp [h]
  | cons w ws ih => cases hw : p w <;> simp [hw, ih]

theorem stops_cons {p : Char → Bool} {c : Char} (h : p c = false) (cs : List Char) :
    Stops p (c :: cs) := by
  intro d hd
  obtain rfl : c = d := by simpa using hd
  exact h

theorem ne_of_after_eq_none {keyword : String} {cs ds : List Char} (h : after keyword cs = none) :
    cs ≠ keyword.toList ++ ds := by
  rintro rfl
  rw [after_append] at h
  cases h

section Ways

variable {α β : Type} {Writes : α → String → Prop} {Behind : List Char → Prop}

/-- What a reader takes for its value tells that value. -/
theorem Separable.of_takes {value : α → β} (hValue : Function.Injective value) {r : Reader β}
    (h : ∀ a s, Writes a s → Takes r Behind s (value a)) : Separable Writes Behind := by
  intro a b s t cs ds ha hb hcs hds hSame
  have hRead := h a s ha cs hcs
  rw [hSame, h b t hb ds hds, Option.some.injEq, Prod.mk.injEq] at hRead
  exact ⟨(hValue hRead.1).symm, hRead.2.symm⟩

/-- A word that may be left out is told by what follows, unless that starts with the word. -/
theorem separable_unless (keyword : String) :
    Separable (fun without text => text = if without = true then "" else keyword)
      (fun cs => after keyword cs = none) := by
  rintro a b s t cs ds rfl rfl hcs hds hSame
  -- where one text has the word, the other one has it too
  cases a <;> cases b
  · exact ⟨rfl, List.append_cancel_left hSame⟩
  · exact absurd hSame.symm (ne_of_after_eq_none hds)
  · exact absurd hSame (ne_of_after_eq_none hcs)
  · exact ⟨rfl, List.append_cancel_left hSame⟩

/-- What may be left out starts with its keyword, or with what follows. -/
theorem Optionally.cases_append {keyword : String} {value : Option α} {text : String}
    (h : Optionally keyword Writes value text) (cs : List Char) :
    text.toList ++ cs = cs ∨ ∃ ds, text.toList ++ cs = keyword.toList ++ ds := by
  cases value with
  | none =>
      obtain rfl : text = "" := h
      exact .inl rfl
  | some a =>
      rcases h with ⟨s, -, rfl⟩
      exact .inr ⟨s.toList ++ cs, by rw [String.toList_append, List.append_assoc]⟩

theorem Optionally.bounded {keyword : String} {value : Option α} {text : String}
    (h : Optionally keyword Writes value text) (hKeyword : keyword.toList.head?.any isBound = true)
    {cs : List Char} (hcs : Bounded cs) : Bounded (text.toList ++ cs) := by
  rcases h.cases_append cs with hNone | ⟨ds, hSome⟩
  · rwa [hNone]
  · rw [hSome]
    exact bounded_append hKeyword ds

theorem Optionally.after_eq_none {keyword other : String} {value : Option α} {text : String}
    (h : Optionally keyword Writes value text) (hApart : apart other keyword = true)
    {cs : List Char} (hcs : after other cs = none) : after other (text.toList ++ cs) = none := by
  rcases h.cases_append cs with hNone | ⟨ds, hSome⟩
  · rwa [hNone]
  · rw [hSome]
    exact after_of_apart hApart ds

theorem Separable.optionally (h : Separable Writes Behind) (keyword : String) :
    Separable (Optionally keyword Writes) fun cs => Behind cs ∧ after keyword cs = none := by
  have hFront (s : String) (cs : List Char) :
      (keyword ++ s).toList ++ cs = keyword.toList ++ (s.toList ++ cs) := by
    rw [String.toList_append, List.append_assoc]
  intro a b s t cs ds ha hb hcs hds hSame
  -- were there a value in one text only, the keyword would stand behind the other one
  cases a with
  | none =>
      obtain rfl : s = "" := ha
      cases b with
      | none =>
          obtain rfl : t = "" := hb
          exact ⟨rfl, hSame⟩
      | some b =>
          rcases hb with ⟨t, -, rfl⟩
          rw [hFront] at hSame
          exact absurd hSame (ne_of_after_eq_none hcs.2)
  | some a =>
      rcases ha with ⟨s, ha, rfl⟩
      rw [hFront] at hSame
      cases b with
      | none =>
          obtain rfl : t = "" := hb
          exact absurd hSame.symm (ne_of_after_eq_none hds.2)
      | some b =>
          rcases hb with ⟨t, hb, rfl⟩
          rw [hFront] at hSame
          rcases h ha hb hcs.1 hds.1 (List.append_cancel_left hSame) with ⟨rfl, hRest⟩
          exact ⟨rfl, hRest⟩

theorem listed_intercalate {as : List α} {texts : List String} (hSome : as ≠ [])
    (h : List.Forall₂ Writes as texts) : Listed Writes as (", ".intercalate texts) := by
  induction h with
  | nil => exact absurd rfl hSome
  | @cons a s as texts ha hTail ih =>
      cases hTail with
      | nil =>
          rw [String.intercalate_singleton]
          exact .single ha
      | cons hb hTail =>
          rw [String.intercalate_cons_cons, String.append_assoc]
          exact .cons ha (ih (by simp))

/-- Whether a comma stands behind a text says whether the list goes on. -/
theorem Separable.listed (h : Separable Writes Behind) (hComma : ∀ cs, Behind (", ".toList ++ cs)) :
    Separable (Listed Writes) fun cs => Behind cs ∧ after ", " cs = none := by
  have hMore (s t : String) (cs : List Char) :
      (s ++ (", " ++ t)).toList ++ cs = s.toList ++ (", ".toList ++ (t.toList ++ cs)) := by
    simp only [String.toList_append, List.append_assoc]
  intro as bs s t cs ds hAs hBs hcs hds hSame
  induction hAs generalizing bs t with
  | single ha =>
      cases hBs with
      | single hb =>
          rcases h ha hb hcs.1 hds.1 hSame with ⟨rfl, hRest⟩
          exact ⟨rfl, hRest⟩
      | cons hb hTail =>
          rw [hMore] at hSame
          exact absurd (h ha hb hcs.1 (hComma _) hSame).2 (ne_of_after_eq_none hcs.2)
  | cons ha hTail ih =>
      rw [hMore] at hSame
      cases hBs with
      | single hb =>
          exact absurd (h ha hb (hComma _) hds.1 hSame).2.symm (ne_of_after_eq_none hds.2)
      | cons hb hTail' =>
          rw [hMore] at hSame
          rcases h ha hb (hComma _) (hComma _) hSame with ⟨rfl, hRest⟩
          rcases ih hTail' (List.append_cancel_left hRest) with ⟨rfl, hEnd⟩
          exact ⟨rfl, hEnd⟩

end Ways

/-! ## Names, types and numbers -/

/-- A name that does not start with a quote of its own is told by its spelling. -/
theorem separable_name :
    Separable (fun name text => name.toList.head? ≠ some '"' ∧ Identifier.safe name = .ok text)
      Bounded := by
  -- of the reader of operands only the part that reads columns is used here
  let o : Origin := ⟨0, .limit⟩
  have hColumn : Function.Injective fun name => Expr.column ⟨o, name⟩ := by
    intro name name' hSame
    simpa using hSame
  refine Separable.of_takes hColumn (r := operand o (fun _ => none) 0) ?_
  rintro name text ⟨hName, hText⟩
  exact operand_column hName hText

theorem separable_type : Separable (fun t text => DataType.sqlName? t = some text) Bounded :=
  Separable.of_takes Function.injective_id (r := typeName) fun _ _ hName _ hBounded =>
    typeName_append hName hBounded.word_ends

theorem separable_nat : Separable (fun (n : Nat) text => text = toString n) (Stops Char.isDigit) :=
  Separable.of_takes Function.injective_id (r := number) fun n _ hText cs hcs => by
    rw [hText]
    exact number_append n hcs

theorem separable_int :
    Separable (fun (n : Int) text => text = toString n) (Stops fun c => c.isDigit || c == '-') := by
  have hRun (n : Int) : ∀ c ∈ (toString n).toList, (c.isDigit || c == '-') = true := by
    intro c hc
    rcases Text.isDigit_or_of_mem_intText hc with hDigit | rfl
    · rw [hDigit, Bool.true_or]
    · rfl
  rintro m n s t cs ds rfl rfl hcs hds hSame
  rcases eq_of_run_eq (hRun m) (hRun n) hcs hds hSame with ⟨hDigits, hRest⟩
  exact ⟨Text.intText_injective (String.toList_inj.1 hDigits), hRest⟩

/-! ## Literals -/

namespace Literal

/-- Whether the character may stand in a keyword or in a number. -/
def isLeading (c : Char) : Bool :=
  Identifier.isWordChar c || c == '-'

theorem isLeading_of_mem_intText {n : Int} {c : Char} (h : c ∈ (toString n).toList) :
    isLeading c = true := by
  rcases Text.isDigit_or_of_mem_intText h with hDigit | rfl
  · simp [isLeading, Identifier.isWordChar, Char.isAlphanum, hDigit]
  · rfl

theorem intText_ne_empty (n : Int) : toString n ≠ "" := by
  intro hEmpty
  cases n with
  | ofNat n =>
      have hText : toString n = "" := hEmpty
      rw [Nat.toString_eq_ofList_toDigits, ← String.toList_inj, String.toList_ofList] at hText
      exact Nat.toDigits_ne_nil hText
  | negSucc n =>
      have hText : "-" ++ toString (n + 1) = "" := hEmpty
      simp at hText

/-- What is written in front of a quoted text. -/
def frames : List String :=
  ["", "DATE ", "TIME ", "TIMESTAMP(0) ", "INTERVAL ", "ST_GeomFromText("]

theorem opening_mem_frames {v : Literal} {s : String} (h : v.quotedText? = some s) :
    v.opening ∈ frames := by
  cases v with
  | null | boolean | int | float => cases h
  | _ => simp [opening, frames]

/-- Without a quoted text a keyword is written, or a number. -/
theorem opening_of_quotedText?_eq_none {v : Literal} (hv : v.IsWhole) (h : v.quotedText? = none) :
    v.opening ∈ ["NULL", "TRUE", "FALSE"] ∨ ∃ n : Int, v.opening = toString n := by
  cases v with
  | null => exact .inl (by decide)
  | boolean b => exact .inl (by cases b <;> decide)
  | int n => exact .inr ⟨n, rfl⟩
  | float => exact hv.elim
  | _ => cases h

theorem isLeading_of_mem_opening {v : Literal} (hv : v.IsWhole) (h : v.quotedText? = none) :
    ∀ c ∈ v.opening.toList, isLeading c = true := by
  rcases opening_of_quotedText?_eq_none hv h with hWord | ⟨n, hNumber⟩
  · have hLetters : (["NULL", "TRUE", "FALSE"].all fun w => w.toList.all isLeading) = true := by
      decide
    exact List.all_eq_true.1 (List.all_eq_true.1 hLetters _ hWord)
  · rw [hNumber]
    intro c
    exact isLeading_of_mem_intText

theorem stops_isLeading {cs : List Char} (h : Bounded cs) : Stops isLeading cs := by
  intro c hc
  have hBound := h c hc
  have hMinus : c ≠ '-' := by
    rintro rfl
    cases hBound
  simp [isLeading, isWordChar_of_isBound hBound, hMinus]

/-- The words in front of quoted texts: they are no keywords of literals, and no numbers. -/
theorem frames_words : ∀ o ∈ frames,
    (∀ w ∈ ["NULL", "TRUE", "FALSE"], w.toList ≠ o.toList.takeWhile isLeading) ∧
      (o.toList.takeWhile isLeading = [] ∨
        (o.toList.takeWhile isLeading).any Char.isAlpha = true) := by
  decide

/-- A text starts in different ways with a quoted text and without one. -/
theorem opening_append_ne {v w : Literal} {s : String} (hv : v.quotedText? = some s)
    (hWhole : w.IsWhole) (hw : w.quotedText? = none) {cs ds : List Char} (hds : Bounded ds) :
    v.opening.toList ++ '\'' :: cs ≠ w.opening.toList ++ ds := by
  intro hSame
  have hRun : w.opening.toList = v.opening.toList.takeWhile isLeading := by
    have hTake := (span_append (isLeading_of_mem_opening hWhole hw) (stops_isLeading hds)).1
    rw [← hTake, ← hSame, takeWhile_append_cons (by decide)]
  rcases frames_words _ (opening_mem_frames hv) with ⟨hKeyword, hWord⟩
  rcases opening_of_quotedText?_eq_none hWhole hw with hMem | ⟨n, hNumber⟩
  · exact hKeyword _ hMem hRun
  · rw [← hRun, hNumber] at hWord
    rcases hWord with hEmpty | hLetter
    · exact intText_ne_empty n (String.toList_eq_nil_iff.1 hEmpty)
    · exact intText_ne hLetter n rfl

/-- A unit stands behind the token of an interval. -/
theorem closing_of_interval {v : Literal} (h : v.opening = "INTERVAL ") :
    ∃ unit : TemporalUnit, v.closing = " " ++ unit.keyword := by
  cases v with
  | interval n unit => exact ⟨unit, rfl⟩
  | boolean b => cases b <;> simp [opening] at h
  | int n => exact absurd h (intText_ne rfl n)
  | _ => simp [opening] at h

/-- The reference system as an argument behind another one. -/
def sridText (srid : Option Int) : String :=
  (srid.map fun n => ", " ++ toString n).getD ""

theorem optionally_sridText (srid : Option Int) :
    Optionally ", " (fun n text => text = toString n) srid (sridText srid) := by
  cases srid with
  | none => rfl
  | some n => exact ⟨_, rfl, rfl⟩

theorem closing_of_geometry {v : Literal} (h : v.opening = "ST_GeomFromText(") :
    ∃ srid, v.closing = sridText srid ++ ")" := by
  cases v with
  | geometry wkt srid =>
      cases srid with
      | none => exact ⟨none, rfl⟩
      | some n => exact ⟨some n, rfl⟩
  | boolean b => cases b <;> simp [opening] at h
  | int n => exact absurd h (intText_ne rfl n)
  | _ => simp [opening] at h

theorem closing_of_other {v : Literal} (hInterval : v.opening ≠ "INTERVAL ")
    (hGeometry : v.opening ≠ "ST_GeomFromText(") : v.closing = "" := by
  cases v with
  | interval => exact absurd rfl hInterval
  | geometry => exact absurd rfl hGeometry
  | _ => rfl

/-- What stands behind the quoted text is told by what stands in front of it, and ends by itself. -/
theorem closing_eq_of_append_eq {v w : Literal} (hOpening : v.opening = w.opening)
    {cs ds : List Char} (hcs : Bounded cs) (hds : Bounded ds)
    (h : v.closing.toList ++ cs = w.closing.toList ++ ds) : v.closing = w.closing ∧ cs = ds := by
  by_cases hInterval : w.opening = "INTERVAL "
  · rcases closing_of_interval (hOpening.trans hInterval) with ⟨unit, hUnit⟩
    rcases closing_of_interval hInterval with ⟨unit', hUnit'⟩
    have hLetters (u : TemporalUnit) : ∀ c ∈ u.keyword.toList, Identifier.isWordChar c = true := by
      apply List.all_eq_true.1
      cases u <;> decide
    rw [hUnit, hUnit', String.toList_append, String.toList_append, List.append_assoc,
      List.append_assoc] at h
    rcases eq_of_run_eq (hLetters unit) (hLetters unit') hcs.word_ends hds.word_ends
      (List.append_cancel_left h) with ⟨hKeyword, hRest⟩
    rw [hUnit, hUnit', String.toList_inj.1 hKeyword]
    exact ⟨rfl, hRest⟩
  · by_cases hGeometry : w.opening = "ST_GeomFromText("
    · rcases closing_of_geometry (hOpening.trans hGeometry) with ⟨srid, hText⟩
      rcases closing_of_geometry hGeometry with ⟨srid', hText'⟩
      rw [hText, hText', String.toList_append, String.toList_append, List.append_assoc,
        List.append_assoc] at h
      have hEnd (rest : List Char) : Stops (fun c => c.isDigit || c == '-') (")".toList ++ rest) ∧
          after ", " (")".toList ++ rest) = none :=
        ⟨stops_cons (by decide) rest, after_of_apart (by decide) rest⟩
      rcases separable_int.optionally ", " (optionally_sridText srid) (optionally_sridText srid')
        (hEnd cs) (hEnd ds) h with ⟨rfl, hRest⟩
      exact ⟨hText.trans hText'.symm, List.append_cancel_left hRest⟩
    · have hNone := closing_of_other hInterval hGeometry
      rw [← hOpening] at hInterval hGeometry
      have hNone' := closing_of_other hInterval hGeometry
      rw [hNone, hNone'] at h
      exact ⟨hNone'.trans hNone.symm, h⟩

end Literal

/-- A text in quotes ends at its last quote, unless another quote follows. -/
theorem quoted_eq_of_append_eq {s t : String} {cs ds : List Char} (hcs : cs.head? ≠ some '\'')
    (hds : ds.head? ≠ some '\'')
    (h : doubled '\'' s.toList ++ '\'' :: cs = doubled '\'' t.toList ++ '\'' :: ds) :
    s = t ∧ cs = ds := by
  have hRead := quoted_append s.toList hcs
  rw [h, quoted_append t.toList hds, Option.some.injEq, Prod.mk.injEq] at hRead
  exact ⟨String.toList_inj.1 hRead.1.symm, hRead.2.symm⟩

namespace Literal

/-- With a quoted text, a literal has one token between its opening and its closing. -/
theorem toList_sql_of_quotedText?_eq_some {v : Literal} (hv : v.IsWhole) {q text : String}
    (hQuoted : v.quotedText? = some q) (h : v.sql = .ok text) (cs : List Char) :
    text.toList ++ cs = v.opening.toList ++
      '\'' :: (doubled '\'' q.toList ++ '\'' :: (v.closing.toList ++ cs)) := by
  rw [sql_eq_parts hv, Except.ok.injEq, hQuoted] at h
  subst h
  simp [quoteString, doubleApostrophes_eq_doubled]

theorem sql_of_quotedText?_eq_none {v : Literal} (hv : v.IsWhole) {text : String}
    (hQuoted : v.quotedText? = none) (h : v.sql = .ok text) : text = v.opening := by
  rw [sql_eq_parts hv, Except.ok.injEq, hQuoted, closing_of_quotedText?_eq_none hQuoted] at h
  simpa using h.symm

theorem head?_closing_append_ne (v : Literal) {cs : List Char} (h : Bounded cs) :
    (v.closing.toList ++ cs).head? ≠ some '\'' := by
  intro hHead
  cases hText : v.closing.toList with
  | nil =>
      rw [hText, List.nil_append] at hHead
      exact absurd (h _ hHead) (by decide)
  | cons c rest =>
      rw [hText, List.cons_append, List.head?_cons, Option.some.injEq] at hHead
      have hQuote := v.unquoted_closing c (by rw [hText]; exact List.mem_cons_self)
      rw [hHead] at hQuote
      cases hQuote

end Literal

namespace Literal

section Append

variable {v w : Literal} {s t : String} {cs ds : List Char}

theorem eq_of_unquoted_append_eq (hv : v.IsWhole) (hw : w.IsWhole) (hQuoted : v.quotedText? = none)
    (hQuoted' : w.quotedText? = none) (hcs : Bounded cs) (hds : Bounded ds)
    (h : v.opening.toList ++ cs = w.opening.toList ++ ds) : v = w ∧ cs = ds := by
  rcases eq_of_run_eq (isLeading_of_mem_opening hv hQuoted) (isLeading_of_mem_opening hw hQuoted')
    (stops_isLeading hcs) (stops_isLeading hds) h with ⟨hOpening, hRest⟩
  have hClosing : v.closing = w.closing := by
    rw [closing_of_quotedText?_eq_none hQuoted, closing_of_quotedText?_eq_none hQuoted']
  have hText := hQuoted.trans hQuoted'.symm
  exact ⟨eq_of_parts_eq hv hw (String.toList_inj.1 hOpening) hText hClosing, hRest⟩

theorem eq_of_quoted_append_eq (hv : v.IsWhole) (hw : w.IsWhole) (hQuoted : v.quotedText? = some s)
    (hQuoted' : w.quotedText? = some t) (hcs : Bounded cs) (hds : Bounded ds)
    (h : v.opening.toList ++ '\'' :: (doubled '\'' s.toList ++ '\'' :: (v.closing.toList ++ cs)) =
      w.opening.toList ++ '\'' :: (doubled '\'' t.toList ++ '\'' :: (w.closing.toList ++ ds))) :
    v = w ∧ cs = ds := by
  -- the first apostrophe opens the token, since what stands in front of it has none
  have hBare (u : Literal) : ∀ c ∈ u.opening.toList, (!isQuote c) = true := by
    intro c hc
    rw [u.unquoted_opening c hc, Bool.not_false]
  rcases eq_of_run_eq (hBare v) (hBare w) (stops_cons (by decide) _) (stops_cons (by decide) _) h
    with ⟨hOpening, hTokens⟩
  have hSameOpening := String.toList_inj.1 hOpening
  rcases quoted_eq_of_append_eq (v.head?_closing_append_ne hcs) (w.head?_closing_append_ne hds)
    (List.cons.inj hTokens).2 with ⟨hText, hBehind⟩
  rcases closing_eq_of_append_eq hSameOpening hcs hds hBehind with ⟨hClosing, hRest⟩
  refine ⟨eq_of_parts_eq hv hw hSameOpening ?_ hClosing, hRest⟩
  rw [hQuoted, hQuoted', hText]

end Append

end Literal

/-- A literal is told by its text, unless that is not all there is to it. -/
theorem separable_literal :
    Separable (fun v text => v.IsWhole ∧ Literal.sql v = .ok text) Bounded := by
  rintro v w s t cs ds ⟨hv, hs⟩ ⟨hw, ht⟩ hcs hds hSame
  cases hQuoted : v.quotedText? with
  | none =>
      rw [Literal.sql_of_quotedText?_eq_none hv hQuoted hs] at hSame
      cases hQuoted' : w.quotedText? with
      | none =>
          rw [Literal.sql_of_quotedText?_eq_none hw hQuoted' ht] at hSame
          exact Literal.eq_of_unquoted_append_eq hv hw hQuoted hQuoted' hcs hds hSame
      | some q =>
          rw [Literal.toList_sql_of_quotedText?_eq_some hw hQuoted' ht] at hSame
          exact absurd hSame.symm (Literal.opening_append_ne hQuoted' hv hQuoted hcs)
  | some q =>
      rw [Literal.toList_sql_of_quotedText?_eq_some hv hQuoted hs] at hSame
      cases hQuoted' : w.quotedText? with
      | none =>
          rw [Literal.sql_of_quotedText?_eq_none hw hQuoted' ht] at hSame
          exact absurd hSame (Literal.opening_append_ne hQuoted hw hQuoted' hds)
      | some q' =>
          rw [Literal.toList_sql_of_quotedText?_eq_some hw hQuoted' ht] at hSame
          exact Literal.eq_of_quoted_append_eq hv hw hQuoted hQuoted' hcs hds hSame

end TableQuery
