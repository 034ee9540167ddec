import TableQuery.Proofs.Text.Phrase
import TableQuery.Text.Lines

/-!
# Indent — moving text to the right, lexeme by lexeme

Indenting goes by lines and does not know quotes: a line break inside a quoted token gets the spaces
as well, and loses a carriage return before it. Everything else of a token stays, and so does the
rest of a phrase.
-/

namespace TableQuery

open Lexeme

/-! ## Characters -/

namespace Text

/-- What indenting makes of the characters of a token: a line break loses a carriage return before
it and is followed by spaces. -/
def movedChars (width : Nat) : List Char → List Char
  | [] => []
  | '\n' :: cs => '\n' :: (List.replicate width ' ' ++ movedChars width cs)
  | '\r' :: '\n' :: cs => '\n' :: (List.replicate width ' ' ++ movedChars width cs)
  | c :: cs => c :: movedChars width cs

/-- What indenting makes of a text behind the spaces of its first line: as with a token, but a line
break at the very end is dropped. -/
def reindented (width : Nat) : List Char → List Char
  | [] => []
  | '\n' :: cs => if cs = [] then [] else '\n' :: (List.replicate width ' ' ++ reindented width cs)
  | '\r' :: '\n' :: cs =>
    if cs = [] then [] else '\n' :: (List.replicate width ' ' ++ reindented width cs)
  | c :: cs => c :: reindented width cs

theorem movedChars_cons (width : Nat) {c : Char} {cs : List Char} (hBreak : c ≠ '\n')
    (hPair : c = '\r' → cs.head? ≠ some '\n') :
    movedChars width (c :: cs) = c :: movedChars width cs := by
  rw [movedChars]
  · exact hBreak
  · rintro ds rfl rfl
    exact hPair rfl rfl

theorem reindented_cons (width : Nat) {c : Char} {cs : List Char} (hBreak : c ≠ '\n')
    (hPair : c = '\r' → cs.head? ≠ some '\n') :
    reindented width (c :: cs) = c :: reindented width cs := by
  rw [reindented]
  · exact hBreak
  · rintro ds rfl rfl
    exact hPair rfl rfl

theorem splitLines_ne_nil {cs : List Char} (h : cs ≠ []) : splitLines cs ≠ [] := by
  fun_cases splitLines cs with
  | case1 => exact absurd rfl h
  | case2 | case3 | case4 | case5 => exact List.cons_ne_nil _ _

theorem intercalate_break_cons (line : List Char) (rest : List (List Char)) :
    ['\n'].intercalate (line :: rest) =
      line ++ (if rest = [] then [] else '\n' :: ['\n'].intercalate rest) := by
  cases rest with
  | nil => simp
  | cons next rest => simp [List.intercalate]

theorem intercalate_splitLines (width : Nat) (cs : List Char) :
    ['\n'].intercalate ((splitLines cs).map (List.replicate width ' ' ++ ·)) =
      if cs = [] then [] else List.replicate width ' ' ++ reindented width cs := by
  fun_induction splitLines cs with
  | case1 => rfl
  | case2 cs ih | case3 cs ih =>
      by_cases hcs : cs = []
      · subst hcs
        simp [splitLines, reindented]
      · rw [List.map_cons, intercalate_break_cons, ih]
        simp [hcs, reindented, splitLines_ne_nil hcs]
  | case4 c cs hBreak hPair h ih =>
      -- only the last line has nothing behind it
      obtain rfl : cs = [] := by
        by_contra hcs
        exact splitLines_ne_nil hcs h
      simp [reindented]
  | case5 c cs hBreak hPair line more h ih =>
      have hcs : cs ≠ [] := by
        rintro rfl
        simp [splitLines] at h
      rw [h, List.map_cons, intercalate_break_cons, if_neg hcs, List.append_assoc,
        List.append_cancel_left_eq] at ih
      rw [List.map_cons, intercalate_break_cons, if_neg (List.cons_ne_nil _ _), reindented, ← ih]
      · simp
      · simpa using hBreak
      · simpa using hPair

theorem toList_indent (width : Nat) (s : String) :
    (indent width s).toList =
      if s = "" then [] else List.replicate width ' ' ++ reindented width s.toList := by
  have hLines : (lines s).map (String.toList ∘ (spaces width ++ ·)) =
      (splitLines s.toList).map (List.replicate width ' ' ++ ·) := by
    simp [lines, spaces]
  simp [indent, String.toList_intercalate, hLines, intercalate_splitLines]

/-- Text without line breaks is not touched. -/
theorem movedChars_of_notMem (width : Nat) {cs : List Char} (h : '\n' ∉ cs) :
    movedChars width cs = cs := by
  fun_induction movedChars width cs with
  | case1 => rfl
  | case2 cs ih => simp at h
  | case3 cs ih => simp at h
  | case4 c cs hBreak hPair ih => simp_all

theorem doubled_movedChars (width : Nat) {q : Char} (hq : isQuote q = true) (cs : List Char) :
    doubled q (movedChars width cs) = movedChars width (doubled q cs) := by
  have hBreak : q ≠ '\n' := by
    rintro rfl
    simp [isQuote] at hq
  have hReturn : q ≠ '\r' := by
    rintro rfl
    simp [isQuote] at hq
  have hPad : doubled q (List.replicate width ' ') = List.replicate width ' ' := by
    refine doubled_of_notMem fun h => ?_
    rw [List.eq_of_mem_replicate h] at hq
    simp [isQuote] at hq
  fun_induction movedChars width cs with
  | case1 => rfl
  | case2 cs ih => simp [doubled, hBreak.symm, doubled_append, hPad, ih, movedChars]
  | case3 cs ih =>
      simp [doubled, hBreak.symm, hReturn.symm, doubled_append, hPad, ih, movedChars]
  | case4 c cs hNoBreak hPair ih =>
      by_cases hc : c = q
      · subst hc
        rw [doubled, if_pos rfl, doubled, if_pos rfl,
          movedChars_cons width hBreak (fun h => absurd h hReturn),
          movedChars_cons width hBreak (fun h => absurd h hReturn), ih]
      · -- doubling quotes puts no line break behind a carriage return
        rw [doubled, if_neg hc, doubled, if_neg hc, movedChars_cons width hNoBreak, ih]
        rintro rfl hHead
        rw [head?_doubled] at hHead
        obtain ⟨ds, rfl⟩ := List.head?_eq_some_iff.1 hHead
        exact hPair ds rfl rfl

/-- A token's characters up to its last quote, in front of others. -/
theorem reindented_doubled (width : Nat) {q : Char} (hq : isQuote q = true) (cs rest : List Char) :
    reindented width (cs ++ q :: rest) = movedChars width cs ++ q :: reindented width rest := by
  have hBreak : q ≠ '\n' := by
    rintro rfl
    simp [isQuote] at hq
  have hReturn : q ≠ '\r' := by
    rintro rfl
    simp [isQuote] at hq
  fun_induction movedChars width cs with
  | case1 => exact reindented_cons width hBreak (fun h => absurd h hReturn)
  | case2 cs ih => simp [reindented, ih]
  | case3 cs ih => simp [reindented, ih]
  | case4 c cs hNoBreak hPair ih =>
      rw [List.cons_append, reindented_cons width hNoBreak, ih, List.cons_append]
      rintro rfl hHead
      cases cs with
      | nil => exact hBreak (by simpa using hHead)
      | cons d ds =>
          obtain rfl : d = '\n' := by simpa using hHead
          exact hPair ds rfl rfl

end Text

/-! ## Lexemes -/

/-- A token as indenting the text around it leaves it. -/
def Token.moved (width : Nat) (t : Token) : Token :=
  { t with content := Text.movedChars width t.content }

namespace Lexeme

/-- The spaces in front of a line. -/
def blanks (width : Nat) : List Lexeme :=
  (List.replicate width ' ').map .mark

@[simp]
theorem spell_blanks (width : Nat) : spell (blanks width) = List.replicate width ' ' := by
  simp [blanks, -List.map_replicate]

@[simp]
theorem tokens_blanks (width : Nat) : tokens (blanks width) = [] := by
  simp [blanks, -List.map_replicate]

theorem eq_of_mem_blanks {width : Nat} {l : Lexeme} (h : l ∈ blanks width) : l = .mark ' ' := by
  simp only [blanks, List.map_replicate] at h
  exact List.eq_of_mem_replicate h

theorem mayTouch_of_mem_blanks {width : Nat} {l : Lexeme} (h : l ∈ blanks width) (m : Lexeme) :
    mayTouch l m = true := by
  rw [eq_of_mem_blanks h]
  exact mayTouch_mark_left (by decide) m

theorem tidy_blanks (width : Nat) : Tidy (blanks width) where
  tidy l h := by
    rw [eq_of_mem_blanks h]
    decide
  chain := by
    rw [blanks, List.map_replicate]
    exact List.isChain_replicate_of_rel width (mayTouch_mark_left (by decide) _)
  level n := by
    induction width with
    | zero => rfl
    | succ width ih => simpa [blanks, List.replicate_succ, nesting] using ih

/-- What indenting makes of lexemes behind the spaces of the first line. -/
def shifted (width : Nat) : List Lexeme → List Lexeme
  | [] => []
  | .quoted t :: ls => .quoted (t.moved width) :: shifted width ls
  | .mark c :: ls =>
    if c = '\n' then if ls = [] then [] else .mark c :: (blanks width ++ shifted width ls)
    else .mark c :: shifted width ls

/-- A bare character stays where it is, with spaces behind a line break; a line break at the very
end is dropped. -/
theorem shifted_mark_cases (width : Nat) (c : Char) (ls : List Lexeme) :
    (c = '\n' ∧ ls = [] ∧ shifted width (.mark c :: ls) = []) ∨
    (c = '\n' ∧ ls ≠ [] ∧
      shifted width (.mark c :: ls) = .mark c :: (blanks width ++ shifted width ls)) ∨
    (c ≠ '\n' ∧ shifted width (.mark c :: ls) = .mark c :: shifted width ls) := by
  by_cases hBreak : c = '\n'
  · by_cases hls : ls = []
    · exact .inl ⟨hBreak, hls, by rw [shifted, if_pos hBreak, if_pos hls]⟩
    · exact .inr (.inl ⟨hBreak, hls, by rw [shifted, if_pos hBreak, if_neg hls]⟩)
  · exact .inr (.inr ⟨hBreak, by rw [shifted, if_neg hBreak]⟩)

theorem reindented_spell (width : Nat) {ls : List Lexeme} (hTidy : ∀ l ∈ ls, l.isTidy = true) :
    Text.reindented width (spell ls) = spell (shifted width ls) := by
  induction ls with
  | nil => rfl
  | cons l ls ih =>
      have hRest := ih fun m hm => hTidy m (List.mem_cons_of_mem _ hm)
      cases l with
      | quoted t =>
          have hq : isQuote t.quote = true := hTidy (.quoted t) (by simp)
          have hOpen : Text.reindented width (t.quote :: (doubled t.quote t.content ++
              t.quote :: spell ls)) = t.quote :: Text.reindented width (doubled t.quote t.content ++
              t.quote :: spell ls) := Text.reindented_doubled width hq [] _
          simp [chars, shifted, Token.moved, hOpen, Text.reindented_doubled width hq, hRest,
            Text.doubled_movedChars width hq]
      | mark c =>
          rcases shifted_mark_cases width c ls with
            ⟨rfl, rfl, hShifted⟩ | ⟨rfl, hls, hShifted⟩ | ⟨hBreak, hShifted⟩
          · rfl
          · have hSpell : spell ls ≠ [] := fun h => hls (spell_eq_nil.1 h)
            rw [hShifted]
            simp [chars, Text.reindented, hSpell, hRest]
          · -- a tidy carriage return would be part of a line break, so there is none
            have hReturn : c ≠ '\r' := by
              have hc : (Lexeme.mark c).isTidy = true := hTidy (.mark c) (by simp)
              rintro rfl
              simp [isTidy] at hc
            rw [hShifted]
            simp [chars, hRest, Text.reindented_cons width hBreak (fun h => absurd h hReturn)]

theorem tokens_shifted (width : Nat) (ls : List Lexeme) :
    tokens (shifted width ls) = (tokens ls).map (Token.moved width) := by
  induction ls with
  | nil => rfl
  | cons l ls ih =>
      cases l with
      | quoted t => simp [shifted, ih]
      | mark c =>
          rcases shifted_mark_cases width c ls with
            ⟨-, rfl, hShifted⟩ | ⟨-, -, hShifted⟩ | ⟨-, hShifted⟩
          · simp [hShifted]
          · simp [hShifted, ih]
          · simp [hShifted, ih]

/-- What stands first after indenting touches what it touched before. -/
theorem head?_shifted {width : Nat} {ls : List Lexeme} {m : Lexeme}
    (h : m ∈ (shifted width ls).head?) : ∃ l ∈ ls.head?, ∀ x, mayTouch x m = mayTouch x l := by
  cases ls with
  | nil => simp [shifted] at h
  | cons l ls =>
      refine ⟨l, rfl, fun x => ?_⟩
      cases l with
      | quoted t =>
          obtain rfl : .quoted (t.moved width) = m := by simpa [shifted] using h
          cases x <;> rfl
      | mark c =>
          have hm : mark c = m := by
            rcases shifted_mark_cases width c ls with
              ⟨-, -, hShifted⟩ | ⟨-, -, hShifted⟩ | ⟨-, hShifted⟩
            · simp [hShifted] at h
            · simpa [hShifted] using h
            · simpa [hShifted] using h
          rw [hm]

theorem isTidy_of_mem_shifted {width : Nat} {ls : List Lexeme}
    (hTidy : ∀ l ∈ ls, l.isTidy = true) : ∀ l ∈ shifted width ls, l.isTidy = true := by
  induction ls with
  | nil => simp [shifted]
  | cons m ls ih =>
      have hRest := ih fun l hl => hTidy l (List.mem_cons_of_mem _ hl)
      have hm := hTidy m (by simp)
      cases m with
      | quoted t => exact List.forall_mem_cons.2 ⟨hm, hRest⟩
      | mark c =>
          rcases shifted_mark_cases width c ls with
            ⟨-, -, hShifted⟩ | ⟨-, -, hShifted⟩ | ⟨-, hShifted⟩
          · simp [hShifted]
          · rw [hShifted, List.forall_mem_cons, List.forall_mem_append]
            exact ⟨hm, (tidy_blanks width).tidy, hRest⟩
          · rw [hShifted, List.forall_mem_cons]
            exact ⟨hm, hRest⟩

theorem isChain_shifted (width : Nat) {ls : List Lexeme}
    (hChain : ls.IsChain (mayTouch · · = true)) :
    (shifted width ls).IsChain (mayTouch · · = true) := by
  induction ls with
  | nil => exact .nil
  | cons m ls ih =>
      have hRest := ih hChain.tail
      have hHead : ∀ y ∈ (shifted width ls).head?, mayTouch m y = true := by
        intro y hy
        obtain ⟨l, hl, hTouch⟩ := head?_shifted hy
        obtain ⟨ds, rfl⟩ := List.head?_eq_some_iff.1 hl
        rw [hTouch]
        exact (List.isChain_cons_cons.1 hChain).1
      cases m with
      | quoted t =>
          refine .cons hRest fun y hy => ?_
          have hMoved : mayTouch (.quoted (t.moved width)) y = mayTouch (.quoted t) y := by
            cases y <;> rfl
          rw [hMoved]
          exact hHead y hy
      | mark c =>
          rcases shifted_mark_cases width c ls with
            ⟨-, -, hShifted⟩ | ⟨rfl, -, hShifted⟩ | ⟨-, hShifted⟩
          · rw [hShifted]
            exact .nil
          · -- the spaces stand between the line break and what followed it
            have hBlanks : (blanks width ++ shifted width ls).IsChain (mayTouch · · = true) :=
              (tidy_blanks width).chain.append hRest fun x hx y _ =>
                mayTouch_of_mem_blanks (List.mem_of_mem_getLast? hx) y
            rw [hShifted]
            exact .cons hBlanks fun y _ => mayTouch_mark_left (by decide) y
          · rw [hShifted]
            exact .cons hRest hHead

theorem nesting_shifted (width : Nat) (ls : List Lexeme) :
    ∀ n, nesting n (shifted width ls) = nesting n ls := by
  induction ls with
  | nil =>
      intro n
      rfl
  | cons l ls ih =>
      intro n
      cases l with
      | quoted t => simp [shifted, nesting, ih]
      | mark c =>
          rcases shifted_mark_cases width c ls with
            ⟨rfl, rfl, hShifted⟩ | ⟨rfl, -, hShifted⟩ | ⟨-, hShifted⟩
          · simp [hShifted, nesting]
          · simp [hShifted, nesting, nesting_append, (tidy_blanks width).level, ih]
          · rw [hShifted]
            cases n <;> simp [nesting, ih]

end Lexeme

theorem Tidy.shifted {ls : List Lexeme} (width : Nat) (hl : Tidy ls) :
    Tidy (Lexeme.shifted width ls) where
  tidy := isTidy_of_mem_shifted hl.tidy
  chain := isChain_shifted width hl.chain
  level n := by rw [nesting_shifted, hl.level]

theorem Phrase.indent {text : String} {ts : List Token} (h : Phrase text ts) (width : Nat) :
    Phrase (Text.indent width text) (ts.map (Token.moved width)) := by
  obtain ⟨ls, hText, hTidy, rfl⟩ := h
  by_cases hEmpty : text = ""
  · subst hEmpty
    obtain rfl : ls = [] := by simpa [spell_eq_nil] using hText.symm
    exact .empty
  · refine ⟨blanks width ++ Lexeme.shifted width ls, ?_, ?_, by simp [tokens_shifted]⟩
    · simp [Text.toList_indent, hEmpty, hText, reindented_spell width hTidy.tidy]
    · exact (tidy_blanks width).append (hTidy.shifted width) fun x hx y _ =>
        mayTouch_of_mem_blanks (List.mem_of_mem_getLast? hx) y

end TableQuery
