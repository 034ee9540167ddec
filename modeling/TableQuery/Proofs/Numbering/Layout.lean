import TableQuery.Proofs.Numbering.Text
import TableQuery.Proofs.Text.Indent
import TableQuery.Sql.Clause

/-!
# Laid — numbered texts up to the line breaks of select lists

A select list wraps where a line would grow too long, and how long a line is depends on the number
of digits of the aliases in it. So the texts of a statement differ in more than the numbers of
aliases, but only between the items of its select list, and between those of the statements inside
it. What is written there is a *gap*. Moving a text to the right moves the line breaks of its gaps
as well, and leaves everything else as it would without gaps.
-/

namespace TableQuery

/-- A mark, or what stands between two items of a select list. -/
inductive Piece where
  | mark (m : Mark)
  | gap
  deriving DecidableEq

/-- What can stand between two items: a comma with a space behind it, or with a line break and the
indentation of the next line. -/
inductive IsGap : List Char → Prop where
  | line : IsGap [',', ' ']
  | wrapped (width : Nat) : IsGap (',' :: '\n' :: List.replicate (width + 1) ' ')

/-- The characters are a way to write the pieces, where the first alias has a given number. -/
inductive Writes (first : Nat) : List Piece → List Char → Prop where
  | nil : Writes first [] []
  | mark (m : Mark) {ps : List Piece} {cs : List Char} :
      Writes first ps cs → Writes first (.mark m :: ps) (m.write first ++ cs)
  | gap {ps : List Piece} {cs space : List Char} :
      IsGap space → Writes first ps cs → Writes first (.gap :: ps) (space ++ cs)

/-- The text with the number `first` of the first alias is written from pieces that are the same for
all numbers, with so many gaps among them. -/
def Laid (gaps : Nat) (t : Nat → String) : Prop :=
  ∃ ps : List Piece, ps.count .gap = gaps ∧ ∀ first, Writes first ps (t first).toList

namespace Writes

variable {first : Nat} {ps qs : List Piece} {cs ds : List Char}

theorem append (hc : Writes first ps cs) (hd : Writes first qs ds) :
    Writes first (ps ++ qs) (cs ++ ds) := by
  induction hc with
  | nil => exact hd
  | mark m _ ih =>
      rw [List.append_assoc]
      exact .mark m ih
  | gap hSpace _ ih =>
      rw [List.append_assoc]
      exact .gap hSpace ih

theorem marks (first : Nat) (marks : List Mark) :
    Writes first (marks.map .mark) (marks.flatMap (Mark.write first)) := by
  induction marks with
  | nil => exact .nil
  | cons m marks ih => exact .mark m ih

end Writes

theorem count_gap_marks (marks : List Mark) : (marks.map Piece.mark).count .gap = 0 := by
  rw [List.count_eq_zero]
  simp

/-! ## Putting texts together -/

section Texts

variable {s t : Nat → String} {m n : Nat}

theorem Numbered.laid (h : Numbered t) : Laid 0 t := by
  rcases h with ⟨marks, hMarks⟩
  refine ⟨marks.map .mark, count_gap_marks marks, fun first => ?_⟩
  rw [hMarks]
  exact Writes.marks first marks

theorem laid_const (text : String) : Laid 0 fun _ => text :=
  (numbered_const text).laid

theorem Laid.append (hs : Laid m s) (ht : Laid n t) : Laid (m + n) fun k => s k ++ t k := by
  rcases hs with ⟨ps, hGaps, hWrites⟩
  rcases ht with ⟨qs, hMore, hRest⟩
  refine ⟨ps ++ qs, by rw [List.count_append, hGaps, hMore], fun first => ?_⟩
  rw [String.toList_append]
  exact (hWrites first).append (hRest first)

theorem Laid.behind (ht : Laid n t) (opening : String) : Laid n fun k => opening ++ t k := by
  simpa only [Nat.zero_add] using (laid_const opening).append ht

theorem Laid.before (ht : Laid n t) (closing : String) : Laid n fun k => t k ++ closing :=
  ht.append (laid_const closing)

/-- Two texts on lines of their own, and numbered texts on the lines below. -/
theorem laid_lines (hs : Laid m s) (ht : Laid n t) {us : List (Nat → String)}
    (h : ∀ u ∈ us, Numbered u) :
    Laid (m + n) fun k => "\n".intercalate (s k :: t k :: us.map (· k)) := by
  have hFirst := hs.before "\n"
  cases us with
  | nil => simpa using hFirst.append ht
  | cons u us =>
      have hRest := (numbered_intercalate "\n" h).laid
      simpa [String.append_assoc] using hFirst.append ((ht.before "\n").append hRest)

end Texts

/-! ## Counting from a later alias -/

/-- The mark where aliases are counted from one that was drawn earlier. -/
def Mark.later (drawn : Nat) : Mark → Mark
  | .char c => .char c
  | .alias n => .alias (drawn + n)
  | .capital n => .capital (drawn + n)

theorem Mark.write_later (first drawn : Nat) (m : Mark) :
    (m.later drawn).write first = m.write (first + drawn) := by
  cases m <;> simp only [later, write, Nat.add_assoc]

def Piece.later (drawn : Nat) : Piece → Piece
  | .mark m => .mark (m.later drawn)
  | .gap => .gap

theorem Writes.later {first drawn : Nat} {ps : List Piece} {cs : List Char}
    (h : Writes (first + drawn) ps cs) : Writes first (ps.map (Piece.later drawn)) cs := by
  induction h with
  | nil => exact .nil
  | mark m _ ih =>
      rw [← Mark.write_later]
      exact .mark _ ih
  | gap hSpace _ ih => exact .gap hSpace ih

theorem count_gap_later (drawn : Nat) (ps : List Piece) :
    (ps.map (Piece.later drawn)).count .gap = ps.count .gap := by
  induction ps with
  | nil => rfl
  | cons p ps ih => cases p <;> simp [Piece.later, ih]

theorem Laid.later {t : Nat → String} {n : Nat} (h : Laid n t) (drawn : Nat) :
    Laid n fun k => t (k + drawn) := by
  rcases h with ⟨ps, hGaps, hWrites⟩
  refine ⟨ps.map (Piece.later drawn), ?_, fun first => (hWrites (first + drawn)).later⟩
  rw [count_gap_later, hGaps]

/-! ## Indentation -/

/-- What indenting makes of pieces behind the spaces of the first line: spaces follow each line
break that is no gap, and one at the very end is dropped. -/
def Piece.reindented (width : Nat) : List Piece → List Piece
  | [] => []
  | .mark (.char '\n') :: ps =>
    if ps = [] then []
    else .mark (.char '\n') :: (List.replicate width (.mark (.char ' ')) ++ reindented width ps)
  | .mark (.char '\r') :: .mark (.char '\n') :: ps =>
    if ps = [] then []
    else .mark (.char '\n') :: (List.replicate width (.mark (.char ' ')) ++ reindented width ps)
  | p :: ps => p :: reindented width ps

theorem Text.reindented_append (width : Nat) {cs : List Char}
    (h : ∀ c ∈ cs, c ≠ '\n' ∧ c ≠ '\r') (ds : List Char) :
    reindented width (cs ++ ds) = cs ++ reindented width ds := by
  induction cs with
  | nil => rfl
  | cons c cs ih =>
      rcases h c (by simp) with ⟨hBreak, hReturn⟩
      rw [List.cons_append, reindented_cons width hBreak (fun hc => absurd hc hReturn),
        ih fun d hd => h d (List.mem_cons_of_mem _ hd), List.cons_append]

namespace Writes

variable {first : Nat} {ps : List Piece} {cs : List Char}

theorem blanks (first width : Nat) :
    Writes first (List.replicate width (.mark (.char ' '))) (List.replicate width ' ') := by
  induction width with
  | zero => exact .nil
  | succ width ih => exact .mark (.char ' ') ih

/-- A piece is always written with a character. -/
theorem eq_nil_iff (h : Writes first ps cs) : cs = [] ↔ ps = [] := by
  cases h with
  | nil => simp
  | mark m _ => cases m <;> simp [Mark.write, toList_aliasName]
  | gap hSpace _ => cases hSpace <;> simp

theorem head?_break (h : Writes first ps cs) (hHead : cs.head? = some '\n') :
    ps.head? = some (.mark (.char '\n')) := by
  cases h with
  | nil => cases hHead
  | mark m _ =>
      cases m with
      | char c => simpa [Mark.write] using hHead
      | «alias» n => simp [Mark.write, toList_aliasName] at hHead
      | capital n => simp [Mark.write] at hHead
  | gap hSpace _ => cases hSpace <;> simp at hHead

theorem reindented (width : Nat) (h : Writes first ps cs) :
    Writes first (Piece.reindented width ps) (Text.reindented width cs) := by
  have hLetters : ∀ n : Nat, ∀ c ∈ (toString n).toList, c ≠ '\n' ∧ c ≠ '\r' := by
    intro n c hc
    have hDigit := Text.isDigit_of_mem_natText hc
    constructor
    · rintro rfl
      cases hDigit
    · rintro rfl
      cases hDigit
  -- the cases are those of the pieces: a break at the end or further in front, the same behind a
  -- carriage return, and any other piece
  fun_induction Piece.reindented width ps generalizing cs with
  | case1 =>
      cases h
      exact .nil
  | case2 =>
      cases h with
      | mark m hRest =>
        cases hRest
        exact .nil
  | case3 ps hps ih =>
      cases h with
      | @mark m _ cs hRest =>
        have hcs : cs ≠ [] := fun h => hps (hRest.eq_nil_iff.1 h)
        have hMoved := (blanks first width).append (ih hRest)
        rw [Mark.write, List.singleton_append, Text.reindented, if_neg hcs]
        exact .mark (.char '\n') hMoved
  | case4 =>
      cases h with
      | mark m hRest =>
        cases hRest with
        | mark m hRest =>
          cases hRest
          exact .nil
  | case5 ps hps ih =>
      cases h with
      | mark m hRest =>
        cases hRest with
        | @mark m _ cs hRest =>
          have hcs : cs ≠ [] := fun h => hps (hRest.eq_nil_iff.1 h)
          have hMoved := (blanks first width).append (ih hRest)
          simp only [Mark.write, List.singleton_append]
          rw [Text.reindented, if_neg hcs]
          exact .mark (.char '\n') hMoved
  | case6 p ps hBreak hPair ih =>
      cases h with
      | @mark m _ cs hRest =>
        have hMoved : Writes first (.mark m :: Piece.reindented width ps)
            (m.write first ++ Text.reindented width cs) := .mark m (ih hRest)
        cases m with
        | char c =>
            have hNoBreak : c ≠ '\n' := fun hc => hBreak (by rw [hc])
            rw [Mark.write, List.singleton_append, Text.reindented_cons width hNoBreak]
            · exact hMoved
            · -- no line break follows a carriage return here
              rintro rfl hHead
              obtain ⟨qs, rfl⟩ := List.head?_eq_some_iff.1 (hRest.head?_break hHead)
              exact hPair qs rfl rfl
        | «alias» n =>
            rw [Mark.write, Text.reindented_append width]
            · exact hMoved
            · rw [toList_aliasName, List.forall_mem_cons]
              exact ⟨by decide, hLetters _⟩
        | capital n =>
            rw [Mark.write, Text.reindented_append width]
            · exact hMoved
            · rw [List.forall_mem_cons]
              exact ⟨by decide, hLetters _⟩
      | @gap _ cs space hSpace hRest =>
        cases hSpace with
        | line =>
            rw [Text.reindented_append width (by simp)]
            exact .gap .line (ih hRest)
        | wrapped n =>
            -- the spaces of the gap follow its line break, so the break is not the last character
            have hMoved : Text.reindented width
                (',' :: '\n' :: List.replicate (n + 1) ' ' ++ cs) =
                ',' :: '\n' :: List.replicate (width + n + 1) ' ' ++ Text.reindented width cs := by
              rw [List.cons_append, List.cons_append,
                Text.reindented_cons width (by decide) (fun h => by cases h), Text.reindented,
                if_neg (by simp), Text.reindented_append width, ← List.append_assoc,
                List.replicate_append_replicate]
              · rfl
              · intro c hc
                rw [List.eq_of_mem_replicate hc]
                decide
            rw [hMoved]
            exact .gap (.wrapped (width + n)) (ih hRest)

end Writes

theorem Piece.count_gap_reindented (width : Nat) (ps : List Piece) :
    (Piece.reindented width ps).count .gap = ps.count .gap := by
  have hBlanks : (List.replicate width (Piece.mark (.char ' '))).count .gap = 0 := by
    rw [List.count_replicate]
    rfl
  fun_induction Piece.reindented width ps with
  | case1 => rfl
  | case2 => rfl
  | case3 ps hps ih => simp [hBlanks, ih]
  | case4 => rfl
  | case5 ps hps ih => simp [hBlanks, ih]
  | case6 p ps hBreak hPair ih => rw [List.count_cons, List.count_cons, ih]

theorem Laid.indent {t : Nat → String} {n : Nat} (h : Laid n t) (width : Nat) :
    Laid n fun k => Text.indent width (t k) := by
  rcases h with ⟨ps, hGaps, hWrites⟩
  -- an empty text stays empty, and any other one gets spaces in front
  by_cases hps : ps = []
  · subst hps
    refine ⟨[], hGaps, fun first => ?_⟩
    have hEmpty : t first = "" := by simpa using (hWrites first).eq_nil_iff.2 rfl
    rw [Text.toList_indent, if_pos hEmpty]
    exact .nil
  · refine ⟨List.replicate width (.mark (.char ' ')) ++ Piece.reindented width ps, ?_,
      fun first => ?_⟩
    · rw [List.count_append, Piece.count_gap_reindented, hGaps, List.count_replicate]
      simp
    · have hSome : t first ≠ "" := by
        intro hEmpty
        exact hps ((hWrites first).eq_nil_iff.1 (by simp [hEmpty]))
      rw [Text.toList_indent, if_neg hSome]
      exact (Writes.blanks first width).append ((hWrites first).reindented width)

/-! ## Select lists -/

/-- Wherever the lines wrap, there is one gap in front of each of the items. -/
theorem laid_moreItems {ts : List (Nat → String)} (h : ∀ t ∈ ts, Numbered t) :
    ∀ length : Nat → Nat, Laid ts.length fun k => moreItems (length k) (ts.map (· k)) := by
  induction ts with
  | nil => exact fun _ => laid_const ""
  | cons t ts ih =>
      intro length
      rcases h t (by simp) with ⟨marks, hMarks⟩
      -- what is left of the line behind this item depends on whether it stands on a new one
      rcases ih (fun u hu => h u (List.mem_cons_of_mem _ hu)) (fun k =>
        if lineWidth < length k + 2 + firstLineLength (t k) then
          lengthAfter continuationIndent (t k)
        else lengthAfter (length k + 2) (t k)) with ⟨ps, hGaps, hWrites⟩
      refine ⟨.gap :: (marks.map .mark ++ ps), ?_, fun first => ?_⟩
      · simp [count_gap_marks, hGaps]
      · have hItem := (Writes.marks first marks).append (hWrites first)
        simp only [List.map_cons, moreItems]
        split
        · next hLong =>
          simp only [hLong, if_true] at hItem
          have hText := Writes.gap (.wrapped 6) hItem
          simpa [Text.spaces, continuationIndent, hMarks] using hText
        · next hShort =>
          simp only [hShort, if_false] at hItem
          simpa [hMarks] using Writes.gap .line hItem

theorem laid_selectText (distinct : Bool) {ts : List (Nat → String)} (h : ∀ t ∈ ts, Numbered t) :
    Laid (ts.length - 1) fun k => selectText distinct (ts.map (· k)) := by
  cases ts with
  | nil => exact laid_const _
  | cons t ts =>
      have hFirst := (h t (by simp)).laid.behind
        (if distinct then "SELECT DISTINCT " else "SELECT ")
      have hMore := laid_moreItems (fun u hu => h u (List.mem_cons_of_mem _ hu)) fun k =>
        lengthAfter (if distinct then "SELECT DISTINCT " else "SELECT ").utf8ByteSize (t k)
      have hAll := hFirst.append hMore
      rw [Nat.zero_add] at hAll
      exact hAll

end TableQuery
