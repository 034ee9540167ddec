import TableQuery.Proofs.QueryText.Terminator
import TableQuery.Proofs.Text.Indent

/-!
# Leftover — semicolons that stripping leaves

Stripping drops one semicolon at the end and one in front of a comment, so where two of them stand
there, with nothing but blanks between them, the first one is left. This file finds out what is left
at the end (`endsIn_strip_iff`), and when stripping once more would change something
(`strip_eq_self_iff`); the main statement, `leftover_strip`, is about both, and about the derived
table that the query becomes.
-/

namespace TableQuery

open QueryText

/-! ## Characters that are not blank -/

namespace Text

/-- The characters that are not blank. -/
def inked (cs : List Char) : List Char :=
  cs.filter fun c => !isBlank c

@[simp] theorem inked_append (cs ds : List Char) : inked (cs ++ ds) = inked cs ++ inked ds :=
  List.filter_append ..

theorem inked_eq_nil {cs : List Char} (h : ∀ c ∈ cs, isBlank c = true) : inked cs = [] := by
  simpa [inked] using h

theorem inked_cons_of_not_isBlank {c : Char} (h : isBlank c = false) (cs : List Char) :
    inked (c :: cs) = c :: inked cs :=
  List.filter_cons_of_pos (by simp [h])

theorem inked_cons_of_isBlank {c : Char} (h : isBlank c = true) (cs : List Char) :
    inked (c :: cs) = inked cs :=
  List.filter_cons_of_neg (by simp [h])

theorem isBlank_of_mem_spaces {width : Nat} {c : Char} (h : c ∈ List.replicate width ' ') :
    isBlank c = true := by
  rw [List.eq_of_mem_replicate h]
  decide

/-- What such characters end in, they end in behind some place of the text. -/
theorem suffix_inked_iff {ds cs : List Char} :
    ds <:+ inked cs ↔ ∃ tail, tail <:+ cs ∧ inked tail = ds := by
  constructor
  · rintro ⟨front, hSplit⟩
    rcases List.filter_eq_append_iff.1 hSplit.symm with ⟨before, tail, rfl, -, hTail⟩
    exact ⟨tail, List.suffix_append before tail, hTail⟩
  · rintro ⟨tail, ⟨before, rfl⟩, rfl⟩
    rw [inked_append]
    exact List.suffix_append _ _

/-- Trimming takes blanks only. -/
theorem inked_trim (s : String) : inked (trim s).toList = inked s.toList := by
  rcases trim_split s with ⟨front, tail, hFront, hTail, hSplit⟩
  rw [hSplit, inked_append, inked_append, inked_eq_nil hFront, inked_eq_nil hTail]
  simp

/-- Moving a text to the right adds blanks and drops line ends. -/
theorem inked_reindented (width : Nat) (cs : List Char) :
    inked (reindented width cs) = inked cs := by
  have hSpaces : inked (List.replicate width ' ') = [] :=
    inked_eq_nil fun _ => isBlank_of_mem_spaces
  have hFeed (ds : List Char) : inked ('\n' :: ds) = inked ds := inked_cons_of_isBlank rfl ds
  have hReturn (ds : List Char) : inked ('\r' :: ds) = inked ds := inked_cons_of_isBlank rfl ds
  fun_induction reindented width cs with
  | case1 => rfl
  | case2 => rfl
  | case3 cs hSome ih => rw [hFeed, hFeed, inked_append, hSpaces, ih, List.nil_append]
  | case4 => rfl
  | case5 cs hSome ih =>
      rw [hFeed, hReturn, hFeed, inked_append, hSpaces, ih, List.nil_append]
  | case6 c cs hFeed' hReturn' ih =>
      cases hBlank : isBlank c with
      | true => rw [inked_cons_of_isBlank hBlank, inked_cons_of_isBlank hBlank, ih]
      | false => rw [inked_cons_of_not_isBlank hBlank, inked_cons_of_not_isBlank hBlank, ih]

theorem inked_indent (width : Nat) (s : String) :
    inked (indent width s).toList = inked s.toList := by
  rw [toList_indent]
  split
  · next hEmpty => rw [hEmpty, String.toList_empty]
  · rw [inked_append, inked_eq_nil fun _ => isBlank_of_mem_spaces, inked_reindented,
      List.nil_append]

end Text

namespace QueryText

open Text (inked inked_append inked_eq_nil suffix_inked_iff)

/-! ## Semicolons at the end -/

/-- Up to blanks, the text ends in these characters. -/
def EndsIn (ds cs : List Char) : Prop :=
  ds <:+ inked cs

instance (ds cs : List Char) : Decidable (EndsIn ds cs) :=
  inferInstanceAs (Decidable (ds <:+ inked cs))

/-- What text without dashes ends in, it ends in behind any dash. -/
theorem suffix_behind_iff {tail front rest : List Char} (h : '-' ∉ tail) :
    tail <:+ front ++ '-' :: rest ↔ tail <:+ rest := by
  have hRest : '-' :: rest <:+ front ++ '-' :: rest := List.suffix_append front _
  constructor
  · intro hTail
    rcases Nat.lt_or_ge rest.length tail.length with hLonger | hShorter
    · -- a longer tail would hold the dash
      have hDash : '-' :: rest <:+ tail := List.suffix_of_suffix_length_le hRest hTail hLonger
      exact absurd (hDash.mem List.mem_cons_self) h
    · exact List.suffix_of_suffix_length_le hTail ((List.suffix_cons _ rest).trans hRest) hShorter
  · intro hTail
    exact hTail.trans ((List.suffix_cons _ rest).trans hRest)

theorem dash_mem_broken_iff {cs : List Char} : '-' ∈ broken cs ↔ '-' ∈ cs := by
  induction cs using broken_induction with
  | nil => exact Iff.rfl
  | terminator front rest hFront _ =>
      rw [broken_terminator hFront]
      simp
  | cons c cs hKeep ih => rw [broken_cons hKeep, List.mem_cons, List.mem_cons, ih]

/-- Without dashes there are no comments. -/
theorem broken_of_dash_notMem {cs : List Char} (h : '-' ∉ cs) : broken cs = cs := by
  rw [broken_eq_self_iff]
  rintro ⟨behind, hSuffix, front, rest, -, rfl⟩
  exact h (hSuffix.mem (by simp))

/-- Behind the last dash, breaking changes nothing. -/
theorem suffix_broken_iff {tail cs : List Char} (h : '-' ∉ tail) :
    tail <:+ broken cs ↔ tail <:+ cs := by
  induction cs using broken_induction with
  | nil => exact Iff.rfl
  | terminator front rest hFront ih =>
      have hBefore : front ++ '-' :: '-' :: rest = (front ++ ['-']) ++ '-' :: rest := by simp
      have hAfter : tail <:+ ['\n', '-'] ++ '-' :: broken rest ↔ tail <:+ broken rest :=
        suffix_behind_iff h
      rw [broken_terminator hFront, hBefore, suffix_behind_iff h]
      exact hAfter.trans ih
  | cons c cs hKeep ih =>
      have hWhole : tail = c :: broken cs ↔ tail = c :: cs := by
        constructor
        · rintro rfl
          have hDash : '-' ∉ cs := fun hDash =>
            h (List.mem_cons_of_mem c (dash_mem_broken_iff.2 hDash))
          rw [broken_of_dash_notMem hDash]
        · rintro rfl
          rw [broken_of_dash_notMem fun hDash => h (List.mem_cons_of_mem c hDash)]
      rw [broken_cons hKeep, List.suffix_cons_iff, List.suffix_cons_iff, hWhole, ih]

theorem endsIn_broken_iff {ds cs : List Char} (h : '-' ∉ ds) :
    EndsIn ds (broken cs) ↔ EndsIn ds cs := by
  have hTail {tail : List Char} (hInked : inked tail = ds) : '-' ∉ tail := by
    intro hDash
    refine h ?_
    rw [← hInked]
    exact List.mem_filter.2 ⟨hDash, rfl⟩
  unfold EndsIn
  rw [suffix_inked_iff, suffix_inked_iff]
  constructor
  · rintro ⟨tail, hSuffix, hInked⟩
    exact ⟨tail, (suffix_broken_iff (hTail hInked)).1 hSuffix, hInked⟩
  · rintro ⟨tail, hSuffix, hInked⟩
    exact ⟨tail, (suffix_broken_iff (hTail hInked)).2 hSuffix, hInked⟩

theorem IsTerminator.inked_eq {cs : List Char} (h : IsTerminator cs) : inked cs = [';'] := by
  rcases h with ⟨before, after, hBefore, hAfter, rfl⟩
  rw [inked_append, inked_eq_nil hBefore, Text.inked_cons_of_not_isBlank rfl, inked_eq_nil hAfter]
  rfl

theorem isBlank_of_getLast?_trimEndChars {cs : List Char} {c : Char}
    (h : (Text.trimEndChars cs).getLast? = some c) : Text.isBlank c = false := by
  have hSome : Text.trimEndChars cs ≠ [] := by
    intro hNil
    simp [hNil] at h
  rw [← List.getLast_of_getLast?_eq_some h]
  exact Bool.eq_false_iff.2 (List.rdropWhile_last_not Text.isBlank cs hSome)

/-- The last character that is not blank is the last one in front of the blanks at the end. -/
theorem endsIn_singleton_iff {c : Char} {cs : List Char} :
    EndsIn [c] cs ↔ (Text.trimEndChars cs).getLast? = some c := by
  rcases exists_trimEndChars cs with ⟨tail, hTail, hSplit⟩
  have hInked : inked cs = inked (Text.trimEndChars cs) := by
    calc
      inked cs = inked (Text.trimEndChars cs ++ tail) := by rw [← hSplit]
      _ = inked (Text.trimEndChars cs) := by
          rw [inked_append, inked_eq_nil hTail, List.append_nil]
  rw [EndsIn, hInked]
  rcases List.eq_nil_or_concat (Text.trimEndChars cs) with hNil | ⟨front, last, hLast⟩
  · simp [hNil, inked]
  · have hMark : Text.isBlank last = false := by
      have hFound : (Text.trimEndChars cs).getLast? = some last := by simp [hLast]
      exact isBlank_of_getLast?_trimEndChars hFound
    rw [hLast, List.concat_eq_append, inked_append, Text.inked_cons_of_not_isBlank hMark,
      List.singleton_suffix_iff_getLast?_eq_some]
    simp [inked]

theorem endsIn_two_of {cs : List Char} (h : EndsIn [';', ';'] cs) : EndsIn [';'] cs :=
  (List.suffix_cons ';' [';']).trans h

/-- What is left behind one semicolon ends in another one if there are two of them. -/
theorem endsIn_dropTerminator_iff {cs : List Char} :
    EndsIn [';'] (dropTerminator cs) ↔ EndsIn [';', ';'] cs := by
  rcases dropTerminator_cases cs with ⟨-, last, hLast, hSplit⟩ | ⟨hNone, hSame⟩
  · have hInked : inked cs = inked (dropTerminator cs) ++ [';'] := by
      calc
        inked cs = inked (dropTerminator cs ++ last) := by rw [← hSplit]
        _ = inked (dropTerminator cs) ++ [';'] := by rw [inked_append, hLast.inked_eq]
    rw [EndsIn, EndsIn, hInked]
    have hTwo : [';'] ++ [';'] <:+ inked (dropTerminator cs) ++ [';'] ↔
        [';'] <:+ inked (dropTerminator cs) := List.suffix_append_self_iff
    exact hTwo.symm
  · rw [Ne, ← endsIn_singleton_iff] at hNone
    rw [hSame]
    exact iff_of_false hNone fun hTwo => hNone (endsIn_two_of hTwo)

/-- The stripped query ends in a semicolon exactly if the query ends in two. -/
theorem endsIn_strip_iff (query : String) :
    EndsIn [';'] (strip query).toList ↔ EndsIn [';', ';'] query.toList := by
  have hBroken : strip query = String.ofList (dropTerminator (broken (Text.trim query).toList)) :=
    rfl
  rw [hBroken, String.toList_ofList, endsIn_dropTerminator_iff, endsIn_broken_iff (by decide),
    EndsIn, Text.inked_trim, EndsIn]

/-! ## Patterns in a text -/

/-- Behind the text of a pattern's last character, nothing of the pattern is found. -/
theorem prefix_of_padded {z : Char} {m cs tail : List Char} (hTail : z ∉ tail)
    (h : m ++ [z] <+: cs ++ tail) : m ++ [z] <+: cs := by
  induction tail using List.reverseRecOn with
  | nil => simpa using h
  | append_singleton tail c ih =>
      rw [List.mem_append, not_or, List.mem_singleton] at hTail
      rw [← List.append_assoc, List.prefix_concat_iff] at h
      rcases h with hWhole | hPrefix
      · exact absurd (List.append_inj_right' hWhole rfl) (by simpa using hTail.2)
      · exact ih hTail.1 hPrefix

/-- Text without the first character of a pattern in front of it, and without the last one behind
it, adds nothing to where the pattern is found. -/
theorem infix_padded_iff {a z : Char} {m front cs tail : List Char} (hFront : a ∉ front)
    (hTail : z ∉ tail) :
    a :: (m ++ [z]) <:+: front ++ (cs ++ tail) ↔ a :: (m ++ [z]) <:+: cs := by
  constructor
  · intro h
    have hBehind : a :: (m ++ [z]) <:+: cs ++ tail := by
      induction front with
      | nil => exact h
      | cons c front ih =>
          rw [List.mem_cons, not_or] at hFront
          rw [List.cons_append, List.infix_cons_iff] at h
          rcases h with hPrefix | hInfix
          · exact absurd (List.cons_prefix_cons.1 hPrefix).1 hFront.1
          · exact ih hFront.2 hInfix
    clear h
    induction tail using List.reverseRecOn with
    | nil => simpa using hBehind
    | append_singleton tail c ih =>
        rw [List.mem_append, not_or, List.mem_singleton] at hTail
        rw [← List.append_assoc, List.infix_concat_iff] at hBehind
        rcases hBehind with hSuffix | hInfix
        · have hLast := hSuffix.getLast (by simp)
          exact absurd (by simpa using hLast) hTail.2
        · exact ih hTail.1 hInfix
  · intro h
    have hMiddle : cs <:+: front ++ (cs ++ tail) := ⟨front, tail, by simp⟩
    exact h.trans hMiddle

/-- Two semicolons in front of the dashes of a comment, with nothing but blanks between them, stand
somewhere in the text. -/
def HoldsTwo (cs : List Char) : Prop :=
  ∃ between after, (∀ c ∈ between, Text.isBlank c = true) ∧ (∀ c ∈ after, Text.isBlank c = true) ∧
    ';' :: (between ++ ';' :: (after ++ ['-', '-'])) <:+: cs

theorem startsBroken_iff {cs : List Char} :
    StartsBroken cs ↔ ∃ before after, (∀ c ∈ before, Text.isBlank c = true) ∧
      (∀ c ∈ after, Text.isBlank c = true) ∧ before ++ ';' :: (after ++ ['-', '-']) <+: cs := by
  constructor
  · rintro ⟨-, rest, ⟨before, after, hBefore, hAfter, rfl⟩, rfl⟩
    exact ⟨before, after, hBefore, hAfter, rest, by simp⟩
  · rintro ⟨before, after, hBefore, hAfter, rest, rfl⟩
    exact ⟨before ++ ';' :: after, rest, ⟨before, after, hBefore, hAfter, rfl⟩, by simp⟩

theorem startsBroken_append_iff {front : List Char} (h : ∀ c ∈ front, Text.isBlank c = true)
    {cs : List Char} : StartsBroken (front ++ cs) ↔ StartsBroken cs := by
  have hFound (ds : List Char) :
      StartsBroken ds ↔ ∃ rest, afterCommentedSemicolon? ds = some rest := by
    simp only [afterCommentedSemicolon?_eq_some_iff, StartsBroken]
    exact exists_comm
  rw [hFound, hFound, afterCommentedSemicolon?, afterSemicolon?, trimStartChars_append h]
  rfl

theorem not_startsBroken_dash (cs : List Char) : ¬ StartsBroken ('-' :: cs) := by
  rintro ⟨front, rest, hFront, hSplit⟩
  cases front with
  | nil => exact hFront.ne_nil rfl
  | cons c front =>
      rw [List.cons_append, List.cons.injEq] at hSplit
      exact ne_dash_of_isSpare (hFront.isSpare c List.mem_cons_self) hSplit.1.symm

theorem semicolon_notMem {cs : List Char} (h : ∀ c ∈ cs, Text.isBlank c = true) : ';' ∉ cs :=
  fun hMem => absurd (h _ hMem) (by decide)

theorem dash_notMem {cs : List Char} (h : ∀ c ∈ cs, isSpare c = true) : '-' ∉ cs :=
  fun hMem => ne_dash_of_isSpare (h _ hMem) rfl

theorem holdsBroken_iff {cs : List Char} :
    HoldsBroken cs ↔ ∃ after, (∀ c ∈ after, Text.isBlank c = true) ∧
      ';' :: (after ++ ['-', '-']) <:+: cs := by
  constructor
  · rintro ⟨-, hSuffix, -, rest, ⟨before, after, -, hAfter, rfl⟩, rfl⟩
    refine ⟨after, hAfter, List.IsInfix.trans ?_ hSuffix.isInfix⟩
    exact ⟨before, rest, by simp⟩
  · rintro ⟨after, hAfter, front, rest, rfl⟩
    refine ⟨';' :: (after ++ '-' :: '-' :: rest), ⟨front, by simp⟩, ';' :: after, rest, ?_, rfl⟩
    exact ⟨[], after, by simp, hAfter, rfl⟩

theorem holdsBroken_padded_iff {front tail : List Char} (hFront : ';' ∉ front)
    (hTail : '-' ∉ tail) (cs : List Char) :
    HoldsBroken (front ++ (cs ++ tail)) ↔ HoldsBroken cs := by
  rw [holdsBroken_iff, holdsBroken_iff]
  refine exists_congr fun after => and_congr_right fun _ => ?_
  have hPattern : after ++ ['-', '-'] = (after ++ ['-']) ++ ['-'] := by simp
  rw [hPattern, infix_padded_iff hFront hTail]

theorem holdsTwo_padded_iff {front tail : List Char} (hFront : ';' ∉ front) (hTail : '-' ∉ tail)
    (cs : List Char) : HoldsTwo (front ++ (cs ++ tail)) ↔ HoldsTwo cs := by
  unfold HoldsTwo
  refine exists_congr fun between => exists_congr fun after => ?_
  have hPattern : between ++ ';' :: (after ++ ['-', '-']) =
      (between ++ ';' :: (after ++ ['-'])) ++ ['-'] := by simp
  rw [hPattern, infix_padded_iff hFront hTail]

theorem holdsTwo_behind_iff {front : List Char} (h : ';' ∉ front) (cs : List Char) :
    HoldsTwo (front ++ cs) ↔ HoldsTwo cs := by
  simpa using holdsTwo_padded_iff h List.not_mem_nil cs

theorem holdsBroken_cons_iff {c : Char} {cs : List Char} :
    HoldsBroken (c :: cs) ↔ StartsBroken (c :: cs) ∨ HoldsBroken cs := by
  constructor
  · rintro ⟨behind, hSuffix, hStarts⟩
    rcases List.suffix_cons_iff.1 hSuffix with rfl | hSuffix
    · exact .inl hStarts
    · exact .inr ⟨behind, hSuffix, hStarts⟩
  · rintro (hStarts | ⟨behind, hSuffix, hStarts⟩)
    · exact ⟨c :: cs, List.suffix_refl _, hStarts⟩
    · exact ⟨behind, hSuffix.trans (List.suffix_cons c cs), hStarts⟩

theorem holdsTwo_semicolon_iff {cs : List Char} :
    HoldsTwo (';' :: cs) ↔ StartsBroken cs ∨ HoldsTwo cs := by
  rw [startsBroken_iff]
  constructor
  · rintro ⟨between, after, hBetween, hAfter, hInfix⟩
    rcases List.infix_cons_iff.1 hInfix with hPrefix | hInfix
    · exact .inl ⟨between, after, hBetween, hAfter, (List.cons_prefix_cons.1 hPrefix).2⟩
    · exact .inr ⟨between, after, hBetween, hAfter, hInfix⟩
  · rintro (⟨between, after, hBetween, hAfter, hPrefix⟩ |
      ⟨between, after, hBetween, hAfter, hInfix⟩)
    · refine ⟨between, after, hBetween, hAfter, List.IsPrefix.isInfix ?_⟩
      exact List.cons_prefix_cons.2 ⟨rfl, hPrefix⟩
    · exact ⟨between, after, hBetween, hAfter, hInfix.trans (List.suffix_cons ';' cs).isInfix⟩

/-! ## Semicolons in front of a broken one -/

/-- Dashes behind blanks were there before, unless a semicolon was broken in front of them. -/
theorem dashes_of_broken {after rest cs : List Char} (hAfter : ∀ c ∈ after, Text.isBlank c = true)
    (h : broken cs = after ++ '-' :: '-' :: rest) :
    StartsBroken cs ∨ ∃ rest', cs = after ++ '-' :: '-' :: rest' := by
  by_cases hStarts : StartsBroken cs
  · exact .inl hStarts
  · right
    induction after generalizing cs with
    | nil =>
        cases cs with
        | nil => cases h
        | cons c cs =>
            rw [broken_cons hStarts, List.nil_append, List.cons.injEq] at h
            rcases h with ⟨rfl, hSecond⟩
            -- a line end is what breaking would have put in front of the second dash
            have hKeep : ¬ StartsBroken cs := by
              rintro ⟨front, rest', hFront, rfl⟩
              rw [broken_terminator hFront] at hSecond
              cases hSecond
            cases cs with
            | nil => cases hSecond
            | cons d cs =>
                rw [broken_cons hKeep, List.cons.injEq] at hSecond
                exact ⟨cs, by rw [hSecond.1]; rfl⟩
    | cons b after ih =>
        rw [List.forall_mem_cons] at hAfter
        cases cs with
        | nil => cases h
        | cons c cs =>
            rw [broken_cons hStarts, List.cons_append, List.cons.injEq] at h
            rcases h with ⟨rfl, hBehind⟩
            have hBlank : ∀ d ∈ [c], Text.isBlank d = true := List.forall_mem_singleton.2 hAfter.1
            have hKeep : ¬ StartsBroken cs := fun hLater =>
              hStarts ((startsBroken_append_iff hBlank).2 hLater)
            rcases ih hAfter.2 hBehind hKeep with ⟨rest', rfl⟩
            exact ⟨rest', rfl⟩

/-- A semicolon comes in front of a comment by breaking the one behind it. -/
theorem startsBroken_broken_iff {cs : List Char} (hKeep : ¬ StartsBroken (';' :: cs)) :
    StartsBroken (';' :: broken cs) ↔ StartsBroken cs := by
  constructor
  · intro hStarts
    rcases startsBroken_iff.1 hStarts with ⟨before, after, hBefore, hAfter, rest, hSplit⟩
    cases before with
    | nil =>
        simp only [List.nil_append, List.cons_append, List.append_assoc, List.cons.injEq,
          true_and] at hSplit
        rcases dashes_of_broken hAfter hSplit.symm with hLater | ⟨rest', rfl⟩
        · exact hLater
        · refine absurd ⟨';' :: after, rest', ?_, rfl⟩ hKeep
          exact ⟨[], after, by simp, hAfter, rfl⟩
    | cons b before =>
        rw [List.cons_append, List.cons_append, List.cons.injEq] at hSplit
        have hBlank := hBefore b List.mem_cons_self
        rw [hSplit.1] at hBlank
        exact absurd hBlank (by decide)
  · rintro ⟨front, rest, hFront, rfl⟩
    rw [broken_terminator hFront]
    have hLineEnd : ∀ c ∈ ['\n'], Text.isBlank c = true := List.forall_mem_singleton.2 rfl
    exact ⟨[';', '\n'], broken rest, ⟨[], ['\n'], by simp, hLineEnd, rfl⟩, rfl⟩

/-- The semicolon that is broken is the last one in front of its comment. -/
theorem holdsTwo_terminator_iff {front : List Char} (h : IsTerminator front) {rest : List Char} :
    HoldsTwo (front ++ '-' :: '-' :: rest) ↔ HoldsTwo rest := by
  rcases h with ⟨before, after, hBefore, hAfter, rfl⟩
  have hBehind : ';' ∉ after ++ ['-', '-'] := by simpa using semicolon_notMem hAfter
  have hDashes := holdsTwo_behind_iff hBehind rest
  rw [List.append_assoc, List.cons_append, List.cons_append, List.nil_append] at hDashes
  rw [List.append_assoc, List.cons_append, holdsTwo_behind_iff (semicolon_notMem hBefore),
    holdsTwo_semicolon_iff, startsBroken_append_iff hAfter, hDashes]
  exact or_iff_right (not_startsBroken_dash _)

/-- After breaking, a semicolon stands in front of a comment where there were two. -/
theorem holdsBroken_broken_iff {cs : List Char} : HoldsBroken (broken cs) ↔ HoldsTwo cs := by
  induction cs using broken_induction with
  | nil => simp [broken, breakBeforeComments, holdsBroken_iff, HoldsTwo]
  | terminator front rest hFront ih =>
      have hLineEnd :
          HoldsBroken ('\n' :: '-' :: '-' :: broken rest) ↔ HoldsBroken (broken rest) := by
        have hFeed : ';' ∉ ['\n', '-', '-'] := by decide
        simpa using holdsBroken_padded_iff hFeed List.not_mem_nil (broken rest)
      rw [broken_terminator hFront, hLineEnd, holdsTwo_terminator_iff hFront, ih]
  | cons c cs hKeep ih =>
      rw [broken_cons hKeep, holdsBroken_cons_iff, ih]
      by_cases hSemicolon : c = ';'
      · subst hSemicolon
        rw [holdsTwo_semicolon_iff, startsBroken_broken_iff hKeep]
      · have hOther : ';' ∉ [c] := by simpa [eq_comm] using hSemicolon
        have hBehind : HoldsTwo (c :: cs) ↔ HoldsTwo cs := holdsTwo_behind_iff hOther cs
        rw [hBehind]
        refine or_iff_right_of_imp fun hStarts => ?_
        -- what starts with another character than a semicolon starts with a blank
        rcases startsBroken_iff.1 hStarts with ⟨before, after, hBefore, hAfter, rest, hSplit⟩
        cases before with
        | nil => exact absurd (List.cons.inj hSplit).1.symm hSemicolon
        | cons b before =>
            rw [List.forall_mem_cons] at hBefore
            rw [List.cons_append, List.cons_append, List.cons.injEq] at hSplit
            have hLater : StartsBroken (broken cs) :=
              startsBroken_iff.2 ⟨before, after, hBefore.2, hAfter, rest, hSplit.2⟩
            exact ih.1 ⟨broken cs, List.suffix_refl _, hLater⟩

theorem holdsBroken_strip_iff (query : String) :
    HoldsBroken (strip query).toList ↔ HoldsTwo query.toList := by
  rcases trim_split query with ⟨front, tail, hFront, hTail, hQuery⟩
  rcases strip_split query with ⟨last, hLast, hBroken⟩
  have hDash : '-' ∉ last := by
    rcases hLast with rfl | hLast
    · exact List.not_mem_nil
    · exact dash_notMem hLast.isSpare
  have hDashTail : '-' ∉ tail := dash_notMem fun c hc => isSpare_of_isBlank (hTail c hc)
  have hStripped := holdsBroken_padded_iff List.not_mem_nil hDash (strip query).toList
  have hTrimmed :=
    holdsTwo_padded_iff (semicolon_notMem hFront) hDashTail (Text.trim query).toList
  rw [List.nil_append, ← hBroken, holdsBroken_broken_iff] at hStripped
  rw [← hQuery] at hTrimmed
  exact hStripped.symm.trans hTrimmed.symm

theorem getLast?_broken (cs : List Char) : (broken cs).getLast? = cs.getLast? := by
  induction cs using broken_induction with
  | nil => rfl
  | terminator front rest hFront ih =>
      rw [broken_terminator hFront, List.getLast?_append]
      simp [List.getLast?_cons, ih]
  | cons c cs hKeep ih => rw [broken_cons hKeep, List.getLast?_cons, List.getLast?_cons, ih]

theorem length_broken_le (cs : List Char) : (broken cs).length ≤ cs.length := by
  induction cs using broken_induction with
  | nil => exact Nat.le_refl _
  | terminator front rest hFront ih =>
      have hSome := List.length_pos_iff.2 hFront.ne_nil
      rw [broken_terminator hFront]
      simp only [List.length_append, List.length_cons]
      omega
  | cons c cs hKeep ih =>
      rw [broken_cons hKeep]
      exact Nat.succ_le_succ ih

/-! ## Blanks at the ends -/

theorem head?_of_prefix {cs ds : List Char} (h : cs <+: ds) {c : Char} (hc : cs.head? = some c) :
    ds.head? = some c := by
  rcases h with ⟨rest, rfl⟩
  simp [hc]

/-- No blanks stand at the ends. -/
structure Tight (cs : List Char) : Prop where
  head : ∀ c ∈ cs.head?, Text.isBlank c = false
  last : ∀ c ∈ cs.getLast?, Text.isBlank c = false

theorem tight_trim (s : String) : Tight (Text.trim s).toList := by
  rw [Text.trim, String.toList_ofList]
  refine ⟨fun c hc => ?_, fun c hc => isBlank_of_getLast?_trimEndChars hc⟩
  -- what is cut off at the end leaves the head as it is
  have hHead : (Text.trimStartChars s.toList).head? = some c :=
    head?_of_prefix (List.rdropWhile_prefix Text.isBlank _) hc
  have hMark := List.head?_dropWhile_not Text.isBlank s.toList
  rw [Text.trimStartChars] at hHead
  simpa [hHead] using hMark

/-- Trimming changes nothing exactly where there are no blanks at the ends. -/
theorem trim_eq_self_iff (s : String) : Text.trim s = s ↔ Tight s.toList := by
  constructor
  · intro h
    rw [← h]
    exact tight_trim s
  · intro h
    have hStart : Text.trimStartChars s.toList = s.toList := by
      rw [Text.trimStartChars, List.dropWhile_eq_self_iff]
      intro hSome
      simpa using h.head _ (List.head?_eq_getElem? ▸ List.getElem?_eq_getElem hSome)
    have hEnd : Text.trimEndChars s.toList = s.toList := by
      refine List.rdropWhile_eq_self_iff.2 fun hSome => ?_
      simpa using h.last _ (List.getLast?_eq_some_getLast hSome)
    rw [Text.trim, hStart, hEnd, String.ofList_toList]

theorem startsBroken_trim_iff (query : String) :
    StartsBroken (Text.trim query).toList ↔ StartsBroken query.toList := by
  rcases trim_split query with ⟨front, tail, hFront, hTail, hQuery⟩
  rw [hQuery, startsBroken_append_iff hFront]
  generalize (Text.trim query).toList = cs
  constructor
  · rintro ⟨first, rest, hFirst, rfl⟩
    exact ⟨first, rest ++ tail, hFirst, by simp⟩
  · rintro ⟨first, rest, hFirst, hSplit⟩
    have hDash : '-' ∉ tail := dash_notMem fun c hc => isSpare_of_isBlank (hTail c hc)
    have hPrefix : (first ++ ['-']) ++ ['-'] <+: cs ++ tail := ⟨rest, by simp [hSplit]⟩
    rcases prefix_of_padded hDash hPrefix with ⟨rest', rfl⟩
    exact ⟨first, rest', hFirst, by simp⟩

theorem isBlank_of_getLast?_dropTerminator {cs : List Char}
    (h : ∀ c ∈ cs.getLast?, Text.isBlank c = false) :
    ∀ c ∈ (dropTerminator cs).getLast?, Text.isBlank c = false := by
  intro c hc
  unfold dropTerminator at hc
  split at hc
  · exact isBlank_of_getLast?_trimEndChars hc
  · exact h c hc

theorem toList_strip (query : String) :
    (strip query).toList = dropTerminator (broken (Text.trim query).toList) := by
  rw [strip, String.toList_ofList]
  rfl

/-- Only a line end for a semicolon can be a blank at an end. -/
theorem tight_strip_iff (query : String) :
    Tight (strip query).toList ↔ ¬ StartsBroken query.toList := by
  rw [← startsBroken_trim_iff]
  have hTrimmed := tight_trim query
  rcases strip_split query with ⟨last, hLast, hBroken⟩
  have hEnd : ∀ c ∈ (strip query).toList.getLast?, Text.isBlank c = false := by
    rw [toList_strip]
    refine isBlank_of_getLast?_dropTerminator ?_
    rw [getLast?_broken]
    exact hTrimmed.last
  generalize (Text.trim query).toList = cs at hBroken hTrimmed ⊢
  generalize (strip query).toList = stripped at hBroken hEnd ⊢
  constructor
  · rintro hTight ⟨front, rest, hFront, rfl⟩
    rw [broken_terminator hFront] at hBroken
    cases stripped with
    | nil =>
        -- the dashes are no part of a terminator
        rcases hLast with rfl | hLast
        · cases hBroken
        · refine dash_notMem hLast.isSpare ?_
          rw [List.nil_append] at hBroken
          simp [← hBroken]
    | cons c stripped =>
        have hLineEnd : '\n' = c := (List.cons.inj hBroken).1
        exact absurd (hTight.head c rfl) (by simp [← hLineEnd]; decide)
  · intro hKeep
    refine ⟨fun c hc => ?_, hEnd⟩
    have hHead : (broken cs).head? = some c := by
      rw [hBroken]
      exact head?_of_prefix (List.prefix_append stripped last) hc
    cases cs with
    | nil => cases hHead
    | cons d cs =>
        rw [broken_cons hKeep] at hHead
        exact hTrimmed.head c hHead

/-! ## Stripping once more -/

/-- Stripping changes nothing exactly where there is nothing to trim, to break and to drop. -/
theorem strip_eq_self_iff (s : String) :
    strip s = s ↔ Tight s.toList ∧ ¬ HoldsBroken s.toList ∧ ¬ EndsIn [';'] s.toList := by
  rw [← trim_eq_self_iff]
  constructor
  · intro h
    -- every step leaves at most as many characters, so each leaves all of them
    rcases trim_split s with ⟨front, tail, -, -, hTrimmed⟩
    rcases strip_split s with ⟨last, -, hBroken⟩
    have hBrokenLength := length_broken_le (Text.trim s).toList
    have hLength := congrArg List.length hTrimmed
    have hStripped := congrArg List.length hBroken
    rw [h] at hStripped hBroken
    simp only [List.length_append] at hLength hStripped
    have hFront : front = [] := List.length_eq_zero_iff.1 (by omega)
    have hTail : tail = [] := List.length_eq_zero_iff.1 (by omega)
    have hLast : last = [] := List.length_eq_zero_iff.1 (by omega)
    have hTrim : Text.trim s = s := by
      rw [← String.toList_inj]
      simpa [hFront, hTail] using hTrimmed.symm
    have hSame : broken s.toList = s.toList := by simpa [hTrim, hLast] using hBroken
    refine ⟨hTrim, broken_eq_self_iff.1 hSame, fun hEnds => ?_⟩
    have hDropped : dropTerminator s.toList = s.toList := by
      rw [← hSame, ← hTrim, ← toList_strip, h, hTrim, hSame]
    rcases dropTerminator_cases s.toList with ⟨-, terminator, hTerminator, hSplit⟩ | ⟨hNone, -⟩
    · rw [hDropped] at hSplit
      exact hTerminator.ne_nil (List.self_eq_append_right.1 hSplit)
    · exact hNone (endsIn_singleton_iff.1 hEnds)
  · rintro ⟨hTrim, hKeep, hEnds⟩
    rw [← String.toList_inj, toList_strip, hTrim, broken_eq_self_iff.2 hKeep]
    rcases dropTerminator_cases s.toList with ⟨hLast, -⟩ | ⟨-, hSame⟩
    · exact absurd (endsIn_singleton_iff.2 hLast) hEnds
    · exact hSame

/-- Stripping once more changes nothing exactly if no semicolon is left at the end or in front of a
comment, and no line end at the start. -/
theorem strip_strip_eq_iff (query : String) :
    strip (strip query) = strip query ↔
      ¬ EndsIn [';', ';'] query.toList ∧ ¬ HoldsTwo query.toList ∧ ¬ StartsBroken query.toList := by
  rw [strip_eq_self_iff, tight_strip_iff, holdsBroken_strip_iff, endsIn_strip_iff]
  tauto

end QueryText

/-- A query taken up as a relation is written between parentheses, on lines of its own, with nothing
but blanks put in or left out. -/
theorem inked_itemBody {σ : Type} (d : Dialect) (nested : RendererOf σ) (s : σ) (id : Nat)
    (query : String) (schema : Schema) :
    ∃ body, itemBody d nested s (.sqlQuery id query schema) = (.ok ("(\n" ++ body ++ "\n)"), s) ∧
      Text.inked body.toList = Text.inked query.toList := by
  refine ⟨Text.indent d.indent (Text.trim query), rfl, ?_⟩
  rw [Text.inked_indent, Text.inked_trim]

/-- A stripped query ends in a semicolon, up to blanks, exactly if the query ends in two of them
with nothing but blanks between them; and then so does the text between the parentheses of the
derived table that an accepted query becomes. Stripping once more changes nothing exactly if neither
the end nor a comment has two such semicolons in front of it, and the query does not start with a
semicolon in front of a comment. -/
theorem QueryText.leftover_strip (query : String) :
    (EndsIn [';'] (strip query).toList ↔ EndsIn [';', ';'] query.toList) ∧
    (strip (strip query) = strip query ↔
      ¬ EndsIn [';', ';'] query.toList ∧ ¬ HoldsTwo query.toList ∧
        ¬ StartsBroken query.toList) ∧
    ∀ (s : Session) (id : Nat) (es : List Exchange) (r : Relation),
      (s.query query id).run.Ends es (.ok r) →
        ∃ schema, r = .sqlQuery id (strip query) schema ∧
          ∀ (σ : Type) (d : Dialect) (nested : RendererOf σ) (st : σ),
            ∃ body, itemBody d nested st r = (.ok ("(\n" ++ body ++ "\n)"), st) ∧
              Text.inked body.toList = Text.inked (strip query).toList ∧
              (EndsIn [';'] body.toList ↔ EndsIn [';', ';'] query.toList) := by
  refine ⟨endsIn_strip_iff query, strip_strip_eq_iff query, fun s id es r hEnds => ?_⟩
  rcases (Session.ends_query hEnds).2 r rfl with ⟨schema, rfl⟩
  refine ⟨schema, rfl, fun σ d nested st => ?_⟩
  rcases inked_itemBody d nested st id (strip query) schema with ⟨body, hBody, hInked⟩
  refine ⟨body, hBody, hInked, ?_⟩
  rw [EndsIn, hInked]
  exact endsIn_strip_iff query

/-- Of two semicolons at the end one stays. The query is accepted with it, it stands in front of the
parenthesis of the derived table, and stripping once more would drop it. -/
theorem QueryText.strip_leaves_semicolon :
    strip "SELECT 1;;" = "SELECT 1;" ∧ strip (strip "SELECT 1;;") = "SELECT 1" ∧
    (∀ s : Session, (s.query "SELECT 1;;" 0).run.Ends
      [⟨.validate s.connection "SELECT 1;", (.ok [] : Except String (List ColumnDetails))⟩]
      (.ok (.sqlQuery 0 "SELECT 1;" ⟨[]⟩))) ∧
    ∀ (nested : Renderer) (cx : Context),
      itemBody .standard nested cx (.sqlQuery 0 "SELECT 1;" ⟨[]⟩) =
        (.ok "(\n  SELECT 1;\n)", cx) := by
  have hStrip : strip "SELECT 1;;" = "SELECT 1;" := by decide
  have hQuery : requireQuery "SELECT 1;" = .ok () := by decide +kernel
  have hItem : parenthesised .standard (Text.trim "SELECT 1;") = "(\n  SELECT 1;\n)" := by decide
  refine ⟨hStrip, by decide, fun s => ?_, fun nested cx => ?_⟩
  · unfold Session.query
    simp only [hStrip, hQuery]
    refine Attempt.ends_bind_iff.2 (.inr ⟨[], (), _, ?_, ?_, rfl⟩)
    · exact Attempt.ends_ofResult_iff.2 ⟨rfl, rfl⟩
    refine Attempt.ends_bind_iff.2 (.inr ⟨_, [], [], ?_, ?_, (List.append_nil _).symm⟩)
    · exact Attempt.ends_ofReasons_iff.2 ⟨_, Dialogue.ends_request_iff.2 rfl, rfl⟩
    · refine Attempt.ends_bind_iff.2 (.inr ⟨[], ⟨[]⟩, [], ?_, ?_, rfl⟩)
      · exact Attempt.ends_ofResult_iff.2 ⟨rfl, rfl⟩
      · exact Attempt.ends_pure_iff.2 ⟨rfl, rfl⟩
  · rw [itemBody, hItem]

end TableQuery
