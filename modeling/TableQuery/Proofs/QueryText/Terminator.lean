import Mathlib.Data.List.DropRight
import TableQuery.Proofs.QueryText.Reader
import TableQuery.Proofs.Session.Exchange
import TableQuery.Session.Query

/-!
# Terminator — what stripping does to a query

Stripping looks for semicolons without reading the query. Outside of quotes nothing but blanks and
semicolons goes, and nothing but line ends is put in. Inside of quotes a semicolon in front of two
dashes goes as well, and a line end is put in its place: exactly then is a token altered
(`tokens_strip`).
-/

namespace TableQuery
namespace QueryText

/-! ## Blanks at the ends -/

theorem trimStartChars_append {front : List Char} (h : ∀ c ∈ front, Text.isBlank c = true)
    (cs : List Char) : Text.trimStartChars (front ++ cs) = Text.trimStartChars cs :=
  List.dropWhile_append_of_pos h

/-- Trimming at the start takes blanks away, up to a character that is none. -/
theorem exists_trimStartChars (cs : List Char) :
    ∃ front, (∀ c ∈ front, Text.isBlank c = true) ∧ cs = front ++ Text.trimStartChars cs :=
  ⟨cs.takeWhile Text.isBlank, fun _ => List.mem_takeWhile_imp,
    List.takeWhile_append_dropWhile.symm⟩

theorem exists_trimEndChars (cs : List Char) :
    ∃ tail, (∀ c ∈ tail, Text.isBlank c = true) ∧ cs = Text.trimEndChars cs ++ tail :=
  ⟨cs.rtakeWhile Text.isBlank, fun _ => List.mem_rtakeWhile_imp,
    List.rdropWhile_append_rtakeWhile.symm⟩

/-! ## Semicolons in front of comments -/

/-- A semicolon with blanks on both sides. -/
def IsTerminator (cs : List Char) : Prop :=
  ∃ before after, (∀ c ∈ before, Text.isBlank c = true) ∧ (∀ c ∈ after, Text.isBlank c = true) ∧
    cs = before ++ ';' :: after

theorem IsTerminator.isSpare {cs : List Char} (h : IsTerminator cs) :
    ∀ c ∈ cs, QueryText.isSpare c = true := by
  rcases h with ⟨before, after, hBefore, hAfter, rfl⟩
  intro c hc
  rcases List.mem_append.1 hc with hc | hc
  · exact isSpare_of_isBlank (hBefore c hc)
  · rcases List.mem_cons.1 hc with rfl | hc
    · rfl
    · exact isSpare_of_isBlank (hAfter c hc)

theorem IsTerminator.ne_nil {cs : List Char} (h : IsTerminator cs) : cs ≠ [] := by
  rcases h with ⟨before, after, -, -, rfl⟩
  simp

/-- A semicolon at the end is dropped, and the blanks around it; without one nothing is. -/
theorem dropTerminator_cases (cs : List Char) :
    ((Text.trimEndChars cs).getLast? = some ';' ∧
      ∃ last, IsTerminator last ∧ cs = dropTerminator cs ++ last) ∨
    ((Text.trimEndChars cs).getLast? ≠ some ';' ∧ dropTerminator cs = cs) := by
  unfold dropTerminator
  split
  · next hLast =>
    rcases exists_trimEndChars cs with ⟨after, hAfter, hCs⟩
    rcases exists_trimEndChars (Text.trimEndChars cs).dropLast with ⟨before, hBefore, hInit⟩
    refine .inl ⟨hLast, before ++ ';' :: after, ⟨before, after, hBefore, hAfter, rfl⟩, ?_⟩
    calc
      cs = Text.trimEndChars cs ++ after := hCs
      _ = ((Text.trimEndChars cs).dropLast ++ [';']) ++ after := by
          rw [List.dropLast_append_getLast? _ hLast]
      _ = ((Text.trimEndChars (Text.trimEndChars cs).dropLast ++ before) ++ [';']) ++ after := by
          rw [← hInit]
      _ = Text.trimEndChars (Text.trimEndChars cs).dropLast ++ (before ++ ';' :: after) := by simp
  · next hLast => exact .inr ⟨hLast, rfl⟩

/-- At the end at most one semicolon is dropped, and the blanks around it. -/
theorem exists_dropTerminator (cs : List Char) :
    ∃ last, (last = [] ∨ IsTerminator last) ∧ cs = dropTerminator cs ++ last := by
  rcases dropTerminator_cases cs with ⟨-, last, hLast, hSplit⟩ | ⟨-, hSame⟩
  · exact ⟨last, .inr hLast, hSplit⟩
  · exact ⟨[], .inl rfl, by rw [hSame, List.append_nil]⟩

/-- The first two dashes behind a semicolon, with nothing but blanks around it, are found. -/
theorem afterCommentedSemicolon?_eq_some_iff {cs rest : List Char} :
    afterCommentedSemicolon? cs = some rest ↔
      ∃ front, IsTerminator front ∧ cs = front ++ '-' :: '-' :: rest := by
  constructor
  · intro h
    rcases exists_trimStartChars cs with ⟨before, hBefore, hCs⟩
    unfold afterCommentedSemicolon? afterSemicolon? at h
    split at h
    · next dashes hFound =>
      split at hFound
      · next behind hSemicolon =>
        cases h
        rcases exists_trimStartChars behind with ⟨after, hAfter, hBehind⟩
        refine ⟨before ++ ';' :: after, ⟨before, after, hBefore, hAfter, rfl⟩, ?_⟩
        rw [hCs, hSemicolon, hBehind, Option.some.inj hFound]
        simp
      · cases hFound
    · cases h
  · rintro ⟨-, ⟨before, after, hBefore, hAfter, rfl⟩, rfl⟩
    have hSemicolon : Text.trimStartChars (before ++ ';' :: (after ++ '-' :: '-' :: rest)) =
        ';' :: (after ++ '-' :: '-' :: rest) := by
      rw [trimStartChars_append hBefore]
      rfl
    have hDashes : Text.trimStartChars (after ++ '-' :: '-' :: rest) = '-' :: '-' :: rest := by
      rw [trimStartChars_append hAfter]
      rfl
    simp only [afterCommentedSemicolon?, afterSemicolon?, List.append_assoc, List.cons_append,
      hSemicolon, hDashes]

/-- A semicolon in front of the dashes of a comment comes first. -/
def StartsBroken (cs : List Char) : Prop :=
  ∃ front rest, IsTerminator front ∧ cs = front ++ '-' :: '-' :: rest

/-- With a line end in place of every semicolon in front of the dashes of a comment. -/
def broken (cs : List Char) : List Char :=
  breakBeforeComments cs.length cs

theorem length_lt_of_afterCommentedSemicolon? {cs rest : List Char}
    (h : afterCommentedSemicolon? cs = some rest) : rest.length < cs.length := by
  rcases afterCommentedSemicolon?_eq_some_iff.1 h with ⟨front, -, rfl⟩
  simp only [List.length_append, List.length_cons]
  omega

/-- All sizes that are large enough lead to the same. -/
theorem breakBeforeComments_congr {m n : Nat} {cs : List Char} (hm : cs.length ≤ m)
    (hn : cs.length ≤ n) : breakBeforeComments m cs = breakBeforeComments n cs := by
  induction m generalizing n cs with
  | zero =>
      rw [List.length_eq_zero_iff.1 (Nat.le_zero.1 hm)]
      cases n <;> rfl
  | succ m ih =>
      cases cs with
      | nil => cases n <;> rfl
      | cons c cs =>
          rw [List.length_cons] at hm hn
          cases n with
          | zero => cases hn
          | succ n =>
              have hCs := ih (Nat.le_of_succ_le_succ hm) (Nat.le_of_succ_le_succ hn)
              rw [breakBeforeComments, breakBeforeComments, hCs]
              cases hMatch : afterCommentedSemicolon? (c :: cs) with
              | none => rfl
              | some rest =>
                  have hShorter := length_lt_of_afterCommentedSemicolon? hMatch
                  rw [List.length_cons] at hShorter
                  have hRest : breakBeforeComments m rest = breakBeforeComments n rest :=
                    ih (by omega) (by omega)
                  simp only [hRest]

theorem broken_terminator {front : List Char} (h : IsTerminator front) (rest : List Char) :
    broken (front ++ '-' :: '-' :: rest) = '\n' :: '-' :: '-' :: broken rest := by
  have hFound : afterCommentedSemicolon? (front ++ '-' :: '-' :: rest) = some rest :=
    afterCommentedSemicolon?_eq_some_iff.2 ⟨front, h, rfl⟩
  have hShorter := length_lt_of_afterCommentedSemicolon? hFound
  unfold broken
  generalize front ++ '-' :: '-' :: rest = cs at hFound hShorter
  cases cs with
  | nil => cases hShorter
  | cons c cs =>
      rw [List.length_cons, breakBeforeComments, hFound]
      have hSize := breakBeforeComments_congr (Nat.le_of_lt_succ hShorter) (Nat.le_refl rest.length)
      simp only [hSize]

theorem broken_cons {c : Char} {cs : List Char} (h : ¬ StartsBroken (c :: cs)) :
    broken (c :: cs) = c :: broken cs := by
  have hNone : afterCommentedSemicolon? (c :: cs) = none := by
    rw [Option.eq_none_iff_forall_ne_some]
    intro rest hRest
    rcases afterCommentedSemicolon?_eq_some_iff.1 hRest with ⟨front, hFront, hSplit⟩
    exact h ⟨front, rest, hFront, hSplit⟩
  rw [broken, List.length_cons, breakBeforeComments, hNone]
  rfl

/-- A text is empty, or starts with a semicolon in front of a comment, or with a character that is
kept. -/
theorem broken_induction {motive : List Char → Prop} (nil : motive [])
    (terminator : ∀ front rest, IsTerminator front → motive rest →
      motive (front ++ '-' :: '-' :: rest))
    (cons : ∀ c cs, ¬ StartsBroken (c :: cs) → motive cs → motive (c :: cs)) (cs : List Char) :
    motive cs := by
  induction hLength : cs.length using Nat.strong_induction_on generalizing cs with
  | _ n ih =>
      cases cs with
      | nil => exact nil
      | cons c cs =>
          by_cases hStart : StartsBroken (c :: cs)
          · rcases hStart with ⟨front, rest, hFront, hSplit⟩
            rw [hSplit] at hLength ⊢
            simp only [List.length_append, List.length_cons] at hLength
            exact terminator front rest hFront (ih rest.length (by omega) rest rfl)
          · rw [List.length_cons] at hLength
            exact cons c cs hStart (ih cs.length (by omega) cs rfl)

/-- A semicolon in front of the dashes of a comment stands somewhere in the text. -/
def HoldsBroken (cs : List Char) : Prop :=
  ∃ behind, behind <:+ cs ∧ StartsBroken behind

/-- A line end in front of dashes is no semicolon in front of dashes. -/
theorem lineEnd_ne_terminator {front : List Char} (h : IsTerminator front) {cs rest : List Char} :
    '\n' :: '-' :: '-' :: cs ≠ front ++ '-' :: '-' :: rest := by
  intro hSame
  rcases h with ⟨before, after, hBefore, -, rfl⟩
  cases before with
  | nil => simp at hSame
  | cons b before =>
      cases before with
      | nil => simp at hSame
      | cons d before =>
          -- the first dash would be a blank
          have hBlank := hBefore d (List.mem_cons_of_mem b List.mem_cons_self)
          have hDash : '-' = d := by
            rw [List.append_assoc, List.cons_append, List.cons_append] at hSame
            exact (List.cons.inj (List.cons.inj hSame).2).1
          exact ne_dash_of_isSpare (isSpare_of_isBlank hBlank) hDash.symm

/-- What holds such a semicolon is changed by breaking, and nothing else. -/
theorem broken_eq_self_iff {cs : List Char} : broken cs = cs ↔ ¬ HoldsBroken cs := by
  induction cs using broken_induction with
  | nil =>
      refine ⟨fun _ => ?_, fun _ => rfl⟩
      rintro ⟨behind, hSuffix, front, rest, hFront, hBehind⟩
      rw [List.suffix_nil.1 hSuffix] at hBehind
      simp at hBehind
  | terminator front rest hFront _ =>
      have hHolds : HoldsBroken (front ++ '-' :: '-' :: rest) :=
        ⟨_, List.suffix_refl _, front, rest, hFront, rfl⟩
      refine iff_of_false (fun hSame => ?_) (not_not_intro hHolds)
      rw [broken_terminator hFront] at hSame
      exact lineEnd_ne_terminator hFront hSame
  | cons c cs hKeep ih =>
      rw [broken_cons hKeep, List.cons.injEq, ih]
      have hStep : HoldsBroken (c :: cs) ↔ HoldsBroken cs := by
        constructor
        · rintro ⟨behind, hSuffix, hStarts⟩
          rcases List.suffix_cons_iff.1 hSuffix with rfl | hSuffix
          · exact absurd hStarts hKeep
          · exact ⟨behind, hSuffix, hStarts⟩
        · rintro ⟨behind, hSuffix, hStarts⟩
          exact ⟨behind, hSuffix.trans (List.suffix_cons c cs), hStarts⟩
      rw [hStep]
      exact and_iff_right rfl

/-! ## Tokens with broken contents -/

/-- With a line end for every semicolon in front of dashes in the content. -/
def brokenToken (t : TableQuery.Token) : TableQuery.Token :=
  ⟨t.quote, broken t.content⟩

theorem brokenToken_eq_self_iff {t : TableQuery.Token} :
    brokenToken t = t ↔ ¬ HoldsBroken t.content := by
  rw [← broken_eq_self_iff]
  constructor
  · intro h
    exact congrArg TableQuery.Token.content h
  · intro h
    rw [brokenToken, h]

/-- With a broken content, if it is a token. -/
def brokenLexeme : Lexeme → Lexeme
  | .quoted t => .quoted (brokenToken t)
  | .mark c => .mark c

/-- The second lexemes are the first ones with broken tokens, and with a line end in place of some
semicolons in front of the dashes of a comment. -/
inductive Thinned : List Lexeme → List Lexeme → Prop where
  | nil : Thinned [] []
  | keep (l : Lexeme) {ls ms : List Lexeme} :
      Thinned ls ms → Thinned (l :: ls) (brokenLexeme l :: ms)
  | terminator {front : List Char} {ls ms : List Lexeme} :
      IsTerminator front → Thinned ls ms →
      Thinned ((front ++ ['-', '-']).map .mark ++ ls) (['\n', '-', '-'].map .mark ++ ms)

/-- The tokens are those from before, with broken contents. -/
theorem Thinned.tokens_eq {ls ms : List Lexeme} (h : Thinned ls ms) :
    Lexeme.tokens ms = (Lexeme.tokens ls).map brokenToken := by
  induction h with
  | nil => rfl
  | keep l _ ih => cases l <;> simp [brokenLexeme, ih]
  | terminator _ _ ih => simpa using ih

/-- The second reading is the first one with a broken content and thinned lexemes. -/
structure Reading.BreaksTo (r r' : Reading) : Prop where
  content : r'.content = broken r.content
  lexemes : Thinned r.lexemes r'.lexemes

theorem Reading.BreaksTo.code {r r' : Reading} (h : r.BreaksTo r') (c : Char) :
    (r.code c).BreaksTo (r'.code c) := by
  unfold Reading.code
  cases Quote.ofChar? c with
  | none => exact ⟨rfl, .keep (.mark c) h.lexemes⟩
  | some q =>
      refine ⟨rfl, ?_⟩
      unfold Reading.token
      rw [h.content]
      exact .keep (.quoted _) h.lexemes

theorem Reading.BreaksTo.grow {r r' : Reading} (h : r.BreaksTo r') {c : Char}
    (hKeep : ¬ StartsBroken (c :: r.content)) : (r.grow c).BreaksTo (r'.grow c) :=
  ⟨by simp [Reading.grow, broken_cons hKeep, h.content], h.lexemes⟩

/-- There is no quote in a semicolon in front of the dashes of a comment. -/
theorem char_notMem_commented {front : List Char} (h : IsTerminator front) (q : Quote) :
    q.char ∉ front ++ ['-', '-'] := by
  intro hMem
  rcases List.mem_append.1 hMem with hMem | hMem
  · exact ne_char_of_isSpare (h.isSpare _ hMem) q rfl
  · cases q <;> simp [Quote.char] at hMem

/-- A quote starts nothing that is broken. -/
theorem not_startsBroken_char (q : Quote) (cs : List Char) : ¬ StartsBroken (q.char :: cs) := by
  rintro ⟨front, rest, hFront, hSplit⟩
  cases front with
  | nil => exact hFront.ne_nil rfl
  | cons c front =>
      have hSame : q.char = c := (List.cons.inj hSplit).1
      exact ne_char_of_isSpare (hFront.isSpare c List.mem_cons_self) q hSame.symm

/-- What the content of a token starts with, the text inside of the token starts with. -/
theorem startsBroken_of_content {q : Quote} {c : Char} {cs : List Char} {r : Reading}
    (hRead : read (.inside q) cs = some r) (h : StartsBroken (c :: r.content)) :
    StartsBroken (c :: cs) := by
  rcases h with ⟨front, rest, hFront, hSplit⟩
  cases front with
  | nil => exact absurd rfl hFront.ne_nil
  | cons d front =>
      rw [List.cons_append, List.cons.injEq] at hSplit
      have hQuote : q.char ∉ front ++ ['-', '-'] := fun hMem =>
        char_notMem_commented hFront q (List.mem_cons_of_mem d hMem)
      have hStart : front ++ ['-', '-'] <+: r.content := ⟨rest, by simp [hSplit.2]⟩
      rcases isPrefix_of_content hQuote hRead hStart with ⟨rest', hText⟩
      exact ⟨d :: front, rest', hFront, by simp [hSplit.1, ← hText]⟩

/-- A character that is kept adds the same before and after breaking. -/
theorem Reading.BreaksTo.put {s : Spot} {c : Char} {cs : List Char}
    (hKeep : ¬ StartsBroken (c :: cs)) {r r' : Reading} (hRead : read (s.next c) cs = some r)
    (h : r.BreaksTo r') : (s.put c r).BreaksTo (s.put c r') := by
  cases s with
  | code => exact h.code c
  | dash => exact h.code c
  | comment => exact ⟨rfl, .keep (.mark c) h.lexemes⟩
  | inside q =>
      by_cases hEnd : c = q.char
      · simpa [Spot.put, hEnd] using h
      · have hInside : read (.inside q) cs = some r := by simpa [Spot.next, hEnd] using hRead
        have hGrow := h.grow fun hStart => hKeep (startsBroken_of_content hInside hStart)
        simpa [Spot.put, hEnd] using hGrow
  | closing q =>
      by_cases hPair : c = q.char
      · have hGrow := h.grow (not_startsBroken_char q r.content)
        simpa [Spot.put, hPair] using hGrow
      · simpa [Spot.put, hPair] using h.code c

theorem rel_map {α β γ δ : Type} {R : α → β → Prop} {R' : γ → δ → Prop} {f : α → γ} {g : β → δ}
    {x : Option α} {y : Option β} (h : Option.Rel R x y)
    (hf : ∀ a b, x = some a → R a b → R' (f a) (g b)) : Option.Rel R' (x.map f) (y.map g) := by
  cases h with
  | none => exact .none
  | some hab => exact .some (hf _ _ rfl hab)

/-- What is read of a broken text is what was read of the text, with broken contents, and with a line
end in place of semicolons in front of comments. -/
theorem read_broken (s : Spot) (cs : List Char) :
    Option.Rel Reading.BreaksTo (read s cs) (read s (broken cs)) := by
  induction cs using broken_induction generalizing s with
  | nil => cases s <;> constructor <;> exact ⟨rfl, .nil⟩
  | terminator front rest hFront ih =>
      rw [broken_terminator hFront]
      cases hFree : s.isFree with
      | true =>
          -- with the line end as with the semicolon, the dashes lead into a comment
          have hLineEnd : ∀ c ∈ ['\n'], isSpare c = true := List.forall_mem_singleton.2 rfl
          have hBefore := read_spare_dashes hFront.isSpare (.inr ⟨hFree, hFront.ne_nil⟩) rest
          have hAfter := read_spare_dashes hLineEnd (.inr ⟨hFree, by simp⟩) (broken rest)
          rw [List.cons_append, List.nil_append] at hAfter
          rw [hBefore, hAfter]
          exact rel_map (ih .comment) fun r r' _ hBreaks =>
            ⟨rfl, .terminator hFront hBreaks.lexemes⟩
      | false =>
          cases s with
          | inside q =>
              -- inside of a token, both belong to the content
              have hQuote : q.char ∉ ['\n', '-', '-'] := by cases q <;> decide
              have hBefore := read_inside_append (char_notMem_commented hFront q) rest
              have hAfter := read_inside_append hQuote (broken rest)
              rw [List.append_assoc] at hBefore
              simp only [List.cons_append, List.nil_append] at hBefore hAfter
              rw [hBefore, hAfter]
              refine rel_map (ih (.inside q)) fun r r' _ hBreaks => ⟨?_, hBreaks.lexemes⟩
              have hContent := broken_terminator hFront r.content
              simpa [Reading.extend, hBreaks.content] using hContent.symm
          | _ => cases hFree
  | cons c cs hKeep ih =>
      rw [broken_cons hKeep, read, read]
      exact rel_map (ih (s.next c)) fun r r' hRead hBreaks => hBreaks.put hKeep hRead

/-! ## Stripping -/

/-- The second lexemes are the first ones without blanks at either end and without one semicolon at
the end, and thinned in between. -/
def Stripped (ls ms : List Lexeme) : Prop :=
  ∃ (front tail last : List Char) (core : List Lexeme), (∀ c ∈ front, Text.isBlank c = true) ∧
    (∀ c ∈ tail, Text.isBlank c = true) ∧ (last = [] ∨ IsTerminator last) ∧
    ls = front.map .mark ++ (core ++ tail.map .mark) ∧ Thinned core (ms ++ last.map .mark)

theorem Stripped.tokens_eq {ls ms : List Lexeme} (h : Stripped ls ms) :
    Lexeme.tokens ms = (Lexeme.tokens ls).map brokenToken := by
  rcases h with ⟨front, tail, last, core, -, -, -, rfl, hThinned⟩
  simpa using hThinned.tokens_eq

theorem trim_split (query : String) :
    ∃ front tail, (∀ c ∈ front, Text.isBlank c = true) ∧ (∀ c ∈ tail, Text.isBlank c = true) ∧
      query.toList = front ++ ((Text.trim query).toList ++ tail) := by
  rcases exists_trimStartChars query.toList with ⟨front, hFront, hQuery⟩
  rcases exists_trimEndChars (Text.trimStartChars query.toList) with ⟨tail, hTail, hTrimmed⟩
  refine ⟨front, tail, hFront, hTail, ?_⟩
  rw [Text.trim, String.toList_ofList, ← hTrimmed]
  exact hQuery

theorem strip_split (query : String) :
    ∃ last, (last = [] ∨ IsTerminator last) ∧
      broken (Text.trim query).toList = (strip query).toList ++ last := by
  rcases exists_dropTerminator (broken (Text.trim query).toList) with ⟨last, hLast, hBroken⟩
  refine ⟨last, hLast, ?_⟩
  rw [strip, String.toList_ofList]
  exact hBroken

/-- What is read of a stripped query is what was read of the query, stripped. -/
theorem lexemes?_strip (query : String) :
    Option.Rel Stripped (lexemes? query.toList) (lexemes? (strip query).toList) := by
  rcases trim_split query with ⟨front, tail, hFront, hTail, hQuery⟩
  rcases strip_split query with ⟨last, hLast, hBroken⟩
  have hSpare : ∀ c ∈ last, isSpare c = true := by
    rcases hLast with rfl | hLast
    · simp
    · exact hLast.isSpare
  have hCore : Option.Rel Thinned (lexemes? (Text.trim query).toList)
      (lexemes? (broken (Text.trim query).toList)) := by
    unfold lexemes?
    exact rel_map (read_broken .code _) fun r r' _ hBreaks => hBreaks.lexemes
  rw [hBroken, lexemes?_append_spare hSpare] at hCore
  rw [hQuery, lexemes?_spare_append fun c hc => isSpare_of_isBlank (hFront c hc),
    lexemes?_append_spare fun c hc => isSpare_of_isBlank (hTail c hc)]
  generalize lexemes? (Text.trim query).toList = before at hCore ⊢
  generalize lexemes? (strip query).toList = after at hCore ⊢
  cases after with
  | none =>
      cases hCore
      exact .none
  | some ms =>
      cases hCore with
      | some hThinned =>
          exact .some ⟨front, tail, last, _, hFront, hTail, hLast, rfl, hThinned⟩

end QueryText

/-- What the server is asked about a query, and what becomes of it, is the stripped text. -/
theorem Session.ends_query {s : Session} {text : String} {id : Nat} {es : List Exchange}
    {result : Except ClientError Relation} (h : (s.query text id).run.Ends es result) :
    (∀ e ∈ es, e.request = .validate s.connection (QueryText.strip text)) ∧
      ∀ r, result = .ok r → ∃ schema, r = .sqlQuery id (QueryText.strip text) schema := by
  unfold query at h
  generalize QueryText.strip text = stripped at h ⊢
  constructor
  · refine Dialogue.Only.of_ends (p := (· = .validate s.connection stripped)) ?_ h
    refine Attempt.only_bind (Attempt.only_ofResult _) fun _ => ?_
    refine Attempt.only_bind (Attempt.only_ofReasons (Dialogue.only_request rfl)) fun _ => ?_
    exact Attempt.only_bind (Attempt.only_ofResult _) fun _ => trivial
  · rintro r rfl
    rcases Attempt.of_ends_bind h with ⟨_, _, _, -, hAccepted, -⟩
    rcases Attempt.of_ends_bind hAccepted with ⟨_, columns, _, -, hColumns, -⟩
    rcases Attempt.of_ends_bind hColumns with ⟨_, schema, _, -, hDone, -⟩
    rcases Attempt.ends_pure_iff.1 hDone with ⟨-, hRelation⟩
    exact ⟨schema, Except.ok.inj hRelation⟩

/-- Stripping a query takes blanks away at both ends, one semicolon at the end, and semicolons in
front of the dashes of comments, for each of which it puts in a line end; whatever else is not in
quotes stays as it is. A query in which a quote stays open is one after stripping, and the other way
round. The tokens stay the same, in the same order, exactly if none of them holds a semicolon with
nothing but blanks between it and two dashes; in the ones that do, a line end takes its place. The
server is asked about the stripped text, and this is what is taken up. -/
theorem QueryText.tokens_strip (query : String) :
    Option.Rel Stripped (lexemes? query.toList) (lexemes? (strip query).toList) ∧
    (lexemes? (strip query).toList).map Lexeme.tokens =
      (lexemes? query.toList).map (fun ls => (Lexeme.tokens ls).map brokenToken) ∧
    ((lexemes? (strip query).toList).map Lexeme.tokens =
        (lexemes? query.toList).map Lexeme.tokens ↔
      ∀ ls, lexemes? query.toList = some ls → ∀ t ∈ Lexeme.tokens ls, ¬ HoldsBroken t.content) ∧
    ∀ (s : Session) (id : Nat) (es : List Exchange) (result : Except ClientError Relation),
      (s.query query id).run.Ends es result →
        (∀ e ∈ es, e.request = .validate s.connection (strip query)) ∧
        ∀ r, result = .ok r → ∃ schema, r = .sqlQuery id (strip query) schema := by
  have hStripped := lexemes?_strip query
  have hTokens : (lexemes? (strip query).toList).map Lexeme.tokens =
      (lexemes? query.toList).map (fun ls => (Lexeme.tokens ls).map brokenToken) := by
    generalize lexemes? query.toList = before at hStripped
    generalize lexemes? (strip query).toList = after at hStripped
    cases hStripped with
    | none => rfl
    | some h => rw [Option.map_some, Option.map_some, h.tokens_eq]
  refine ⟨hStripped, hTokens, ?_, fun s id es result h => Session.ends_query h⟩
  rw [hTokens]
  cases lexemes? query.toList with
  | none => simp
  | some ls =>
      simp only [Option.map_some, Option.some.injEq, forall_eq', ← brokenToken_eq_self_iff]
      rw [← List.map_inj_left, List.map_id']

/-- A semicolon and a comment that are the text of a string. -/
theorem QueryText.tokens_strip_altered :
    (lexemes? "SELECT '; -- x' AS a".toList).map Lexeme.tokens =
      some [⟨'\'', "; -- x".toList⟩] ∧
    strip "SELECT '; -- x' AS a" = "SELECT '\n-- x' AS a" ∧
    (lexemes? (strip "SELECT '; -- x' AS a").toList).map Lexeme.tokens =
      some [⟨'\'', "\n-- x".toList⟩] := by
  decide

end TableQuery
