import TableQuery.Proofs.Text.Lexeme
import TableQuery.Text.Blank

/-!
# Reader — lexemes of a query with comments

A query is read character by character, by a reader that knows line comments: a quote in a comment
opens no token, and two dashes in a token open no comment. This file defines

* `Spot`, where the reader stands, with what it does at a character (`Spot.next`, `Spot.put`);
* `lexemes?`, the lexemes of a query, unless a quote stays open;

and says what blanks and semicolons do to them at both ends of a query
(`lexemes?_spare_append`, `lexemes?_append_spare`), in front of a comment (`read_spare_dashes`) and
inside of a token (`read_inside_append`).
-/

namespace TableQuery
namespace QueryText

/-! ## Quotes -/

/-- A quote: single for strings, double for names. -/
inductive Quote where
  | single
  | double
  deriving DecidableEq

namespace Quote

def char : Quote → Char
  | .single => '\''
  | .double => '"'

def ofChar? (c : Char) : Option Quote :=
  if c = '\'' then some .single else if c = '"' then some .double else none

end Quote

/-! ## The reader -/

/-- What is read from some spot on: what is left of the token that is open there, and the lexemes
behind it. -/
structure Reading where
  content : List Char
  lexemes : List Lexeme

namespace Reading

/-- With one more character of the token that is open. -/
def grow (c : Char) (r : Reading) : Reading :=
  ⟨c :: r.content, r.lexemes⟩

/-- With more characters of the token that is open. -/
def extend (cs : List Char) (r : Reading) : Reading :=
  ⟨cs ++ r.content, r.lexemes⟩

/-- With a bare character in front. -/
def mark (c : Char) (r : Reading) : Reading :=
  ⟨[], .mark c :: r.lexemes⟩

/-- With the quote that opens the token. -/
def token (q : Quote) (r : Reading) : Reading :=
  ⟨[], .quoted ⟨q.char, r.content⟩ :: r.lexemes⟩

/-- With a character of the code in front, which may open a token. -/
def code (c : Char) (r : Reading) : Reading :=
  match Quote.ofChar? c with
  | some q => r.token q
  | none => r.mark c

end Reading

/-- Where the reader stands: in the code, behind a dash that another one would make a comment, in a
comment, inside of a token, or behind a quote that ends the token unless it is the first of a pair. -/
inductive Spot where
  | code
  | dash
  | comment
  | inside (q : Quote)
  | closing (q : Quote)
  deriving DecidableEq

namespace Spot

/-- The spot behind a character of the code. -/
def behind (c : Char) : Spot :=
  match Quote.ofChar? c with
  | some q => .inside q
  | none => if c = '-' then .dash else .code

/-- The spot behind a character. -/
def next : Spot → Char → Spot
  | .code, c => behind c
  | .dash, c => if c = '-' then .comment else behind c
  | .comment, c => if c = '\n' then .code else .comment
  | .inside q, c => if c = q.char then .closing q else .inside q
  | .closing q, c => if c = q.char then .inside q else behind c

/-- What a character adds to what is read behind it. -/
def put : Spot → Char → Reading → Reading
  | .code, c, r | .dash, c, r => r.code c
  | .comment, c, r => r.mark c
  | .inside q, c, r => if c = q.char then r else r.grow c
  | .closing q, c, r => if c = q.char then r.grow c else r.code c

/-- What is read at the end; nothing if a token is open there. -/
def atEnd : Spot → Option Reading
  | .inside _ => none
  | _ => some ⟨[], []⟩

end Spot

/-- What is read from a spot on; nothing if a quote stays open. -/
def read : Spot → List Char → Option Reading
  | s, [] => s.atEnd
  | s, c :: cs => (read (s.next c) cs).map (s.put c)

/-- The lexemes of a query; none if a quote stays open. -/
def lexemes? (cs : List Char) : Option (List Lexeme) :=
  (read .code cs).map Reading.lexemes

example : lexemes? "';' -- it's".toList =
    some (.quoted ⟨'\'', [';']⟩ :: " -- it's".toList.map .mark) := by decide

/-! ## Blanks and semicolons -/

/-- Blanks and semicolons, which stand between statements. -/
def isSpare (c : Char) : Bool :=
  Text.isBlank c || c == ';'

theorem isSpare_of_isBlank {c : Char} (h : Text.isBlank c = true) : isSpare c = true := by
  simp [isSpare, h]

theorem ne_dash_of_isSpare {c : Char} (h : isSpare c = true) : c ≠ '-' := by
  rintro rfl
  exact absurd h (by decide)

theorem ne_char_of_isSpare {c : Char} (h : isSpare c = true) (q : Quote) : c ≠ q.char := by
  rintro rfl
  cases q <;> exact absurd h (by decide)

theorem ofChar?_of_isSpare {c : Char} (h : isSpare c = true) : Quote.ofChar? c = none := by
  have hSingle : c ≠ '\'' := ne_char_of_isSpare h .single
  have hDouble : c ≠ '"' := ne_char_of_isSpare h .double
  rw [Quote.ofChar?, if_neg hSingle, if_neg hDouble]

theorem Spot.behind_of_isSpare {c : Char} (h : isSpare c = true) : behind c = .code := by
  simp [behind, ofChar?_of_isSpare h, ne_dash_of_isSpare h]

theorem Reading.code_of_isSpare {c : Char} (h : isSpare c = true) : code c = mark c := by
  funext r
  simp [code, ofChar?_of_isSpare h]

/-- Whether no token is open at a spot. -/
def Spot.isFree : Spot → Bool
  | .inside _ => false
  | _ => true

/-- Behind a blank or a semicolon that is in no token, the reader is in the code or in a comment, and
has read a bare character. -/
theorem Spot.next_of_isSpare {s : Spot} (hFree : s.isFree = true) {c : Char}
    (h : isSpare c = true) :
    (s.next c = .code ∨ s.next c = .comment) ∧ s.put c = Reading.mark c := by
  have hBehind := behind_of_isSpare h
  have hCode := Reading.code_of_isSpare h
  cases s with
  | code => exact ⟨.inl hBehind, hCode⟩
  | dash => exact ⟨.inl (by simp [next, ne_dash_of_isSpare h, hBehind]), hCode⟩
  | comment =>
      refine ⟨?_, rfl⟩
      by_cases hEnd : c = '\n' <;> simp [next, hEnd]
  | inside q => cases hFree
  | closing q =>
      have hOther := ne_char_of_isSpare h q
      refine ⟨.inl (by simp [next, hOther, hBehind]), ?_⟩
      funext r
      simp [put, hOther, hCode]

/-- Blanks and semicolons in front of a query are bare characters. -/
theorem lexemes?_spare_append {front : List Char} (h : ∀ c ∈ front, isSpare c = true)
    (cs : List Char) : lexemes? (front ++ cs) = (lexemes? cs).map (front.map .mark ++ ·) := by
  unfold lexemes?
  induction front with
  | nil => exact Option.map_id'.symm
  | cons c front ih =>
      rw [List.forall_mem_cons] at h
      have hNext : Spot.code.next c = .code := Spot.behind_of_isSpare h.1
      have hPut : Spot.code.put c = Reading.mark c := Reading.code_of_isSpare h.1
      calc
        (read .code (c :: (front ++ cs))).map Reading.lexemes
            = ((read .code (front ++ cs)).map Reading.lexemes).map (.mark c :: ·) := by
          rw [read, hNext, hPut, Option.map_map, Option.map_map]
          rfl
        _ = ((read .code cs).map Reading.lexemes).map ((c :: front).map .mark ++ ·) := by
          rw [ih h.2, Option.map_map]
          rfl

/-- With more lexemes behind. -/
def Reading.followed (ls : List Lexeme) (r : Reading) : Reading :=
  ⟨r.content, r.lexemes ++ ls⟩

theorem Spot.put_followed (s : Spot) (c : Char) (ls : List Lexeme) (r : Reading) :
    s.put c (r.followed ls) = (s.put c r).followed ls := by
  have hCode : (r.followed ls).code c = (r.code c).followed ls := by
    unfold Reading.code
    cases Quote.ofChar? c <;> rfl
  cases s with
  | code => exact hCode
  | dash => exact hCode
  | comment => rfl
  | inside q => by_cases hEnd : c = q.char <;> simp [put, hEnd, Reading.followed, Reading.grow]
  | closing q =>
      by_cases hPair : c = q.char
      · simp [put, hPair, Reading.followed, Reading.grow]
      · simpa [put, hPair] using hCode

/-- Blanks and semicolons do not end a token, and are bare characters where none is open. -/
theorem read_spare {cs : List Char} (h : ∀ c ∈ cs, isSpare c = true) (s : Spot) :
    read s cs = s.atEnd.map (Reading.followed (cs.map .mark)) := by
  induction cs generalizing s with
  | nil => cases s <;> rfl
  | cons c cs ih =>
      rw [List.forall_mem_cons] at h
      have hRest := ih h.2 (s.next c)
      cases hFree : s.isFree with
      | false =>
          -- an open token stays open
          cases s with
          | inside q =>
              have hNext : (Spot.inside q).next c = .inside q := by
                simp [Spot.next, ne_char_of_isSpare h.1 q]
              rw [hNext] at hRest
              rw [read, hNext, hRest]
              rfl
          | _ => cases hFree
      | true =>
          rcases Spot.next_of_isSpare hFree h.1 with ⟨hNext, hPut⟩
          have hEnd : s.atEnd = some ⟨[], []⟩ := by
            cases s <;> first | rfl | cases hFree
          have hNextEnd : (s.next c).atEnd = some ⟨[], []⟩ := by
            rcases hNext with hNext | hNext <;> rw [hNext] <;> rfl
          rw [read, hRest, hPut, hNextEnd, hEnd]
          rfl

/-- Blanks and semicolons at the end of a query are bare characters. -/
theorem read_append_spare {tail : List Char} (h : ∀ c ∈ tail, isSpare c = true) (s : Spot)
    (cs : List Char) :
    read s (cs ++ tail) = (read s cs).map (Reading.followed (tail.map .mark)) := by
  induction cs generalizing s with
  | nil => exact read_spare h s
  | cons c cs ih =>
      rw [List.cons_append, read, read, ih (s.next c), Option.map_map, Option.map_map]
      congr 1
      exact funext fun r => s.put_followed c _ r

theorem lexemes?_append_spare {tail : List Char} (h : ∀ c ∈ tail, isSpare c = true)
    (cs : List Char) : lexemes? (cs ++ tail) = (lexemes? cs).map (· ++ tail.map .mark) := by
  unfold lexemes?
  rw [read_append_spare h, Option.map_map, Option.map_map]
  rfl

/-! ## Comments -/

/-- With bare characters in front. -/
def Reading.marks (cs : List Char) (r : Reading) : Reading :=
  ⟨[], cs.map .mark ++ r.lexemes⟩

/-- Two dashes in the code or in a comment lead into a comment. -/
theorem read_dashes {s : Spot} (hs : s = .code ∨ s = .comment) (rest : List Char) :
    read s ('-' :: '-' :: rest) = (read .comment rest).map (Reading.marks ['-', '-']) := by
  rcases hs with rfl | rfl
  · rw [read, read, Option.map_map]
    rfl
  · rw [read, read, Option.map_map]
    rfl

/-- Two dashes lead into a comment also behind blanks and semicolons; these keep them apart from a
dash or a quote in front of them. -/
theorem read_spare_dashes {front : List Char} (h : ∀ c ∈ front, isSpare c = true) {s : Spot}
    (hs : (s = .code ∨ s = .comment) ∨ (s.isFree = true ∧ front ≠ [])) (rest : List Char) :
    read s (front ++ '-' :: '-' :: rest) =
      (read .comment rest).map (Reading.marks (front ++ ['-', '-'])) := by
  induction front generalizing s with
  | nil =>
      have hBetween : s = .code ∨ s = .comment := hs.resolve_right fun hEmpty => hEmpty.2 rfl
      exact read_dashes hBetween rest
  | cons c front ih =>
      rw [List.forall_mem_cons] at h
      have hFree : s.isFree = true := by
        rcases hs with (rfl | rfl) | ⟨hFree, -⟩
        · rfl
        · rfl
        · exact hFree
      rcases Spot.next_of_isSpare hFree h.1 with ⟨hNext, hPut⟩
      rw [List.cons_append, read, hPut, ih h.2 (.inl hNext), Option.map_map]
      rfl

/-! ## Inside of a token -/

/-- Characters inside of a token that are not its quote are its content. -/
theorem read_inside_append {q : Quote} {cs : List Char} (h : q.char ∉ cs) (rest : List Char) :
    read (.inside q) (cs ++ rest) = (read (.inside q) rest).map (Reading.extend cs) := by
  induction cs with
  | nil =>
      have hNothing : Reading.extend [] = id := rfl
      simp [hNothing]
  | cons c cs ih =>
      rw [List.mem_cons, not_or] at h
      have hOther : c ≠ q.char := Ne.symm h.1
      have hStep : (Spot.inside q).put c = Reading.grow c := by
        funext r
        simp [Spot.put, hOther]
      have hNext : (Spot.inside q).next c = .inside q := by simp [Spot.next, hOther]
      rw [List.cons_append, read, hNext, hStep, ih h.2, Option.map_map]
      rfl

/-- Behind a quote a token has ended, or goes on with this quote. -/
theorem content_of_closing {q : Quote} {cs : List Char} {r : Reading}
    (h : read (.closing q) cs = some r) : r.content = [] ∨ r.content.head? = some q.char := by
  cases cs with
  | nil =>
      cases h
      exact .inl rfl
  | cons c cs =>
      rcases Option.map_eq_some_iff.1 h with ⟨r', -, rfl⟩
      by_cases hPair : c = q.char
      · exact .inr (by simp [Spot.put, hPair, Reading.grow])
      · refine .inl ?_
        simp only [Spot.put, if_neg hPair, Reading.code]
        cases Quote.ofChar? c <;> rfl

/-- What the content of a token starts with stands in the text, if the quote is not in it. -/
theorem isPrefix_of_content {q : Quote} {front cs : List Char} (h : q.char ∉ front) {r : Reading}
    (hRead : read (.inside q) cs = some r) (hFront : front <+: r.content) : front <+: cs := by
  induction front generalizing cs r with
  | nil => exact List.nil_prefix
  | cons c front ih =>
      rw [List.mem_cons, not_or] at h
      rcases hFront with ⟨behind, hContent⟩
      cases cs with
      | nil => cases hRead
      | cons d cs =>
          rcases Option.map_eq_some_iff.1 hRead with ⟨r', hNext, hPut⟩
          by_cases hQuote : d = q.char
          · -- the token would end here, or go on with its quote
            have hSame : r' = r := by simpa [Spot.put, hQuote] using hPut
            have hClosing : read (.closing q) cs = some r := by
              simpa [Spot.next, hQuote, hSame] using hNext
            rcases content_of_closing hClosing with hEmpty | hPair
            · simp [← hContent] at hEmpty
            · rw [← hContent] at hPair
              exact absurd (Option.some.inj hPair).symm h.1
          · have hGrown : r = r'.grow d := by simpa [Spot.put, hQuote] using hPut.symm
            rw [hGrown, Reading.grow, List.cons_append, List.cons.injEq] at hContent
            have hInside : read (.inside q) cs = some r' := by
              simpa [Spot.next, hQuote] using hNext
            rw [hContent.1]
            exact List.cons_prefix_cons.2 ⟨rfl, ih h.2 hInside ⟨behind, hContent.2⟩⟩

end QueryText
end TableQuery
