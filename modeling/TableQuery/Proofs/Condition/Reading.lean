import Mathlib.Algebra.BigOperators.Group.List.Basic
import TableQuery.Identifier.Basic
import TableQuery.Proofs.Text.Lexeme

/-!
# Reading — conditions by the precedence of their connectives

A reader of the text of a condition: `NOT` binds more tightly than `AND`, and `AND` more tightly
than `OR`. What stands in parentheses or between `CASE` and `END` is read by itself, and the `AND`
that a `BETWEEN` waits for connects no conditions. Whatever else stands between the connectives is a
test, of which only the symbols are kept.

The file also says what the reader makes of conditions that are put in a row with `AND` between
them (`conjuncts_assemble_conjoined_iff`).
-/

namespace TableQuery

open Lexeme

/-! ## Symbols -/

/-- A word, a quoted token, or another character that is not blank. -/
inductive Symbol where
  | word (letters : List Char)
  | quoted (token : Token)
  | mark (c : Char)
  deriving DecidableEq, Repr

namespace Lexeme

/-- The word that has begun, if there is one. -/
def begunWord : List Char → List Symbol
  | [] => []
  | c :: cs => [.word (c :: cs)]

/-- The symbols from inside a word on, of which some letters have been read. -/
def symbolsFrom : List Char → List Lexeme → List Symbol
  | begun, [] => begunWord begun
  | begun, .quoted t :: ls => begunWord begun ++ .quoted t :: symbolsFrom [] ls
  | begun, .mark c :: ls =>
    if Identifier.isWordChar c then symbolsFrom (begun ++ [c]) ls
    else if c.isWhitespace then begunWord begun ++ symbolsFrom [] ls
    else begunWord begun ++ .mark c :: symbolsFrom [] ls

/-- The symbols of lexemes in a row. -/
def symbols (ls : List Lexeme) : List Symbol :=
  symbolsFrom [] ls

/-- Whether the lexeme is a character of a word. -/
def inWord : Lexeme → Bool
  | .quoted _ => false
  | .mark c => Identifier.isWordChar c

@[simp]
theorem symbols_nil : symbols [] = [] := rfl

/-- A word ends before a lexeme that is no part of one. -/
theorem symbolsFrom_of_head {ls : List Lexeme} (h : ∀ l ∈ ls.head?, l.inWord = false)
    (begun : List Char) : symbolsFrom begun ls = begunWord begun ++ symbols ls := by
  cases ls with
  | nil => simp [symbolsFrom]
  | cons l ls =>
      cases l with
      | quoted t => rfl
      | mark c =>
          have hc : Identifier.isWordChar c = false := h (.mark c) (by simp)
          by_cases hBlank : c.isWhitespace = true
          · simp [symbols, symbolsFrom, hc, hBlank, begunWord]
          · simp [symbols, symbolsFrom, hc, hBlank, begunWord]

theorem symbolsFrom_append_of_head {ls ms : List Lexeme} (h : ∀ l ∈ ms.head?, l.inWord = false) :
    ∀ begun, symbolsFrom begun (ls ++ ms) = symbolsFrom begun ls ++ symbols ms := by
  induction ls with
  | nil => exact fun begun => symbolsFrom_of_head h begun
  | cons l ls ih =>
      intro begun
      cases l with
      | quoted t => simp [symbolsFrom, ih]
      | mark c =>
          simp only [List.cons_append, symbolsFrom]
          split
          · exact ih _
          · split <;> simp [ih]

/-- Lexemes in a row have their symbols in a row, where no word goes on across the seam. -/
theorem symbols_append_of_head {ls ms : List Lexeme} (h : ∀ l ∈ ms.head?, l.inWord = false) :
    symbols (ls ++ ms) = symbols ls ++ symbols ms :=
  symbolsFrom_append_of_head h []

theorem symbols_append_of_getLast {ls ms : List Lexeme}
    (h : ∀ l ∈ ls.getLast?, l.inWord = false) : symbols (ls ++ ms) = symbols ls ++ symbols ms := by
  rcases List.eq_nil_or_concat ls with rfl | ⟨init, l, rfl⟩
  · rfl
  · have hl : l.inWord = false := h l (by simp)
    have hOne : symbols (l :: ms) = symbols [l] ++ symbols ms := by
      cases l with
      | quoted t => rfl
      | mark c =>
          have hc : Identifier.isWordChar c = false := hl
          by_cases hBlank : c.isWhitespace = true <;>
            simp [symbols, symbolsFrom, hc, hBlank, begunWord]
    -- the last lexeme of the first row ends every word, so both rows can be cut before it
    have hFront (ks : List Lexeme) :
        symbols (init ++ l :: ks) = symbols init ++ symbols (l :: ks) :=
      symbols_append_of_head (by simpa using hl)
    simp only [List.concat_eq_append, List.append_assoc, List.singleton_append, hFront, hOne]

theorem symbols_mark_cons {c : Char} (h : Identifier.isWordChar c = false) (ls : List Lexeme) :
    symbols (.mark c :: ls) = symbols [.mark c] ++ symbols ls := by
  rw [← List.singleton_append]
  exact symbols_append_of_getLast (by simpa [inWord] using h)

end Lexeme

namespace Symbol

/-- Whether the symbol is a keyword, in letters of either case. -/
def isKeyword (keyword : String) : Symbol → Bool
  | .word letters => letters.map Char.toUpper == keyword.toList
  | _ => false

/-- Whether the symbol opens a bracket. -/
def opens (s : Symbol) : Bool :=
  s == .mark '(' || s.isKeyword "CASE"

/-- Whether the symbol closes a bracket. -/
def closes (s : Symbol) : Bool :=
  s == .mark ')' || s.isKeyword "END"

/-- The symbol with another token, if it is one. -/
def mapToken (f : Token → Token) : Symbol → Symbol
  | .quoted t => .quoted (f t)
  | s => s

@[simp]
theorem isKeyword_mapToken (f : Token → Token) (keyword : String) (s : Symbol) :
    (s.mapToken f).isKeyword keyword = s.isKeyword keyword := by
  cases s <;> rfl

theorem mapToken_eq_mark {f : Token → Token} {c : Char} {s : Symbol} :
    s.mapToken f = .mark c ↔ s = .mark c := by
  cases s <;> simp [mapToken]

@[simp]
theorem opens_mapToken (f : Token → Token) (s : Symbol) : (s.mapToken f).opens = s.opens := by
  cases s <;> rfl

@[simp]
theorem closes_mapToken (f : Token → Token) (s : Symbol) : (s.mapToken f).closes = s.closes := by
  cases s <;> rfl

end Symbol

/-! ## Conditions -/

/-- A condition, down to tests that are no more than symbols. -/
inductive Condition where
  | test (symbols : List Symbol)
  | not (c : Condition)
  | and (a b : Condition)
  | or (a b : Condition)
  deriving DecidableEq, Repr

namespace Condition

/-- The conditions that must all hold, in order. -/
def conjuncts : Condition → List Condition
  | .and a b => a.conjuncts ++ b.conjuncts
  | c => [c]

theorem one_le_length_conjuncts (c : Condition) : 1 ≤ c.conjuncts.length := by
  induction c with
  | and a b iha ihb =>
      rw [conjuncts, List.length_append]
      omega
  | _ => simp [conjuncts]

/-- Conditions in a row under a connective, the first two first. -/
def joined (connect : Condition → Condition → Condition) : List Condition → Condition
  | [] => .test []
  | c :: cs => cs.foldl connect c

theorem conjuncts_foldl_and (cs : List Condition) :
    ∀ c : Condition, (cs.foldl and c).conjuncts = c.conjuncts ++ cs.flatMap conjuncts := by
  induction cs with
  | nil => simp
  | cons d cs ih =>
      intro c
      simp [ih, conjuncts]

theorem conjuncts_joined_and {cs : List Condition} (h : cs ≠ []) :
    (joined .and cs).conjuncts = cs.flatMap conjuncts := by
  cases cs with
  | nil => exact absurd rfl h
  | cons c cs => simp [joined, conjuncts_foldl_and]

/-- Alternatives have no conjuncts but themselves. -/
theorem conjuncts_joined_or {cs : List Condition} (h : 2 ≤ cs.length) :
    (joined .or cs).conjuncts = [joined .or cs] := by
  rcases cs with _ | ⟨c, cs⟩
  · simp at h
  · rcases List.eq_nil_or_concat cs with rfl | ⟨init, d, rfl⟩
    · simp at h
    · simp [joined, conjuncts]

/-- The condition with other tokens in its tests. -/
def mapTokens (f : Token → Token) : Condition → Condition
  | .test ss => .test (ss.map (Symbol.mapToken f))
  | .not c => .not (c.mapTokens f)
  | .and a b => .and (a.mapTokens f) (b.mapTokens f)
  | .or a b => .or (a.mapTokens f) (b.mapTokens f)

theorem mapTokens_joined (f : Token → Token) (connect : Condition → Condition → Condition)
    (h : ∀ a b, (connect a b).mapTokens f = connect (a.mapTokens f) (b.mapTokens f))
    (cs : List Condition) :
    (joined connect cs).mapTokens f = joined connect (cs.map (mapTokens f)) := by
  cases cs with
  | nil => rfl
  | cons c cs =>
      simp only [joined, List.map_cons]
      induction cs generalizing c with
      | nil => rfl
      | cons d cs ih => simp [ih, h]

end Condition

/-! ## Segments -/

/-- A symbol outside of brackets, or a bracket with all that stands in it: parentheses, which may
hold a condition, or a `CASE`. -/
inductive Segment where
  | symbol (s : Symbol)
  | group (symbols : List Symbol) (inside : Condition)
  | choice (symbols : List Symbol)

namespace Segment

def symbols : Segment → List Symbol
  | .symbol s => [s]
  | .group ss _ | .choice ss => ss

def isKeyword (keyword : String) : Segment → Bool
  | .symbol s => s.isKeyword keyword
  | _ => false

/-- Whether a `BETWEEN` waits for its `AND` behind the segment, given whether one did before. -/
def waits (x : Segment) (waiting : Bool) : Bool :=
  if x.isKeyword "BETWEEN" then true else if x.isKeyword "AND" then false else waiting

/-- Whether a `BETWEEN` waits for its `AND` behind segments. -/
def waitsAfter (waiting : Bool) (xs : List Segment) : Bool :=
  xs.foldl (fun w x => x.waits w) waiting

/-- The stretches between the `AND`s that no `BETWEEN` waits for. -/
def factorsFrom : Bool → List Segment → List (List Segment)
  | _, [] => [[]]
  | waiting, x :: xs =>
    let stretches := factorsFrom (x.waits waiting) xs
    if x.isKeyword "AND" && !waiting then [] :: stretches else stretches.modifyHead (x :: ·)

/-- A condition in parentheses, or else a test. -/
def operand : List Segment → Condition
  | [.group _ inside] => inside
  | xs => .test (xs.flatMap symbols)

/-- What stands between `AND`s: an operand behind any number of `NOT`s. -/
def factor : List Segment → Condition
  | [] => operand []
  | x :: xs => if x.isKeyword "NOT" then .not (factor xs) else operand (x :: xs)

/-- What stands between `OR`s. -/
def alternative (xs : List Segment) : Condition :=
  .joined .and ((factorsFrom false xs).map factor)

/-- The condition that segments in a row stand for. -/
def assemble (xs : List Segment) : Condition :=
  .joined .or ((xs.splitOnP (isKeyword "OR")).map alternative)

theorem factorsFrom_ne_nil (waiting : Bool) (xs : List Segment) : factorsFrom waiting xs ≠ [] := by
  induction xs generalizing waiting with
  | nil => simp [factorsFrom]
  | cons x xs ih =>
      unfold factorsFrom
      split
      · simp
      · simpa using ih _

/-- The segment that connects conditions. -/
def conjunction : Segment :=
  .symbol (.word "AND".toList)

/-- An `AND` that no `BETWEEN` waits for is where the stretches are cut. -/
theorem factorsFrom_append (xs ys : List Segment) :
    ∀ waiting, waitsAfter waiting xs = false →
      factorsFrom waiting (xs ++ conjunction :: ys) =
        factorsFrom waiting xs ++ factorsFrom false ys := by
  induction xs with
  | nil =>
      intro waiting hSettled
      obtain rfl : waiting = false := hSettled
      have hAnd : conjunction.isKeyword "AND" = true := by decide
      have hWaits : conjunction.waits false = false := by decide
      simp [factorsFrom, hAnd, hWaits]
  | cons x xs ih =>
      intro waiting hSettled
      -- whether a `BETWEEN` waits is carried along, so the segment behind `x` starts from there
      have hMore := ih (x.waits waiting) hSettled
      cases hHead : factorsFrom (x.waits waiting) xs with
      | nil => exact absurd hHead (factorsFrom_ne_nil _ _)
      | cons stretch stretches =>
          by_cases hCut : (x.isKeyword "AND" && !waiting) = true <;>
            simp [factorsFrom, hCut, hMore, hHead]

theorem waitsAfter_append (waiting : Bool) (xs ys : List Segment) :
    waitsAfter waiting (xs ++ ys) = waitsAfter (waitsAfter waiting xs) ys := by
  simp [waitsAfter]

theorem waitsAfter_cons (waiting : Bool) (x : Segment) (xs : List Segment) :
    waitsAfter waiting (x :: xs) = waitsAfter (x.waits waiting) xs := rfl

/-- No alternatives are in the row. -/
def IsConjunctive (xs : List Segment) : Prop :=
  ∀ x ∈ xs, x.isKeyword "OR" = false

@[simp]
theorem isConjunctive_append {xs ys : List Segment} :
    IsConjunctive (xs ++ ys) ↔ IsConjunctive xs ∧ IsConjunctive ys :=
  List.forall_mem_append

@[simp]
theorem isConjunctive_symbol_cons {s : Symbol} {xs : List Segment} :
    IsConjunctive (.symbol s :: xs) ↔ s.isKeyword "OR" = false ∧ IsConjunctive xs :=
  List.forall_mem_cons

theorem conjuncts_assemble {xs : List Segment} (h : IsConjunctive xs) :
    (assemble xs).conjuncts = (factorsFrom false xs).flatMap fun ys => (factor ys).conjuncts := by
  have hOne : xs.splitOnP (isKeyword "OR") = [xs] := List.splitOnP_eq_singleton h
  have hne : (factorsFrom false xs).map factor ≠ [] := by simpa using factorsFrom_ne_nil false xs
  have hAll := Condition.conjuncts_joined_and hne
  simpa [assemble, hOne, Condition.joined, alternative, List.flatMap_map] using hAll

/-- A row with an `OR` in it has alternatives. -/
theorem conjuncts_assemble_of_or {xs : List Segment} (h : ¬ IsConjunctive xs) :
    (assemble xs).conjuncts = [assemble xs] := by
  obtain ⟨x, hx, hOr⟩ : ∃ x ∈ xs, x.isKeyword "OR" = true := by
    simpa [IsConjunctive] using h
  -- there is at least one alternative on each side of it
  rcases List.append_of_mem hx with ⟨as, bs, rfl⟩
  refine Condition.conjuncts_joined_or ?_
  have hLeft := List.length_pos_iff.2
    (List.splitOnP_ne_nil (isKeyword "OR") as)
  have hRight := List.length_pos_iff.2
    (List.splitOnP_ne_nil (isKeyword "OR") bs)
  rw [List.splitOnP_append_cons as bs hOr, List.length_map, List.length_append]
  omega

/-- An `AND` between two rows connects what they stand for. -/
theorem conjuncts_assemble_append {xs ys : List Segment} (hxs : IsConjunctive xs)
    (hys : IsConjunctive ys) (hSettled : waitsAfter false xs = false) :
    (assemble (xs ++ conjunction :: ys)).conjuncts =
      (assemble xs).conjuncts ++ (assemble ys).conjuncts := by
  have hBoth : IsConjunctive (xs ++ conjunction :: ys) :=
    isConjunctive_append.2 ⟨hxs, isConjunctive_symbol_cons.2 ⟨by decide, hys⟩⟩
  calc (assemble (xs ++ conjunction :: ys)).conjuncts
      = (factorsFrom false (xs ++ conjunction :: ys)).flatMap fun zs => (factor zs).conjuncts :=
        conjuncts_assemble hBoth
    _ = (factorsFrom false xs ++ factorsFrom false ys).flatMap fun zs => (factor zs).conjuncts := by
        rw [factorsFrom_append xs ys false hSettled]
    _ = (assemble xs).conjuncts ++ (assemble ys).conjuncts := by
        rw [List.flatMap_append, conjuncts_assemble hxs, conjuncts_assemble hys]

/-- Rows with an `AND` between any two. -/
def conjoined (xss : List (List Segment)) : List Segment :=
  [conjunction].intercalate xss

theorem conjoined_cons_cons (xs ys : List Segment) (xss : List (List Segment)) :
    conjoined (xs :: ys :: xss) = xs ++ conjunction :: conjoined (ys :: xss) := by
  simp [conjoined, List.intercalate_cons_cons]

theorem isConjunctive_conjoined {xss : List (List Segment)} :
    IsConjunctive (conjoined xss) ↔ ∀ xs ∈ xss, IsConjunctive xs := by
  induction xss with
  | nil => simp [conjoined, IsConjunctive]
  | cons xs xss ih =>
      cases xss with
      | nil => simp [conjoined]
      | cons ys xss =>
          have hAnd : (Symbol.word "AND".toList).isKeyword "OR" = false := by decide
          rw [conjoined_cons_cons, List.forall_mem_cons, ← ih, conjunction, isConjunctive_append,
            isConjunctive_symbol_cons, hAnd]
          simp

theorem conjuncts_assemble_conjoined {xss : List (List Segment)} (hne : xss ≠ [])
    (hSettled : ∀ xs ∈ xss, waitsAfter false xs = false) (h : ∀ xs ∈ xss, IsConjunctive xs) :
    (assemble (conjoined xss)).conjuncts = xss.flatMap fun xs => (assemble xs).conjuncts := by
  induction xss with
  | nil => exact absurd rfl hne
  | cons xs xss ih =>
      cases xss with
      | nil => simp [conjoined]
      | cons ys xss =>
          rw [List.forall_mem_cons] at h hSettled
          calc (assemble (conjoined (xs :: ys :: xss))).conjuncts
              = (assemble (xs ++ conjunction :: conjoined (ys :: xss))).conjuncts := by
                rw [conjoined_cons_cons]
            _ = (assemble xs).conjuncts ++ (assemble (conjoined (ys :: xss))).conjuncts :=
                conjuncts_assemble_append h.1 (isConjunctive_conjoined.2 h.2) hSettled.1
            _ = (xs :: ys :: xss).flatMap fun zs => (assemble zs).conjuncts := by
                rw [ih (by simp) hSettled.2 h.2]
                rfl

/-- Rows with `AND` between them stand for the conjunction of what each of them stands for, unless
there are several of them and one has alternatives. -/
theorem conjuncts_assemble_conjoined_iff {xss : List (List Segment)} (hne : xss ≠ [])
    (hSettled : ∀ xs ∈ xss, waitsAfter false xs = false) :
    (assemble (conjoined xss)).conjuncts = (xss.flatMap fun xs => (assemble xs).conjuncts) ↔
      xss.length ≤ 1 ∨ ∀ xs ∈ xss, IsConjunctive xs := by
  constructor
  · intro hEq
    by_contra hNot
    rw [not_or, Nat.not_le] at hNot
    -- an alternative takes in its neighbours, so there is one conjunct where there should be more
    rw [conjuncts_assemble_of_or (mt isConjunctive_conjoined.1 hNot.2)] at hEq
    have hMany : xss.length ≤ (xss.flatMap fun xs => (assemble xs).conjuncts).length := by
      rw [List.length_flatMap]
      have hEach : ∀ n ∈ xss.map fun xs => (assemble xs).conjuncts.length, 1 ≤ n := by
        simpa using fun xs _ => (assemble xs).one_le_length_conjuncts
      simpa using List.length_le_sum_of_one_le _ hEach
    rw [← hEq, List.length_singleton] at hMany
    omega
  · rintro (hOne | hAll)
    · rcases List.length_eq_one_iff.1 (hOne.antisymm (List.length_pos_iff.2 hne)) with ⟨xs, rfl⟩
      simp [conjoined]
    · exact conjuncts_assemble_conjoined hne hSettled hAll

/-! ### Other tokens -/

/-- The segment with other tokens in it. -/
def mapTokens (f : Token → Token) : Segment → Segment
  | .symbol s => .symbol (s.mapToken f)
  | .group ss inside => .group (ss.map (Symbol.mapToken f)) (inside.mapTokens f)
  | .choice ss => .choice (ss.map (Symbol.mapToken f))

variable (f : Token → Token)

@[simp]
theorem isKeyword_mapTokens (keyword : String) (x : Segment) :
    (x.mapTokens f).isKeyword keyword = x.isKeyword keyword := by
  cases x with
  | symbol s => exact s.isKeyword_mapToken f keyword
  | group ss inside => rfl
  | choice ss => rfl

@[simp]
theorem waits_mapTokens (x : Segment) (waiting : Bool) :
    (x.mapTokens f).waits waiting = x.waits waiting := by
  simp [waits]

theorem symbols_mapTokens (x : Segment) :
    (x.mapTokens f).symbols = x.symbols.map (Symbol.mapToken f) := by
  cases x <;> rfl

theorem flatMap_symbols_map (xs : List Segment) :
    (xs.map (mapTokens f)).flatMap symbols = (xs.flatMap symbols).map (Symbol.mapToken f) := by
  simp [List.flatMap_map, List.map_flatMap, symbols_mapTokens]

theorem factorsFrom_map (xs : List Segment) : ∀ waiting,
    factorsFrom waiting (xs.map (mapTokens f)) =
      (factorsFrom waiting xs).map (List.map (mapTokens f)) := by
  induction xs with
  | nil => exact fun _ => rfl
  | cons x xs ih =>
      intro waiting
      cases hHead : factorsFrom (x.waits waiting) xs with
      | nil => exact absurd hHead (factorsFrom_ne_nil _ _)
      | cons stretch stretches =>
          by_cases hCut : (x.isKeyword "AND" && !waiting) = true <;>
            simp [factorsFrom, ih, hCut, hHead]

theorem splitOnP_map (keyword : String) (xs : List Segment) :
    (xs.map (mapTokens f)).splitOnP (isKeyword keyword) =
      (xs.splitOnP (isKeyword keyword)).map (List.map (mapTokens f)) := by
  induction xs with
  | nil => simp
  | cons x xs ih =>
      cases hHead : xs.splitOnP (isKeyword keyword) with
      | nil => exact absurd hHead (List.splitOnP_ne_nil _ _)
      | cons stretch stretches =>
          by_cases hx : x.isKeyword keyword = true <;>
            simp [List.splitOnP_cons_eq_if_modifyHead, ih, hx, hHead]

theorem operand_map (xs : List Segment) :
    operand (xs.map (mapTokens f)) = (operand xs).mapTokens f := by
  have hTest : Condition.test ((xs.map (mapTokens f)).flatMap symbols) =
      (Condition.test (xs.flatMap symbols)).mapTokens f := by
    rw [flatMap_symbols_map, Condition.mapTokens]
  -- only a group that stands alone is more than its symbols
  rcases xs with _ | ⟨x, _ | ⟨y, xs⟩⟩
  · exact hTest
  · cases x with
    | group ss inside => rfl
    | symbol s => exact hTest
    | choice ss => exact hTest
  · cases x <;> exact hTest

theorem factor_map (xs : List Segment) :
    factor (xs.map (mapTokens f)) = (factor xs).mapTokens f := by
  induction xs with
  | nil => rfl
  | cons x xs ih =>
      by_cases hNot : x.isKeyword "NOT" = true
      · simp [factor, hNot, ih, Condition.mapTokens]
      · simpa [factor, hNot] using operand_map f (x :: xs)

theorem assemble_map (xs : List Segment) :
    assemble (xs.map (mapTokens f)) = (assemble xs).mapTokens f := by
  have hAnd := Condition.mapTokens_joined f .and fun _ _ => rfl
  have hOr := Condition.mapTokens_joined f .or fun _ _ => rfl
  have hAlternative (ys : List Segment) :
      alternative (ys.map (mapTokens f)) = (alternative ys).mapTokens f := by
    rw [alternative, alternative, hAnd, factorsFrom_map]
    simp [factor_map, Function.comp_def]
  rw [assemble, assemble, hOr, splitOnP_map]
  simp [hAlternative, Function.comp_def]

end Segment

/-! ## Reading -/

/-- A bracket that is open, with the segments before it. -/
structure Frame where
  opening : Symbol
  before : List Segment

/-- The bracket with all that stands in it, if the symbol closes it. -/
def Frame.close (f : Frame) (inside : List Segment) (closing : Symbol) : Option Segment :=
  let symbols := f.opening :: (inside.flatMap Segment.symbols ++ [closing])
  if f.opening == .mark '(' && closing == .mark ')' then
    some (.group symbols (Segment.assemble inside))
  else if f.opening.isKeyword "CASE" && closing.isKeyword "END" then some (.choice symbols)
  else none

/-- What has been read: the brackets that are open, and the segments in the innermost one. -/
structure Reading where
  frames : List Frame
  seen : List Segment

namespace Reading

/-- Reads one more symbol; none if it closes a bracket that is not open. -/
def step (r : Reading) (s : Symbol) : Option Reading :=
  if s.opens then some ⟨⟨s, r.seen⟩ :: r.frames, []⟩
  else if s.closes then
    match r.frames with
    | [] => none
    | f :: frames => (f.close r.seen s).map fun x => ⟨frames, f.before ++ [x]⟩
  else some ⟨r.frames, r.seen ++ [.symbol s]⟩

/-- The condition that has been read; none if a bracket is still open. -/
def condition? (r : Reading) : Option Condition :=
  match r.frames with
  | [] => some (Segment.assemble r.seen)
  | _ :: _ => none

end Reading

/-- The condition that symbols in a row stand for; none if brackets do not match. -/
def Condition.ofSymbols? (ss : List Symbol) : Option Condition :=
  (ss.foldlM Reading.step ⟨[], []⟩).bind Reading.condition?

/-- The condition that a text stands for; none if quotes or brackets do not match. -/
def Condition.ofText? (text : String) : Option Condition :=
  (lex text.toList).bind fun ls => ofSymbols? (symbols ls)

/-- Wherever the symbols stand, they are read as the segments. -/
def Reads (ss : List Symbol) (xs : List Segment) : Prop :=
  ∀ r : Reading, ss.foldlM Reading.step r = some ⟨r.frames, r.seen ++ xs⟩

namespace Reads

variable {ss ts : List Symbol} {xs ys : List Segment}

theorem nil : Reads [] [] := by
  intro r
  simp

theorem append (hs : Reads ss xs) (ht : Reads ts ys) : Reads (ss ++ ts) (xs ++ ys) := by
  intro r
  simp [List.foldlM_append, hs r, ht ⟨r.frames, r.seen ++ xs⟩]

theorem symbol {s : Symbol} (hOpens : s.opens = false) (hCloses : s.closes = false) :
    Reads [s] [.symbol s] := by
  intro r
  simp [Reading.step, hOpens, hCloses]

/-- Symbols in a bracket are read as one segment. -/
theorem bracket {opening closing : Symbol} {x : Segment} (h : Reads ss xs)
    (hOpens : opening.opens = true) (hNot : closing.opens = false) (hCloses : closing.closes = true)
    (hClose : ∀ before, Frame.close ⟨opening, before⟩ xs closing = some x) :
    Reads (opening :: (ss ++ [closing])) [x] := by
  intro r
  simp [Reading.step, hOpens, List.foldlM_append, h ⟨⟨opening, r.seen⟩ :: r.frames, []⟩, hNot,
    hCloses, hClose]

theorem parens (h : Reads ss xs) :
    Reads (.mark '(' :: (ss ++ [.mark ')']))
      [.group (.mark '(' :: (xs.flatMap Segment.symbols ++ [.mark ')']))
        (Segment.assemble xs)] :=
  h.bracket (by decide) (by decide) (by decide) fun _ => rfl

theorem choice (h : Reads ss xs) :
    Reads (.word "CASE".toList :: (ss ++ [.word "END".toList]))
      [.choice (.word "CASE".toList :: (xs.flatMap Segment.symbols ++ [.word "END".toList]))] :=
  h.bracket (by decide) (by decide) (by decide) fun _ => rfl

theorem ofSymbols?_eq (h : Reads ss xs) :
    Condition.ofSymbols? ss = some (Segment.assemble xs) := by
  simp [Condition.ofSymbols?, h ⟨[], []⟩, Reading.condition?]

end Reads

/-! ### Other tokens -/

section MapTokens

variable (f : Token → Token)

/-- The same brackets with other tokens in them. -/
def Reading.mapTokens (r : Reading) : Reading where
  frames := r.frames.map fun b => ⟨b.opening.mapToken f, b.before.map (Segment.mapTokens f)⟩
  seen := r.seen.map (Segment.mapTokens f)

theorem Frame.close_map (b : Frame) (inside : List Segment) (closing : Symbol) :
    Frame.close ⟨b.opening.mapToken f, b.before.map (Segment.mapTokens f)⟩
        (inside.map (Segment.mapTokens f)) (closing.mapToken f) =
      (b.close inside closing).map (Segment.mapTokens f) := by
  unfold Frame.close
  simp only [beq_iff_eq, Bool.and_eq_true, Symbol.mapToken_eq_mark, Symbol.isKeyword_mapToken,
    Segment.flatMap_symbols_map, Segment.assemble_map]
  split
  · simp [Segment.mapTokens]
  · split <;> simp [Segment.mapTokens]

theorem Reading.step_map (r : Reading) (s : Symbol) :
    (r.mapTokens f).step (s.mapToken f) = (r.step s).map (Reading.mapTokens f) := by
  rcases r with ⟨frames, seen⟩
  by_cases hOpens : s.opens = true
  · simp [step, hOpens, mapTokens]
  · by_cases hCloses : s.closes = true
    · cases frames with
      | nil => simp [step, hOpens, hCloses, mapTokens]
      | cons b frames =>
          have hClose := b.close_map f seen s
          cases hBracket : b.close seen s with
          | none => simpa [step, hOpens, hCloses, mapTokens, hBracket] using hClose
          | some x =>
              simp only [hBracket, Option.map_some] at hClose
              simp [step, hOpens, hCloses, mapTokens, hClose, hBracket]
    · simp [step, hOpens, hCloses, mapTokens, Segment.mapTokens]

theorem Reading.condition?_map (r : Reading) :
    (r.mapTokens f).condition? = r.condition?.map (Condition.mapTokens f) := by
  rcases r with ⟨_ | ⟨b, frames⟩, seen⟩
  · simp [condition?, mapTokens, Segment.assemble_map]
  · rfl

/-- The reader does not look into tokens. -/
theorem Condition.ofSymbols?_map (ss : List Symbol) :
    ofSymbols? (ss.map (Symbol.mapToken f)) = (ofSymbols? ss).map (mapTokens f) := by
  -- step by step, from any brackets that are open
  have hRun : ∀ r : Reading, (ss.map (Symbol.mapToken f)).foldlM Reading.step (r.mapTokens f) =
      (ss.foldlM Reading.step r).map (Reading.mapTokens f) := by
    induction ss with
    | nil => simp
    | cons s ss ih =>
        intro r
        cases hStep : r.step s with
        | none => simp [Reading.step_map, hStep]
        | some r' => simp [Reading.step_map, hStep, ih]
  have hStart := hRun ⟨[], []⟩
  simp only [Reading.mapTokens, List.map_nil] at hStart
  unfold ofSymbols?
  rw [hStart]
  cases ss.foldlM Reading.step ⟨[], []⟩ with
  | none => rfl
  | some r => exact r.condition?_map f

end MapTokens

example : Condition.ofText? "NOT a AND b BETWEEN 1 AND 2 OR (c)" =
    some (.or (.and (.not (.test [.word ['a']])) (.test [.word ['b'], .word "BETWEEN".toList,
      .word ['1'], .word "AND".toList, .word ['2']])) (.test [.word ['c']])) := by decide

end TableQuery
