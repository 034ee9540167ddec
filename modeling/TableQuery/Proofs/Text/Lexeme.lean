import Mathlib.Data.List.Chain

/-!
# Lexeme — quoted tokens and bare characters

SQL text as a sequence of quoted tokens and bare characters. A quoted token stands between two equal
quotes, single for strings and double for names, and has every quote inside written twice. This file
defines

* `lex`, which reads a text, unless a quote stays open;
* `spell`, which writes lexemes down;

and shows that reading takes back what was written, provided no two quoted tokens touch.
-/

namespace TableQuery

/-- A text between quotes, as it is meant. -/
structure Token where
  quote : Char
  content : List Char
  deriving DecidableEq, Repr

/-- A quoted token or one bare character. -/
inductive Lexeme where
  | quoted (token : Token)
  | mark (c : Char)
  deriving DecidableEq, Repr

namespace Lexeme

/-- Single and double quotes. -/
def isQuote (c : Char) : Bool :=
  c == '\'' || c == '"'

/-! ## Reading -/

/-- Where a reader stands: outside of quotes, inside a quoted token, or just behind a quote that
ends the token unless it is the first of a pair. -/
inductive Place where
  | outside
  | inside (quote : Char) (seen : List Char)
  | closing (quote : Char) (seen : List Char)
  deriving DecidableEq

/-- The lexemes from a place on; none if a quote stays open. -/
def lexFrom : Place → List Char → Option (List Lexeme)
  | .outside, [] => some []
  | .outside, c :: cs =>
    if isQuote c then lexFrom (.inside c []) cs else (lexFrom .outside cs).map (.mark c :: ·)
  | .inside _ _, [] => none
  | .inside q seen, c :: cs =>
    if c = q then lexFrom (.closing q seen) cs else lexFrom (.inside q (seen ++ [c])) cs
  | .closing q seen, [] => some [.quoted ⟨q, seen⟩]
  | .closing q seen, c :: cs =>
    if c = q then lexFrom (.inside q (seen ++ [q])) cs
    else if isQuote c then (lexFrom (.inside c []) cs).map (.quoted ⟨q, seen⟩ :: ·)
    else (lexFrom .outside cs).map fun ls => .quoted ⟨q, seen⟩ :: .mark c :: ls

/-- The lexemes of a text. -/
def lex (cs : List Char) : Option (List Lexeme) :=
  lexFrom .outside cs

/-! ## Writing -/

/-- The characters with every one of a quote written twice. -/
def doubled (q : Char) : List Char → List Char
  | [] => []
  | c :: cs => if c = q then q :: q :: doubled q cs else c :: doubled q cs

theorem head?_doubled (q : Char) (cs : List Char) : (doubled q cs).head? = cs.head? := by
  cases cs with
  | nil => rfl
  | cons c cs => by_cases hc : c = q <;> simp [doubled, hc]

theorem doubled_append (q : Char) (cs ds : List Char) :
    doubled q (cs ++ ds) = doubled q cs ++ doubled q ds := by
  induction cs with
  | nil => rfl
  | cons c cs ih => by_cases hc : c = q <;> simp [doubled, hc, ih]

theorem doubled_of_notMem {q : Char} {cs : List Char} (h : q ∉ cs) : doubled q cs = cs := by
  induction cs with
  | nil => rfl
  | cons c cs ih =>
      simp only [List.mem_cons, not_or] at h
      simp [doubled, Ne.symm h.1, ih h.2]

/-- The characters of a lexeme. -/
def chars : Lexeme → List Char
  | .quoted t => t.quote :: (doubled t.quote t.content ++ [t.quote])
  | .mark c => [c]

/-- The characters of lexemes in a row. -/
def spell (ls : List Lexeme) : List Char :=
  ls.flatMap chars

@[simp]
theorem spell_nil : spell [] = [] := rfl

@[simp]
theorem spell_cons (l : Lexeme) (ls : List Lexeme) : spell (l :: ls) = l.chars ++ spell ls := rfl

@[simp]
theorem spell_append (ls ms : List Lexeme) : spell (ls ++ ms) = spell ls ++ spell ms := by
  simp [spell]

@[simp]
theorem spell_map_mark (cs : List Char) : spell (cs.map .mark) = cs := by
  induction cs with
  | nil => rfl
  | cons c cs ih => simp [chars, ih]

theorem spell_eq_nil {ls : List Lexeme} : spell ls = [] ↔ ls = [] := by
  cases ls with
  | nil => simp
  | cons l ls => cases l <;> simp [chars]

/-- The quoted tokens among lexemes. -/
def tokens (ls : List Lexeme) : List Token :=
  ls.filterMap fun
    | .quoted t => some t
    | .mark _ => none

@[simp]
theorem tokens_nil : tokens [] = [] := rfl

@[simp]
theorem tokens_quoted_cons (t : Token) (ls : List Lexeme) :
    tokens (.quoted t :: ls) = t :: tokens ls := rfl

@[simp]
theorem tokens_mark_cons (c : Char) (ls : List Lexeme) : tokens (.mark c :: ls) = tokens ls := rfl

@[simp]
theorem tokens_append (ls ms : List Lexeme) : tokens (ls ++ ms) = tokens ls ++ tokens ms := by
  simp [tokens]

@[simp]
theorem tokens_map_mark (cs : List Char) : tokens (cs.map .mark) = [] := by
  simp [tokens, List.filterMap_map]

/-! ## Reading what was written -/

/-- Whether two lexemes may follow each other: quoted tokens do not touch, and no comment opens. -/
def mayTouch : Lexeme → Lexeme → Bool
  | .quoted _, .quoted _ => false
  | .mark a, .mark b => !(a == '-' && b == '-') && !(a == '/' && b == '*')
  | _, _ => true

/-- Quoted tokens stand between quotes, and bare characters are none. -/
def isProper : Lexeme → Bool
  | .quoted t => isQuote t.quote
  | .mark c => !isQuote c

theorem lexFrom_inside (q : Char) (cs rest : List Char) :
    ∀ seen, lexFrom (.inside q seen) (doubled q cs ++ q :: rest) =
      lexFrom (.closing q (seen ++ cs)) rest := by
  induction cs with
  | nil =>
      intro seen
      simp [doubled, lexFrom]
  | cons c cs ih =>
      intro seen
      by_cases hc : c = q
      · -- a doubled quote leaves the token and enters it again
        subst hc
        simp [doubled, lexFrom, ih]
      · simp [doubled, hc, lexFrom, ih]

/-- Behind a quoted token the reader goes on with what follows, which opens no quote. -/
theorem lexFrom_closing {q : Char} (seen : List Char) {ls : List Lexeme}
    (hProper : ∀ l ∈ ls, l.isProper = true) (hq : isQuote q = true)
    (hTouch : ∀ l ∈ ls.head?, mayTouch (.quoted ⟨q, seen⟩) l = true) :
    lexFrom (.closing q seen) (spell ls) =
      (lexFrom .outside (spell ls)).map (.quoted ⟨q, seen⟩ :: ·) := by
  cases ls with
  | nil => rfl
  | cons l ls =>
      cases l with
      | quoted t => simp [mayTouch] at hTouch
      | mark c =>
          have hc : isQuote c = false := by
            simpa [isProper] using hProper (.mark c) (by simp)
          -- were it the quote itself, the token would go on
          have hne : c ≠ q := by
            rintro rfl
            simp [hq] at hc
          simp [chars, lexFrom, hc, hne, Function.comp_def]

theorem lex_spell {ls : List Lexeme} (hProper : ∀ l ∈ ls, l.isProper = true)
    (hChain : ls.IsChain (mayTouch · · = true)) : lex (spell ls) = some ls := by
  unfold lex
  induction ls with
  | nil => rfl
  | cons l ls ih =>
      have hRest := ih (fun m hm => hProper m (List.mem_cons_of_mem _ hm)) hChain.tail
      have hl := hProper l (by simp)
      cases l with
      | mark c =>
          have hc : isQuote c = false := by simpa [isProper] using hl
          simp [chars, lexFrom, hc, hRest]
      | quoted t =>
          have hq : isQuote t.quote = true := hl
          -- what follows the token in the chain is all that could run into it
          have hTouch : ∀ m ∈ ls.head?, mayTouch (.quoted t) m = true := by
            intro m hm
            cases ls with
            | nil => simp at hm
            | cons m' ls =>
                obtain rfl : m' = m := by simpa using hm
                exact (List.isChain_cons_cons.1 hChain).1
          have hClosing := lexFrom_closing t.content
            (fun m hm => hProper m (List.mem_cons_of_mem _ hm)) hq hTouch
          simp [chars, lexFrom, hq, lexFrom_inside, hClosing, hRest]

example : lex "a = 'it''s'".toList =
    some ((("a = ".toList).map .mark) ++ [.quoted ⟨'\'', "it's".toList⟩]) := by decide

end Lexeme
end TableQuery
