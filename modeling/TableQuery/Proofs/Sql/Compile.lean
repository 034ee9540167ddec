import TableQuery.Proofs.Sql.Statement

/-!
# Compile — one statement, and every token in it

What the phrases of a compiled relation come to, whatever strings its names and literals hold:

* the text is one statement, closed in itself;
* its quoted tokens are those of the relation's names and literals, one for one and in order, and
  none is altered unless a line break in it was moved.
-/

namespace TableQuery

open Lexeme

/-! ## One statement -/

/-- All quotes are closed, and outside of them there is no semicolon, no comment opens, and
parentheses are balanced without ever closing one that is not open. -/
def OneStatement (text : String) : Prop :=
  ∃ ls, lex text.toList = some ls ∧ .mark ';' ∉ ls ∧ ¬[.mark '-', .mark '-'] <:+: ls ∧
    ¬[.mark '/', .mark '*'] <:+: ls ∧ nesting 0 ls = some 0

theorem Tidy.mayTouch_of_infix {ls : List Lexeme} (h : Tidy ls) {a b : Lexeme}
    (hab : [a, b] <:+: ls) : mayTouch a b = true := by
  have hPair := h.chain.infix hab
  simpa using hPair

theorem Phrase.oneStatement {text : String} {ts : List Token} (h : Phrase text ts) :
    OneStatement text := by
  rcases h with ⟨ls, hText, hTidy, -⟩
  -- lexing the text gives the lexemes back, so all that is left is what tidiness says of them
  refine ⟨ls, ?_, ?_, ?_, ?_, hTidy.level 0⟩
  · rw [hText]
    exact hTidy.lex_spell
  · intro hMark
    have hNot := hTidy.tidy _ hMark
    cases hNot
  · intro hPair
    have hNot := hTidy.mayTouch_of_infix hPair
    cases hNot
  · intro hPair
    have hNot := hTidy.mayTouch_of_infix hPair
    cases hNot

/-- A compiled relation is one statement. Names, literals, aliases and functions may hold any
strings, and indentation, aliases and the depth of nesting may be set in any way. -/
theorem Dialect.oneStatement_of_compile {d : Dialect} (hd : d.IsStandard) {r : Relation}
    (hr : r.Tame) {text : String} (h : d.compile r = .ok text) : OneStatement text :=
  (phrase_compile hd hr h).oneStatement

/-- Names and a string full of punctuation, and the negation of a negative number. -/
def Relation.punctuated : Relation :=
  .selection 3
    (.selection 2 (.table 1 "log;--" ⟨[⟨"a", .int64, true⟩]⟩)
      [.alias (.call .negate [.literal (.int (-5))]) "x\"y",
        .alias (.call .dateTruncate [.column ⟨⟨1, .table⟩, "a"⟩, .literal (.string "DAY")]) "a"]
      [] [])
    []
    [.call .equals [.column ⟨⟨2, .selection⟩, "a"⟩, .literal (.string "it's; --\n/*(")]]
    []

theorem Relation.tame_punctuated : punctuated.Tame :=
  ⟨by decide +kernel, by decide +kernel⟩

theorem Dialect.compile_punctuated : standard.compile Relation.punctuated =
    .ok ("SELECT *\nFROM (\n  SELECT -(-5) AS \"x\"\"y\", DATE_TRUNC(DAY, a) AS a\n" ++
      "  FROM \"log;--\"\n) t0\nWHERE a = 'it''s; --\n/*('") := by
  decide +kernel

theorem Dialect.oneStatement_punctuated :
    standard.IsStandard ∧ Relation.punctuated.Tame ∧
      ∃ text, standard.compile Relation.punctuated = .ok text ∧ OneStatement text :=
  ⟨⟨rfl, rfl⟩, Relation.tame_punctuated, _, compile_punctuated,
    oneStatement_of_compile ⟨rfl, rfl⟩ Relation.tame_punctuated compile_punctuated⟩

/-! ## Tokens -/

/-- What has become of a token: nothing, unless a line break in it was moved. -/
def Placed.Survives (p : Placed) (t : Token) : Prop :=
  p.widths = [] ∨ '\n' ∉ p.token.content → t = p.token

theorem Token.moved_of_notMem {t : Token} (h : '\n' ∉ t.content) (width : Nat) :
    t.moved width = t := by
  rw [Token.moved, Text.movedChars_of_notMem width h]

theorem Placed.survives_final (p : Placed) : p.Survives p.final := by
  rintro (hFresh | hBreak)
  · rw [final, hFresh, List.foldl_nil]
  · -- moving a token without line breaks leaves it as it is, however often it is moved
    rw [final]
    induction p.widths with
    | nil => rfl
    | cons width widths ih => rw [List.foldl_cons, Token.moved_of_notMem hBreak, ih]

/-- The quoted tokens of a compiled relation are those of its names and literals, in order, and each
is the same unless it holds a line break and stands in text that was moved to the right. -/
theorem Dialect.tokens_of_compile {d : Dialect} (hd : d.IsStandard) {r : Relation} (hr : r.Tame)
    {text : String} (h : d.compile r = .ok text) :
    ∃ ls, lex text.toList = some ls ∧
      List.Forall₂ Placed.Survives (r.quotes d) (tokens ls) := by
  rcases phrase_compile hd hr h with ⟨ls, hText, hTidy, hTokens⟩
  refine ⟨ls, ?_, ?_⟩
  · rw [hText]
    exact hTidy.lex_spell
  · rw [hTokens, List.forall₂_map_right_iff, List.forall₂_same]
    exact fun p _ => p.survives_final

theorem Dialect.tokens_of_compile_punctuated :
    standard.IsStandard ∧ Relation.punctuated.Tame ∧
      ∃ text ls, standard.compile Relation.punctuated = .ok text ∧ lex text.toList = some ls ∧
        List.Forall₂ Placed.Survives (Relation.punctuated.quotes standard) (tokens ls) := by
  have hStandard : standard.IsStandard := ⟨rfl, rfl⟩
  rcases tokens_of_compile hStandard Relation.tame_punctuated compile_punctuated with
    ⟨ls, hLex, hTokens⟩
  exact ⟨hStandard, Relation.tame_punctuated, _, ls, compile_punctuated, hLex, hTokens⟩

/-! ## What does not survive -/

/-- Times cut to days. -/
def Relation.cutToDays : Relation :=
  .selection 2 (.table 1 "log" ⟨[⟨"at", .timestamp, true⟩]⟩)
    [.alias (.call .dateTruncate [.column ⟨⟨1, .table⟩, "at"⟩, .literal (.string "DAY")]) "d"] [] []

/-- A filter by a string of two lines, inside a derived table. -/
def Relation.nestedLines : Relation :=
  .limit 4
    (.limit 3
      (.selection 2 (.table 1 "log" ⟨[⟨"a", .string, true⟩]⟩) []
        [.call .equals [.column ⟨⟨1, .table⟩, "a"⟩, .literal (.string "x\ny")]] [])
      5 0)
    3 0

/-- The token of a unit is left out by design, and a line break in a string that stands in a derived
table is followed by spaces that the string does not have. -/
theorem Dialect.quotes_lost_or_altered :
    (∃ text, standard.compile Relation.cutToDays = .ok text ∧
      quotesOf "'DAY'" = [⟨'\'', "DAY".toList⟩] ∧ ⟨'\'', "DAY".toList⟩ ∉ quotesOf text) ∧
    ∃ text, standard.compile Relation.nestedLines = .ok text ∧
      quotesOf "'x\ny'" = [⟨'\'', "x\ny".toList⟩] ∧
      quotesOf text = [⟨'\'', "x\n  y".toList⟩] := by
  refine ⟨⟨"SELECT DATE_TRUNC(DAY, \"at\") AS d\nFROM log", ?_⟩,
    "SELECT *\nFROM (\n  SELECT *\n  FROM log\n  WHERE a = 'x\n  y'\n  LIMIT 5\n) t0\nLIMIT 3", ?_⟩
  · decide +kernel
  · decide +kernel

end TableQuery
