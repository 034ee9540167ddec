import TableQuery.Proofs.Condition.Reading
import TableQuery.Proofs.Sql.Atom
import TableQuery.Proofs.Text.Indent

/-!
# Sentence — text that is read by itself

A sentence is a phrase that the reader of conditions takes as the same segments wherever it stands.
Sentences are put together as phrases are: what is joined at a seam is a sentence again, and a
sentence in parentheses is one segment. Three properties are kept apart:

* a text is `Legible` if it is a sentence, and flat if no connective stands outside of its
  brackets, so that it may be the operand of any operator;
* a text is `Settled` if no `BETWEEN` waits for its `AND` at the end, so that an `AND` behind the
  text connects conditions.
-/

namespace TableQuery

open Lexeme

/-! ## The symbols of a text -/

/-- The symbols of a text; none if a quote stays open. -/
def symbolsOf (text : String) : List Symbol :=
  ((lex text.toList).map symbols).getD []

theorem symbolsOf_eq {text : String} {ls : List Lexeme} (hText : text.toList = spell ls)
    (hTidy : Tidy ls) : symbolsOf text = symbols ls := by
  simp [symbolsOf, hText, hTidy.lex_spell]

/-- Neutral characters that are no part of a word. -/
def isSeam (c : Char) : Bool :=
  isNeutral c && !Identifier.isWordChar c

/-- The text is empty or starts at a seam. -/
def StartsApart (text : String) : Prop :=
  ∀ c ∈ text.toList.head?, isSeam c = true

/-- The text ends at a seam. -/
def EndsApart (text : String) : Prop :=
  text.toList.getLast?.any isSeam = true

instance (text : String) : Decidable (StartsApart text) :=
  Option.decidableForallMem text.toList.head?

instance (text : String) : Decidable (EndsApart text) :=
  inferInstanceAs (Decidable (_ = _))

theorem StartsApart.leads {text : String} (h : StartsApart text) : Leads text := by
  intro c hc
  have hSeam := h c hc
  rw [isSeam, Bool.and_eq_true] at hSeam
  exact hSeam.1

theorem StartsApart.append {a b : String} (h : StartsApart a) (hne : a ≠ "") :
    StartsApart (a ++ b) := by
  intro c hc
  refine h c ?_
  rw [String.toList_append, List.head?_append_of_ne_nil _ (by simpa using hne)] at hc
  exact hc

theorem EndsApart.trails {text : String} (h : EndsApart text) : Trails text := by
  intro c hc
  rw [EndsApart, Option.mem_def.1 hc, Option.any_some, isSeam, Bool.and_eq_true] at h
  exact h.1

theorem EndsApart.append {a b : String} (h : EndsApart b) : EndsApart (a ++ b) := by
  have hne : b.toList ≠ [] := by
    intro hNil
    simp [EndsApart, hNil] at h
  rwa [EndsApart, String.toList_append, List.getLast?_append_of_ne_nil _ hne]

/-- No word goes on into a text that starts at a seam. -/
theorem StartsApart.inWord {text : String} {ls : List Lexeme} (h : StartsApart text)
    (hText : text.toList = spell ls) : ∀ l ∈ ls.head?, l.inWord = false := by
  intro l hl
  rcases List.head?_eq_some_iff.1 hl with ⟨ms, rfl⟩
  cases l with
  | quoted t => rfl
  | mark c =>
      have hSeam := h c (by simp [hText, chars])
      rw [isSeam, Bool.and_eq_true, Bool.not_eq_true'] at hSeam
      exact hSeam.2

/-- No word goes on behind a text that ends at a seam. -/
theorem EndsApart.inWord {text : String} {ls : List Lexeme} (h : EndsApart text)
    (hText : text.toList = spell ls) : ∀ l ∈ ls.getLast?, l.inWord = false := by
  intro l hl
  rcases List.getLast?_eq_some_iff.1 hl with ⟨init, rfl⟩
  cases l with
  | quoted t => rfl
  | mark c =>
      simp only [EndsApart, hText, spell_append, spell_cons, chars, spell_nil, List.append_nil,
        List.getLast?_concat, Option.any_some, isSeam, Bool.and_eq_true, Bool.not_eq_true'] at h
      exact h.2

section Symbols

variable {a b : String} {s t : List Token}

theorem symbolsOf_append_of_startsApart (ha : Phrase a s) (hb : Phrase b t) (h : StartsApart b) :
    symbolsOf (a ++ b) = symbolsOf a ++ symbolsOf b := by
  rcases ha with ⟨ls, hls, hl, -⟩
  rcases hb with ⟨ms, hms, hm, -⟩
  have hBoth : Tidy (ls ++ ms) :=
    hl.append hm fun x _ y hy => mayTouch_of_leads hms hm h.leads y hy x
  rw [symbolsOf_eq hls hl, symbolsOf_eq hms hm, symbolsOf_eq (by simp [hls, hms]) hBoth]
  exact symbols_append_of_head (h.inWord hms)

theorem symbolsOf_append_of_endsApart (ha : Phrase a s) (hb : Phrase b t) (h : EndsApart a) :
    symbolsOf (a ++ b) = symbolsOf a ++ symbolsOf b := by
  rcases ha with ⟨ls, hls, hl, -⟩
  rcases hb with ⟨ms, hms, hm, -⟩
  have hBoth : Tidy (ls ++ ms) :=
    hl.append hm fun x hx y _ => mayTouch_of_trails hls hl h.trails x hx y
  rw [symbolsOf_eq hls hl, symbolsOf_eq hms hm, symbolsOf_eq (by simp [hls, hms]) hBoth]
  exact symbols_append_of_getLast (h.inWord hls)

theorem symbolsOf_paren (ha : Phrase a s) :
    symbolsOf ("(" ++ a ++ ")") = .mark '(' :: (symbolsOf a ++ [.mark ')']) := by
  rcases ha with ⟨ls, hls, hl, -⟩
  -- no word goes on across a parenthesis, on either side
  rw [symbolsOf_eq hls hl, symbolsOf_eq (by simp [hls, chars]) hl.paren]
  have hClose : symbols (ls ++ [.mark ')']) = symbols ls ++ symbols [.mark ')'] :=
    symbols_append_of_head (by decide)
  rw [symbols_mark_cons (by decide), hClose]
  rfl

theorem symbolsOf_minus (ha : Phrase a s) (hHead : a.toList.head? ≠ some '-') :
    symbolsOf ("-" ++ a) = .mark '-' :: symbolsOf a := by
  rcases ha with ⟨ls, hls, hl, -⟩
  rw [hls] at hHead
  rw [symbolsOf_eq hls hl, symbolsOf_eq (by simp [hls, chars]) (hl.minus hHead)]
  exact symbols_mark_cons (by decide) ls

theorem symbolsOf_quoted {q : Char} (hq : isQuote q = true) (content : List Char) :
    symbolsOf (String.ofList (q :: (doubled q content ++ [q]))) = [.quoted ⟨q, content⟩] := by
  have hTidy : Tidy [.quoted ⟨q, content⟩] :=
    ⟨by simpa [isTidy] using hq, .singleton _, fun _ => rfl⟩
  rw [symbolsOf_eq (by simp [chars]) hTidy]
  rfl

end Symbols

/-- The condition of a phrase is that of its symbols. -/
theorem Condition.ofText?_eq {text : String} {ts : List Token} (h : Phrase text ts) :
    ofText? text = ofSymbols? (symbolsOf text) := by
  rcases h with ⟨ls, hText, hTidy, -⟩
  simp [ofText?, symbolsOf, hText, hTidy.lex_spell]

/-! ### Moved text -/

theorem symbols_blanks_append (width : Nat) (ls : List Lexeme) :
    symbols (blanks width ++ ls) = symbols ls := by
  induction width with
  | zero => rfl
  | succ width ih => exact ih

/-- Moving text to the right changes no symbols but the tokens that have line breaks inside. -/
theorem symbolsFrom_shifted (width : Nat) (ls : List Lexeme) : ∀ begun,
    symbolsFrom begun (shifted width ls) =
      (symbolsFrom begun ls).map (Symbol.mapToken (Token.moved width)) := by
  have hBegun (begun : List Char) :
      (begunWord begun).map (Symbol.mapToken (Token.moved width)) = begunWord begun := by
    cases begun <;> rfl
  -- by the lexemes, from any word that has begun: a line break ends it as the blanks behind it do
  induction ls with
  | nil => exact fun begun => (hBegun begun).symm
  | cons l ls ih =>
      intro begun
      cases l with
      | quoted t => simp [shifted, symbolsFrom, ih, hBegun, Symbol.mapToken]
      | mark c =>
          rcases shifted_mark_cases width c ls with
            ⟨rfl, rfl, hShifted⟩ | ⟨rfl, -, hShifted⟩ | ⟨-, hShifted⟩
          · -- a line break at the very end is dropped, and is no symbol
            rw [hShifted]
            have hEnd : symbolsFrom begun [.mark '\n'] = begunWord begun := by
              simp [symbolsFrom, Identifier.isWordChar, begunWord]
            rw [hEnd]
            exact (hBegun begun).symm
          · have hLine : symbolsFrom [] (blanks width ++ shifted width ls) =
                symbolsFrom [] (shifted width ls) := symbols_blanks_append width _
            simp [hShifted, symbolsFrom, Identifier.isWordChar, hLine, ih, hBegun]
          · rw [hShifted]
            by_cases hWord : Identifier.isWordChar c = true
            · simp [symbolsFrom, hWord, ih]
            · by_cases hBlank : c.isWhitespace = true <;>
                simp [symbolsFrom, hWord, hBlank, ih, hBegun, Symbol.mapToken]

theorem symbolsOf_indent {text : String} {ts : List Token} (h : Phrase text ts) (width : Nat) :
    symbolsOf (Text.indent width text) =
      (symbolsOf text).map (Symbol.mapToken (Token.moved width)) := by
  rcases h with ⟨ls, hText, hTidy, -⟩
  by_cases hEmpty : text = ""
  · subst hEmpty
    rfl
  · have hMoved : Tidy (blanks width ++ shifted width ls) :=
      (tidy_blanks width).append (hTidy.shifted width) fun x hx y _ =>
        mayTouch_of_mem_blanks (List.mem_of_mem_getLast? hx) y
    have hIndented :
        (Text.indent width text).toList = spell (blanks width ++ shifted width ls) := by
      simp [Text.toList_indent, hEmpty, hText, reindented_spell width hTidy.tidy]
    rw [symbolsOf_eq hText hTidy, symbolsOf_eq hIndented hMoved, symbols_blanks_append]
    exact symbolsFrom_shifted width ls []

/-! ## Quiet symbols -/

/-- Whether the symbol is neither a bracket nor one that connects conditions, nor a `BETWEEN`. -/
def Symbol.isQuiet (s : Symbol) : Bool :=
  !s.opens && !s.closes && !s.isKeyword "AND" && !s.isKeyword "OR" && !s.isKeyword "BETWEEN"

/-- Whether no connective stands in the segment outside of brackets. -/
def Segment.isQuiet : Segment → Bool
  | .symbol s => s.isQuiet
  | .group _ _ | .choice _ => true

/-- Bare text with quiet symbols only. -/
def Quiet (text : String) : Prop :=
  Bare text ∧ ∀ s ∈ symbolsOf text, s.isQuiet = true

instance (text : String) : Decidable (Quiet text) :=
  have := List.decidableBAll (fun s => Symbol.isQuiet s = true) (symbolsOf text)
  inferInstanceAs (Decidable (_ ∧ _))

namespace Segment

variable {xs : List Segment}

theorem waits_of_isQuiet {x : Segment} (h : x.isQuiet = true) (waiting : Bool) :
    x.waits waiting = waiting := by
  cases x with
  | symbol s =>
      simp only [isQuiet, Symbol.isQuiet, Bool.and_eq_true, Bool.not_eq_true'] at h
      simp [waits, isKeyword, h]
  | group ss inside => rfl
  | choice ss => rfl

theorem waitsAfter_of_isQuiet (h : ∀ x ∈ xs, x.isQuiet = true) (waiting : Bool) :
    waitsAfter waiting xs = waiting := by
  unfold waitsAfter
  induction xs with
  | nil => rfl
  | cons x xs ih =>
      rw [List.foldl_cons, waits_of_isQuiet (h x (by simp)),
        ih fun y hy => h y (List.mem_cons_of_mem _ hy)]

theorem isConjunctive_of_isQuiet (h : ∀ x ∈ xs, x.isQuiet = true) : IsConjunctive xs := by
  intro x hx
  have hQuiet := h x hx
  cases x with
  | symbol s =>
      simp only [isQuiet, Symbol.isQuiet, Bool.and_eq_true, Bool.not_eq_true'] at hQuiet
      exact hQuiet.1.2
  | group ss inside => rfl
  | choice ss => rfl

end Segment

/-! ## Sentences -/

/-- A phrase that is read as the segments wherever it stands. -/
structure Sentence (text : String) (xs : List Segment) : Prop where
  phrase : ∃ ts, Phrase text ts
  reads : Reads (symbolsOf text) xs

namespace Sentence

variable {a b : String} {xs ys : List Segment}

/-- Symbols that are no brackets are segments of their own. -/
theorem of_symbols {ts : List Token} (ha : Phrase a ts)
    (h : ∀ s ∈ symbolsOf a, s.opens = false ∧ s.closes = false) :
    Sentence a ((symbolsOf a).map .symbol) := by
  refine ⟨⟨ts, ha⟩, ?_⟩
  -- which symbols they are does not matter from here on
  generalize symbolsOf a = ss at h
  induction ss with
  | nil => exact .nil
  | cons s ss ih =>
      have hs := h s (by simp)
      exact (Reads.symbol hs.1 hs.2).append (ih fun u hu => h u (List.mem_cons_of_mem _ hu))

theorem append_of_startsApart (ha : Sentence a xs) (hb : Sentence b ys) (h : StartsApart b) :
    Sentence (a ++ b) (xs ++ ys) := by
  rcases ha with ⟨⟨s, ha⟩, hxs⟩
  rcases hb with ⟨⟨t, hb⟩, hys⟩
  refine ⟨⟨_, ha.append_of_leads hb h.leads⟩, ?_⟩
  rw [symbolsOf_append_of_startsApart ha hb h]
  exact hxs.append hys

theorem append_of_endsApart (ha : Sentence a xs) (hb : Sentence b ys) (h : EndsApart a) :
    Sentence (a ++ b) (xs ++ ys) := by
  rcases ha with ⟨⟨s, ha⟩, hxs⟩
  rcases hb with ⟨⟨t, hb⟩, hys⟩
  refine ⟨⟨_, ha.append_of_trails hb h.trails⟩, ?_⟩
  rw [symbolsOf_append_of_endsApart ha hb h]
  exact hxs.append hys

/-- Two sentences with a third between them that starts and ends at a seam. -/
theorem join {g : String} {zs : List Segment} (ha : Sentence a xs) (hg : Sentence g zs)
    (hb : Sentence b ys) (hStarts : StartsApart g) (hEnds : EndsApart g) :
    Sentence (a ++ g ++ b) (xs ++ zs ++ ys) :=
  (ha.append_of_startsApart hg hStarts).append_of_endsApart hb hEnds.append

theorem paren (ha : Sentence a xs) :
    Sentence ("(" ++ a ++ ")")
      [.group (.mark '(' :: (xs.flatMap Segment.symbols ++ [.mark ')']))
        (Segment.assemble xs)] := by
  rcases ha with ⟨⟨s, ha⟩, hxs⟩
  refine ⟨⟨_, ha.paren⟩, ?_⟩
  rw [symbolsOf_paren ha]
  exact hxs.parens

/-- What stands between `CASE` and `END` is one segment. -/
theorem choice (ha : Sentence a xs) (h : StartsApart a) :
    Sentence ("CASE" ++ a ++ " END")
      [.choice (.word "CASE".toList :: (xs.flatMap Segment.symbols ++ [.word "END".toList]))] := by
  rcases ha with ⟨⟨s, ha⟩, hxs⟩
  have hCase : Phrase "CASE" [] := .of_bare (by decide)
  have hEnd : Phrase " END" [] := .of_bare (by decide)
  have hEndApart : StartsApart " END" := by decide
  have hFront := hCase.append_of_leads ha h.leads
  refine ⟨⟨_, hFront.append_of_leads hEnd hEndApart.leads⟩, ?_⟩
  rw [symbolsOf_append_of_startsApart hFront hEnd hEndApart,
    symbolsOf_append_of_startsApart hCase ha h]
  exact hxs.choice

theorem ofText?_eq (ha : Sentence a xs) : Condition.ofText? a = some (Segment.assemble xs) := by
  rcases ha with ⟨⟨s, ha⟩, hxs⟩
  rw [Condition.ofText?_eq ha, hxs.ofSymbols?_eq]

end Sentence

/-! ### Links -/

/-- Bare text that is one symbol, no bracket, and may stand between two others. -/
structure Link (g : String) (s : Symbol) : Prop where
  bare : Bare g
  starts : StartsApart g
  ends : EndsApart g
  symbols : symbolsOf g = [s]
  opens : s.opens = false
  closes : s.closes = false

instance (g : String) (s : Symbol) : Decidable (Link g s) :=
  decidable_of_iff (Bare g ∧ StartsApart g ∧ EndsApart g ∧ symbolsOf g = [s] ∧
      s.opens = false ∧ s.closes = false)
    ⟨fun ⟨h₁, h₂, h₃, h₄, h₅, h₆⟩ => ⟨h₁, h₂, h₃, h₄, h₅, h₆⟩,
      fun ⟨h₁, h₂, h₃, h₄, h₅, h₆⟩ => ⟨h₁, h₂, h₃, h₄, h₅, h₆⟩⟩

namespace Sentence

variable {g : String}

/-- Two sentences with one symbol between them. -/
theorem link {a b : String} {xs ys : List Segment} {s : Symbol} (ha : Sentence a xs)
    (hg : Link g s) (hb : Sentence b ys) : Sentence (a ++ g ++ b) (xs ++ .symbol s :: ys) := by
  have hGap : Sentence g [.symbol s] := by
    refine ⟨⟨[], .of_bare hg.bare⟩, ?_⟩
    rw [hg.symbols]
    exact .symbol hg.opens hg.closes
  simpa using ha.join hGap hb hg.starts hg.ends

/-- Sentences in a row with an `AND` between any two. -/
theorem conjoined (hg : Link g (.word "AND".toList)) {texts : List String}
    {xss : List (List Segment)} (h : List.Forall₂ Sentence texts xss) :
    Sentence (g.intercalate texts) (Segment.conjoined xss) := by
  induction h with
  | nil => exact ⟨⟨[], .empty⟩, .nil⟩
  | cons ha hRest ih =>
      -- a link is needed only if there is another text behind this one
      cases hRest with
      | nil => simpa [Segment.conjoined] using ha
      | cons =>
          rw [Segment.conjoined_cons_cons, String.intercalate_cons_cons]
          exact ha.link hg ih

end Sentence

/-! ## Legible text -/

/-- The text is a sentence; if it is `flat`, no connective stands outside of its brackets. -/
def Legible (flat : Bool) (text : String) : Prop :=
  ∃ xs, Sentence text xs ∧ (flat = true → ∀ x ∈ xs, x.isQuiet = true)

/-- Quiet text that may stand between two others. -/
def Gap (g : String) : Prop :=
  Quiet g ∧ StartsApart g ∧ EndsApart g

instance (g : String) : Decidable (Gap g) :=
  inferInstanceAs (Decidable (_ ∧ _))

namespace Legible

variable {q : Bool} {a b g : String}

theorem phrase (ha : Legible q a) : ∃ ts, Phrase a ts := by
  rcases ha with ⟨xs, ha, -⟩
  exact ha.phrase

/-- A flat text is as good as any. -/
theorem of_flat (ha : Legible true a) : Legible q a := by
  rcases ha with ⟨xs, ha, hQuiet⟩
  exact ⟨xs, ha, fun _ => hQuiet rfl⟩

theorem of_symbols {ts : List Token} (ha : Phrase a ts)
    (h : ∀ s ∈ symbolsOf a, s.isQuiet = true) : Legible q a := by
  refine ⟨_, .of_symbols ha fun s hs => ?_, fun _ x hx => ?_⟩
  · have hQuiet := h s hs
    simp only [Symbol.isQuiet, Bool.and_eq_true, Bool.not_eq_true'] at hQuiet
    exact hQuiet.1.1.1
  · rcases List.mem_map.1 hx with ⟨s, hs, rfl⟩
    exact h s hs

theorem of_quiet (h : Quiet a) : Legible q a :=
  of_symbols (.of_bare h.1) h.2

/-- The same characters, put together in another way. -/
theorem of_toList_eq (ha : Legible q a) (h : a.toList = b.toList) : Legible q b := by
  rwa [← String.toList_inj.1 h]

theorem append_of_startsApart (ha : Legible q a) (hb : Legible q b) (h : StartsApart b) :
    Legible q (a ++ b) := by
  rcases ha with ⟨xs, ha, hxs⟩
  rcases hb with ⟨ys, hb, hys⟩
  refine ⟨_, ha.append_of_startsApart hb h, fun hq x hx => ?_⟩
  exact (List.mem_append.1 hx).elim (hxs hq x) (hys hq x)

theorem append_of_endsApart (ha : Legible q a) (hb : Legible q b) (h : EndsApart a) :
    Legible q (a ++ b) := by
  rcases ha with ⟨xs, ha, hxs⟩
  rcases hb with ⟨ys, hb, hys⟩
  refine ⟨_, ha.append_of_endsApart hb h, fun hq x hx => ?_⟩
  exact (List.mem_append.1 hx).elim (hxs hq x) (hys hq x)

theorem join (ha : Legible q a) (hg : Gap g) (hb : Legible q b) : Legible q (a ++ g ++ b) :=
  (ha.append_of_startsApart (of_quiet hg.1) hg.2.1).append_of_endsApart hb hg.2.2.append

/-- Two legible texts with one symbol between them, which may be a connective. -/
theorem link {s : Symbol} (ha : Legible false a) (hg : Link g s) (hb : Legible false b) :
    Legible false (a ++ g ++ b) := by
  rcases ha with ⟨xs, ha, -⟩
  rcases hb with ⟨ys, hb, -⟩
  exact ⟨_, ha.link hg hb, fun h => absurd h (by decide)⟩

/-- A legible text behind a quiet one. -/
theorem behind (hg : Quiet g) (hEnds : EndsApart g) (ha : Legible q a) : Legible q (g ++ a) :=
  (of_quiet hg).append_of_endsApart ha hEnds

/-- A legible text before a quiet one. -/
theorem before (ha : Legible q a) (hg : Quiet g) (hStarts : StartsApart g) :
    Legible q (a ++ g) :=
  ha.append_of_startsApart (of_quiet hg) hStarts

/-- In parentheses every legible text is flat. -/
theorem paren (ha : Legible false a) : Legible q ("(" ++ a ++ ")") := by
  rcases ha with ⟨xs, ha, -⟩
  refine ⟨_, ha.paren, fun _ x hx => ?_⟩
  obtain rfl := List.mem_singleton.1 hx
  rfl

theorem choice (ha : Legible false a) (h : StartsApart a) :
    Legible q ("CASE" ++ a ++ " END") := by
  rcases ha with ⟨xs, ha, -⟩
  refine ⟨_, ha.choice h, fun _ x hx => ?_⟩
  obtain rfl := List.mem_singleton.1 hx
  rfl

/-- A text in parentheses behind another. -/
theorem call (ha : Legible q a) (hb : Legible false b) : Legible q (a ++ ("(" ++ b ++ ")")) := by
  refine ha.append_of_startsApart hb.paren ?_
  rw [String.append_assoc]
  exact StartsApart.append (by decide) (by decide)

theorem intercalate (hg : Gap g) {texts : List String} (h : ∀ text ∈ texts, Legible q text) :
    Legible q (g.intercalate texts) := by
  induction texts with
  | nil => exact of_quiet (a := "") (by decide)
  | cons a texts ih =>
      rw [List.forall_mem_cons] at h
      cases texts with
      | nil => simpa using h.1
      | cons b texts => simpa [String.intercalate_cons_cons] using h.1.join hg (ih h.2)

end Legible

/-- Quiet text and an opening parenthesis behind it. -/
def Calls (o : String) : Prop :=
  o.toList.getLast? = some '(' ∧ Quiet (String.ofList o.toList.dropLast)

instance (o : String) : Decidable (Calls o) :=
  inferInstanceAs (Decidable (_ ∧ _))

/-- A text in parentheses that open behind a quiet one. -/
theorem Legible.enclosed {q : Bool} {o a : String} (ho : Calls o) (ha : Legible false a) :
    Legible q (o ++ (a ++ ")")) := by
  rcases ho with ⟨hLast, hQuiet⟩
  rcases List.getLast?_eq_some_iff.1 hLast with ⟨head, hText⟩
  refine ((of_quiet hQuiet).call ha).of_toList_eq ?_
  simp [hText]

/-! ## Settled text -/

/-- The text is a sentence, no `BETWEEN` waits for its `AND` at its end, and it has an `OR` outside
of its brackets exactly if it is `disjunctive`. -/
def Settled (disjunctive : Bool) (text : String) : Prop :=
  ∃ xs, Sentence text xs ∧ Segment.waitsAfter false xs = false ∧
    (Segment.IsConjunctive xs ↔ disjunctive = false)

theorem Settled.legible {disjunctive : Bool} {a : String} (ha : Settled disjunctive a) :
    Legible false a := by
  rcases ha with ⟨xs, ha, -⟩
  exact ⟨xs, ha, fun h => absurd h (by decide)⟩

theorem Legible.settled {a : String} (ha : Legible true a) : Settled false a := by
  rcases ha with ⟨xs, ha, hQuiet⟩
  refine ⟨xs, ha, Segment.waitsAfter_of_isQuiet (hQuiet rfl) false, ?_⟩
  simp [Segment.isConjunctive_of_isQuiet (hQuiet rfl)]

end TableQuery
