import TableQuery.Proofs.Text.Lexeme

/-!
# Phrase — text that can stand anywhere in a statement

A phrase closes its quotes and parentheses and opens no comment, and no semicolon stands outside of
its quotes. Phrases are put together with bare text between them: what is joined at a neutral
character is a phrase again, and so is a phrase in parentheses. The quoted tokens of a phrase are
part of the judgement, so that it also says which tokens an assembled text has, and in which order.
-/

namespace TableQuery

open Lexeme

/-! ## Tidy lexemes -/

namespace Lexeme

/-- The depth of parentheses behind lexemes, from a depth on; none if one is closed that was not
open. -/
def nesting : Nat → List Lexeme → Option Nat
  | n, [] => some n
  | n, .quoted _ :: ls => nesting n ls
  | n, .mark c :: ls =>
    if c = '(' then nesting (n + 1) ls
    else if c = ')' then
      match n with
      | 0 => none
      | m + 1 => nesting m ls
    else nesting n ls

theorem nesting_append (ls ms : List Lexeme) :
    ∀ n, nesting n (ls ++ ms) = (nesting n ls).bind (nesting · ms) := by
  induction ls with
  | nil =>
      intro n
      simp [nesting]
  | cons l ls ih =>
      intro n
      cases l with
      | quoted t => simp [nesting, ih]
      | mark c =>
          by_cases hOpen : c = '('
          · simp [nesting, hOpen, ih]
          · by_cases hClose : c = ')'
            · subst hClose
              cases n <;> simp [nesting, ih]
            · simp [nesting, hOpen, hClose, ih]

/-- Bare characters are neither quotes nor semicolons nor carriage returns. -/
def isTidy : Lexeme → Bool
  | .quoted t => isQuote t.quote
  | .mark c => !isQuote c && c != ';' && c != '\r'

theorem isProper_of_isTidy {l : Lexeme} (h : l.isTidy = true) : l.isProper = true := by
  cases l with
  | quoted t => exact h
  | mark c =>
      simp only [isTidy, Bool.and_eq_true] at h
      exact h.1.1

end Lexeme

/-- Lexemes that keep to themselves: whatever stands around them stays outside of their quotes,
comments and parentheses. -/
structure Tidy (ls : List Lexeme) : Prop where
  tidy : ∀ l ∈ ls, l.isTidy = true
  chain : ls.IsChain (mayTouch · · = true)
  level : ∀ n, nesting n ls = some n

namespace Tidy

variable {ls ms : List Lexeme}

theorem nil : Tidy [] where
  tidy := by simp
  chain := .nil
  level _ := rfl

theorem append (hl : Tidy ls) (hm : Tidy ms)
    (hTouch : ∀ x ∈ ls.getLast?, ∀ y ∈ ms.head?, mayTouch x y = true) : Tidy (ls ++ ms) where
  tidy l h := (List.mem_append.1 h).elim (hl.tidy l) (hm.tidy l)
  chain := hl.chain.append hm.chain hTouch
  level n := by simp [nesting_append, hl.level, hm.level]

theorem lex_spell (hl : Tidy ls) : lex (spell ls) = some ls :=
  Lexeme.lex_spell (fun l h => isProper_of_isTidy (hl.tidy l h)) hl.chain

end Tidy

/-! ## Characters at the seams -/

/-- Characters that may stand before and behind anything. -/
def isNeutral (c : Char) : Bool :=
  !isQuote c && c != '-' && c != '/' && c != '*'

/-- Neutral characters that are part of no punctuation that a phrase has to balance or avoid. -/
def isSoft (c : Char) : Bool :=
  isNeutral c && c != ';' && c != '\r' && c != '(' && c != ')'

theorem mayTouch_mark_left {c : Char} (h : isNeutral c = true) (l : Lexeme) :
    mayTouch (.mark c) l = true := by
  cases l with
  | quoted t => rfl
  | mark d =>
      simp only [isNeutral, Bool.and_eq_true, bne_iff_ne] at h
      simp [mayTouch, h]

theorem mayTouch_mark_right {c : Char} (h : isNeutral c = true) (l : Lexeme) :
    mayTouch l (.mark c) = true := by
  cases l with
  | quoted t => rfl
  | mark d =>
      simp only [isNeutral, Bool.and_eq_true, bne_iff_ne] at h
      simp [mayTouch, h]

/-- Parentheses may touch anything, on either side. -/
theorem Tidy.paren {ls : List Lexeme} (hl : Tidy ls) :
    Tidy (.mark '(' :: (ls ++ [.mark ')'])) where
  tidy l h := by
    simp only [List.mem_cons, List.mem_append, List.not_mem_nil, or_false] at h
    rcases h with rfl | h | rfl
    · rfl
    · exact hl.tidy l h
    · rfl
  chain := by
    have hOpen : isNeutral '(' = true := rfl
    have hClose : isNeutral ')' = true := rfl
    refine .cons (hl.chain.append (.singleton _) ?_) fun y _ => mayTouch_mark_left hOpen y
    intro x _ y hy
    obtain rfl : .mark ')' = y := by simpa using hy
    exact mayTouch_mark_right hClose x
  level n := by simp [nesting, nesting_append, hl.level]

/-- The text is empty or starts with a neutral character. -/
def Leads (text : String) : Prop :=
  ∀ c ∈ text.toList.head?, isNeutral c = true

/-- The text is empty or ends with a neutral character. -/
def Trails (text : String) : Prop :=
  ∀ c ∈ text.toList.getLast?, isNeutral c = true

instance (text : String) : Decidable (Leads text) :=
  Option.decidableForallMem text.toList.head?

instance (text : String) : Decidable (Trails text) :=
  Option.decidableForallMem text.toList.getLast?

theorem Leads.append {a b : String} (h : Leads a) (hne : a ≠ "") : Leads (a ++ b) := by
  intro c hc
  refine h c ?_
  rw [String.toList_append, List.head?_append_of_ne_nil _ (by simpa using hne)] at hc
  exact hc

theorem Trails.append {a b : String} (h : Trails b) (hne : b ≠ "") : Trails (a ++ b) := by
  intro c hc
  refine h c ?_
  rw [String.toList_append, List.getLast?_append_of_ne_nil _ (by simpa using hne)] at hc
  exact hc

/-- Whatever stands before a text that leads may touch it. -/
theorem mayTouch_of_leads {text : String} {ls : List Lexeme} (hText : text.toList = spell ls)
    (hTidy : Tidy ls) (h : Leads text) : ∀ l ∈ ls.head?, ∀ m, mayTouch m l = true := by
  intro l hl m
  cases ls with
  | nil => simp at hl
  | cons l' ls =>
      obtain rfl : l' = l := by simpa using hl
      cases l' with
      | mark c => exact mayTouch_mark_right (h c (by simp [hText, chars])) m
      | quoted t =>
          -- a token's quote is not neutral, so no token can stand here
          have hNeutral := h t.quote (by simp [hText, chars])
          have hQuote : isQuote t.quote = true := hTidy.tidy (.quoted t) (by simp)
          simp [isNeutral, hQuote] at hNeutral

/-- Whatever stands behind a text that trails may touch it. -/
theorem mayTouch_of_trails {text : String} {ls : List Lexeme} (hText : text.toList = spell ls)
    (hTidy : Tidy ls) (h : Trails text) : ∀ l ∈ ls.getLast?, ∀ m, mayTouch l m = true := by
  intro l hl m
  obtain ⟨init, rfl⟩ := List.getLast?_eq_some_iff.1 hl
  cases l with
  | mark c => exact mayTouch_mark_left (h c (by simp [hText, chars])) m
  | quoted t =>
      have hLast : text.toList.getLast? = some t.quote := by
        rw [hText, spell_append, spell_cons, spell_nil, List.append_nil, chars,
          ← List.cons_append, ← List.append_assoc]
        exact List.getLast?_concat
      have hNeutral := h t.quote hLast
      have hQuote : isQuote t.quote = true := hTidy.tidy (.quoted t) (by simp)
      simp [isNeutral, hQuote] at hNeutral

/-! ## Phrases -/

/-- The text is tidy and its quoted tokens are the given ones, in order. -/
def Phrase (text : String) (ts : List Token) : Prop :=
  ∃ ls, text.toList = spell ls ∧ Tidy ls ∧ tokens ls = ts

/-- Text without quotes, semicolons and parentheses in which no comment opens. -/
def Bare (text : String) : Prop :=
  (∀ c ∈ text.toList, (Lexeme.mark c).isTidy = true ∧ c ≠ '(' ∧ c ≠ ')') ∧
    (text.toList.map Lexeme.mark).IsChain (mayTouch · · = true)

instance (text : String) : Decidable (Bare text) :=
  have := List.decidableBAll
    (fun c => (Lexeme.mark c).isTidy = true ∧ c ≠ '(' ∧ c ≠ ')') text.toList
  inferInstanceAs (Decidable (_ ∧ _))

theorem Bare.tidy {text : String} (hBare : Bare text) : Tidy (text.toList.map .mark) where
  tidy := by simpa using fun c hc => (hBare.1 c hc).1
  chain := hBare.2
  level n := by
    rcases hBare with ⟨hTidy, -⟩
    generalize text.toList = cs at hTidy
    induction cs with
    | nil => rfl
    | cons c cs ih =>
        have hc := hTidy c (by simp)
        simpa [nesting, hc] using ih fun d hd => hTidy d (List.mem_cons_of_mem _ hd)

/-- Text that may be put between phrases: it starts and ends with a neutral character and has no
quoted token. -/
structure Glue (g : String) : Prop where
  phrase : Phrase g []
  leads : Leads g
  trails : Trails g
  nonempty : g ≠ ""

namespace Phrase

variable {a b g : String} {s t : List Token}

theorem empty : Phrase "" [] :=
  ⟨[], rfl, .nil, rfl⟩

/-- Bare text is a phrase without tokens. -/
theorem of_bare (hBare : Bare a) : Phrase a [] :=
  ⟨a.toList.map .mark, by simp, hBare.tidy, by simp⟩

/-- The same characters, put together in another way. -/
theorem of_toList_eq (ha : Phrase a s) (h : a.toList = b.toList) : Phrase b s := by
  rwa [← String.toList_inj.1 h]

theorem append_of_leads (ha : Phrase a s) (hb : Phrase b t) (h : Leads b) :
    Phrase (a ++ b) (s ++ t) := by
  obtain ⟨ls, hls, hl, rfl⟩ := ha
  obtain ⟨ms, hms, hm, rfl⟩ := hb
  exact ⟨ls ++ ms, by simp [hls, hms],
    hl.append hm fun x _ y hy => mayTouch_of_leads hms hm h y hy x, by simp⟩

theorem append_of_trails (ha : Phrase a s) (hb : Phrase b t) (h : Trails a) :
    Phrase (a ++ b) (s ++ t) := by
  obtain ⟨ls, hls, hl, rfl⟩ := ha
  obtain ⟨ms, hms, hm, rfl⟩ := hb
  exact ⟨ls ++ ms, by simp [hls, hms],
    hl.append hm fun x hx y _ => mayTouch_of_trails hls hl h x hx y, by simp⟩

/-- Two phrases with bare text between them. -/
theorem join (ha : Phrase a s) (hg : Glue g) (hb : Phrase b t) : Phrase (a ++ g ++ b) (s ++ t) := by
  -- the glue is neutral on both sides, so neither phrase has to be
  have hag : Phrase (a ++ g) s := by simpa using ha.append_of_leads hg.phrase hg.leads
  exact hag.append_of_trails hb (hg.trails.append hg.nonempty)

/-- A phrase behind bare text. -/
theorem behind (hg : Glue g) (ha : Phrase a s) : Phrase (g ++ a) s := by
  simpa using hg.phrase.append_of_trails ha hg.trails

/-- A phrase before bare text. -/
theorem before (ha : Phrase a s) (hg : Glue g) : Phrase (a ++ g) s := by
  simpa using ha.append_of_leads hg.phrase hg.leads

/-- A phrase in parentheses. -/
theorem paren (ha : Phrase a s) : Phrase ("(" ++ a ++ ")") s := by
  obtain ⟨ls, hls, hl, rfl⟩ := ha
  exact ⟨.mark '(' :: (ls ++ [.mark ')']), by simp [hls, chars], hl.paren, by simp [tokens]⟩

/-- A phrase in parentheses behind a phrase. -/
theorem call (ha : Phrase a s) (hb : Phrase b t) : Phrase (a ++ ("(" ++ b ++ ")")) (s ++ t) := by
  refine ha.append_of_leads hb.paren ?_
  rw [String.append_assoc]
  exact Leads.append (by decide) (by decide)

/-- Phrases in a row with the same bare text between any two. -/
theorem intercalate (hg : Glue g) {texts : List String} {tss : List (List Token)}
    (h : List.Forall₂ Phrase texts tss) : Phrase (g.intercalate texts) tss.flatten := by
  induction h with
  | nil => exact .empty
  | cons ha hRest ih =>
      cases hRest with
      | nil => simpa using ha
      | cons => simpa [String.intercalate_cons_cons] using ha.join hg ih

end Phrase

/-! ## Bare text -/

/-- Text of soft characters only. -/
def Soft (text : String) : Prop :=
  ∀ c ∈ text.toList, isSoft c = true

instance (text : String) : Decidable (Soft text) :=
  List.decidableBAll (fun c => isSoft c = true) text.toList

namespace Soft

variable {a b : String}

theorem append (ha : Soft a) (hb : Soft b) : Soft (a ++ b) := by
  intro c hc
  rw [String.toList_append, List.mem_append] at hc
  exact hc.elim (ha c) (hb c)

theorem isNeutral {c : Char} (h : isSoft c = true) : isNeutral c = true := by
  simp only [isSoft, Bool.and_eq_true] at h
  exact h.1.1.1.1

theorem leads (ha : Soft a) : Leads a := fun c hc =>
  isNeutral (ha c (List.mem_of_mem_head? hc))

theorem trails (ha : Soft a) : Trails a := fun c hc =>
  isNeutral (ha c (List.mem_of_mem_getLast? hc))

theorem bare (ha : Soft a) : Bare a := by
  constructor
  · intro c hc
    have h := ha c hc
    simp only [isSoft, TableQuery.isNeutral, Bool.and_eq_true, bne_iff_ne, Bool.not_eq_true'] at h
    simp [isTidy, h]
  · unfold Soft at ha
    generalize a.toList = cs at ha
    induction cs with
    | nil => exact .nil
    | cons c cs ih =>
        refine .cons (ih fun d hd => ha d (List.mem_cons_of_mem _ hd)) fun y _ => ?_
        exact mayTouch_mark_left (isNeutral (ha c (by simp))) y

theorem phrase (ha : Soft a) : Phrase a [] :=
  .of_bare ha.bare

theorem glue (ha : Soft a) (hne : a ≠ "") : Glue a :=
  ⟨ha.phrase, ha.leads, ha.trails, hne⟩

end Soft

/-- Soft text and an opening parenthesis behind it. -/
def Opens (o : String) : Prop :=
  o.toList.getLast? = some '(' ∧ ∀ c ∈ o.toList.dropLast, isSoft c = true

instance (o : String) : Decidable (Opens o) :=
  have := List.decidableBAll (fun c => isSoft c = true) o.toList.dropLast
  inferInstanceAs (Decidable (_ ∧ _))

/-- A phrase in parentheses that open behind soft text. -/
theorem Phrase.enclosed {o a : String} {s : List Token} (hOpens : Opens o) (ha : Phrase a s) :
    Phrase (o ++ (a ++ ")")) s := by
  rcases hOpens with ⟨hLast, hSoft⟩
  rcases List.getLast?_eq_some_iff.1 hLast with ⟨head, hText⟩
  have hHead : Soft (String.ofList head) := by
    intro c hc
    exact hSoft c (by simpa [hText] using hc)
  refine (hHead.phrase.call ha).of_toList_eq ?_
  simp [hText]

end TableQuery
