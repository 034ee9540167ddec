import Mathlib.Data.List.Chain
import TableQuery.Identifier.Reserved
import TableQuery.Proofs.Sql.Atom

/-!
# Token — a name as one token of a statement

What is written for a valid name is one token: a bare word that is no keyword, or text between double
quotes with the quotes inside in pairs. The token denotes the name, and writing it once more changes
nothing; only a name that is such a quoted token itself denotes something else than it says. So the
token of a name that is not quoted belongs to no other such name (`safe_token`).

Whether a word is a keyword is found by a search that drops the half which cannot hold the word, so
it finds whatever lies between its bounds in an array that ascends (`searchFrom_eq_true_iff`); and
the keywords do ascend.
-/

namespace TableQuery
namespace Identifier

open Lexeme

/-! ## The search for keywords -/

/-- In an ascending array a smaller word stands before a greater one. -/
theorem lt_of_getElem_lt {words : Array String} (hAscending : words.toList.Pairwise (· < ·))
    {i j : Nat} {hi : i < words.size} {hj : j < words.size} (h : words[i] < words[j]) : i < j := by
  have hPairs := List.pairwise_iff_getElem.1 hAscending
  rcases Nat.lt_trichotomy i j with hBefore | rfl | hAfter
  · exact hBefore
  · exact absurd h (String.lt_irrefl _)
  · have hGreater : words[j] < words[i] := hPairs j i hj hi hAfter
    exact absurd (String.lt_trans h hGreater) (String.lt_irrefl _)

/-- In an ascending array the search finds exactly the words between its bounds. -/
theorem searchFrom_eq_true_iff {words : Array String} (hAscending : words.toList.Pairwise (· < ·))
    {word : String} {lo hi : Nat} (hBound : hi ≤ words.size) :
    searchFrom words word lo hi = true ↔
      ∃ i, ∃ h : i < words.size, lo ≤ i ∧ i < hi ∧ words[i] = word := by
  -- along the search; the half that is dropped holds no word equal to the one that is looked for
  fun_induction searchFrom words word lo hi with
  | case1 lo hi h mid hmid hFound =>
      have hBounds : lo ≤ mid ∧ mid < hi := by omega
      exact iff_of_true rfl ⟨mid, hmid, hBounds.1, hBounds.2, hFound.symm⟩
  | case2 lo hi h mid hmid hOther hBelow ih =>
      rw [ih (Nat.le_of_lt hmid)]
      constructor
      · rintro ⟨i, hSize, hLo, hMid, hWord⟩
        exact ⟨i, hSize, hLo, by omega, hWord⟩
      · rintro ⟨i, hSize, hLo, -, hWord⟩
        rw [← hWord] at hBelow
        exact ⟨i, hSize, hLo, lt_of_getElem_lt hAscending hBelow, hWord⟩
  | case3 lo hi h mid hmid hOther hNotBelow ih =>
      rw [ih hBound]
      constructor
      · rintro ⟨i, hSize, hLo, hHi, hWord⟩
        exact ⟨i, hSize, by omega, hHi, hWord⟩
      · rintro ⟨i, hSize, -, hHi, hWord⟩
        -- neither equal nor below, so above
        have hAbove : words[mid] < word := Std.lt_of_le_of_ne hNotBelow (Ne.symm hOther)
        rw [← hWord] at hAbove
        exact ⟨i, hSize, lt_of_getElem_lt hAscending hAbove, hHi, hWord⟩
  | case4 lo hi h =>
      refine iff_of_false Bool.false_ne_true ?_
      rintro ⟨i, -, hLo, hHi, -⟩
      exact h ⟨Nat.lt_of_le_of_lt hLo hHi, hBound⟩

/-- Each keyword is smaller than the next one, and so than all that follow. -/
theorem reservedWords_ascending : reservedWords.toList.Pairwise (· < ·) := by
  have hNext : reservedWords.toList.IsChain (· < ·) := by decide +kernel
  have hTrans : @Trans String String String (· < ·) (· < ·) (· < ·) := ⟨String.lt_trans⟩
  exact List.isChain_iff_pairwise.1 hNext

/-- The search through all of an ascending array finds what going through it word by word finds. -/
theorem searchFrom_eq_contains {words : Array String} (hAscending : words.toList.Pairwise (· < ·))
    (word : String) : searchFrom words word 0 words.size = words.contains word := by
  rw [Bool.eq_iff_iff, searchFrom_eq_true_iff hAscending (le_refl _), Array.contains_iff_mem,
    Array.mem_iff_getElem]
  constructor
  · rintro ⟨i, hSize, -, -, hWord⟩
    exact ⟨i, hSize, hWord⟩
  · rintro ⟨i, hSize, hWord⟩
    exact ⟨i, hSize, Nat.zero_le i, hSize, hWord⟩

theorem isReserved_eq_contains (name : String) :
    isReserved name = reservedWords.contains (Text.upperAscii name) :=
  searchFrom_eq_contains reservedWords_ascending _

theorem isReserved_eq_true_iff {name : String} :
    isReserved name = true ↔ Text.upperAscii name ∈ reservedWords := by
  rw [isReserved_eq_contains, Array.contains_iff_mem]

/-! ## Two forms of a token -/

/-- A word of ASCII letters, digits and underscores that does not start with a digit and is no
keyword in any mix of cases. -/
structure IsBare (text : String) : Prop where
  nonempty : text ≠ ""
  word : ∀ c ∈ text.toList, c.isAlphanum = true ∨ c = '_'
  start : ∀ c ∈ text.toList.head?, c.isDigit = false
  free : ∀ w ∈ reservedWords, Text.upperAscii text ≠ w

/-- Characters in which double quotes come in adjacent pairs only. -/
inductive Paired : List Char → Prop where
  | nil : Paired []
  | pair {cs : List Char} : Paired cs → Paired ('"' :: '"' :: cs)
  | other {c : Char} {cs : List Char} : c ≠ '"' → Paired cs → Paired (c :: cs)

/-- Text between double quotes in which quotes come in pairs. -/
def IsDelimited (cs : List Char) : Prop :=
  ∃ inner, cs = '"' :: (inner ++ ['"']) ∧ Paired inner

/-- The characters with one quote for every pair of them. -/
def undoubled : List Char → List Char
  | '"' :: '"' :: cs => '"' :: undoubled cs
  | c :: cs => c :: undoubled cs
  | [] => []

/-- The name that a token denotes: without the quotes around it, and with one for every pair of
quotes inside. -/
def denoted (text : String) : List Char :=
  match text.toList with
  | '"' :: cs => undoubled cs.dropLast
  | cs => cs

theorem paired_doubled (cs : List Char) : Paired (doubled '"' cs) := by
  induction cs with
  | nil => exact .nil
  | cons c cs ih =>
      by_cases hc : c = '"'
      · rw [doubled, if_pos hc]
        exact .pair ih
      · rw [doubled, if_neg hc]
        exact .other hc ih

theorem undoubled_doubled (cs : List Char) : undoubled (doubled '"' cs) = cs := by
  induction cs with
  | nil => rfl
  | cons c cs ih =>
      by_cases hc : c = '"'
      · simp [doubled, hc, undoubled, ih]
      · -- a character other than a quote opens no pair, whatever follows it
        have hStep (ds : List Char) : undoubled (c :: ds) = c :: undoubled ds := by
          cases ds <;> simp [undoubled, hc]
        rw [doubled, if_neg hc, hStep, ih]

theorem Paired.quotesPaired {cs : List Char} (h : Paired cs) : quotesPaired cs = true := by
  induction h with
  | nil => rfl
  | pair _ ih => simpa [Identifier.quotesPaired] using ih
  | @other c cs hc _ ih =>
      have hStep : Identifier.quotesPaired (c :: cs) =
          (c != '"' && Identifier.quotesPaired cs) := by
        cases cs <;> simp [Identifier.quotesPaired, hc]
      rw [hStep, ih, Bool.and_true]
      exact bne_iff_ne.2 hc

/-- The test for quoted names finds the delimited ones. -/
theorem isQuoted_eq_true_iff (name : String) : isQuoted name = true ↔ IsDelimited name.toList := by
  constructor
  · intro h
    rcases exists_content_of_isQuotedChars h with ⟨content, hContent⟩
    exact ⟨_, hContent, paired_doubled content⟩
  · rintro ⟨inner, hText, hPaired⟩
    rw [isQuoted, hText]
    simpa [isQuotedChars] using hPaired.quotesPaired

theorem isDelimited_doubled (content : List Char) :
    IsDelimited ('"' :: (doubled '"' content ++ ['"'])) :=
  ⟨_, rfl, paired_doubled content⟩

theorem denoted_doubled {text : String} {content : List Char}
    (h : text.toList = '"' :: (doubled '"' content ++ ['"'])) : denoted text = content := by
  unfold denoted
  rw [h]
  simp [undoubled_doubled]

theorem denoted_of_head? {text : String} (h : text.toList.head? ≠ some '"') :
    denoted text = text.toList := by
  unfold denoted
  split
  · next cs hText => simp [hText] at h
  · rfl

/-- A delimited text is read as one quoted token, whose content is what it denotes. -/
theorem IsDelimited.lex_eq {text : String} (h : IsDelimited text.toList) :
    lex text.toList = some [.quoted ⟨'"', denoted text⟩] := by
  have hQuoted := (isQuoted_eq_true_iff text).2 h
  rcases exists_content_of_isQuotedChars hQuoted with ⟨content, hContent⟩
  have hSpell : text.toList = spell [.quoted ⟨'"', content⟩] := by simpa [chars] using hContent
  rw [denoted_doubled hContent, hSpell]
  exact lex_spell (by simp [isProper, isQuote]) (.singleton _)

/-! ## What is written -/

theorem isBare_of_needsQuotes {name : String} (hSome : name ≠ "") (h : needsQuotes name = false) :
    IsBare name := by
  simp only [needsQuotes, Bool.or_eq_false_iff, Bool.not_eq_false'] at h
  rcases h with ⟨⟨hReserved, hStart⟩, hWord⟩
  refine ⟨hSome, fun c hc => ?_, fun c hc => ?_, fun w hw hSame => ?_⟩
  · have hChar := List.all_eq_true.1 hWord c hc
    simpa [isWordChar] using hChar
  · rw [Option.mem_def.1 hc] at hStart
    simpa using hStart
  · -- the search would have found a keyword
    have hFound : isReserved name = true := isReserved_eq_true_iff.2 (hSame ▸ hw)
    rw [hReserved] at hFound
    cases hFound

theorem IsBare.needsQuotes_eq_false {text : String} (h : IsBare text) :
    needsQuotes text = false := by
  have hReserved : isReserved text = false := by
    rw [Bool.eq_false_iff]
    intro hFound
    exact h.free _ (isReserved_eq_true_iff.1 hFound) rfl
  have hStart : text.toList.head?.any Char.isDigit = false := by
    rw [Option.any_eq_false]
    intro c hc
    simpa using h.start c hc
  have hWord : text.toList.all isWordChar = true := by
    rw [List.all_eq_true]
    intro c hc
    simpa [isWordChar] using h.word c hc
  rw [needsQuotes, hReserved, hStart, hWord]
  rfl

/-- A token in one of the two forms is written as it is. -/
theorem quote_eq_self {text : String} (h : IsBare text ∨ IsDelimited text.toList) :
    quote text = text := by
  rcases h with hBare | hDelimited
  · simp [quote, hBare.needsQuotes_eq_false]
  · simp [quote, (isQuoted_eq_true_iff text).2 hDelimited]

/-- A name that is no delimited text is written bare, or between quotes with the quotes inside
doubled. -/
theorem quote_cases_of_not_isDelimited {name : String} (hSome : name ≠ "")
    (h : ¬ IsDelimited name.toList) :
    (quote name = name ∧ IsBare name) ∨
      (quote name).toList = '"' :: (doubled '"' name.toList ++ ['"']) := by
  have hQuoted : isQuoted name = false := by
    rw [Bool.eq_false_iff]
    exact fun hTrue => h ((isQuoted_eq_true_iff name).1 hTrue)
  cases hNeeds : needsQuotes name with
  | false =>
      refine .inl ⟨?_, isBare_of_needsQuotes hSome hNeeds⟩
      simp [quote, hNeeds]
  | true =>
      refine .inr ?_
      simp [quote, hQuoted, hNeeds, doubleQuotes_eq_doubled]

/-- A token that a name is written as denotes that name. -/
theorem denoted_quote {name : String} (hSome : name ≠ "") (h : ¬ IsDelimited name.toList) :
    denoted (quote name) = name.toList := by
  rcases quote_cases_of_not_isDelimited hSome h with ⟨hText, hBare⟩ | hText
  · rw [hText]
    refine denoted_of_head? fun hHead => ?_
    -- a double quote is no part of a word
    rcases hBare.word '"' (List.mem_of_mem_head? hHead) with hLetter | hScore
    · exact absurd hLetter (by decide)
    · exact absurd hScore (by decide)
  · exact denoted_doubled hText

theorem quote_form {name : String} (hSome : name ≠ "") :
    IsBare (quote name) ∨ IsDelimited (quote name).toList := by
  by_cases h : IsDelimited name.toList
  · right
    rwa [quote_eq_self (.inr h)]
  · rcases quote_cases_of_not_isDelimited hSome h with ⟨hText, hBare⟩ | hText
    · left
      rwa [hText]
    · right
      rw [hText]
      exact isDelimited_doubled _

/-- Quoting brings no null character into a name. -/
theorem nul_notMem_quote {name : String} (h : '\x00' ∉ name.toList) :
    '\x00' ∉ (quote name).toList := by
  have hDoubled (cs : List Char) (hcs : '\x00' ∉ cs) : '\x00' ∉ doubleQuotes cs := by
    induction cs with
    | nil => exact List.not_mem_nil
    | cons c cs ih =>
        simp only [List.mem_cons, not_or] at hcs
        by_cases hc : c = '"' <;> simp [doubleQuotes, hc, ih hcs.2, hcs.1]
  unfold quote
  split
  · exact h
  · simp [hDoubled _ h]

theorem of_validate {name : String} (h : validate name = .ok ()) :
    name ≠ "" ∧ '\x00' ∉ name.toList := by
  unfold validate at h
  split at h
  · cases h
  · next hSome =>
    split at h
    · cases h
    · split at h
      · cases h
      · next hNul =>
        refine ⟨fun hEmpty => hSome (by simp [hEmpty]), fun hMem => hNul ?_⟩
        simpa using hMem

/-- What is written for a valid name is one token without a null character: a bare word that is no
keyword, or a delimited text, which is read as one quoted token. A delimited name is its own token;
any other name is what its token denotes, and is the only such name with this token. A token is
written as it is. -/
theorem safe_token {name text : String} (h : safe name = .ok text) :
    '\x00' ∉ text.toList ∧
    (IsBare text ∨
      IsDelimited text.toList ∧ lex text.toList = some [.quoted ⟨'"', denoted text⟩]) ∧
    (IsDelimited name.toList → text = name) ∧
    (¬ IsDelimited name.toList → denoted text = name.toList) ∧
    quote text = text ∧
    ∀ other, ¬ IsDelimited name.toList → ¬ IsDelimited other.toList →
      safe other = .ok text → other = name := by
  have hText := safe_eq_ok h
  rcases of_map_ok h with ⟨_, hValid, -⟩
  rcases of_validate hValid with ⟨hSome, hNul⟩
  subst hText
  have hForm := quote_form hSome
  refine ⟨nul_notMem_quote hNul, ?_, fun hName => quote_eq_self (.inr hName),
    fun hName => denoted_quote hSome hName, quote_eq_self hForm, fun other hName hOther hSafe => ?_⟩
  · exact hForm.imp id fun hDelimited => ⟨hDelimited, hDelimited.lex_eq⟩
  · -- both names are what the one token denotes
    rcases of_map_ok hSafe with ⟨_, hValidOther, hSame⟩
    have hDenotes := denoted_quote (of_validate hValidOther).1 hOther
    rw [hSame, denoted_quote hSome hName] at hDenotes
    exact String.toList_inj.1 hDenotes.symm

/-- A name of one quote is no delimited text, so its quote is doubled like any other. -/
theorem safe_token_oneQuote :
    safe "\"" = .ok "\"\"\"\"" ∧ ¬ IsDelimited ("\"").toList ∧ denoted "\"\"\"\"" = ['"'] ∧
      IsDelimited ("\"\"\"\"").toList ∧ quote "\"\"\"\"" = "\"\"\"\"" := by
  have hSafe : safe "\"" = .ok "\"\"\"\"" := by decide +kernel
  have hName : ¬ IsDelimited ("\"").toList := by
    rw [← isQuoted_eq_true_iff]
    decide
  rcases safe_token hSafe with ⟨-, hBare | hDelimited, -, hDenotes, hAgain, -⟩
  · exact absurd (hBare.word '"' (by decide)) (by decide)
  · exact ⟨hSafe, hName, hDenotes hName, hDelimited.1, hAgain⟩

/-! ## Keywords as names -/

theorem quote_notMem_of_reserved {name : String} (h : Text.upperAscii name ∈ reservedWords) :
    '"' ∉ name.toList := by
  have hWords : ∀ w ∈ reservedWords.toList, '"' ∉ w.toList := by decide +kernel
  intro hQuote
  refine hWords _ (Array.mem_toList_iff.2 h) ?_
  rw [Text.upperAscii, String.toList_ofList]
  exact List.mem_map.2 ⟨'"', hQuote, by decide⟩

/-- A keyword in any mix of cases is written between quotes. -/
theorem quote_of_isReserved {name : String} (h : isReserved name = true) :
    quote name = "\"" ++ name ++ "\"" := by
  have hKeyword := isReserved_eq_true_iff.1 h
  have hInside := quote_notMem_of_reserved hKeyword
  have hSome : name ≠ "" := by
    rintro rfl
    exact absurd h (by decide +kernel)
  have hDelimited : ¬IsDelimited name.toList := by
    rintro ⟨inner, hText, -⟩
    exact hInside (by simp [hText])
  rcases quote_cases_of_not_isDelimited hSome hDelimited with ⟨-, hBare⟩ | hText
  · exact absurd rfl (hBare.free _ hKeyword)
  · rw [doubled_of_notMem hInside] at hText
    rw [← String.toList_inj, hText]
    simp

/-- What is written for a name is no keyword. -/
theorem isReserved_quote (name : String) : isReserved (quote name) = false := by
  by_cases hSome : name = ""
  · subst hSome
    decide +kernel
  · rw [Bool.eq_false_iff]
    intro hFound
    have hKeyword := isReserved_eq_true_iff.1 hFound
    rcases quote_form hSome with hBare | ⟨inner, hText, -⟩
    · exact hBare.free _ hKeyword rfl
    · exact quote_notMem_of_reserved hKeyword (by simp [hText])

/-- The keywords ascend, and the search among them finds a name exactly if the name in capitals is
one of them, which is what going through all of them finds. What is found is written between quotes,
and nothing that is written for a name, valid or not, is a keyword in any mix of cases. -/
theorem keywords_found (name : String) :
    reservedWords.toList.Pairwise (· < ·) ∧
    (isReserved name = true ↔ ∃ w ∈ reservedWords, Text.upperAscii name = w) ∧
    isReserved name = reservedWords.contains (Text.upperAscii name) ∧
    (isReserved name = false ∨ quote name = "\"" ++ name ++ "\"") ∧
    Text.upperAscii (quote name) ∉ reservedWords ∧
    ∀ text, safe name = .ok text → Text.upperAscii text ∉ reservedWords := by
  have hWritten : Text.upperAscii (quote name) ∉ reservedWords := fun hKeyword => by
    have hFound := isReserved_eq_true_iff.2 hKeyword
    rw [isReserved_quote] at hFound
    cases hFound
  refine ⟨reservedWords_ascending, ?_, isReserved_eq_contains name, ?_, hWritten, ?_⟩
  · rw [isReserved_eq_true_iff]
    exact ⟨fun h => ⟨_, h, rfl⟩, fun ⟨w, hw, hSame⟩ => hSame ▸ hw⟩
  · cases h : isReserved name with
    | false => exact .inl rfl
    | true => exact .inr (quote_of_isReserved h)
  · intro text hSafe
    rw [safe_eq_ok hSafe]
    exact hWritten

theorem keywords_found_mixedCase :
    isReserved "Select" = true ∧ safe "Select" = .ok "\"Select\"" ∧
      Text.upperAscii "\"Select\"" ∉ reservedWords := by
  have hSafe : safe "Select" = .ok "\"Select\"" := by decide +kernel
  rcases keywords_found "Select" with ⟨-, -, hSearch, -, -, hEmitted⟩
  exact ⟨by decide +kernel, hSafe, hEmitted _ hSafe⟩

/-- An underscore comes after all capitals, so the longer word stands first here. -/
example : isReserved "Char_Length" = true ∧ "CHARACTER_LENGTH" < "CHAR_LENGTH" := by
  decide +kernel

end Identifier
end TableQuery
