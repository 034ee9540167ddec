import Mathlib.Data.List.TakeWhile
import Mathlib.Data.Nat.Digits.Defs
import TableQuery.Json.Reader
import TableQuery.Json.Writer

/-!
# Tokens — quoted texts and numbers are read back

A quoted text is read back whatever follows its closing quote (`readString_quote`). A number is read
as far as it goes, so what follows must not go on with it (`Ends`). Under this condition a reader
finds in front of a longer text the number that it finds in the number's own text
(`readNumber_append`), and in the text of a whole number it finds that number (`readNumber_whole`).
-/

namespace TableQuery.Json

/-! ## Quoted texts -/

theorem digitIn?_hexDigit : ∀ n < 16, Text.digitIn? 16 (hexDigit n) = some n := by
  decide

/-- The escape of a control character is its number in four hexadecimal digits. -/
theorem readUnicode_control {c : Char} (h : c.toNat < 0x20) (rest : List Char) :
    readUnicode ('0' :: '0' :: hexDigit (c.toNat / 16) :: hexDigit (c.toNat % 16) :: rest) =
      some (c, rest) := by
  have hHigh := digitIn?_hexDigit (c.toNat / 16) (by omega)
  have hLow := digitIn?_hexDigit (c.toNat % 16) (by omega)
  have hZero : Text.digitIn? 16 '0' = some 0 := rfl
  have hNumber : ((0 * 16 + 0) * 16 + c.toNat / 16) * 16 + c.toNat % 16 = c.toNat := by omega
  simp only [readUnicode, readHex4, hHigh, hLow, hZero, hNumber]
  rw [if_neg (by omega), if_neg (by omega), Char.ofNat_toNat]

theorem readChar_escapeChar (c : Char) (rest : List Char) :
    readChar (escapeChar c ++ rest) = some (c, rest) := by
  unfold escapeChar
  split_ifs with hQuote hSlash hLine hReturn hTab hBack hForm hControl
  · rw [hQuote]; rfl
  · rw [hSlash]; rfl
  · rw [hLine]; rfl
  · rw [hReturn]; rfl
  · rw [hTab]; rfl
  · rw [hBack]; rfl
  · rw [hForm]; rfl
  · exact readUnicode_control hControl rest
  · -- any other character stands for itself
    rw [List.singleton_append, readChar]
    · rw [if_neg (not_or.2 ⟨hSlash, hControl⟩)]
    · exact fun _ h => absurd h hSlash
    · exact fun _ _ h => absurd h hSlash

/-- An escape never starts with the quote that ends the text. -/
theorem exists_escapeChar (c : Char) : ∃ d ds, escapeChar c = d :: ds ∧ d ≠ '"' := by
  unfold escapeChar
  split_ifs with hQuote
  case neg => exact ⟨c, [], rfl, hQuote⟩
  all_goals exact ⟨'\\', _, rfl, by decide⟩

theorem readChars_escaped (rest : List Char) {cs : List Char} :
    ∀ {size}, cs.length < size →
      readChars size (cs.flatMap escapeChar ++ '"' :: rest) = some (cs, rest) := by
  -- one step of the reader for each character, and one for the closing quote
  induction cs with
  | nil =>
      intro size hSize
      cases size with
      | zero => cases hSize
      | succ size => rfl
  | cons c cs ih =>
      intro size hSize
      cases size with
      | zero => cases hSize
      | succ size =>
          have hChar := readChar_escapeChar c (cs.flatMap escapeChar ++ '"' :: rest)
          rcases exists_escapeChar c with ⟨d, ds, hEscape, hd⟩
          rw [hEscape] at hChar
          rw [List.cons_append] at hChar
          rw [List.flatMap_cons, hEscape, List.append_assoc, List.cons_append, readChars, if_neg hd,
            hChar]
          simp only [ih (Nat.lt_of_succ_lt_succ hSize), Option.map_some]

theorem toList_quote (s : String) :
    (quote s).toList = '"' :: (s.toList.flatMap escapeChar ++ ['"']) := by
  rw [quote, String.toList_ofList]

/-- A quoted text is read back from behind its opening quote, whatever follows. -/
theorem readString_quote {s : String} {size : Nat} (h : s.toList.length < size) (rest : List Char) :
    readString size (s.toList.flatMap escapeChar ++ '"' :: rest) = some (s, rest) := by
  rw [readString, readChars_escaped rest h, Option.map_some]
  simp only [String.ofList_toList]

/-- Every character has an escape, so a text is no longer than its quoted form. -/
theorem length_le_escaped (cs : List Char) : cs.length ≤ (cs.flatMap escapeChar).length := by
  induction cs with
  | nil => exact Nat.le_refl _
  | cons c cs ih =>
      rcases exists_escapeChar c with ⟨d, ds, hEscape, -⟩
      rw [List.flatMap_cons, hEscape, List.length_append, List.length_cons, List.length_cons]
      omega

/-! ## Numbers in front of a text -/

/-- What can follow a number: nothing that goes on with it. -/
def Ends (rest : List Char) : Prop :=
  ∀ c, rest.head? = some c → c.isDigit = false ∧ c ≠ '.' ∧ c ≠ 'e' ∧ c ≠ 'E'

section Append

variable {cs cs' rest : List Char}

theorem takeWhile_append_of_ends (hEnds : Ends rest) (cs : List Char) :
    (cs ++ rest).takeWhile Char.isDigit = cs.takeWhile Char.isDigit ∧
      (cs ++ rest).dropWhile Char.isDigit = cs.dropWhile Char.isDigit ++ rest := by
  induction cs with
  | nil =>
      cases rest with
      | nil => exact ⟨rfl, rfl⟩
      | cons c rest =>
          have hDigit := (hEnds c rfl).1
          simp [hDigit]
  | cons c cs ih =>
      cases hDigit : c.isDigit with
      | true => simp [hDigit, ih]
      | false => simp [hDigit]

theorem readDigits_append {ds : List Char} (h : readDigits cs = some (ds, cs'))
    (hEnds : Ends rest) : readDigits (cs ++ rest) = some (ds, cs' ++ rest) := by
  rcases takeWhile_append_of_ends hEnds cs with ⟨hTake, hDrop⟩
  simp only [readDigits, hTake, hDrop] at h ⊢
  split at h
  · cases h
  · next hSome =>
    cases h
    exact if_neg hSome

theorem readFraction_append {fraction : Option (List Char)}
    (h : readFraction cs = some (fraction, cs')) (hEnds : Ends rest) :
    readFraction (cs ++ rest) = some (fraction, cs' ++ rest) := by
  unfold readFraction at h
  split at h
  · next ds =>
    rcases Option.map_eq_some_iff.1 h with ⟨⟨ds', cs''⟩, hDigits, hPair⟩
    cases hPair
    simp only [List.cons_append, readFraction, readDigits_append hDigits hEnds, Option.map_some]
  · next hPoint =>
    cases h
    -- neither the text itself nor what follows it starts with a point
    rw [readFraction]
    rintro ds hStart
    cases cs with
    | nil => exact (hEnds '.' (by rw [← List.nil_append rest, hStart]; rfl)).2.1 rfl
    | cons c cs =>
        rw [List.cons_append, List.cons.injEq] at hStart
        exact hPoint cs (by rw [hStart.1])

/-- Whether there is a minus sign in front, and what is left behind a sign of either kind. -/
def splitSign : List Char → Bool × List Char
  | '-' :: ds => (true, ds)
  | '+' :: ds => (false, ds)
  | ds => (false, ds)

theorem readExponent_cons (c : Char) (cs : List Char) :
    readExponent (c :: cs) =
      if c == 'e' || c == 'E' then
        (readDigits (splitSign cs).2).map fun (ds, rest) =>
          (some (if (splitSign cs).1 then -(digitsNat ds : Int) else digitsNat ds), rest)
      else some (none, c :: cs) :=
  rfl

theorem splitSign_append (hSome : cs ≠ []) (rest : List Char) :
    splitSign (cs ++ rest) = ((splitSign cs).1, (splitSign cs).2 ++ rest) := by
  cases cs with
  | nil => exact absurd rfl hSome
  | cons c cs =>
      rw [List.cons_append]
      by_cases hMinus : c = '-'
      · rw [hMinus]
        rfl
      · by_cases hPlus : c = '+'
        · rw [hPlus]
          rfl
        · have hNone : ∀ ds, splitSign (c :: ds) = (false, c :: ds) := by
            intro ds
            simp [splitSign, hMinus, hPlus]
          rw [hNone, hNone]
          rfl

theorem readExponent_append {power : Option Int} (h : readExponent cs = some (power, cs'))
    (hEnds : Ends rest) : readExponent (cs ++ rest) = some (power, cs' ++ rest) := by
  cases cs with
  | nil =>
      cases h
      cases rest with
      | nil => rfl
      | cons c rest =>
          rcases hEnds c rfl with ⟨-, -, hSmall, hLarge⟩
          simp [readExponent, hSmall, hLarge]
  | cons c cs =>
      rw [List.cons_append, readExponent_cons]
      rw [readExponent_cons] at h
      cases hPower : c == 'e' || c == 'E' with
      | false =>
          simp only [hPower] at h ⊢
          cases h
          rfl
      | true =>
          simp only [hPower, if_true] at h ⊢
          rcases Option.map_eq_some_iff.1 h with ⟨⟨ds, cs''⟩, hDigits, hPair⟩
          cases hPair
          -- a power has digits
          have hSome : cs ≠ [] := by
            rintro rfl
            cases hDigits
          simp only [splitSign_append hSome, readDigits_append hDigits hEnds, Option.map_some]

/-- The number with given parts. -/
def numberOf? (negative : Bool) (whole : List Char) (fraction : Option (List Char))
    (power : Option Int) : Option JsonNumber :=
  match fraction, power, wholeOf? negative (digitsNat whole) with
  | none, none, some n => some (.whole n)
  | _, _, _ => (floatOf negative whole (fraction.getD []) (power.getD 0)).map .float

/-- A number is read by its parts. -/
theorem readUnsigned_eq {negative : Bool} {whole afterWhole afterPoint afterPower : List Char}
    {fraction : Option (List Char)} {power : Option Int}
    (hWhole : readDigits cs = some (whole, afterWhole))
    (hZeros : ¬(whole.length != 1 && whole.head? == some '0') = true)
    (hFraction : readFraction afterWhole = some (fraction, afterPoint))
    (hPower : readExponent afterPoint = some (power, afterPower)) :
    readUnsigned negative cs = (numberOf? negative whole fraction power).map (·, afterPower) := by
  simp only [readUnsigned, hWhole, if_neg hZeros, hFraction, hPower, numberOf?]
  cases fraction with
  | some ds => simp [Function.comp_def]
  | none =>
      cases power with
      | some n => simp [Function.comp_def]
      | none => cases wholeOf? negative (digitsNat whole) <;> simp [Function.comp_def]

/-- The parts of a number that has been read. -/
theorem of_readUnsigned {negative : Bool} {n : JsonNumber}
    (h : readUnsigned negative cs = some (n, cs')) :
    ∃ whole fraction power afterWhole afterPoint,
      readDigits cs = some (whole, afterWhole) ∧
      ¬(whole.length != 1 && whole.head? == some '0') = true ∧
      readFraction afterWhole = some (fraction, afterPoint) ∧
      readExponent afterPoint = some (power, cs') ∧
      numberOf? negative whole fraction power = some n := by
  have hRead := h
  unfold readUnsigned at h
  split at h
  · cases h
  · next whole afterWhole hWhole =>
    split at h
    · cases h
    · next hZeros =>
      split at h
      · cases h
      · next fraction afterPoint hFraction =>
        split at h
        · cases h
        · next power afterPower hPower =>
          rw [readUnsigned_eq hWhole hZeros hFraction hPower] at hRead
          rcases Option.map_eq_some_iff.1 hRead with ⟨n', hNumber, hPair⟩
          cases hPair
          exact ⟨whole, fraction, power, afterWhole, afterPoint, hWhole, hZeros, hFraction, hPower,
            hNumber⟩

theorem readUnsigned_append {negative : Bool} {n : JsonNumber}
    (h : readUnsigned negative cs = some (n, cs')) (hEnds : Ends rest) :
    readUnsigned negative (cs ++ rest) = some (n, cs' ++ rest) := by
  rcases of_readUnsigned h with
    ⟨whole, fraction, power, _, _, hWhole, hZeros, hFraction, hPower, hNumber⟩
  rw [readUnsigned_eq (readDigits_append hWhole hEnds) hZeros (readFraction_append hFraction hEnds)
    (readExponent_append hPower hEnds), hNumber, Option.map_some]

/-- The first character of a number is its sign or a digit. -/
theorem head?_of_readNumber {n : JsonNumber} (h : readNumber cs = some (n, cs')) :
    ∃ c tail, cs = c :: tail ∧ (c = '-' ∨ c.isDigit = true) := by
  unfold readNumber at h
  split at h
  · exact ⟨_, _, rfl, .inl rfl⟩
  · rcases of_readUnsigned h with ⟨whole, _, _, _, _, hWhole, -⟩
    cases cs with
    | nil => cases hWhole
    | cons c tail =>
        refine ⟨c, tail, rfl, .inr ?_⟩
        -- without a digit in front there are no digits at all
        by_contra hDigit
        simp [readDigits, hDigit] at hWhole

theorem readNumber_of_ne_minus (h : cs.head? ≠ some '-') :
    readNumber cs = readUnsigned false cs := by
  rw [readNumber]
  rintro rest rfl
  exact h rfl

/-- In front of a text a number is read as it is from its own text. -/
theorem readNumber_append {n : JsonNumber} (h : readNumber cs = some (n, [])) (hEnds : Ends rest) :
    readNumber (cs ++ rest) = some (n, rest) := by
  rcases head?_of_readNumber h with ⟨c, tail, rfl, -⟩
  by_cases hMinus : c = '-'
  · subst hMinus
    have hUnsigned : readUnsigned true tail = some (n, []) := h
    exact readUnsigned_append hUnsigned hEnds
  · have hUnsigned : ∀ ds, readNumber (c :: ds) = readUnsigned false (c :: ds) := fun ds =>
      readNumber_of_ne_minus (by simpa using hMinus)
    rw [hUnsigned] at h
    rw [List.cons_append, hUnsigned]
    exact readUnsigned_append h hEnds

end Append

/-! ## Whole numbers -/

theorem digitsNat_toDigits (n : Nat) : digitsNat (Nat.toDigits 10 n) = n :=
  Nat.ofDigitChars_ten_toDigits

/-- Numbers other than zero are written without zeros in front. -/
theorem head?_toDigits {n : Nat} (h : 0 < n) : (Nat.toDigits 10 n).head? ≠ some '0' := by
  induction n using Nat.strongRecOn with
  | ind n ih =>
    rw [Nat.toDigits_eq_if (by decide)]
    split_ifs with hSmall
    · have hDigits : ∀ k < 10, 0 < k → [Nat.digitChar k].head? ≠ some '0' := by decide
      exact hDigits n hSmall h
    · -- the first digit is that of a number with one digit less, which is not zero either
      have hHead := ih (n / 10) (by omega) (by omega)
      cases hFront : Nat.toDigits 10 (n / 10) with
      | nil => exact absurd hFront Nat.toDigits_ne_nil
      | cons c cs =>
          rw [hFront] at hHead
          exact hHead

theorem readUnsigned_toDigits {negative : Bool} {n : Nat} {m : Int}
    (h : wholeOf? negative n = some m) :
    readUnsigned negative (Nat.toDigits 10 n) = some (.whole m, []) := by
  have hDigits : ∀ c ∈ Nat.toDigits 10 n, c.isDigit = true := fun c hc =>
    Nat.isDigit_of_mem_toDigits (by decide) (by decide) hc
  have hWhole : readDigits (Nat.toDigits 10 n) = some (Nat.toDigits 10 n, []) := by
    have hTake := List.takeWhile_eq_self_iff.2 hDigits
    have hDrop := List.dropWhile_eq_nil_iff.2 hDigits
    simp only [readDigits, hTake, hDrop, List.isEmpty_iff, Nat.toDigits_ne_nil, if_false]
  have hZeros : ¬((Nat.toDigits 10 n).length != 1 && (Nat.toDigits 10 n).head? == some '0') =
      true := by
    cases n with
    | zero => decide
    | succ n => simp [head?_toDigits (Nat.succ_pos n)]
  have hNumber : numberOf? negative (Nat.toDigits 10 n) none none = some (.whole m) := by
    simp only [numberOf?, digitsNat_toDigits, h]
  rw [readUnsigned_eq hWhole hZeros rfl rfl, hNumber, Option.map_some]

/-- A whole number that a word can hold is read back from its text. -/
theorem readNumber_whole {n : Int} (hLow : Word.leastSigned 63 ≤ n) (hHigh : n ≤ Word.greatest 64) :
    readNumber (toString n).toList = some (.whole n, []) := by
  have hText : ∀ k : Nat, (toString k).toList = Nat.toDigits 10 k := by
    intro k
    rw [Nat.toString_eq_ofList_toDigits, String.toList_ofList]
  -- the reader takes the sign first and compares what is left with the bounds of its side
  cases n with
  | ofNat k =>
      have hWhole : wholeOf? false k = some (k : Int) := by
        rw [wholeOf?, if_neg (by decide), if_pos (Int.ofNat_le.1 hHigh)]
      have hSign : (Nat.toDigits 10 k).head? ≠ some '-' := by
        intro hHead
        have hDigit := Nat.isDigit_of_mem_toDigits (by decide) (by decide) (List.mem_of_head? hHead)
        cases hDigit
      change readNumber (toString k).toList = _
      rw [hText, readNumber_of_ne_minus hSign, readUnsigned_toDigits hWhole]
      rfl
  | negSucc k =>
      have hWhole : wholeOf? true (k + 1) = some (Int.negSucc k) := by
        rw [Word.leastSigned] at hLow
        rw [wholeOf?, if_pos rfl, if_pos ⟨Nat.succ_pos k, by omega⟩]
        rfl
      have hMinus : (toString (Int.negSucc k)).toList = '-' :: Nat.toDigits 10 (k + 1) := by
        rw [← hText]
        exact String.toList_append
      rw [hMinus]
      exact readUnsigned_toDigits hWhole

end TableQuery.Json
