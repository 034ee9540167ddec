import TableQuery.Fault.Code
import TableQuery.Proofs.Text.Numeral

/-!
# Code — the texts that are read as codes

A code is written as its start and the four digits of its number. The reader takes the start and any
numeral of a known number, so besides the text of a code it takes this text with a plus sign, and
with any zeros, in front of the number (`spellings_of_code`). All of these name the same code, and
only the shortest of them is its text.
-/

namespace TableQuery
namespace FaultCode

/-! ## Numbers of codes -/

theorem ofNumber?_number (c : FaultCode) : ofNumber? c.number = some c := by
  cases c <;> rfl

/-- Looking up a number finds the code that has it. -/
theorem ofNumber?_eq_some_iff {n : Nat} {c : FaultCode} : ofNumber? n = some c ↔ c.number = n := by
  constructor
  · intro h
    simpa using List.find?_some h
  · rintro rfl
    exact ofNumber?_number c

theorem ofNumber?_eq_none_iff {n : Nat} : ofNumber? n = none ↔ ∀ c : FaultCode, c.number ≠ n := by
  simp only [Option.eq_none_iff_forall_not_mem, Option.mem_def, ofNumber?_eq_some_iff, ne_eq]

/-- Numbers of codes have four digits, so all of them are words of 16 bits. -/
theorem number_bounds (c : FaultCode) : 1000 ≤ c.number ∧ c.number ≤ 9999 := by
  cases c <;> decide

theorem length_toDigits_number (c : FaultCode) : (Nat.toDigits 10 c.number).length = 4 := by
  rcases number_bounds c with ⟨hLow, hHigh⟩
  have hMost : (Nat.toDigits 10 c.number).length ≤ 4 :=
    (Nat.length_toDigits_le_iff (by decide) (by decide)).2 (by omega)
  have hLeast : ¬(Nat.toDigits 10 c.number).length ≤ 3 := by
    rw [Nat.length_toDigits_le_iff (by decide) (by decide)]
    omega
  omega

/-! ## Spellings -/

/-- The start of a code with a numeral behind it. -/
def spelling (plus : Bool) (zeros n : Nat) : String :=
  textStart ++ String.ofList (Text.numeral plus zeros n)

theorem toList_spelling (plus : Bool) (zeros n : Nat) :
    (spelling plus zeros n).toList = textStart.toList ++ Text.numeral plus zeros n := by
  rw [spelling, String.toList_append, String.toList_ofList]

/-- The text of a code has neither a plus sign nor zeros in front of the number. -/
theorem text_eq_spelling (c : FaultCode) : c.text = spelling false 0 c.number := by
  rw [text, Text.padded, length_toDigits_number]
  rfl

theorem length_spelling (plus : Bool) (zeros : Nat) (c : FaultCode) :
    (spelling plus zeros c.number).length = 12 + plus.toNat + zeros := by
  have hStart : textStart.length = 8 := rfl
  rw [spelling, String.length_append, String.length_ofList, Text.length_numeral,
    length_toDigits_number, hStart]
  omega

/-! ## Reading -/

/-- Behind the start the reader goes by the number, if there is one. -/
theorem parse_spelling {n : Nat} (h : n ≤ 65535) (plus : Bool) (zeros : Nat) :
    parse (spelling plus zeros n) = (ofNumber? n).elim (.error .unknownCode) .ok := by
  have hRest : (spelling plus zeros n).toList.drop textStart.toList.length =
      Text.numeral plus zeros n := by
    rw [toList_spelling, List.drop_left]
  have hStart : textStart.toList.isPrefixOf (spelling plus zeros n).toList = true := by
    rw [toList_spelling, List.isPrefixOf_iff_prefix]
    exact List.prefix_append _ _
  have hNumber : Text.readNat? 65535 (String.ofList (Text.numeral plus zeros n)) = some n :=
    Text.readNat?_eq_some_iff.2 ⟨h, plus, zeros, String.toList_ofList⟩
  simp only [parse, hStart, if_true, hRest, hNumber]
  cases ofNumber? n <;> rfl

/-- What is no spelling of a word is refused for its form. -/
theorem parse_of_forall_ne {s : String}
    (h : ∀ plus zeros n, n ≤ 65535 → s ≠ spelling plus zeros n) :
    parse s = .error .invalidFormat := by
  simp only [parse]
  split
  · next hStart =>
    rcases List.isPrefixOf_iff_prefix.1 hStart with ⟨rest, hText⟩
    have hRest : s.toList.drop textStart.toList.length = rest := by
      rw [← hText, List.drop_left]
    rw [hRest]
    cases hNumber : Text.readNat? 65535 (String.ofList rest) with
    | none => rfl
    | some n =>
        rcases Text.readNat?_eq_some_iff.1 hNumber with ⟨hWord, plus, zeros, hNumeral⟩
        rw [String.toList_ofList] at hNumeral
        refine absurd ?_ (h plus zeros n hWord)
        rw [← String.toList_inj, toList_spelling, ← hText, hNumeral]
  · rfl

/-- A text is a spelling of a word or is refused for its form. -/
theorem parse_cases (s : String) :
    (∃ plus zeros n, n ≤ 65535 ∧ s = spelling plus zeros n ∧
      parse s = (ofNumber? n).elim (.error .unknownCode) .ok) ∨
    (∀ plus zeros n, n ≤ 65535 → s ≠ spelling plus zeros n) ∧ parse s = .error .invalidFormat := by
  by_cases h : ∃ plus zeros n, n ≤ 65535 ∧ s = spelling plus zeros n
  · rcases h with ⟨plus, zeros, n, hWord, rfl⟩
    exact .inl ⟨plus, zeros, n, hWord, rfl, parse_spelling hWord plus zeros⟩
  · have hNone : ∀ plus zeros n, n ≤ 65535 → s ≠ spelling plus zeros n :=
      fun plus zeros n hWord hText => h ⟨plus, zeros, n, hWord, hText⟩
    exact .inr ⟨hNone, parse_of_forall_ne hNone⟩

theorem parse_eq_ok_iff {s : String} {c : FaultCode} :
    parse s = .ok c ↔ ∃ plus zeros, s = spelling plus zeros c.number := by
  constructor
  · intro h
    rcases parse_cases s with ⟨plus, zeros, n, -, hText, hParse⟩ | ⟨-, hParse⟩
    · rw [hParse] at h
      cases hNumber : ofNumber? n with
      | none =>
          rw [hNumber] at h
          cases h
      | some c' =>
          rw [hNumber] at h
          cases h
          rw [ofNumber?_eq_some_iff.1 hNumber]
          exact ⟨plus, zeros, hText⟩
    · rw [hParse] at h
      cases h
  · rintro ⟨plus, zeros, rfl⟩
    have hWord : c.number ≤ 65535 := Nat.le_trans (number_bounds c).2 (by decide)
    rw [parse_spelling hWord, ofNumber?_number]
    rfl

/-- A known form with a number that no code has. -/
theorem parse_eq_unknownCode_iff {s : String} :
    parse s = .error .unknownCode ↔
      ∃ plus zeros n, n ≤ 65535 ∧ (∀ c : FaultCode, c.number ≠ n) ∧ s = spelling plus zeros n := by
  constructor
  · intro h
    rcases parse_cases s with ⟨plus, zeros, n, hWord, hText, hParse⟩ | ⟨-, hParse⟩
    · rw [hParse] at h
      cases hNumber : ofNumber? n with
      | none => exact ⟨plus, zeros, n, hWord, ofNumber?_eq_none_iff.1 hNumber, hText⟩
      | some c =>
          rw [hNumber] at h
          cases h
    · rw [hParse] at h
      cases h
  · rintro ⟨plus, zeros, n, hWord, hUnknown, rfl⟩
    rw [parse_spelling hWord, ofNumber?_eq_none_iff.2 hUnknown]
    rfl

theorem parse_eq_invalidFormat_iff {s : String} :
    parse s = .error .invalidFormat ↔
      ∀ plus zeros n, n ≤ 65535 → s ≠ spelling plus zeros n := by
  constructor
  · rintro h plus zeros n hWord rfl
    rw [parse_spelling hWord] at h
    cases hNumber : ofNumber? n with
    | none =>
        rw [hNumber] at h
        cases h
    | some c =>
        rw [hNumber] at h
        cases h
  · exact parse_of_forall_ne

/-- Of all texts that are read as a code, its own is the one with twelve characters. -/
theorem eq_text_iff {s : String} {c : FaultCode} :
    s = c.text ↔ parse s = .ok c ∧ s.length = 12 := by
  constructor
  · rintro rfl
    refine ⟨parse_eq_ok_iff.2 ⟨false, 0, text_eq_spelling c⟩, ?_⟩
    rw [text_eq_spelling, length_spelling]
    rfl
  · rintro ⟨hParse, hLength⟩
    rcases parse_eq_ok_iff.1 hParse with ⟨plus, zeros, rfl⟩
    rw [length_spelling] at hLength
    -- a sign or a zero would be one character more
    obtain rfl : zeros = 0 := by omega
    obtain rfl : plus = false := by
      cases plus with
      | false => rfl
      | true => exact absurd hLength (by decide)
    exact (text_eq_spelling c).symm

theorem parse_text (c : FaultCode) : parse c.text = .ok c :=
  (eq_text_iff.1 rfl).1

theorem text_eq_append_number (c : FaultCode) : c.text = textStart ++ toString c.number := by
  rw [text_eq_spelling, Nat.toString_eq_ofList_toDigits]
  rfl

/-- The text of a code is its start and its number, which has four digits. A text is read as a code
exactly if it is the start with a numeral of the number behind it: a plus sign or none, any zeros,
and the digits. Other numerals of words of 16 bits are unknown codes, and all other texts are no
codes. So the text of a code is read as this code, and a text that is read as a code is its text
exactly if it has twelve characters, which is to say neither a plus sign nor a zero in front. -/
theorem spellings_of_code (s : String) :
    (∀ c : FaultCode, (1000 ≤ c.number ∧ c.number ≤ 9999) ∧
      c.text = "HEAVYAI-" ++ toString c.number) ∧
    (∀ c, parse s = .ok c ↔ ∃ plus zeros, s = spelling plus zeros c.number) ∧
    (parse s = .error .unknownCode ↔
      ∃ plus zeros n, n ≤ 65535 ∧ (∀ c : FaultCode, c.number ≠ n) ∧ s = spelling plus zeros n) ∧
    (parse s = .error .invalidFormat ↔
      ∀ plus zeros n, n ≤ 65535 → s ≠ spelling plus zeros n) ∧
    ∀ c : FaultCode, s = c.text ↔ parse s = .ok c ∧ s.length = 12 :=
  ⟨fun c => ⟨number_bounds c, text_eq_append_number c⟩, fun _ => parse_eq_ok_iff,
    parse_eq_unknownCode_iff, parse_eq_invalidFormat_iff, fun _ => eq_text_iff⟩

/-- A text that is read as a code need not be the text of the code: a plus sign or a zero may stand
in front of the number. -/
theorem spelled_differently :
    parse "HEAVYAI-+1001" = .ok .connectionFailed ∧
      parse "HEAVYAI-01001" = .ok .connectionFailed ∧
      connectionFailed.text = "HEAVYAI-1001" ∧
      ¬∀ (s : String) (c : FaultCode), parse s = .ok c → c.text = s := by
  have hPlus : parse "HEAVYAI-+1001" = .ok .connectionFailed := rfl
  refine ⟨hPlus, rfl, rfl, fun hAll => ?_⟩
  exact absurd (hAll _ _ hPlus) (by decide)

end FaultCode
end TableQuery
