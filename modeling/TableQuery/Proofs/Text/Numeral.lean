import TableQuery.Text.Numeral

/-!
# Numeral — what a text looks like that reads as a number, or is written for one
-/

namespace TableQuery.Text

/-! ## Reading -/

theorem isDigit_of_digitsValue {cs : List Char} {n : Nat} (h : digitsValue? cs = some n) :
    ∀ c ∈ cs, c.isDigit = true := by
  unfold digitsValue? at h
  split at h
  · cases h
  · next hAll =>
    simp only [Bool.or_eq_true, not_or, Bool.not_eq_true', Bool.not_eq_false] at hAll
    exact List.all_eq_true.1 hAll.2

/-- A text that reads as a whole number has no other characters than digits and signs. -/
theorem isDigit_or_of_readInt {lo hi n : Int} {s : String} (h : readInt? lo hi s = some n) :
    ∀ c ∈ s.toList, c.isDigit = true ∨ c = '-' ∨ c = '+' := by
  unfold readInt? at h
  rcases Option.filter_eq_some_iff.1 h with ⟨hValue, -⟩
  intro c hc
  split at hValue
  · next ds hSign =>
    rcases Option.map_eq_some_iff.1 hValue with ⟨_, hDigits, -⟩
    rcases Option.bind_eq_some_iff.1 hDigits with ⟨k, hk, -⟩
    rw [hSign] at hc
    rcases List.mem_cons.1 hc with rfl | hc
    · exact .inr (.inl rfl)
    · exact .inl (isDigit_of_digitsValue hk c hc)
  · next ds hSign =>
    rcases Option.map_eq_some_iff.1 hValue with ⟨k, hk, -⟩
    rw [hSign] at hc
    rcases List.mem_cons.1 hc with rfl | hc
    · exact .inr (.inr rfl)
    · exact .inl (isDigit_of_digitsValue hk c hc)
  · rcases Option.map_eq_some_iff.1 hValue with ⟨k, hk, -⟩
    exact .inl (isDigit_of_digitsValue hk c hc)

/-- The digit with the value of a digit is that digit. -/
theorem digitChar_of_isDigit {c : Char} (h : c.isDigit = true) :
    Nat.digitChar (c.toNat - '0'.toNat) = c ∧ c.toNat - '0'.toNat < 10 := by
  have hZero : '0'.toNat = 48 := rfl
  have hNine : '9'.toNat = 57 := rfl
  have hBounds := Char.isDigit_iff_toNat.1 h
  have hBelow : c.toNat - '0'.toNat < 10 := by omega
  refine ⟨?_, hBelow⟩
  rw [← Char.toNat_inj, Nat.toNat_digitChar_of_lt_ten hBelow]
  omega

/-- Digits behind those of a number other than zero are the last digits of a greater number. -/
theorem toDigits_append_digits {cs : List Char} (h : ∀ c ∈ cs, c.isDigit = true) {n : Nat}
    (hn : 0 < n) : Nat.toDigits 10 n ++ cs = Nat.toDigits 10 (Nat.ofDigitChars 10 cs n) := by
  induction cs generalizing n with
  | nil => rw [List.append_nil, Nat.ofDigitChars_nil]
  | cons c cs ih =>
      rcases List.forall_mem_cons.1 h with ⟨hc, hcs⟩
      rcases digitChar_of_isDigit hc with ⟨hChar, hBelow⟩
      have hLast : Nat.toDigits 10 n ++ [c] = Nat.toDigits 10 (10 * n + (c.toNat - '0'.toNat)) := by
        rw [← Nat.toDigits_append_toDigits (by decide) hn hBelow, Nat.toDigits_of_lt_base hBelow,
          hChar]
      calc
        Nat.toDigits 10 n ++ c :: cs = (Nat.toDigits 10 n ++ [c]) ++ cs := by simp
        _ = Nat.toDigits 10 (10 * n + (c.toNat - '0'.toNat)) ++ cs := by rw [hLast]
        _ = Nat.toDigits 10 (Nat.ofDigitChars 10 cs (10 * n + (c.toNat - '0'.toNat))) :=
          ih hcs (by omega)
        _ = Nat.toDigits 10 (Nat.ofDigitChars 10 (c :: cs) n) := by rw [Nat.ofDigitChars_cons]

/-- A run of digits is that of its value, with some zeros in front. -/
theorem exists_zeros {cs : List Char} (hSome : cs ≠ []) (h : ∀ c ∈ cs, c.isDigit = true) :
    ∃ zeros, cs = List.replicate zeros '0' ++ Nat.toDigits 10 (Nat.ofDigitChars 10 cs 0) := by
  induction cs with
  | nil => exact absurd rfl hSome
  | cons c cs ih =>
      rcases List.forall_mem_cons.1 h with ⟨hc, hcs⟩
      rcases digitChar_of_isDigit hc with ⟨hChar, hBelow⟩
      rw [Nat.ofDigitChars_cons, Nat.mul_zero, Nat.zero_add]
      by_cases hFirst : c.toNat - '0'.toNat = 0
      · rw [hFirst] at hChar ⊢
        subst hChar
        cases cs with
        | nil => exact ⟨0, rfl⟩
        | cons d cs =>
            rcases ih (by simp) hcs with ⟨zeros, hZeros⟩
            refine ⟨zeros + 1, ?_⟩
            rw [List.replicate_succ, List.cons_append, ← hZeros]
            rfl
      · -- from the first digit that is no zero on, the text has a single number
        refine ⟨0, ?_⟩
        have hDigits := toDigits_append_digits hcs (Nat.pos_of_ne_zero hFirst)
        rw [Nat.toDigits_of_lt_base hBelow, hChar] at hDigits
        exact hDigits

theorem digitsValue?_eq_some_iff {cs : List Char} {n : Nat} :
    digitsValue? cs = some n ↔ ∃ zeros, cs = List.replicate zeros '0' ++ Nat.toDigits 10 n := by
  constructor
  · intro h
    have hDigits := isDigit_of_digitsValue h
    unfold digitsValue? at h
    split at h
    · cases h
    · next hAll =>
      have hSome : cs ≠ [] := by
        rintro rfl
        exact hAll rfl
      rw [← Nat.ofDigitChars_eq_foldl, Option.some.injEq] at h
      rw [← h]
      exact exists_zeros hSome hDigits
  · rintro ⟨zeros, rfl⟩
    have hDigits : ∀ c ∈ List.replicate zeros '0' ++ Nat.toDigits 10 n, c.isDigit = true := by
      intro c hc
      rcases List.mem_append.1 hc with hZero | hDigit
      · rw [List.eq_of_mem_replicate hZero]
        decide
      · exact Nat.isDigit_of_mem_toDigits (by decide) (by decide) hDigit
    have hSome : (List.replicate zeros '0' ++ Nat.toDigits 10 n).isEmpty = false := by
      rw [List.isEmpty_eq_false_iff]
      exact List.append_ne_nil_of_right_ne_nil _ Nat.toDigits_ne_nil
    rw [digitsValue?, hSome, List.all_eq_true.2 hDigits, ← Nat.ofDigitChars_eq_foldl,
      Nat.ofDigitChars_append, Nat.ofDigitChars_replicate_zero, Nat.mul_zero,
      Nat.ofDigitChars_ten_toDigits]
    rfl

/-- A natural number with a plus sign or without, and with zeros in front. -/
def numeral (plus : Bool) (zeros n : Nat) : List Char :=
  (if plus then ['+'] else []) ++ (List.replicate zeros '0' ++ Nat.toDigits 10 n)

theorem length_numeral (plus : Bool) (zeros n : Nat) :
    (numeral plus zeros n).length = plus.toNat + zeros + (Nat.toDigits 10 n).length := by
  rw [numeral, List.length_append, List.length_append, List.length_replicate, ← Nat.add_assoc]
  cases plus <;> rfl

/-- The texts that read as a natural number are its numerals. -/
theorem readNat?_eq_some_iff {hi n : Nat} {s : String} :
    readNat? hi s = some n ↔ n ≤ hi ∧ ∃ plus zeros, s.toList = numeral plus zeros n := by
  rw [readNat?, Option.filter_eq_some_iff, decide_eq_true_iff, and_comm]
  refine and_congr_right' ?_
  split
  · next ds hSign =>
    rw [hSign, digitsValue?_eq_some_iff]
    constructor
    · rintro ⟨zeros, rfl⟩
      exact ⟨true, zeros, rfl⟩
    · rintro ⟨plus, zeros, hText⟩
      cases plus with
      | true => exact ⟨zeros, (List.cons.inj hText).2⟩
      | false =>
          -- without its sign it would have to be a run of digits, and a sign is no digit
          have hDigits := isDigit_of_digitsValue (digitsValue?_eq_some_iff.2 ⟨zeros, hText⟩)
          exact absurd (hDigits '+' (by simp)) (by decide)
  · next hSign =>
    rw [digitsValue?_eq_some_iff]
    constructor
    · rintro ⟨zeros, hText⟩
      exact ⟨false, zeros, hText⟩
    · rintro ⟨plus, zeros, hText⟩
      cases plus with
      | true => exact absurd hText (hSign _)
      | false => exact ⟨zeros, hText⟩

/-! ## Writing -/

theorem isDigit_of_mem_natText {n : Nat} {c : Char} (h : c ∈ (toString n).toList) :
    c.isDigit = true := by
  rw [Nat.toString_eq_ofList_toDigits, String.toList_ofList] at h
  exact Nat.isDigit_of_mem_toDigits (by decide) (by decide) h

/-- Padding adds digits only. -/
theorem isDigit_of_mem_padded {width n : Nat} {c : Char} (h : c ∈ (padded width n).toList) :
    c.isDigit = true := by
  rw [padded, String.toList_ofList, List.mem_append] at h
  rcases h with hZero | hDigit
  · rw [List.eq_of_mem_replicate hZero]
    decide
  · exact Nat.isDigit_of_mem_toDigits (by decide) (by decide) hDigit

/-- The text of a whole number has digits and at most a minus sign. -/
theorem isDigit_or_of_mem_intText {n : Int} {c : Char} (h : c ∈ (toString n).toList) :
    c.isDigit = true ∨ c = '-' := by
  cases n with
  | ofNat n => exact .inl (isDigit_of_mem_natText h)
  | negSucc n =>
      have hText : toString (Int.negSucc n) = "-" ++ toString (n + 1) := rfl
      rw [hText, String.toList_append, List.mem_append] at h
      rcases h with hSign | hDigit
      · exact .inr (by simpa using hSign)
      · exact .inl (isDigit_of_mem_natText hDigit)

theorem natText_injective {m n : Nat} (h : toString m = toString n) : m = n := by
  have hDigits : Nat.toDigits 10 m = Nat.toDigits 10 n := by
    rw [Nat.toString_eq_ofList_toDigits, Nat.toString_eq_ofList_toDigits] at h
    exact String.ofList_injective h
  calc
    m = Nat.ofDigitChars 10 (Nat.toDigits 10 m) 0 := by simp
    _ = Nat.ofDigitChars 10 (Nat.toDigits 10 n) 0 := by rw [hDigits]
    _ = n := by simp

/-- Only negative numbers have a sign, so no two numbers are written alike. -/
theorem intText_injective {m n : Int} (h : toString m = toString n) : m = n := by
  have hUnlike (k l : Nat) : toString (Int.ofNat k) ≠ toString (Int.negSucc l) := by
    intro hSame
    have hSign : '-' ∈ (toString (Int.ofNat k)).toList := by
      have hText : toString (Int.negSucc l) = "-" ++ toString (l + 1) := rfl
      rw [hSame, hText]
      simp
    exact absurd (isDigit_of_mem_natText hSign) (by decide)
  cases m with
  | ofNat k =>
      cases n with
      | ofNat l => exact congrArg Int.ofNat (natText_injective h)
      | negSucc l => exact absurd h (hUnlike k l)
  | negSucc k =>
      cases n with
      | ofNat l => exact absurd h.symm (hUnlike l k)
      | negSucc l =>
          have hTail : "-" ++ toString (k + 1) = "-" ++ toString (l + 1) := h
          have hSucc := natText_injective (String.append_right_inj _ |>.1 hTail)
          exact congrArg Int.negSucc (Nat.succ.inj hSucc)

/-- The digits of a padded number have its value, however many zeros stand in front. -/
theorem padded_injective (width : Nat) : Function.Injective (padded width) := by
  intro m n h
  have hValue (k : Nat) : Nat.ofDigitChars 10 (padded width k).toList 0 = k := by
    rw [padded, String.toList_ofList, Nat.ofDigitChars_append, Nat.ofDigitChars_replicate_zero]
    simp
  calc
    m = Nat.ofDigitChars 10 (padded width m).toList 0 := (hValue m).symm
    _ = Nat.ofDigitChars 10 (padded width n).toList 0 := by rw [h]
    _ = n := hValue n

end TableQuery.Text
