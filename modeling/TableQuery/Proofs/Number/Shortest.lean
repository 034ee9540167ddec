import Mathlib.Data.List.TakeWhile
import Mathlib.Data.Nat.Log
import TableQuery.Number.Shortest

/-!
# Shortest — the digits of a number that is not zero

The search for the shortest digits finds no zero, since nothing in the interval around a positive
number is zero. Only if the search gives up may all digits be dropped, and that needs a number so
small that the point stands far in front of its digits (`digits_shortest`).
-/

namespace TableQuery.Binary64

/-- No part of a bracket above zero is zero. -/
theorem Bracket.pos_of_holds {b : Bracket} {k unit scale : Nat} (hLow : 0 < b.low)
    (hScale : 0 < scale) (h : b.holds k unit scale = true) : 0 < k := by
  have hProduct : 0 < b.low * scale := Nat.mul_pos hLow hScale
  apply Nat.pos_of_ne_zero
  rintro rfl
  unfold holds at h
  split at h
  · simp at h
    omega
  · simp at h

/-- What is found on a grid is not zero. -/
theorem Bracket.pos_of_onGrid {tie : Tie} {b : Bracket} {point : Int} {n k : Nat}
    (hLow : 0 < b.low) (h : b.onGrid? tie point n = some k) : 0 < k := by
  have hScale : 0 < if 0 ≤ point - n then 1 else Nat.pow 10 (-(point - n)).toNat := by
    split
    · exact Nat.one_pos
    · exact Nat.pow_pos (by decide)
  unfold onGrid? at h
  simp only at h
  generalize (if 0 ≤ point - n then 1 else Nat.pow 10 (-(point - n)).toNat) = scale at h hScale
  generalize (if 0 ≤ point - n then Nat.pow 10 (point - n).toNat * b.den else b.den) = unit at h
  split at h
  · next hHere _ =>
    cases h
    have hPos := pos_of_holds hLow hScale hHere
    split
    · exact hPos
    · exact Nat.succ_pos _
  · next hHere _ =>
    cases h
    exact pos_of_holds hLow hScale hHere
  · cases h
    exact Nat.succ_pos _
  · cases h

/-- A search finds something else than zero, or it gives up behind the last grid. -/
theorem Bracket.search_cases (tie : Tie) (b : Bracket) (point : Int) (hLow : 0 < b.low)
    (fuel n : Nat) :
    0 < (b.search tie point fuel n).1 ∨
      b.search tie point fuel n = (b.value / b.den, n + fuel) := by
  induction fuel generalizing n with
  | zero => exact .inr rfl
  | succ fuel ih =>
      rw [search]
      split
      · next k hGrid => exact .inl (pos_of_onGrid hLow hGrid)
      · rcases ih (n + 1) with hPos | hEnd
        · exact .inl hPos
        · exact .inr (by rw [hEnd, Nat.add_right_comm]; rfl)

/-- A ratio below one has its point near the front. -/
theorem decimalPoint_le {num den : Nat} (h : num < den) : decimalPoint num den ≤ 2 := by
  have hLogs : num.log2 ≤ den.log2 := by
    rw [Nat.log2_eq_log_two, Nat.log2_eq_log_two]
    exact Nat.log_mono_right h.le
  have hGuess : ((((num.log2 : Int) - den.log2) * 1233).fdiv 4096) ≤ 0 := by
    rw [Int.fdiv_eq_ediv_of_nonneg _ (by decide)]
    omega
  unfold decimalPoint
  simp only
  split
  · omega
  · split
    · omega
    · split
      · omega
      · omega

theorem eq_zero_of_zeros {k : Nat} (h : ∀ c ∈ Nat.toDigits 10 k, c = '0') : k = 0 := by
  have hZeros := List.eq_replicate_of_mem h
  have hValue := Nat.ofDigitChars_ten_toDigits (n := k)
  rw [hZeros, Nat.ofDigitChars_replicate_zero] at hValue
  simpa using hValue.symm

theorem bracket_pos {m : Nat} (hm : m ≠ 0) (q : Int) :
    0 < (bracket m q).low ∧ 0 < (bracket m q).den := by
  have hRatio : 0 < (scaleRatio 1 1 (q - 2)).1 ∧ 0 < (scaleRatio 1 1 (q - 2)).2 := by
    have hPow (k : Nat) : 0 < 1 * Nat.pow 2 k := by
      rw [Nat.one_mul]
      exact Nat.pow_pos (by decide)
    unfold scaleRatio
    split
    · exact ⟨hPow _, Nat.one_pos⟩
    · exact ⟨Nat.one_pos, hPow _⟩
  have hInterval : 0 < (interval m q).1 := by
    unfold interval
    split
    · simp only
      omega
    · simp only
      omega
  exact ⟨Nat.mul_pos hInterval hRatio.1, hRatio.2⟩

/-- There are digits other than zero, unless the number is too small for a point behind them. -/
theorem digits_shortest (tie : Tie) {m : Nat} (hm : m ≠ 0) (q : Int) :
    (shortest tie m q).digits ≠ [] ∨ (shortest tie m q).point < 0 := by
  by_cases hDigits : (shortest tie m q).digits = []
  · right
    rcases bracket_pos hm q with ⟨hLow, hDen⟩
    unfold shortest at hDigits ⊢
    simp only [List.reverse_eq_nil_iff] at hDigits ⊢
    have hZeros : ∀ c ∈ Nat.toDigits 10 ((bracket m q).search tie
        (decimalPoint (bracket m q).value (bracket m q).den) 17 1).1, c = '0' := by
      intro c hc
      have hAll := List.dropWhile_eq_nil_iff.1 hDigits c (List.mem_reverse.2 hc)
      simpa using hAll
    have hZero := eq_zero_of_zeros hZeros
    rcases (bracket m q).search_cases tie
      (decimalPoint (bracket m q).value (bracket m q).den) hLow 17 1 with hPos | hEnd
    · omega
    · rw [hEnd] at hZero ⊢
      have hBelow : (bracket m q).value < (bracket m q).den := by
        exact Nat.lt_of_div_eq_zero hDen hZero
      have hPoint := decimalPoint_le hBelow
      have hZero' : (bracket m q).value / (bracket m q).den = 0 := hZero
      simp only [hZero']
      have hOne : (Nat.toDigits 10 0).length = 1 := by decide
      rw [hOne]
      omega
  · exact .inl hDigits

end TableQuery.Binary64
