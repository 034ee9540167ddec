import Mathlib.Data.List.Basic
import TableQuery.Calendar
import TableQuery.Proofs.Text.Numeral

/-!
# Calendar — one text for one date, one text for one second

The parts of a date and of a time are written between signs that are no digits, so they can be told
apart again, with years of any sign and length. A time is written down to the second, a leap second
as second 60: times without a fraction of a second are written differently (`text_injective`).
-/

namespace TableQuery

/-- What is joined at an element comes apart at the last place where the element stands. -/
theorem eq_of_append_cons_eq {α : Type} {c : α} {as bs xs ys : List α} (hx : c ∉ xs) (hy : c ∉ ys)
    (h : as ++ c :: xs = bs ++ c :: ys) : as = bs ∧ xs = ys := by
  rcases List.append_eq_append_iff.1 h with ⟨ds, hFront, hBack⟩ | ⟨ds, hFront, hBack⟩
  · -- were anything left between the two places, the element would stand in the second part
    cases ds with
    | nil => exact ⟨by simpa using hFront.symm, by simpa using hBack⟩
    | cons d ds =>
        have hMem : c ∈ xs := by simp [(List.cons.inj hBack).2]
        exact absurd hMem hx
  · cases ds with
    | nil => exact ⟨by simpa using hFront, by simpa using hBack.symm⟩
    | cons d ds =>
        have hMem : c ∈ ys := by simp [(List.cons.inj hBack).2]
        exact absurd hMem hy

/-- Texts that are joined at a character come apart where it stands last. -/
theorem eq_of_joined_eq {c : Char} {glue a b a' b' : String} (hGlue : glue.toList = [c])
    (hb : c ∉ b.toList) (hb' : c ∉ b'.toList) (h : a ++ glue ++ b = a' ++ glue ++ b') :
    a = a' ∧ b = b' := by
  have hChars := congrArg String.toList h
  simp only [String.toList_append, hGlue, List.append_assoc, List.singleton_append] at hChars
  have hParts := eq_of_append_cons_eq hb hb' hChars
  exact ⟨String.toList_inj.1 hParts.1, String.toList_inj.1 hParts.2⟩

/-- Text of digits has none of the signs between the parts. -/
theorem Text.notMem_padded {c : Char} (h : c.isDigit = false) (width n : Nat) :
    c ∉ (padded width n).toList := by
  intro hMem
  rw [isDigit_of_mem_padded hMem] at h
  cases h

namespace CivilDate

theorem yearText_of_neg {year : Int} (h : year < 0) :
    yearText year = "-" ++ Text.padded 4 year.natAbs := by
  rw [yearText, if_pos h]

/-- From the year 0 on there is no minus sign. -/
theorem minus_notMem_yearText {year : Int} (h : ¬ year < 0) : '-' ∉ (yearText year).toList := by
  have hDigits := Text.notMem_padded (c := '-') rfl 4 year.natAbs
  rw [yearText, if_neg h]
  split <;> simp [hDigits]

/-- Only years above 9999 have a plus sign. -/
theorem plus_mem_yearText_iff (year : Int) : '+' ∈ (yearText year).toList ↔ 9999 < year := by
  have hDigits := Text.notMem_padded (c := '+') rfl 4 year.natAbs
  unfold yearText
  split
  · next hNeg => exact iff_of_false (by simp [hDigits]) (by omega)
  · split
    · next hLong => exact iff_of_true (by simp) hLong
    · next hShort => exact iff_of_false (by simp [hDigits]) hShort

/-- The magnitude of a year is written out, and its sign is seen from the text. -/
theorem yearText_injective : Function.Injective yearText := by
  intro y z h
  have hMinus : y < 0 ↔ z < 0 := by
    have hSign (year : Int) : '-' ∈ (yearText year).toList ↔ year < 0 := by
      constructor
      · intro hMem
        by_contra hNot
        exact minus_notMem_yearText hNot hMem
      · intro hNeg
        simp [yearText_of_neg hNeg]
    rw [← hSign y, h, hSign z]
  have hPlus : 9999 < y ↔ 9999 < z := by
    rw [← plus_mem_yearText_iff y, h, plus_mem_yearText_iff z]
  have hMagnitude : y.natAbs = z.natAbs := by
    unfold yearText at h
    by_cases hNeg : y < 0
    · rw [if_pos hNeg, if_pos (hMinus.1 hNeg)] at h
      exact Text.padded_injective 4 (String.append_right_inj _ |>.1 h)
    · rw [if_neg hNeg, if_neg (mt hMinus.2 hNeg)] at h
      by_cases hLong : 9999 < y
      · rw [if_pos hLong, if_pos (hPlus.1 hLong)] at h
        exact Text.padded_injective 4 (String.append_right_inj _ |>.1 h)
      · rw [if_neg hLong, if_neg (mt hPlus.2 hLong)] at h
        exact Text.padded_injective 4 h
  omega

theorem text_injective : Function.Injective text := by
  intro d e h
  have hDigits (n : Nat) : '-' ∉ (Text.padded 2 n).toList := Text.notMem_padded rfl 2 n
  rcases eq_of_joined_eq (c := '-') rfl (hDigits _) (hDigits _) h with ⟨hFront, hDay⟩
  rcases eq_of_joined_eq (c := '-') rfl (hDigits _) (hDigits _) hFront with ⟨hYear, hMonth⟩
  cases d
  cases e
  rw [CivilDate.mk.injEq]
  exact ⟨yearText_injective hYear, Text.padded_injective 2 hMonth, Text.padded_injective 2 hDay⟩

end CivilDate

namespace TimeOfDay

/-- The time has no fraction of a second; it may be a leap second. -/
def IsWhole (t : TimeOfDay) : Prop :=
  t.nanos % 1000000000 = 0

instance : DecidablePred IsWhole := fun t =>
  inferInstanceAs (Decidable (t.nanos % 1000000000 = 0))

theorem text_injective {t u : TimeOfDay} (ht : t.IsWhole) (hu : u.IsWhole)
    (h : t.text = u.text) : t = u := by
  have hDigits (n : Nat) : ':' ∉ (Text.padded 2 n).toList := Text.notMem_padded rfl 2 n
  rcases eq_of_joined_eq (c := ':') rfl (hDigits _) (hDigits _) h with ⟨hFront, hSecond⟩
  rcases eq_of_joined_eq (c := ':') rfl (hDigits _) (hDigits _) hFront with ⟨hHour, hMinute⟩
  have hShown : t.shownSecond = u.shownSecond := Text.padded_injective 2 hSecond
  -- second 60 is shown for a leap second only, which follows second 59
  have hExact : t.second = u.second ∧ t.nanos = u.nanos := by
    have hValidT := t.nanos_valid
    have hValidU := u.nanos_valid
    have hSecondT := t.second_valid
    have hSecondU := u.second_valid
    unfold IsWhole at ht hu
    unfold shownSecond at hShown
    omega
  cases t
  cases u
  rw [TimeOfDay.mk.injEq]
  exact ⟨Text.padded_injective 2 hHour, Text.padded_injective 2 hMinute, hExact⟩

theorem blank_notMem_text (t : TimeOfDay) : ' ' ∉ t.text.toList := by
  have hDigits (n : Nat) : ' ' ∉ (Text.padded 2 n).toList := Text.notMem_padded rfl 2 n
  simp [text, hDigits]

end TimeOfDay

theorem Timestamp.text_injective {t u : Timestamp} (ht : t.time.IsWhole) (hu : u.time.IsWhole)
    (h : t.text = u.text) : t = u := by
  rcases eq_of_joined_eq (c := ' ') rfl t.time.blank_notMem_text u.time.blank_notMem_text h with
    ⟨hDate, hTime⟩
  cases t
  cases u
  rw [Timestamp.mk.injEq]
  exact ⟨CivilDate.text_injective hDate, TimeOfDay.text_injective ht hu hTime⟩

end TableQuery
