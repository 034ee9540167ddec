import Mathlib.Data.List.Basic
import TableQuery.Arity

/-!
# Arity — the lists that an arity accepts

An arity looks at the number of arguments only, and where it leaves few numbers the list of the
arguments can be written out.
-/

namespace TableQuery

namespace Arity

variable {α : Type} {xs : List α}

theorem accepts_exactly_iff {k n : Nat} : (exactly k).accepts n = true ↔ n = k := by
  simp [accepts]

theorem exists_one (h : (exactly 1).accepts xs.length = true) : ∃ a, xs = [a] :=
  List.length_eq_one_iff.1 (accepts_exactly_iff.1 h)

theorem exists_two (h : (exactly 2).accepts xs.length = true) : ∃ a b, xs = [a, b] :=
  List.length_eq_two.1 (accepts_exactly_iff.1 h)

theorem exists_three (h : (exactly 3).accepts xs.length = true) : ∃ a b c, xs = [a, b, c] :=
  List.length_eq_three.1 (accepts_exactly_iff.1 h)

theorem one_or_two (h : (range 1 2).accepts xs.length = true) :
    (∃ a, xs = [a]) ∨ ∃ a b, xs = [a, b] := by
  simp only [accepts, Bool.and_eq_true, decide_eq_true_eq] at h
  rcases Nat.lt_or_ge xs.length 2 with hOne | hTwo
  · exact .inl (List.length_eq_one_iff.1 (by omega))
  · exact .inr (List.length_eq_two.1 (by omega))

theorem two_or_three (h : (range 2 3).accepts xs.length = true) :
    (∃ a b, xs = [a, b]) ∨ ∃ a b c, xs = [a, b, c] := by
  simp only [accepts, Bool.and_eq_true, decide_eq_true_eq] at h
  rcases Nat.lt_or_ge xs.length 3 with hTwo | hThree
  · exact .inl (List.length_eq_two.1 (by omega))
  · exact .inr (List.length_eq_three.1 (by omega))

end Arity

end TableQuery
