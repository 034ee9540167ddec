import Mathlib.Order.Bounds.Basic
import Mathlib.Order.MinMax
import TableQuery.EditDistance

/-!
# Script — turning one text into another by edits

An edit inserts, deletes or replaces one character at any place (`Edit`), and a script is any number
of them, one after another (`Edits`). A recurrence over both texts from the front gives a cost, for
which there is a script, and which no script undercuts (`isLeast_cost`).

The table of distances holds these costs. A row belongs to a prefix of the first text and has an
entry for every prefix of the second one: what it costs to turn the one prefix into the other.
Prefixes grow at the end, so they are taken in reverse, where they grow at the front. The last entry
of the last row is the distance, which is thus that of the shortest script (`isLeast_distance`).
Scripts can be undone and put one behind another, so the distance is the same in both directions and
no detour is shorter (`distance_comm`, `distance_triangle`).
-/

namespace TableQuery
namespace EditDistance

/-! ## Scripts -/

/-- One character is inserted, deleted or replaced. -/
inductive Edit : List Char → List Char → Prop where
  | insert (front : List Char) (c : Char) (rest : List Char) :
      Edit (front ++ rest) (front ++ c :: rest)
  | delete (front : List Char) (c : Char) (rest : List Char) :
      Edit (front ++ c :: rest) (front ++ rest)
  | replace (front : List Char) (c d : Char) (rest : List Char) :
      Edit (front ++ c :: rest) (front ++ d :: rest)

/-- As many edits as the number says turn the first text into the second. -/
inductive Edits : Nat → List Char → List Char → Prop where
  | done (cs : List Char) : Edits 0 cs cs
  | step {n : Nat} {cs ds es : List Char} : Edit cs ds → Edits n ds es → Edits (n + 1) cs es

/-- An edit can be made behind one more character. -/
theorem Edit.cons {cs ds : List Char} (h : Edit cs ds) (c : Char) : Edit (c :: cs) (c :: ds) := by
  cases h with
  | insert front d rest => exact .insert (c :: front) d rest
  | delete front d rest => exact .delete (c :: front) d rest
  | replace front d e rest => exact .replace (c :: front) d e rest

/-- The last characters come first in a reversed text, and are edited there. -/
theorem Edit.reverse {cs ds : List Char} (h : Edit cs ds) : Edit cs.reverse ds.reverse := by
  cases h with
  | insert front c rest => simpa using Edit.insert rest.reverse c front.reverse
  | delete front c rest => simpa using Edit.delete rest.reverse c front.reverse
  | replace front c d rest => simpa using Edit.replace rest.reverse c d front.reverse

theorem Edits.cons {n : Nat} {cs ds : List Char} (h : Edits n cs ds) (c : Char) :
    Edits n (c :: cs) (c :: ds) := by
  induction h with
  | done cs => exact .done (c :: cs)
  | step hEdit _ ih => exact .step (hEdit.cons c) ih

theorem Edits.reverse {n : Nat} {cs ds : List Char} (h : Edits n cs ds) :
    Edits n cs.reverse ds.reverse := by
  induction h with
  | done cs => exact .done cs.reverse
  | step hEdit _ ih => exact .step hEdit.reverse ih

theorem edits_reverse_iff {n : Nat} {cs ds : List Char} :
    Edits n cs.reverse ds.reverse ↔ Edits n cs ds := by
  constructor
  · intro h
    simpa using h.reverse
  · exact Edits.reverse

/-- What is inserted can be deleted, and what is replaced can be replaced again. -/
theorem Edit.symm {cs ds : List Char} (h : Edit cs ds) : Edit ds cs := by
  cases h with
  | insert front c rest => exact .delete front c rest
  | delete front c rest => exact .insert front c rest
  | replace front c d rest => exact .replace front d c rest

theorem Edits.trans {m n : Nat} {cs ds es : List Char} (h : Edits m cs ds) (h' : Edits n ds es) :
    Edits (m + n) cs es := by
  induction h with
  | done cs =>
      rw [Nat.zero_add]
      exact h'
  | step hEdit _ ih =>
      rw [Nat.succ_add]
      exact .step hEdit (ih h')

/-- A script is undone from its end. -/
theorem Edits.symm {n : Nat} {cs ds : List Char} (h : Edits n cs ds) : Edits n ds cs := by
  induction h with
  | done cs => exact .done cs
  | @step n cs ds es hEdit _ ih => exact ih.trans (.step hEdit.symm (.done cs))

theorem edits_zero_iff {cs ds : List Char} : Edits 0 cs ds ↔ cs = ds := by
  constructor
  · rintro ⟨⟩
    rfl
  · rintro rfl
    exact .done cs

/-! ## The cost of the first characters -/

/-- What it costs to turn one text into another, if their first characters are dealt with first: the
first of one of them is put in or left out, or both are brought together. -/
def cost : List Char → List Char → Nat
  | [], ys => ys.length
  | xs, [] => xs.length
  | x :: xs, y :: ys =>
    min (min (cost xs (y :: ys) + 1) (cost (x :: xs) ys + 1))
      (cost xs ys + if x = y then 0 else 1)

@[simp] theorem cost_nil_left (ys : List Char) : cost [] ys = ys.length := by
  simp [cost]

@[simp] theorem cost_nil_right (xs : List Char) : cost xs [] = xs.length := by
  cases xs <;> simp [cost]

theorem cost_cons_cons (x y : Char) (xs ys : List Char) :
    cost (x :: xs) (y :: ys) =
      min (min (cost xs (y :: ys) + 1) (cost (x :: xs) ys + 1))
        (cost xs ys + if x = y then 0 else 1) := by
  rw [cost]

/-! ## A script of this cost -/

theorem edits_length_insert (ys : List Char) : Edits ys.length [] ys := by
  induction ys with
  | nil => exact .done []
  | cons y ys ih => exact .step (.insert [] y []) (ih.cons y)

theorem edits_length_delete (xs : List Char) : Edits xs.length xs [] := by
  induction xs with
  | nil => exact .done []
  | cons x xs ih => exact .step (.delete [] x xs) ih

/-- The three ways to deal with the first characters are three scripts. -/
theorem edits_cost (xs ys : List Char) : Edits (cost xs ys) xs ys := by
  fun_induction cost xs ys with
  | case1 ys => exact edits_length_insert ys
  | case2 xs _ => exact edits_length_delete xs
  | case3 x xs y ys ihDelete ihInsert ihBoth =>
      have hDelete : Edits (cost xs (y :: ys) + 1) (x :: xs) (y :: ys) :=
        .step (.delete [] x xs) ihDelete
      have hInsert : Edits (cost (x :: xs) ys + 1) (x :: xs) (y :: ys) :=
        .step (.insert [] y (x :: xs)) (ihInsert.cons y)
      have hBoth : Edits (cost xs ys + if x = y then 0 else 1) (x :: xs) (y :: ys) := by
        by_cases hSame : x = y
        · rw [if_pos hSame, hSame]
          exact ihBoth.cons y
        · rw [if_neg hSame]
          exact .step (.replace [] x y xs) (ihBoth.cons y)
      rcases min_choice (min (cost xs (y :: ys) + 1) (cost (x :: xs) ys + 1))
        (cost xs ys + if x = y then 0 else 1) with hLeast | hLeast
      · rw [hLeast]
        rcases min_choice (cost xs (y :: ys) + 1) (cost (x :: xs) ys + 1) with hFirst | hFirst
        · rw [hFirst]
          exact hDelete
        · rw [hFirst]
          exact hInsert
      · rw [hLeast]
        exact hBoth

/-! ## No script below this cost -/

theorem cost_cons_right_le (xs : List Char) (y : Char) (ys : List Char) :
    cost xs (y :: ys) ≤ cost xs ys + 1 := by
  cases xs with
  | nil => simp
  | cons x xs =>
      rw [cost_cons_cons]
      omega

theorem cost_cons_left_le (x : Char) (xs ys : List Char) :
    cost (x :: xs) ys ≤ cost xs ys + 1 := by
  cases ys with
  | nil => simp
  | cons y ys =>
      rw [cost_cons_cons]
      omega

/-- A character that is inserted at the start can be left out again. -/
theorem cost_le_cost_cons (c : Char) (rest zs : List Char) :
    cost rest zs ≤ cost (c :: rest) zs + 1 := by
  induction zs with
  | nil =>
      simp only [cost_nil_right, List.length_cons]
      omega
  | cons z zs ih =>
      have hBehind := cost_cons_right_le rest z zs
      rw [cost_cons_cons]
      omega

/-- A character that is replaced at the start can be replaced again. -/
theorem cost_cons_le_cost_cons (c d : Char) (rest zs : List Char) :
    cost (c :: rest) zs ≤ cost (d :: rest) zs + 1 := by
  induction zs with
  | nil => simp
  | cons z zs ih =>
      rw [cost_cons_cons, cost_cons_cons]
      have hOne : (if c = z then 0 else 1) ≤ 1 := by split <;> omega
      omega

/-- What holds of two texts whatever they are turned into holds of them behind one more
character. -/
theorem cost_cons_le_of_forall {xs ys : List Char} (h : ∀ zs, cost xs zs ≤ cost ys zs + 1)
    (a : Char) (zs : List Char) : cost (a :: xs) zs ≤ cost (a :: ys) zs + 1 := by
  induction zs with
  | nil =>
      have hNone := h []
      simp only [cost_nil_right, List.length_cons] at hNone ⊢
      omega
  | cons z zs ih =>
      have hDelete := h (z :: zs)
      have hBoth := h zs
      rw [cost_cons_cons, cost_cons_cons]
      omega

theorem cost_append_le_of_forall {xs ys : List Char} (h : ∀ zs, cost xs zs ≤ cost ys zs + 1)
    (front zs : List Char) : cost (front ++ xs) zs ≤ cost (front ++ ys) zs + 1 := by
  induction front generalizing zs with
  | nil => exact h zs
  | cons a front ih => exact cost_cons_le_of_forall ih a zs

/-- One edit saves at most one. -/
theorem cost_le_of_edit {xs ys : List Char} (h : Edit xs ys) (zs : List Char) :
    cost xs zs ≤ cost ys zs + 1 := by
  cases h with
  | insert front c rest => exact cost_append_le_of_forall (cost_le_cost_cons c rest) front zs
  | delete front c rest => exact cost_append_le_of_forall (cost_cons_left_le c rest) front zs
  | replace front c d rest =>
      exact cost_append_le_of_forall (cost_cons_le_cost_cons c d rest) front zs

theorem cost_self (xs : List Char) : cost xs xs = 0 := by
  induction xs with
  | nil => simp
  | cons x xs ih =>
      rw [cost_cons_cons, if_pos rfl, ih]
      omega

theorem cost_le_of_edits {n : Nat} {xs ys : List Char} (h : Edits n xs ys) : cost xs ys ≤ n := by
  induction h with
  | done cs => rw [cost_self]
  | @step n cs ds es hEdit _ ih =>
      calc
        cost cs es ≤ cost ds es + 1 := cost_le_of_edit hEdit es
        _ ≤ n + 1 := Nat.succ_le_succ ih

/-- The cost is the least number of edits that turn the first text into the second. -/
theorem isLeast_cost (xs ys : List Char) : IsLeast {n | Edits n xs ys} (cost xs ys) := by
  refine ⟨edits_cost xs ys, ?_⟩
  intro n hEdits
  exact cost_le_of_edits hEdits

/-- From the end it costs as much as from the front. -/
theorem cost_reverse (xs ys : List Char) : cost xs.reverse ys.reverse = cost xs ys := by
  have hLeast := isLeast_cost xs.reverse ys.reverse
  simp only [edits_reverse_iff] at hLeast
  exact hLeast.unique (isLeast_cost xs ys)

/-! ## The table -/

/-- The entries of a row behind its first one, for a prefix in reverse and a part of the second text
of which so many characters, in reverse, stand in front. -/
def entries (taken seen : List Char) : List Char → List Nat
  | [] => []
  | y :: ys => cost taken (y :: seen) :: entries taken (y :: seen) ys

/-- The row for a prefix in reverse. -/
def row (ys taken : List Char) : List Nat :=
  taken.length :: entries taken [] ys

/-- An entry is made of the three next to it as a cost is of the three costs behind the first
characters. -/
theorem fillRow_entries (x : Char) (taken seen ys : List Char) :
    fillRow x ys (cost taken seen) (cost (x :: taken) seen) (entries taken seen ys) =
      entries (x :: taken) seen ys := by
  induction ys generalizing seen with
  | nil => rfl
  | cons y ys ih =>
      have hEntry : min (min (cost taken (y :: seen) + 1) (cost (x :: taken) seen + 1))
          (cost taken seen + if x = y then 0 else 1) = cost (x :: taken) (y :: seen) :=
        (cost_cons_cons x y taken seen).symm
      rw [entries, fillRow, entries, hEntry, ih (y :: seen)]

theorem nextRow_row (ys : List Char) (x : Char) (taken : List Char) :
    nextRow ys (row ys taken) x = row ys (x :: taken) := by
  have hFill := fillRow_entries x taken [] ys
  rw [cost_nil_right, cost_nil_right, List.length_cons] at hFill
  rw [row, nextRow, hFill, row, List.length_cons]

theorem entries_nil (seen ys : List Char) :
    entries [] seen ys = List.range' (seen.length + 1) ys.length := by
  induction ys generalizing seen with
  | nil => rfl
  | cons y ys ih =>
      rw [entries, ih, cost_nil_left, List.length_cons, List.length_cons, List.range'_succ]

theorem firstRow_eq (ys : List Char) : firstRow ys = row ys [] := by
  rw [row, entries_nil, firstRow, List.range_eq_range', List.range'_succ]
  rfl

/-- The rows follow one another as the prefixes do. -/
theorem foldl_nextRow (ys xs taken : List Char) :
    xs.foldl (nextRow ys) (row ys taken) = row ys (xs.reverse ++ taken) := by
  induction xs generalizing taken with
  | nil => rfl
  | cons x xs ih =>
      rw [List.foldl_cons, nextRow_row, ih, List.reverse_cons, List.append_assoc]
      rfl

theorem getLastD_entries (taken seen ys : List Char) :
    (entries taken seen ys).getLastD (cost taken seen) = cost taken (ys.reverse ++ seen) := by
  induction ys generalizing seen with
  | nil => rfl
  | cons y ys ih =>
      rw [entries, List.getLastD_cons, ih, List.reverse_cons, List.append_assoc]
      rfl

theorem distanceChars_eq_cost (xs ys : List Char) : distanceChars xs ys = cost xs ys := by
  have hLast := getLastD_entries xs.reverse [] ys
  rw [cost_nil_right, List.append_nil] at hLast
  rw [distanceChars, firstRow_eq, foldl_nextRow, List.append_nil, row, List.getLastD_cons, hLast,
    cost_reverse]

/-- The distance of two texts is the least number of edits that turn one into the other. -/
theorem isLeast_distance (a b : String) :
    IsLeast {n | Edits n a.toList b.toList} (distance a b) := by
  rw [distance, distanceChars_eq_cost]
  exact isLeast_cost a.toList b.toList

/-! ## The distance of texts -/

theorem distance_eq_zero_iff (a b : String) : distance a b = 0 ↔ a = b := by
  have hLeast := isLeast_distance a b
  constructor
  · intro hZero
    have hEdits : Edits (distance a b) a.toList b.toList := hLeast.1
    rw [hZero, edits_zero_iff] at hEdits
    exact String.toList_inj.1 hEdits
  · rintro rfl
    exact Nat.le_zero.1 (hLeast.2 (.done a.toList))

theorem distance_comm (a b : String) : distance a b = distance b a := by
  have hThere : distance a b ≤ distance b a :=
    (isLeast_distance a b).2 (isLeast_distance b a).1.symm
  have hBack : distance b a ≤ distance a b :=
    (isLeast_distance b a).2 (isLeast_distance a b).1.symm
  exact Nat.le_antisymm hThere hBack

/-- One script behind another turns the first text into the last. -/
theorem distance_triangle (a b c : String) : distance a c ≤ distance a b + distance b c :=
  (isLeast_distance a c).2 ((isLeast_distance a b).1.trans (isLeast_distance b c).1)

end EditDistance
end TableQuery
