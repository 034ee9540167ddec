import Mathlib.Data.Finset.Card
import Mathlib.Data.Finset.Range
import TableQuery.Pattern.Basic

/-!
# Matches — what a pattern matches

A pattern matches a part of a text, between what stands before it and what stands behind it: the two
anchors look at these, a sequence divides the part, and a repetition divides it into as many parts
as its bounds allow (`Pattern.Matches`). Matching goes over positions instead, from those where a
match may start to those where it may end, and leaves an unbounded repetition once no new position
turns up. Both say the same (`matchesIn_iff`).
-/

namespace TableQuery
namespace Pattern

/-! ## What a pattern means -/

/-- The part of a text that stands between two others. -/
abbrev Part : Type := List Char → List Char → List Char → Prop

/-- The part is divided into two. -/
def InTurn (P Q : Part) : Part := fun before inside behind =>
  ∃ first second, inside = first ++ second ∧ P before first (second ++ behind) ∧
    Q (before ++ first) second behind

/-- The part is divided into so many. -/
def InARow (P : Part) : Nat → Part
  | 0 => fun _ inside _ => inside = []
  | n + 1 => InTurn P (InARow P n)

/-- The pattern matches the part. A repetition matches as often as it has to, and then as often as
its limit leaves. -/
def Matches : Pattern → Part
  | .empty => fun _ inside _ => inside = []
  | .one fold test => fun _ inside _ => ∃ c, inside = [c] ∧ test.passes fold c = true
  | .start => fun before inside _ => before = [] ∧ inside = []
  | .finish => fun _ inside behind => inside = [] ∧ behind = []
  | .seq p q => InTurn p.Matches q.Matches
  | .alt p q => fun before inside behind =>
      p.Matches before inside behind ∨ q.Matches before inside behind
  | .group p => p.Matches
  | .times p least most => fun before inside behind =>
      ∃ more, (∀ limit ∈ most, more ≤ limit - least) ∧
        InARow p.Matches (least + more) before inside behind

/-! ## Steps over positions -/

section Steps

variable {step : List Nat → List Nat} {R : Nat → Nat → Prop} {last : Nat}

/-- One position leads to another in so many steps. -/
def Iterated (R : Nat → Nat → Prop) : Nat → Nat → Nat → Prop
  | 0, i, j => i = j
  | n + 1, i, j => ∃ k, R i k ∧ Iterated R n k j

theorem iterated_add (m n : Nat) {i j : Nat} :
    Iterated R (m + n) i j ↔ ∃ k, Iterated R m i k ∧ Iterated R n k j := by
  induction m generalizing i with
  | zero => simp [Iterated]
  | succ m ih =>
      rw [Nat.add_right_comm]
      constructor
      · rintro ⟨next, hStep, hRun⟩
        rcases ih.1 hRun with ⟨k, hFirst, hRest⟩
        exact ⟨k, ⟨next, hStep, hFirst⟩, hRest⟩
      · rintro ⟨k, ⟨next, hStep, hFirst⟩, hRest⟩
        exact ⟨next, hStep, ih.2 ⟨k, hFirst, hRest⟩⟩

/-- No position lies behind the last one. -/
def Within (last : Nat) (xs : List Nat) : Prop :=
  ∀ i ∈ xs, i ≤ last

/-- A step goes from positions to all those that they lead to. -/
structure Follows (step : List Nat → List Nat) (R : Nat → Nat → Prop) (last : Nat) : Prop where
  mem_iff : ∀ {xs}, Within last xs → ∀ j, j ∈ step xs ↔ ∃ i ∈ xs, R i j
  le_last : ∀ {i j}, R i j → j ≤ last

theorem mem_join {xs ys : List Nat} {j : Nat} : j ∈ join xs ys ↔ j ∈ xs ∨ j ∈ ys := by
  rw [join, List.mem_append, List.mem_filter]
  by_cases hj : j ∈ xs <;> simp [hj]

/-- Joining adds nothing exactly if all has been there. -/
theorem length_join_eq_iff {xs ys : List Nat} :
    (join xs ys).length = xs.length ↔ ∀ j ∈ ys, j ∈ xs := by
  simp [join, List.filter_eq_nil_iff]

theorem Follows.within_step (h : Follows step R last) {xs : List Nat} (hxs : Within last xs) :
    Within last (step xs) := by
  intro j hj
  rcases (h.mem_iff hxs j).1 hj with ⟨i, -, hStep⟩
  exact h.le_last hStep

theorem Follows.within_join (h : Follows step R last) {xs : List Nat} (hxs : Within last xs) :
    Within last (join xs (step xs)) := by
  intro j hj
  rcases mem_join.1 hj with hOld | hNew
  · exact hxs j hOld
  · exact h.within_step hxs j hNew

theorem Follows.repeated (h : Follows step R last) (n : Nat) {xs : List Nat}
    (hxs : Within last xs) :
    Within last (Pattern.repeated step n xs) ∧
      ∀ j, j ∈ Pattern.repeated step n xs ↔ ∃ i ∈ xs, Iterated R n i j := by
  induction n generalizing xs with
  | zero =>
      refine ⟨hxs, fun j => ?_⟩
      simp [Pattern.repeated, Iterated]
  | succ n ih =>
      rcases ih (h.within_step hxs) with ⟨hWithin, hMem⟩
      refine ⟨hWithin, fun j => ?_⟩
      rw [Pattern.repeated, hMem]
      constructor
      · rintro ⟨k, hk, hRest⟩
        rcases (h.mem_iff hxs k).1 hk with ⟨i, hi, hStep⟩
        exact ⟨i, hi, k, hStep, hRest⟩
      · rintro ⟨i, hi, k, hStep, hRest⟩
        exact ⟨k, (h.mem_iff hxs k).2 ⟨i, hi, hStep⟩, hRest⟩

/-- Positions that lead to none but themselves are not left. -/
theorem mem_of_iterated {xs : List Nat} (hClosed : ∀ i ∈ xs, ∀ j, R i j → j ∈ xs) {n i j : Nat}
    (hi : i ∈ xs) (h : Iterated R n i j) : j ∈ xs := by
  induction n generalizing i with
  | zero =>
      obtain rfl : i = j := h
      exact hi
  | succ n ih =>
      rcases h with ⟨k, hStep, hRest⟩
      exact ih (hClosed i hi k hStep) hRest

theorem Follows.closed_of_length_eq (h : Follows step R last) {xs : List Nat}
    (hxs : Within last xs) (hLength : (join xs (step xs)).length = xs.length) :
    ∀ i ∈ xs, ∀ j, R i j → j ∈ xs := by
  intro i hi j hStep
  exact length_join_eq_iff.1 hLength j ((h.mem_iff hxs j).2 ⟨i, hi, hStep⟩)

/-- Stepping up to a number of times reaches what can be reached in no more steps. -/
theorem Follows.mem_upTo_iff (h : Follows step R last) (n : Nat) {xs : List Nat}
    (hxs : Within last xs) (j : Nat) :
    j ∈ upTo step n xs ↔ ∃ k ≤ n, ∃ i ∈ xs, Iterated R k i j := by
  induction n generalizing xs with
  | zero => simp [upTo, Iterated]
  | succ n ih =>
      rw [upTo]
      split
      · next hLength =>
        -- nothing new has turned up, so further steps lead nowhere else
        have hClosed := h.closed_of_length_eq hxs hLength
        constructor
        · intro hj
          exact ⟨0, Nat.zero_le _, j, hj, rfl⟩
        · rintro ⟨k, -, i, hi, hRun⟩
          exact mem_of_iterated hClosed hi hRun
      · rw [ih (h.within_join hxs)]
        constructor
        · rintro ⟨k, hk, i, hi, hRun⟩
          rcases mem_join.1 hi with hOld | hNew
          · exact ⟨k, Nat.le_succ_of_le hk, i, hOld, hRun⟩
          · rcases (h.mem_iff hxs i).1 hNew with ⟨first, hFirst, hStep⟩
            exact ⟨k + 1, Nat.succ_le_succ hk, first, hFirst, i, hStep, hRun⟩
        · rintro ⟨k, hk, i, hi, hRun⟩
          cases k with
          | zero => exact ⟨0, Nat.zero_le n, i, mem_join.2 (.inl hi), hRun⟩
          | succ k =>
              rcases hRun with ⟨next, hStep, hRest⟩
              have hNext : next ∈ step xs := (h.mem_iff hxs next).2 ⟨i, hi, hStep⟩
              exact ⟨k, Nat.le_of_succ_le_succ hk, next, mem_join.2 (.inr hNext), hRest⟩

/-- The positions that have not turned up yet. -/
def unseen (last : Nat) (xs : List Nat) : Finset Nat :=
  Finset.range (last + 1) \ xs.toFinset

theorem mem_unseen {xs : List Nat} {j : Nat} : j ∈ unseen last xs ↔ j ≤ last ∧ j ∉ xs := by
  simp [unseen, Nat.lt_succ_iff]

/-- A new position is one less to turn up. -/
theorem card_unseen_join_lt {xs ys : List Nat} {j : Nat} (hj : j ∈ ys) (hNew : j ∉ xs)
    (hLast : j ≤ last) : (unseen last (join xs ys)).card < (unseen last xs).card := by
  apply Finset.card_lt_card
  refine (Finset.ssubset_iff_of_subset ?_).2 ⟨j, mem_unseen.2 ⟨hLast, hNew⟩, ?_⟩
  · intro i hi
    rcases mem_unseen.1 hi with ⟨hLast, hUnseen⟩
    exact mem_unseen.2 ⟨hLast, fun hOld => hUnseen (mem_join.2 (.inl hOld))⟩
  · intro hUnseen
    exact (mem_unseen.1 hUnseen).2 (mem_join.2 (.inr hj))

/-- As many steps as there are positions left leave none that can be reached. -/
theorem Follows.closed_upTo (h : Follows step R last) (n : Nat) {xs : List Nat}
    (hxs : Within last xs) (hRoom : (unseen last xs).card ≤ n) :
    ∀ i ∈ upTo step n xs, ∀ j, R i j → j ∈ upTo step n xs := by
  induction n generalizing xs with
  | zero =>
      intro i _ j hStep
      have hNone : unseen last xs = ∅ := Finset.card_eq_zero.1 (Nat.le_zero.1 hRoom)
      by_contra hj
      have hUnseen : j ∈ unseen last xs := mem_unseen.2 ⟨h.le_last hStep, hj⟩
      rw [hNone] at hUnseen
      cases hUnseen
  | succ n ih =>
      rw [upTo]
      split
      · next hLength => exact h.closed_of_length_eq hxs hLength
      · next hLength =>
        rw [length_join_eq_iff] at hLength
        push Not at hLength
        rcases hLength with ⟨j, hj, hNew⟩
        have hFewer := card_unseen_join_lt hj hNew (h.within_step hxs j hj)
        exact ih (h.within_join hxs) (Nat.le_of_lt_succ (Nat.lt_of_lt_of_le hFewer hRoom))

/-- So nothing is lost by stopping there. -/
theorem Follows.mem_upTo_all_iff (h : Follows step R last) {n : Nat} (hn : last < n)
    {xs : List Nat} (hxs : Within last xs) (j : Nat) :
    j ∈ upTo step n xs ↔ ∃ k, ∃ i ∈ xs, Iterated R k i j := by
  have hRoom : (unseen last xs).card ≤ n :=
    calc
      (unseen last xs).card ≤ (Finset.range (last + 1)).card :=
        Finset.card_le_card Finset.sdiff_subset
      _ = last + 1 := Finset.card_range _
      _ ≤ n := hn
  constructor
  · intro hj
    rcases (h.mem_upTo_iff n hxs j).1 hj with ⟨k, -, hRun⟩
    exact ⟨k, hRun⟩
  · rintro ⟨k, i, hi, hRun⟩
    have hStart : i ∈ upTo step n xs :=
      (h.mem_upTo_iff n hxs i).2 ⟨0, Nat.zero_le n, i, hi, rfl⟩
    exact mem_of_iterated (h.closed_upTo n hxs hRoom) hStart hRun

end Steps

/-! ## Positions in a text -/

section Positions

variable {cs : List Char} {P Q : Part} {i j : Nat}

/-- A part of the text starts at one position and ends at the other. -/
def At (cs : List Char) (P : Part) (i j : Nat) : Prop :=
  ∃ before inside behind, cs = before ++ (inside ++ behind) ∧ i = before.length ∧
    j = before.length + inside.length ∧ P before inside behind

theorem At.le_length (h : At cs P i j) : i ≤ cs.length ∧ j ≤ cs.length := by
  rcases h with ⟨before, inside, behind, rfl, rfl, rfl, -⟩
  simp only [List.length_append]
  omega

theorem at_nothing_iff :
    At cs (fun _ inside _ => inside = []) i j ↔ i ≤ cs.length ∧ i = j := by
  constructor
  · intro h
    refine ⟨h.le_length.1, ?_⟩
    rcases h with ⟨before, _, behind, -, rfl, rfl, rfl⟩
    rfl
  · rintro ⟨hi, rfl⟩
    refine ⟨cs.take i, [], cs.drop i, ?_, ?_, ?_, rfl⟩
    · rw [List.nil_append, List.take_append_drop]
    · rw [List.length_take_of_le hi]
    · rw [List.length_take_of_le hi, List.length_nil, Nat.add_zero]

theorem at_single_iff {p : Char → Bool} :
    At cs (fun _ inside _ => ∃ c, inside = [c] ∧ p c = true) i j ↔
      ∃ c, cs[i]? = some c ∧ p c = true ∧ j = i + 1 := by
  constructor
  · rintro ⟨before, _, behind, rfl, rfl, rfl, c, rfl, hc⟩
    exact ⟨c, by simp, hc, rfl⟩
  · rintro ⟨c, hAt, hc, rfl⟩
    rcases List.getElem?_eq_some_iff.1 hAt with ⟨hi, rfl⟩
    refine ⟨cs.take i, [cs[i]], cs.drop (i + 1), ?_, ?_, ?_, cs[i], rfl, hc⟩
    · rw [List.singleton_append, ← List.drop_eq_getElem_cons hi, List.take_append_drop]
    · rw [List.length_take_of_le (Nat.le_of_lt hi)]
    · rw [List.length_take_of_le (Nat.le_of_lt hi), List.length_singleton]

/-- Where the first part ends, the second one starts. -/
theorem at_inTurn_iff : At cs (InTurn P Q) i j ↔ ∃ k, At cs P i k ∧ At cs Q k j := by
  constructor
  · rintro ⟨before, _, behind, hText, rfl, rfl, first, second, rfl, hFirst, hSecond⟩
    refine ⟨before.length + first.length, ?_, ?_⟩
    · exact ⟨before, first, second ++ behind, by rw [hText, List.append_assoc], rfl, rfl, hFirst⟩
    · refine ⟨before ++ first, second, behind, ?_, ?_, ?_, hSecond⟩
      · rw [hText, List.append_assoc, List.append_assoc]
      · rw [List.length_append]
      · rw [List.length_append, List.length_append, Nat.add_assoc]
  · rintro ⟨k, ⟨before, first, rest, hText, rfl, rfl, hFirst⟩,
      ⟨before', second, behind, hText', hLength, rfl, hSecond⟩⟩
    -- both parts are cut from the same text, so one ends where the other starts
    have hSame : (before ++ first) ++ rest = before' ++ (second ++ behind) := by
      rw [List.append_assoc, ← hText, hText']
    rcases List.append_inj hSame (by rw [List.length_append, hLength]) with ⟨rfl, rfl⟩
    refine ⟨before, first ++ second, behind, ?_, rfl, ?_, first, second, rfl, hFirst, hSecond⟩
    · rw [hText, List.append_assoc]
    · rw [List.length_append, List.length_append, Nat.add_assoc]

theorem at_or_iff :
    At cs (fun before inside behind => P before inside behind ∨ Q before inside behind) i j ↔
      At cs P i j ∨ At cs Q i j := by
  simp only [At, and_or_left, exists_or]

theorem at_exists_iff {allowed : Nat → Prop} {Ps : Nat → Part} :
    At cs (fun before inside behind => ∃ n, allowed n ∧ Ps n before inside behind) i j ↔
      ∃ n, allowed n ∧ At cs (Ps n) i j := by
  constructor
  · rintro ⟨before, inside, behind, hText, hi, hj, n, hn, hPart⟩
    exact ⟨n, hn, before, inside, behind, hText, hi, hj, hPart⟩
  · rintro ⟨n, hn, before, inside, behind, hText, hi, hj, hPart⟩
    exact ⟨before, inside, behind, hText, hi, hj, n, hn, hPart⟩

theorem at_inARow_iff (n : Nat) :
    At cs (InARow P n) i j ↔ i ≤ cs.length ∧ Iterated (At cs P) n i j := by
  induction n generalizing i with
  | zero => exact at_nothing_iff
  | succ n ih =>
      rw [InARow, at_inTurn_iff]
      constructor
      · rintro ⟨k, hFirst, hRest⟩
        exact ⟨hFirst.le_length.1, k, hFirst, (ih.1 hRest).2⟩
      · rintro ⟨-, k, hFirst, hRest⟩
        exact ⟨k, hFirst, ih.2 ⟨hFirst.le_length.2, hRest⟩⟩

end Positions

/-! ## The matcher -/

theorem follows_of_mem_iff {text : Array Char} {step : List Nat → List Nat} {P : Part}
    (h : ∀ {xs}, Within text.size xs → ∀ j, j ∈ step xs ↔ ∃ i ∈ xs, At text.toList P i j) :
    Follows step (At text.toList P) text.size where
  mem_iff := h
  le_last hAt := hAt.le_length.2

/-- Matching goes from positions to the ends of the parts that start there and match. -/
theorem follows_advance (text : Array Char) (p : Pattern) :
    Follows (advance text p) (At text.toList p.Matches) text.size := by
  induction p with
  | empty =>
      refine follows_of_mem_iff fun {xs} hxs j => ?_
      simp only [advance, Matches, at_nothing_iff]
      constructor
      · intro hj
        exact ⟨j, hj, hxs j hj, rfl⟩
      · rintro ⟨i, hi, -, rfl⟩
        exact hi
  | one fold test =>
      refine follows_of_mem_iff fun {xs} hxs j => ?_
      simp only [advance, Matches, at_single_iff, List.mem_filterMap, Option.map_eq_some_iff,
        Option.filter_eq_some_iff, Array.getElem?_toList]
      constructor
      · rintro ⟨i, hi, c, ⟨hAt, hPasses⟩, rfl⟩
        exact ⟨i, hi, c, hAt, hPasses, rfl⟩
      · rintro ⟨i, hi, c, hAt, hPasses, rfl⟩
        exact ⟨i, hi, c, ⟨hAt, hPasses⟩, rfl⟩
  | start =>
      refine follows_of_mem_iff fun {xs} hxs j => ?_
      rw [advance, List.mem_filter, beq_iff_eq]
      constructor
      · rintro ⟨hj, rfl⟩
        exact ⟨0, hj, [], [], text.toList, rfl, rfl, rfl, rfl, rfl⟩
      · rintro ⟨i, hi, before, _, behind, -, rfl, rfl, rfl, rfl⟩
        exact ⟨hi, rfl⟩
  | finish =>
      refine follows_of_mem_iff fun {xs} hxs j => ?_
      rw [advance, List.mem_filter, beq_iff_eq]
      constructor
      · rintro ⟨hj, rfl⟩
        exact ⟨text.size, hj, text.toList, [], [], by simp, by simp, by simp, rfl, rfl⟩
      · rintro ⟨i, hi, before, _, _, hText, rfl, rfl, rfl, rfl⟩
        refine ⟨hi, ?_⟩
        simpa using (congrArg List.length hText).symm
  | seq p q ihp ihq =>
      refine follows_of_mem_iff fun {xs} hxs j => ?_
      rw [advance, ihq.mem_iff (ihp.within_step hxs)]
      simp only [ihp.mem_iff hxs, Matches, at_inTurn_iff]
      constructor
      · rintro ⟨k, ⟨i, hi, hFirst⟩, hSecond⟩
        exact ⟨i, hi, k, hFirst, hSecond⟩
      · rintro ⟨i, hi, k, hFirst, hSecond⟩
        exact ⟨k, ⟨i, hi, hFirst⟩, hSecond⟩
  | alt p q ihp ihq =>
      refine follows_of_mem_iff fun {xs} hxs j => ?_
      rw [advance, mem_join, ihp.mem_iff hxs, ihq.mem_iff hxs, ← exists_or]
      simp only [← and_or_left, Matches, at_or_iff]
  | group p ih => exact ih
  | times p least most ih =>
      -- the steps that have to be made come first, and the further ones from where these lead
      refine follows_of_mem_iff fun {xs} hxs j => ?_
      rcases ih.repeated least hxs with ⟨hWithin, hLeast⟩
      have hMore (k : Nat) : (∃ i ∈ repeated (advance text p) least xs,
          Iterated (At text.toList p.Matches) k i j) ↔
            ∃ i ∈ xs, At text.toList (InARow p.Matches (least + k)) i j := by
        simp only [hLeast, at_inARow_iff, iterated_add]
        constructor
        · rintro ⟨k, ⟨i, hi, hFirst⟩, hRest⟩
          exact ⟨i, hi, hxs i hi, k, hFirst, hRest⟩
        · rintro ⟨i, hi, -, k, hFirst, hRest⟩
          exact ⟨k, ⟨i, hi, hFirst⟩, hRest⟩
      have hTimes : (∃ i ∈ xs, At text.toList (Matches (.times p least most)) i j) ↔
          ∃ k, (∀ limit ∈ most, k ≤ limit - least) ∧
            ∃ i ∈ xs, At text.toList (InARow p.Matches (least + k)) i j := by
        simp only [Matches, at_exists_iff]
        constructor
        · rintro ⟨i, hi, k, hk, hAt⟩
          exact ⟨k, hk, i, hi, hAt⟩
        · rintro ⟨k, hk, i, hi, hAt⟩
          exact ⟨i, hi, k, hk, hAt⟩
      rw [hTimes]
      cases most with
      | none =>
          rw [advance, ih.mem_upTo_all_iff (Nat.lt_succ_self _) hWithin]
          simp [hMore]
      | some limit =>
          rw [advance, ih.mem_upTo_iff _ hWithin]
          simp [hMore]

/-- A text has a match exactly if some part of it matches, between what stands before it and what
stands behind it. -/
theorem matchesIn_iff {p : Pattern} {text : String} :
    p.matchesIn text = true ↔ ∃ before inside behind,
      text.toList = before ++ (inside ++ behind) ∧ p.Matches before inside behind := by
  have hStarts : Within text.toList.toArray.size (List.range (text.toList.toArray.size + 1)) := by
    intro i hi
    exact Nat.le_of_lt_succ (List.mem_range.1 hi)
  have hEnds := (follows_advance text.toList.toArray p).mem_iff hStarts
  have hSome : p.matchesIn text = true ↔
      ∃ j, j ∈ p.advance text.toList.toArray (List.range (text.toList.toArray.size + 1)) := by
    rw [matchesIn, Bool.not_eq_true', ← Bool.not_eq_true, List.isEmpty_iff,
      List.eq_nil_iff_forall_not_mem]
    simp
  rw [hSome]
  constructor
  · rintro ⟨j, hj⟩
    rcases (hEnds j).1 hj with ⟨i, -, before, inside, behind, hText, -, -, hMatch⟩
    exact ⟨before, inside, behind, hText, hMatch⟩
  · rintro ⟨before, inside, behind, hText, hMatch⟩
    refine ⟨before.length + inside.length, (hEnds _).2 ⟨before.length, ?_, ?_⟩⟩
    · rw [List.mem_range, List.size_toArray, hText]
      simp only [List.length_append]
      omega
    · exact ⟨before, inside, behind, hText, rfl, rfl, hMatch⟩

/-! ## Patterns that occur often -/

section Common

variable {before inside behind : List Char}

theorem matches_seq_empty_iff {p : Pattern} :
    (seq .empty p).Matches before inside behind ↔ p.Matches before inside behind := by
  constructor
  · rintro ⟨_, _, rfl, rfl, h⟩
    rwa [List.append_nil] at h
  · intro h
    exact ⟨[], inside, rfl, rfl, by rwa [List.append_nil]⟩

theorem inARow_one_iff {P : Part} : InARow P 1 before inside behind ↔ P before inside behind := by
  constructor
  · rintro ⟨first, _, rfl, h, rfl⟩
    rwa [List.append_nil]
  · intro h
    exact ⟨inside, [], (List.append_nil inside).symm, h, rfl⟩

theorem matches_optional_iff {p : Pattern} :
    (times p 0 (some 1)).Matches before inside behind ↔
      inside = [] ∨ p.Matches before inside behind := by
  constructor
  · rintro ⟨more, hMost, hRow⟩
    rcases Nat.le_one_iff_eq_zero_or_eq_one.1 (hMost 1 rfl) with rfl | rfl
    · exact .inl hRow
    · exact .inr (inARow_one_iff.1 hRow)
  · rintro (hEmpty | h)
    · exact ⟨0, by simp, hEmpty⟩
    · exact ⟨1, by simp, inARow_one_iff.2 h⟩

theorem matches_sign_iff {sign : Char} :
    (one false (.literal sign)).Matches before inside behind ↔ inside = [sign] := by
  simp [Matches, CharTest.passes]

/-- One character after the other, so many of them. -/
theorem inARow_chars_iff {test : CharTest} (n : Nat) :
    InARow (Matches (.one false test)) n before inside behind ↔
      inside.length = n ∧ ∀ c ∈ inside, test.passes false c = true := by
  induction n generalizing before inside with
  | zero =>
      constructor
      · rintro rfl
        exact ⟨rfl, List.forall_mem_nil _⟩
      · rintro ⟨hLength, -⟩
        exact List.length_eq_zero_iff.1 hLength
  | succ n ih =>
      constructor
      · rintro ⟨_, rest, rfl, ⟨c, rfl, hc⟩, hRest⟩
        rcases ih.1 hRest with ⟨rfl, hAll⟩
        exact ⟨rfl, List.forall_mem_cons.2 ⟨hc, hAll⟩⟩
      · rintro ⟨hLength, hAll⟩
        cases inside with
        | nil => cases hLength
        | cons c rest =>
            rcases List.forall_mem_cons.1 hAll with ⟨hc, hAll⟩
            exact ⟨[c], rest, rfl, ⟨c, rfl, hc⟩, ih.2 ⟨Nat.succ.inj hLength, hAll⟩⟩

theorem matches_many_iff {test : CharTest} :
    (times (.one false test) 1 none).Matches before inside behind ↔
      inside ≠ [] ∧ ∀ c ∈ inside, test.passes false c = true := by
  constructor
  · rintro ⟨more, -, hRow⟩
    rcases (inARow_chars_iff (1 + more)).1 hRow with ⟨hLength, hAll⟩
    refine ⟨List.ne_nil_of_length_pos ?_, hAll⟩
    omega
  · rintro ⟨hSome, hAll⟩
    have hLength := List.length_pos_of_ne_nil hSome
    refine ⟨inside.length - 1, by simp, (inARow_chars_iff _).2 ⟨?_, hAll⟩⟩
    omega

end Common

end Pattern
end TableQuery
