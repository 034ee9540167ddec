import TableQuery.Proofs.EditDistance.Script

/-!
# Nearest — the name that is suggested

The options are gone through in order, with the nearest one so far in hand. What is in hand is
always the first of the nearest options seen (`describes_better` for one option, `describes_foldl`
for all of them), unless all of them are too far away; so this is what is suggested in the end
(`closest_nearest`).
-/

namespace TableQuery
namespace EditDistance

variable {target : String}

/-- The option is within the limit, nearer than all options in front of it, and not farther than any
option behind it. -/
def IsFirstNearest (target : String) (options : List String) (name : String) : Prop :=
  ∃ before after, options = before ++ name :: after ∧
    distance target name ≤ suggestionLimit ∧
    (∀ o ∈ before, distance target name < distance target o) ∧
    ∀ o ∈ after, distance target name ≤ distance target o

/-- What is in hand after some options: the first of the nearest ones with its distance, or nothing,
if all are beyond the limit. -/
def Describes (target : String) (options : List String) : Option (String × Nat) → Prop
  | none => ∀ o ∈ options, suggestionLimit < distance target o
  | some (name, d) => d = distance target name ∧ IsFirstNearest target options name

theorem IsFirstNearest.le_of_mem {options : List String} {name : String}
    (h : IsFirstNearest target options name) :
    ∀ o ∈ options, distance target name ≤ distance target o := by
  rcases h with ⟨before, after, rfl, -, hBefore, hAfter⟩
  intro o ho
  rcases List.mem_append.1 ho with ho | ho
  · exact Nat.le_of_lt (hBefore o ho)
  · rcases List.mem_cons.1 ho with rfl | ho
    · exact Nat.le_refl _
    · exact hAfter o ho

theorem IsFirstNearest.le_limit {options : List String} {name : String}
    (h : IsFirstNearest target options name) : distance target name ≤ suggestionLimit := by
  rcases h with ⟨_, _, -, hLimit, -, -⟩
  exact hLimit

/-- Only one option is the first of the nearest ones. -/
theorem IsFirstNearest.unique {options : List String} {name other : String}
    (h : IsFirstNearest target options name) (hOther : IsFirstNearest target options other) :
    name = other := by
  -- of two different ones, the one that stands behind would have to be nearer
  have hBehind {before between after : List String} {first second : String}
      (hAfter : ∀ o ∈ between ++ second :: after, distance target first ≤ distance target o)
      (hBefore : ∀ o ∈ before ++ first :: between, distance target second < distance target o) :
      False := by
    have hLe := hAfter second (by simp)
    have hLt := hBefore first (by simp)
    omega
  rcases h with ⟨before, after, hSplit, -, hBefore, hAfter⟩
  rcases hOther with ⟨before', after', hSplit', -, hBefore', hAfter'⟩
  rw [hSplit] at hSplit'
  rcases List.append_eq_append_iff.1 hSplit' with
    ⟨between, hFront, hBack⟩ | ⟨between, hFront, hBack⟩
  · cases between with
    | nil => exact (List.cons.inj hBack).1
    | cons o between =>
        rw [List.cons_append, List.cons.injEq] at hBack
        rcases hBack with ⟨rfl, rfl⟩
        subst hFront
        exact (hBehind hAfter hBefore').elim
  · cases between with
    | nil => exact (List.cons.inj hBack).1.symm
    | cons o between =>
        rw [List.cons_append, List.cons.injEq] at hBack
        rcases hBack with ⟨rfl, rfl⟩
        subst hFront
        exact (hBehind hAfter' hBefore).elim

/-- One more option takes the place of what is in hand only if it is nearer. -/
theorem describes_better {seen : List String} {best : Option (String × Nat)}
    (h : Describes target seen best) (option : String) :
    Describes target (seen ++ [option]) (better target best option) := by
  cases best with
  | none =>
      have hFar : ∀ o ∈ seen, suggestionLimit < distance target o := h
      rw [better]
      split
      · next hNear =>
        refine ⟨rfl, seen, [], rfl, hNear, fun o ho => ?_, by simp⟩
        exact Nat.lt_of_le_of_lt hNear (hFar o ho)
      · next hNear =>
        intro o ho
        rcases List.mem_append.1 ho with ho | ho
        · exact hFar o ho
        · rw [List.mem_singleton.1 ho]
          omega
  | some best =>
      rcases best with ⟨name, d⟩
      rcases h with ⟨rfl, hFirst⟩
      rw [better]
      split
      · next hNearer =>
        have hLimit := hFirst.le_limit
        refine ⟨rfl, seen, [], rfl, by omega, fun o ho => ?_, by simp⟩
        exact Nat.lt_of_lt_of_le hNearer (hFirst.le_of_mem o ho)
      · next hNearer =>
        rcases hFirst with ⟨before, after, rfl, hLimit, hBefore, hAfter⟩
        refine ⟨rfl, before, after ++ [option], by simp, hLimit, hBefore, fun o ho => ?_⟩
        rcases List.mem_append.1 ho with ho | ho
        · exact hAfter o ho
        · rw [List.mem_singleton.1 ho]
          omega

theorem describes_foldl {seen : List String} {best : Option (String × Nat)}
    (h : Describes target seen best) (options : List String) :
    Describes target (seen ++ options) (options.foldl (better target) best) := by
  induction options generalizing seen best with
  | nil => simpa using h
  | cons option options ih =>
      have hNext := ih (describes_better h option)
      rw [List.append_assoc] at hNext
      exact hNext

/-- What is suggested is the first of the nearest options, and nothing is if all of them are beyond
the limit. -/
theorem closest?_cases (target : String) (options : List String) :
    (closest? target options = none ∧ ∀ o ∈ options, suggestionLimit < distance target o) ∨
      ∃ name, closest? target options = some name ∧ IsFirstNearest target options name := by
  have hNothing : Describes target [] none := by simp [Describes]
  have hAll := describes_foldl hNothing options
  rw [List.nil_append] at hAll
  rw [closest?]
  cases hBest : options.foldl (better target) none with
  | none =>
      rw [hBest] at hAll
      exact .inl ⟨rfl, hAll⟩
  | some best =>
      rw [hBest] at hAll
      exact .inr ⟨best.1, rfl, hAll.2⟩

theorem closest?_eq_none_iff (target : String) (options : List String) :
    closest? target options = none ↔ ∀ o ∈ options, suggestionLimit < distance target o := by
  rcases closest?_cases target options with ⟨hNone, hFar⟩ | ⟨name, hSome, hFirst⟩
  · exact iff_of_true hNone hFar
  · refine iff_of_false (by simp [hSome]) fun hFar => ?_
    rcases hFirst with ⟨before, after, rfl, hLimit, -, -⟩
    have hBeyond := hFar name (by simp)
    omega

theorem closest?_eq_some_iff (target : String) (options : List String) (name : String) :
    closest? target options = some name ↔ IsFirstNearest target options name := by
  rcases closest?_cases target options with ⟨hNone, hFar⟩ | ⟨found, hSome, hFirst⟩
  · refine iff_of_false (by simp [hNone]) ?_
    rintro ⟨before, after, rfl, hLimit, -, -⟩
    have hBeyond := hFar name (by simp)
    omega
  · rw [hSome, Option.some.injEq]
    constructor
    · rintro rfl
      exact hFirst
    · intro hOther
      exact hFirst.unique hOther

/-- The target is nearer to itself than anything else is. -/
theorem closest?_of_mem {target : String} {options : List String} (h : target ∈ options) :
    closest? target options = some target := by
  have hZero : distance target target = 0 := (distance_eq_zero_iff target target).2 rfl
  rcases closest?_cases target options with ⟨-, hFar⟩ | ⟨name, hSome, hFirst⟩
  · have hBeyond := hFar target h
    omega
  · have hNearest := hFirst.le_of_mem target h
    rw [hZero, Nat.le_zero, distance_eq_zero_iff] at hNearest
    rw [hSome, hNearest]

/-- With the least number of edits as the distance: nothing is suggested exactly if all options are
farther away than three edits, and an option is suggested exactly if it is the first of the nearest
ones and no farther away than that. The target itself is suggested wherever it is an option. -/
theorem closest_nearest (target : String) (options : List String) :
    (∀ option : String,
      IsLeast {n | Edits n target.toList option.toList} (distance target option)) ∧
    (closest? target options = none ↔ ∀ o ∈ options, 3 < distance target o) ∧
    (∀ name, closest? target options = some name ↔
      ∃ before after, options = before ++ name :: after ∧ distance target name ≤ 3 ∧
        (∀ o ∈ before, distance target name < distance target o) ∧
        ∀ o ∈ after, distance target name ≤ distance target o) ∧
    (target ∈ options → closest? target options = some target) :=
  ⟨isLeast_distance target, closest?_eq_none_iff target options,
    closest?_eq_some_iff target options, closest?_of_mem⟩

/-- Of two options that are equally near, the first one is suggested. -/
example : closest? "tow" ["two", "toe", "to"] = some "toe" := by decide

end EditDistance
end TableQuery
