import Mathlib.Data.List.Forall2

/-!
# Outcome — what a computation with a result has done

Errors end a computation, so a result says that every step before it had one.
-/

namespace TableQuery

variable {ε α β γ : Type}

theorem of_map_ok {f : α → β} {x : Except ε α} {y : β} (h : x.map f = .ok y) :
    ∃ a, x = .ok a ∧ f a = y := by
  cases x with
  | error e => simp [Except.map] at h
  | ok a => exact ⟨a, rfl, by simpa [Except.map] using h⟩

theorem of_bind_ok {f : α → Except ε β} {x : Except ε α} {y : β} (h : x >>= f = .ok y) :
    ∃ a, x = .ok a ∧ f a = .ok y := by
  cases x with
  | error e => cases h
  | ok a => exact ⟨a, rfl, h⟩

theorem of_mapError_ok {ε' : Type} {f : ε → ε'} {x : Except ε α} {a : α}
    (h : x.mapError f = .ok a) : x = .ok a := by
  cases x with
  | error e => cases h
  | ok b =>
      cases h
      rfl

theorem mapM_congr {f g : α → Except ε β} {xs : List α} (h : ∀ x ∈ xs, f x = g x) :
    xs.mapM f = xs.mapM g := by
  induction xs with
  | nil => rfl
  | cons x xs ih =>
      rw [List.mapM_cons, List.mapM_cons, h x (by simp),
        ih fun x' hx' => h x' (List.mem_cons_of_mem _ hx')]

/-- A list whose elements all have results, in order. -/
theorem forall₂_of_mapM {f : α → Except ε β} {xs : List α} {ys : List β}
    (h : xs.mapM f = .ok ys) : List.Forall₂ (fun x y => f x = .ok y) xs ys := by
  induction xs generalizing ys with
  | nil =>
      cases h
      exact .nil
  | cons x xs ih =>
      rw [List.mapM_cons] at h
      cases hHead : f x with
      | error e => simp [hHead, bind, Except.bind] at h
      | ok y =>
          -- the rest runs only after the head has a result
          cases hTail : xs.mapM f with
          | error e => simp [hHead, hTail, bind, Except.bind] at h
          | ok rest =>
              have hys : y :: rest = ys := by
                simpa [hHead, hTail, bind, Except.bind, pure, Except.pure] using h
              rw [← hys]
              exact .cons hHead (ih hTail)

/-- What holds of each result for its element holds of the list of results. -/
theorem forall₂_map_of_mapM {f : α → Except ε β} {g : α → γ} {P : β → γ → Prop} {xs : List α}
    {ys : List β} (h : xs.mapM f = .ok ys) (hP : ∀ x ∈ xs, ∀ y, f x = .ok y → P y (g x)) :
    List.Forall₂ P ys (xs.map g) := by
  -- the two lists are walked together, so the run itself is no longer needed
  have hAll := forall₂_of_mapM h
  clear h
  induction hAll with
  | nil => exact .nil
  | cons hHead _ ih =>
      exact .cons (hP _ (by simp) _ hHead) (ih fun x hx => hP x (List.mem_cons_of_mem _ hx))

/-- Each result is that of some element. -/
theorem forall_mem_of_mapM {f : α → Except ε β} {P : β → Prop} {xs : List α} {ys : List β}
    (h : xs.mapM f = .ok ys) (hP : ∀ x ∈ xs, ∀ y, f x = .ok y → P y) : ∀ y ∈ ys, P y := by
  have hAll := forall₂_of_mapM h
  clear h
  induction hAll with
  | nil => simp
  | cons hHead _ ih =>
      exact List.forall_mem_cons.2
        ⟨hP _ (by simp) _ hHead, ih fun x hx => hP x (List.mem_cons_of_mem _ hx)⟩

theorem exists_of_mem_forall₂ {R : α → β → Prop} {xs : List α} {ys : List β}
    (h : List.Forall₂ R xs ys) {x : α} (hx : x ∈ xs) : ∃ y ∈ ys, R x y := by
  induction h with
  | nil => cases hx
  | cons hHead _ ih =>
      rcases List.mem_cons.1 hx with rfl | hx
      · exact ⟨_, by simp, hHead⟩
      · rcases ih hx with ⟨y, hy, hR⟩
        exact ⟨y, List.mem_cons_of_mem _ hy, hR⟩

theorem eq_singleton_of_forall₂ {R : α → β → Prop} {x : α} {ys : List β}
    (h : List.Forall₂ R [x] ys) : ∃ y, ys = [y] ∧ R x y := by
  rcases List.forall₂_cons_left_iff.1 h with ⟨y, rest, hR, hRest, rfl⟩
  rw [List.forall₂_nil_left_iff] at hRest
  exact ⟨y, by rw [hRest], hR⟩

theorem exists_of_mapM {f : α → Except ε β} {xs : List α} {ys : List β}
    (h : xs.mapM f = .ok ys) : ∀ x ∈ xs, ∃ y, f x = .ok y := by
  intro x hx
  rcases exists_of_mem_forall₂ (forall₂_of_mapM h) hx with ⟨y, -, hy⟩
  exact ⟨y, hy⟩

/-- Where every element has a result, the list has one. -/
theorem exists_mapM {f : α → Except ε β} {xs : List α} (h : ∀ x ∈ xs, ∃ y, f x = .ok y) :
    ∃ ys, xs.mapM f = .ok ys := by
  induction xs with
  | nil => exact ⟨[], rfl⟩
  | cons x xs ih =>
      rcases h x (by simp) with ⟨y, hy⟩
      rcases ih fun x hx => h x (List.mem_cons_of_mem _ hx) with ⟨ys, hys⟩
      refine ⟨y :: ys, ?_⟩
      rw [List.mapM_cons, hy, hys]
      rfl

theorem exists_mapM_iff {f : α → Except ε β} {xs : List α} :
    (∃ ys, xs.mapM f = .ok ys) ↔ ∀ x ∈ xs, ∃ y, f x = .ok y := by
  refine ⟨?_, exists_mapM⟩
  rintro ⟨ys, hys⟩
  exact exists_of_mapM hys

theorem map_ok_of_ok {f : α → β} {x : Except ε α} (h : ∃ a, x = .ok a) :
    ∃ y, x.map f = .ok y := by
  rcases h with ⟨a, rfl⟩
  exact ⟨f a, rfl⟩

theorem exists_map_ok_iff {f : α → β} {x : Except ε α} :
    (∃ y, x.map f = .ok y) ↔ ∃ a, x = .ok a := by
  refine ⟨?_, map_ok_of_ok⟩
  rintro ⟨y, hy⟩
  rcases of_map_ok hy with ⟨a, ha, -⟩
  exact ⟨a, ha⟩

end TableQuery
