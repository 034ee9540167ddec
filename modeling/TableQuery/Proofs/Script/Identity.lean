import TableQuery.Proofs.Relation.Nodes
import TableQuery.Script.Relation

/-!
# Identity — the numbers of a script's relations

References name a relation by its identity, so an identity must stand for one relation only. A
script sees to it: every step takes a number that no relation before it has had.
-/

namespace TableQuery

namespace Script

/-- The relation has been defined by some step. -/
def Definitions.Has (ds : Definitions) (r : Relation) : Prop :=
  ∃ name, (name, Definition.relation r) ∈ ds.entries

/-- Numbers are smaller than the next one, and each stands for one node of all relations
together. -/
structure Definitions.Identified (ds : Definitions) : Prop where
  below : ∀ r, ds.Has r → ∀ m ∈ r.nodes, m.id < ds.next
  unique : ∀ r r', ds.Has r → ds.Has r' → ∀ m ∈ r.nodes, ∀ m' ∈ r'.nodes, m.id = m'.id → m = m'

variable {ds ds' : Definitions} {j : Json} {r : Relation} {name : String}

theorem has_of_relation? (h : ds.relation? name = some r) : ds.Has r := by
  rcases List.exists_of_findSome?_eq_some h with ⟨⟨n, defined⟩, hMem, hSome⟩
  cases defined with
  | expr e => cases hSome
  | relation r' =>
      simp only [Option.ite_none_right_eq_some, Option.some.injEq] at hSome
      rcases hSome with ⟨-, rfl⟩
      exact ⟨n, hMem⟩

theorem has_of_relationIn? (h : relationIn? ds j name = some r) : ds.Has r := by
  rcases Option.bind_eq_some_iff.1 h with ⟨v, -, hNamed⟩
  rcases Option.bind_eq_some_iff.1 hNamed with ⟨n, -, hFound⟩
  exact has_of_relation? hFound

/-- A relation that is new to a script, and made from relations that are not. -/
structure Fresh (ds : Definitions) (r : Relation) : Prop where
  id : r.id = ds.next
  inputs : ∀ i ∈ r.inputs, ds.Has i

theorem fresh_unary? {kind : String} {input : Relation} (hInput : ds.Has input)
    (h : unary? ds j kind input = some r) : Fresh ds r := by
  have hMade {whole : Relation} (hId : whole.id = ds.next) (hInputs : whole.inputs = [input]) :
      Fresh ds whole := by
    refine ⟨hId, fun i hi => ?_⟩
    rw [hInputs, List.mem_singleton] at hi
    exact hi ▸ hInput
  unfold unary? at h
  simp only at h
  split at h <;> simp only [Option.bind_eq_bind, Option.bind_eq_some_iff, Option.pure_def,
    Option.some.injEq, reduceCtorEq] at h
  -- one case for each kind, in the order in which they are read
  · exact h ▸ hMade rfl rfl
  · rcases h with ⟨predicates, -, rfl⟩
    exact hMade rfl rfl
  · rcases h with ⟨projections, -, rfl⟩
    exact hMade rfl rfl
  · rcases h with ⟨keys, -, rfl⟩
    exact hMade rfl rfl
  · rcases h with ⟨projections, -, predicates, -, keys, -, rfl⟩
    exact hMade rfl rfl
  · rcases h with ⟨keys, -, metrics, -, having, -, rfl⟩
    exact hMade rfl rfl
  · exact h ▸ hMade rfl rfl
  · rcases h with ⟨count, -, offset, -, rfl⟩
    exact hMade rfl rfl
  · exact h ▸ hMade rfl rfl

theorem fresh_binary? {kind : String} {left right : Relation} (hLeft : ds.Has left)
    (hRight : ds.Has right) (h : binary? ds j kind left right = some r) : Fresh ds r := by
  have hMade {whole : Relation} (hId : whole.id = ds.next)
      (hInputs : whole.inputs = [left, right]) : Fresh ds whole := by
    refine ⟨hId, fun i hi => ?_⟩
    rw [hInputs] at hi
    rcases List.mem_pair.1 hi with rfl | rfl
    · exact hLeft
    · exact hRight
  unfold binary? at h
  split at h
  · simp only [Option.bind_eq_bind, Option.bind_eq_some_iff, Option.pure_def,
      Option.some.injEq] at h
    rcases h with ⟨how, -, predicates, -, rfl⟩
    exact hMade rfl rfl
  · simp only [Option.bind_eq_bind, Option.bind_eq_some_iff, Option.pure_def,
      Option.some.injEq] at h
    rcases h with ⟨dropsRepeats, -, rfl⟩
    exact hMade rfl rfl
  · cases h

theorem fresh_relation? (h : relation? ds j = some r) : Fresh ds r := by
  unfold relation? at h
  rcases Option.bind_eq_some_iff.1 h with ⟨kind, -, h⟩
  split at h
  · simp only [Option.bind_eq_bind, Option.bind_eq_some_iff, Option.pure_def,
      Option.some.injEq] at h
    rcases h with ⟨table, -, schema, -, rfl⟩
    exact ⟨rfl, by simp [Relation.inputs]⟩
  · simp only [Option.bind_eq_bind, Option.bind_eq_some_iff, Option.pure_def,
      Option.some.injEq] at h
    rcases h with ⟨query, -, schema, -, rfl⟩
    exact ⟨rfl, by simp [Relation.inputs]⟩
  · split at h
    · next input hInput => exact fresh_unary? (has_of_relationIn? hInput) h
    · simp only [Option.bind_eq_bind, Option.bind_eq_some_iff] at h
      rcases h with ⟨left, hLeft, right, hRight, h⟩
      exact fresh_binary? (has_of_relationIn? hLeft) (has_of_relationIn? hRight) h

theorem Definitions.Identified.empty : Definitions.Identified {} where
  below r hr := by
    rcases hr with ⟨name, hMem⟩
    cases hMem
  unique r r' hr := by
    rcases hr with ⟨name, hMem⟩
    cases hMem

/-- Another relation, under its own number. -/
theorem Definitions.Identified.add (h : ds.Identified) (hFresh : Fresh ds r) (name : String) :
    (ds.add name (.relation r)).Identified := by
  have hHas {r' : Relation} (hr' : (ds.add name (.relation r)).Has r') : r' = r ∨ ds.Has r' := by
    rcases hr' with ⟨n, hMem⟩
    rcases List.mem_cons.1 hMem with hNew | hOld
    · cases hNew
      exact .inl rfl
    · exact .inr ⟨n, hOld⟩
  -- a node of the new relation is this relation itself or one that was there
  have hNode {m r' : Relation} (hr' : (ds.add name (.relation r)).Has r') (hm : m ∈ r'.nodes) :
      m = r ∨ ∃ old, ds.Has old ∧ m ∈ old.nodes := by
    rcases hHas hr' with rfl | hOld
    · rcases Relation.eq_or_mem_inputs_of_mem_nodes hm with hSelf | ⟨i, hi, hm⟩
      · exact .inl hSelf
      · exact .inr ⟨i, hFresh.inputs i hi, hm⟩
    · exact .inr ⟨r', hOld, hm⟩
  constructor
  · intro r' hr' m hm
    rcases hNode hr' hm with rfl | ⟨old, hOld, hm⟩
    · exact hFresh.id ▸ Nat.lt_succ_self _
    · exact Nat.lt_succ_of_lt (h.below old hOld m hm)
  · intro r₁ r₂ hr₁ hr₂ m₁ hm₁ m₂ hm₂ hId
    rcases hNode hr₁ hm₁ with rfl | ⟨old₁, hOld₁, hm₁⟩
    · rcases hNode hr₂ hm₂ with rfl | ⟨old₂, hOld₂, hm₂⟩
      · rfl
      -- an old node has a smaller number than the new one
      · have hBelow := h.below old₂ hOld₂ m₂ hm₂
        rw [← hId, hFresh.id] at hBelow
        exact absurd hBelow (Nat.lt_irrefl _)
    · rcases hNode hr₂ hm₂ with rfl | ⟨old₂, hOld₂, hm₂⟩
      · have hBelow := h.below old₁ hOld₁ m₁ hm₁
        rw [hId, hFresh.id] at hBelow
        exact absurd hBelow (Nat.lt_irrefl _)
      · exact h.unique old₁ old₂ hOld₁ hOld₂ m₁ hm₁ m₂ hm₂ hId

/-- An expression adds no relation, but a number is passed over. -/
theorem Definitions.Identified.addExpr (h : ds.Identified) (name : String) (e : Expr) :
    (ds.add name (.expr e)).Identified := by
  have hHas {r : Relation} (hr : (ds.add name (.expr e)).Has r) : ds.Has r := by
    rcases hr with ⟨n, hMem⟩
    rcases List.mem_cons.1 hMem with hNew | hOld
    · cases hNew
    · exact ⟨n, hOld⟩
  constructor
  · intro r hr m hm
    exact Nat.lt_succ_of_lt (h.below r (hHas hr) m hm)
  · intro r₁ r₂ hr₁ hr₂
    exact h.unique r₁ r₂ (hHas hr₁) (hHas hr₂)

theorem Definitions.Identified.step (h : ds.Identified) (hStep : step? ds j = some ds') :
    ds'.Identified := by
  unfold step? at hStep
  rcases Option.bind_eq_some_iff.1 hStep with ⟨name, -, hStep⟩
  split at hStep
  · rcases Option.bind_eq_some_iff.1 hStep with ⟨e, -, hAdd⟩
    cases hAdd
    exact h.addExpr name e
  · rcases Option.bind_eq_some_iff.1 hStep with ⟨r, hr, hAdd⟩
    cases hAdd
    exact h.add (fresh_relation? hr) name

theorem Definitions.Identified.steps {js : List Json} (h : ds.Identified)
    (hSteps : js.foldlM step? ds = some ds') : ds'.Identified := by
  induction js generalizing ds with
  | nil =>
      cases hSteps
      exact h
  | cons j js ih =>
      rw [List.foldlM_cons] at hSteps
      rcases Option.bind_eq_some_iff.1 hSteps with ⟨next, hStep, hRest⟩
      exact ih (h.step hStep) hRest

/-- In the relations that a script defines, an identity stands for one node. -/
theorem identified_of_steps? (h : steps? {} j = some ds) (hr : ds.Has r) : r.Identified := by
  rcases Option.bind_eq_some_iff.1 h with ⟨js, -, hSteps⟩
  have hAll := Definitions.Identified.empty.steps hSteps
  intro m hm m' hm' hOrigin
  exact hAll.unique r r hr hr m hm m' hm' (congrArg Origin.id hOrigin)

end Script
end TableQuery
