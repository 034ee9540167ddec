import TableQuery.Proofs.Plan.Parts

/-!
# Nested — the relations that a statement selects from

The tables of a `FROM` clause stand along the left side of the plan's source. Some of them are
written as statements again. Together with the source, what a plan has made into clauses covers the
whole relation: no node is left out.
-/

namespace TableQuery

/-! ## Tables -/

namespace Relation

variable {r t m : Relation}

/-- The tables of a `FROM` clause, from left to right. -/
def fromTables : Relation → List Relation
  | .join _ _ left right _ => left.fromTables ++ [right]
  | r => [r]

theorem nodes_subset_of_mem_fromTables (ht : t ∈ r.fromTables) : t.nodes ⊆ r.nodes := by
  induction r with
  | join id kind left right predicates ihLeft _ =>
      rcases List.mem_append.1 ht with ht | ht
      · exact List.Subset.trans (ihLeft ht) (nodes_subset_of_mem_inputs (by simp [inputs]))
      · rw [List.mem_singleton.1 ht]
        exact nodes_subset_of_mem_inputs (by simp [inputs])
  | _ =>
      rw [List.mem_singleton.1 ht]
      exact List.Subset.refl _

/-- What a `FROM` item is written as a statement of, if it is written as one. -/
def derived? : Relation → Option Relation
  | .table .. | .sqlQuery .. | .selfReference _ (.table ..) => none
  | .selfReference _ target => some target
  | r => some r

theorem eq_of_derived?_selfReference {id : Nat} {target : Relation}
    (h : (selfReference id target).derived? = some m) : target = m := by
  cases target with
  | table => cases h
  | _ =>
      cases h
      rfl

/-- A derived table is the item itself, or what it is a view of. -/
theorem cases_of_derived (h : t.derived? = some m) :
    t = m ∨ ∃ id, t = .selfReference id m := by
  cases t with
  | table | sqlQuery => cases h
  | selfReference id target => exact .inr ⟨id, by rw [eq_of_derived?_selfReference h]⟩
  | _ =>
      cases h
      exact .inl rfl

theorem nodes_subset_of_derived (h : t.derived? = some m) : m.nodes ⊆ t.nodes := by
  rcases cases_of_derived h with rfl | ⟨id, rfl⟩
  · exact List.Subset.refl _
  · exact nodes_subset_of_mem_inputs (List.mem_singleton.2 rfl)

end Relation

namespace JoinChain

/-- The tables of a chain are those of the join tree, whatever the dialect. -/
theorem tables_ofRelation {d : Dialect} {r : Relation} {c : JoinChain}
    (h : ofRelation d r = .ok c) : c.tables = r.fromTables := by
  induction r generalizing c with
  | join id kind left right predicates ihLeft _ =>
      rcases of_ofRelation_join h with ⟨-, c', hc', rfl⟩
      rw [Relation.fromTables, ← ihLeft hc']
      simp [tables, append]
  | _ =>
      cases h
      rfl

end JoinChain

/-! ## Clauses -/

/-- Whether the relation changes the rows of one input, as a clause of a statement does. -/
def Relation.isClause : Relation → Bool
  | .selection .. | .aggregation .. | .limit .. | .distinct .. => true
  | .table .. | .selfReference .. | .sqlQuery .. | .join .. | .union .. => false

namespace SelectPlan

theorem source_simpleOr (q : SelectPlan) (input : Relation) :
    (q.simpleOr input).source = q.source ∨ (q.simpleOr input).source = input := by
  unfold simpleOr
  split
  · exact .inl rfl
  · exact .inr rfl

/-- A plan selects from the relation itself, or, if that is a clause, from its input as a derived
table or from what its input is selected from. -/
theorem source_cases {r : Relation} {p : SelectPlan} (h : ofRelation r = .ok p) :
    (r.isClause = false ∧ p.source = r) ∨
      (r.isClause = true ∧ ∃ input q, r.inputs = [input] ∧ ofRelation input = .ok q ∧
        (p.source = q.source ∨ p.source = input)) := by
  cases r with
  | table | selfReference | sqlQuery | join =>
      cases h
      exact .inl ⟨rfl, rfl⟩
  | selection id input projections predicates sortKeys =>
      rcases of_map_ok h with ⟨q, hq, rfl⟩
      refine .inr ⟨rfl, input, q, rfl, hq, ?_⟩
      unfold addSelection
      simp only
      split
      · exact .inl rfl
      · exact source_simpleOr q input
  | aggregation id input keys metrics having =>
      rcases of_map_ok h with ⟨q, hq, rfl⟩
      exact .inr ⟨rfl, input, q, rfl, hq, source_simpleOr q input⟩
  | limit id input count offset =>
      rcases of_map_ok h with ⟨q, hq, rfl⟩
      refine .inr ⟨rfl, input, q, rfl, hq, ?_⟩
      unfold addLimit
      split
      · exact .inr rfl
      · exact .inl rfl
  | distinct id input =>
      rcases of_map_ok h with ⟨q, hq, rfl⟩
      refine .inr ⟨rfl, input, q, rfl, hq, ?_⟩
      unfold addDistinct
      split
      · exact .inr rfl
      · exact .inl rfl
  | union => cases h

/-- Every node of a planned relation is a clause or a node of what the plan selects from. -/
theorem isClause_or_mem_source {r m : Relation} {p : SelectPlan} (h : ofRelation r = .ok p)
    (hm : m ∈ r.nodes) : m.isClause = true ∨ m ∈ p.source.nodes := by
  rcases source_cases h with ⟨-, hSource⟩ | ⟨hClause, input, q, hInputs, hq, hSource⟩
  · exact .inr (hSource ▸ hm)
  · rcases Relation.eq_or_mem_inputs_of_mem_nodes hm with rfl | ⟨i, hi, hm⟩
    · exact .inl hClause
    · -- by recursion on the input, unless the input is the source as a whole
      have hSmaller := Relation.size_lt_of_mem_inputs hi
      rw [hInputs, List.mem_singleton] at hi
      subst hi
      rcases hSource with hSource | hSource
      · rw [hSource]
        exact isClause_or_mem_source hq hm
      · exact .inr (hSource ▸ hm)
termination_by r.size

/-- Only a statement that is more than a table with filters ends up in a derived table. -/
theorem derived?_of_not_isSimple {r : Relation} {p : SelectPlan} (hPlan : ofRelation r = .ok p)
    (hNot : p.isSimple = false) : r.derived? = some r := by
  cases r with
  | table | selfReference | sqlQuery =>
      cases hPlan
      cases hNot
  | _ => rfl

end SelectPlan

/-! ## Derived tables -/

namespace Relation

variable {r t m : Relation}

/-- The relations that stand in the statement of a relation as statements of their own. -/
def derivedTables (r : Relation) : List Relation :=
  match SelectPlan.ofRelation r with
  | .error _ => []
  | .ok p => p.source.fromTables.filterMap derived?

theorem mem_derivedTables {p : SelectPlan} (h : SelectPlan.ofRelation r = .ok p) :
    m ∈ r.derivedTables ↔ ∃ t ∈ p.source.fromTables, t.derived? = some m := by
  rw [derivedTables, h]
  exact List.mem_filterMap

/-- A derived table stands below the relation that it is written in. -/
theorem exists_input_of_mem_derivedTables (hm : m ∈ r.derivedTables) :
    ∃ i ∈ r.inputs, m ∈ i.nodes := by
  cases hPlan : SelectPlan.ofRelation r with
  | error e =>
      rw [derivedTables, hPlan] at hm
      cases hm
  | ok p =>
      rcases (mem_derivedTables hPlan).1 hm with ⟨t, ht, hDerived⟩
      have hTable : m ∈ t.nodes := nodes_subset_of_derived hDerived (self_mem_nodes m)
      rcases SelectPlan.source_cases hPlan with
        ⟨hClause, hSource⟩ | ⟨-, input, q, hInputs, hq, hSource⟩
      · rw [hSource] at ht
        cases r with
        | table | sqlQuery =>
            rw [List.mem_singleton.1 ht] at hDerived
            cases hDerived
        | selfReference id target =>
            rw [List.mem_singleton.1 ht] at hDerived
            rw [eq_of_derived?_selfReference hDerived]
            exact ⟨m, by simp [inputs], self_mem_nodes m⟩
        | join id kind left right predicates =>
            rcases List.mem_append.1 ht with ht | ht
            · exact ⟨left, by simp [inputs], nodes_subset_of_mem_fromTables ht hTable⟩
            · rw [List.mem_singleton.1 ht] at hTable
              exact ⟨right, by simp [inputs], hTable⟩
        | union => cases hPlan
        | _ => cases hClause
      · -- the source of a clause is a part of its input
        have hBelow : p.source.nodes ⊆ input.nodes := by
          rcases hSource with hSource | hSource
          · rw [hSource]
            exact (SelectPlan.drawnFrom_ofRelation hq).source
          · rw [hSource]
            exact List.Subset.refl _
        exact ⟨input, by simp [hInputs], hBelow (nodes_subset_of_mem_fromTables ht hTable)⟩

theorem size_lt_of_mem_derivedTables (hm : m ∈ r.derivedTables) : m.size < r.size := by
  rcases exists_input_of_mem_derivedTables hm with ⟨i, hi, hm⟩
  exact Nat.lt_of_le_of_lt (size_le_of_mem_nodes hm) (size_lt_of_mem_inputs hi)

end Relation

end TableQuery
