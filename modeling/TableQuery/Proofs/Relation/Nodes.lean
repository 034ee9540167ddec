import Mathlib.Data.List.Nodup
import TableQuery.Relation

/-!
# Nodes — every relation of a tree

A relation together with all that it is made from. What holds of a whole tree is said of its nodes,
the targets of views included. Columns are looked up among the visible nodes only, since a view
hides what it points to.
-/

namespace TableQuery
namespace Relation

/-- The relation and everything below it, from the root down. -/
def nodes : Relation → List Relation
  | .table id name schema => [.table id name schema]
  | .selfReference id target => .selfReference id target :: target.nodes
  | .sqlQuery id query schema => [.sqlQuery id query schema]
  | .selection id input projections predicates sortKeys =>
    .selection id input projections predicates sortKeys :: input.nodes
  | .aggregation id input keys metrics having =>
    .aggregation id input keys metrics having :: input.nodes
  | .join id kind left right predicates =>
    .join id kind left right predicates :: (left.nodes ++ right.nodes)
  | .limit id input count offset => .limit id input count offset :: input.nodes
  | .distinct id input => .distinct id input :: input.nodes
  | .union id left right dropsRepeats =>
    .union id left right dropsRepeats :: (left.nodes ++ right.nodes)

theorem self_mem_nodes (r : Relation) : r ∈ r.nodes := by
  cases r <;> simp [nodes]

/-- The nodes of an input are nodes of the relation. -/
theorem nodes_subset_of_mem_inputs {r m : Relation} (hm : m ∈ r.inputs) : m.nodes ⊆ r.nodes := by
  cases r with
  | table => simp [inputs] at hm
  | sqlQuery => simp [inputs] at hm
  | join =>
      rcases (by simpa [inputs] using hm) with rfl | rfl
      · exact fun x hx => by simp [nodes, hx]
      · exact fun x hx => by simp [nodes, hx]
  | union =>
      rcases (by simpa [inputs] using hm) with rfl | rfl
      · exact fun x hx => by simp [nodes, hx]
      · exact fun x hx => by simp [nodes, hx]
  | _ =>
      have hEq := by simpa [inputs] using hm
      subst hEq
      exact fun x hx => by simp [nodes, hx]

/-- Every node is the relation itself or a node of an input. -/
theorem eq_or_mem_inputs_of_mem_nodes {r m : Relation} (hm : m ∈ r.nodes) :
    m = r ∨ ∃ i ∈ r.inputs, m ∈ i.nodes := by
  cases r with
  | table | sqlQuery => exact .inl (List.mem_singleton.1 hm)
  | join | union =>
      rcases List.mem_cons.1 hm with h | h
      · exact .inl h
      · rcases List.mem_append.1 h with h | h
        · exact .inr ⟨_, by simp [inputs], h⟩
        · exact .inr ⟨_, by simp [inputs], h⟩
  | _ =>
      rcases List.mem_cons.1 hm with h | h
      · exact .inl h
      · exact .inr ⟨_, by simp [inputs], h⟩

theorem size_pos (r : Relation) : 0 < r.size := by
  cases r with
  | table | sqlQuery => exact Nat.one_pos
  | _ => exact Nat.succ_pos _

/-- An input has fewer nodes than the relation. -/
theorem size_lt_of_mem_inputs {r i : Relation} (hi : i ∈ r.inputs) : i.size < r.size := by
  cases r with
  | table | sqlQuery => cases hi
  | join | union =>
      rcases (by simpa [inputs] using hi) with rfl | rfl
      · simp only [size]
        omega
      · simp only [size]
        omega
  | _ =>
      have hEq := by simpa [inputs] using hi
      subst hEq
      exact Nat.lt_succ_self _

theorem size_le_of_mem_nodes {r m : Relation} (hm : m ∈ r.nodes) : m.size ≤ r.size := by
  rcases eq_or_mem_inputs_of_mem_nodes hm with rfl | ⟨i, hi, hm⟩
  · exact Nat.le_refl _
  · -- by recursion on the input, which is smaller
    have hSmaller := size_lt_of_mem_inputs hi
    exact Nat.le_of_lt (Nat.lt_of_le_of_lt (size_le_of_mem_nodes hm) hSmaller)
termination_by r.size

/-- No relation is made from itself. -/
theorem notMem_nodes_of_mem_inputs {r i : Relation} (hi : i ∈ r.inputs) : r ∉ i.nodes := by
  intro hr
  have hSmaller := size_lt_of_mem_inputs hi
  exact absurd (size_le_of_mem_nodes hr) (Nat.not_le_of_lt hSmaller)

/-- The second relation can be reached from the first by going from a relation to one of its
inputs, any number of times. -/
inductive Reaches : Relation → Relation → Prop where
  | refl (r : Relation) : Reaches r r
  | step {r i m : Relation} (hInput : i ∈ r.inputs) (hBelow : Reaches i m) : Reaches r m

theorem reaches_of_mem_nodes {r m : Relation} (hm : m ∈ r.nodes) : r.Reaches m := by
  rcases eq_or_mem_inputs_of_mem_nodes hm with rfl | ⟨i, hi, hm⟩
  · exact .refl _
  · have hSmaller := size_lt_of_mem_inputs hi
    exact .step hi (reaches_of_mem_nodes hm)
termination_by r.size

/-- The nodes are the relations that can be reached. -/
theorem mem_nodes_iff_reaches {r m : Relation} : m ∈ r.nodes ↔ r.Reaches m := by
  refine ⟨reaches_of_mem_nodes, fun h => ?_⟩
  induction h with
  | refl r => exact self_mem_nodes r
  | step hInput _ ih => exact nodes_subset_of_mem_inputs hInput ih

/-- An identity stands for one node of the tree. -/
def Identified (r : Relation) : Prop :=
  ∀ m ∈ r.nodes, ∀ m' ∈ r.nodes, m.origin = m'.origin → m = m'

theorem identified_of_nodup {r : Relation} (h : (r.nodes.map (·.origin)).Nodup) :
    r.Identified := by
  intro m hm m' hm' hOrigin
  exact List.inj_on_of_nodup_map h hm hm' hOrigin

/-! ## Visible nodes -/

/-- The relation and everything below it that no view hides. -/
def visible : Relation → List Relation
  | .table id name schema => [.table id name schema]
  | .selfReference id target => [.selfReference id target]
  | .sqlQuery id query schema => [.sqlQuery id query schema]
  | .selection id input projections predicates sortKeys =>
    .selection id input projections predicates sortKeys :: input.visible
  | .aggregation id input keys metrics having =>
    .aggregation id input keys metrics having :: input.visible
  | .join id kind left right predicates =>
    .join id kind left right predicates :: (left.visible ++ right.visible)
  | .limit id input count offset => .limit id input count offset :: input.visible
  | .distinct id input => .distinct id input :: input.visible
  | .union id left right dropsRepeats =>
    .union id left right dropsRepeats :: (left.visible ++ right.visible)

theorem self_mem_visible (r : Relation) : r ∈ r.visible := by
  cases r <;> simp [visible]

theorem visible_subset_nodes (r : Relation) : r.visible ⊆ r.nodes := by
  intro m hm
  induction r with
  | table | sqlQuery => exact hm
  | selfReference id target =>
      -- the view is all that can be seen of its target
      exact List.mem_cons.2 (.inl (List.mem_singleton.1 hm))
  | join id kind left right predicates ihLeft ihRight
  | union id left right _ ihLeft ihRight =>
      rcases List.mem_cons.1 hm with rfl | h
      · exact self_mem_nodes _
      · rcases List.mem_append.1 h with h | h
        · exact List.mem_cons_of_mem _ (List.mem_append_left _ (ihLeft h))
        · exact List.mem_cons_of_mem _ (List.mem_append_right _ (ihRight h))
  | selection id input projections predicates sortKeys ih
  | aggregation id input keys metrics having ih
  | limit id input count offset ih
  | distinct id input ih =>
      rcases List.mem_cons.1 hm with rfl | h
      · exact self_mem_nodes _
      · exact List.mem_cons_of_mem _ (ih h)

theorem contains_iff {r : Relation} {o : Origin} :
    r.contains o = true ↔ ∃ m ∈ r.visible, m.origin = o := by
  induction r with
  | table | selfReference | sqlQuery => simp [contains, visible]
  | selection id input projections predicates sortKeys ih => simp [contains, visible, ih]
  | aggregation id input keys metrics having ih => simp [contains, visible, ih]
  | limit id input count offset ih => simp [contains, visible, ih]
  | distinct id input ih => simp [contains, visible, ih]
  | join id kind left right predicates ihLeft ihRight
  | union id left right _ ihLeft ihRight =>
      simp [contains, visible, ihLeft, ihRight, or_and_right, exists_or, or_assoc]

/-- What is visible from a visible node is visible. -/
theorem visible_subset {r m : Relation} (hm : m ∈ r.visible) : m.visible ⊆ r.visible := by
  -- the root is the same case for every kind of relation
  have hSelf {whole : Relation} (h : m = whole) : m.visible ⊆ whole.visible :=
    h ▸ List.Subset.refl _
  induction r with
  | table | selfReference | sqlQuery => exact hSelf (List.mem_singleton.1 hm)
  | selection id input projections predicates sortKeys ih
  | aggregation id input keys metrics having ih
  | limit id input count offset ih
  | distinct id input ih =>
      rcases List.mem_cons.1 hm with h | h
      · exact hSelf h
      · exact List.subset_cons_of_subset _ (ih h)
  | join id kind left right predicates ihLeft ihRight
  | union id left right _ ihLeft ihRight =>
      rcases List.mem_cons.1 hm with h | h
      · exact hSelf h
      · refine List.subset_cons_of_subset _ ?_
        rcases List.mem_append.1 h with h | h
        · exact List.subset_append_of_subset_left _ (ihLeft h)
        · exact List.subset_append_of_subset_right _ (ihRight h)

end Relation
end TableQuery
