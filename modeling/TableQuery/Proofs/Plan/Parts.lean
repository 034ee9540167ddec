import TableQuery.Proofs.Outcome
import TableQuery.Proofs.Relation.Nodes
import TableQuery.Plan
import TableQuery.Sql.JoinChain

/-!
# Parts — what plans and join chains are made of

Planning invents nothing: the source of a plan and every expression in its clauses come from nodes
of the relation that is planned, and so do the tables and conditions of a join chain.
-/

namespace TableQuery

/-- The expressions of the relation itself, without those of its inputs. -/
def Relation.exprs : Relation → List Expr
  | .selection _ _ projections predicates sortKeys =>
    projections ++ predicates ++ sortKeys.map (·.key)
  | .aggregation _ _ keys metrics having => keys ++ metrics ++ having
  | .join _ _ _ _ predicates => predicates
  | _ => []

/-- The expressions of a statement outside of its `FROM` clause. -/
def SelectPlan.exprs (p : SelectPlan) : List Expr :=
  p.items ++ p.predicates ++ p.groupKeys ++ p.having ++ p.sortKeys.map (·.key)

/-! ## Plans -/

namespace SelectPlan

/-- The plan is put together from nodes of a relation. -/
structure DrawnFrom (p : SelectPlan) (r : Relation) : Prop where
  source : p.source.nodes ⊆ r.nodes
  exprs : ∀ e ∈ p.exprs, ∃ m ∈ r.nodes, e ∈ m.exprs

variable {p : SelectPlan} {r input whole : Relation}

theorem drawnFrom_ofSource (r : Relation) : (ofSource r).DrawnFrom r where
  source := List.Subset.refl _
  exprs e he := by simp [SelectPlan.exprs, ofSource] at he

theorem DrawnFrom.mono (h : p.DrawnFrom input) (hInput : input.nodes ⊆ r.nodes) :
    p.DrawnFrom r where
  source := List.Subset.trans h.source hInput
  exprs e he := by
    rcases h.exprs e he with ⟨m, hm, hExpr⟩
    exact ⟨m, hInput hm, hExpr⟩

theorem DrawnFrom.simpleOr (h : p.DrawnFrom input) : (p.simpleOr input).DrawnFrom input := by
  unfold SelectPlan.simpleOr
  split
  · exact h
  · exact drawnFrom_ofSource input

/-- A plan over the same source whose expressions come from another plan or from one node. -/
theorem DrawnFrom.extend {q : SelectPlan} (h : p.DrawnFrom input) (hInput : input.nodes ⊆ r.nodes)
    (hSource : q.source = p.source) (hExprs : ∀ e ∈ q.exprs, e ∈ p.exprs ∨ e ∈ r.exprs) :
    q.DrawnFrom r where
  source := hSource ▸ (h.mono hInput).source
  exprs e he := by
    rcases hExprs e he with hOld | hNew
    · exact (h.mono hInput).exprs e hOld
    · exact ⟨r, r.self_mem_nodes, hNew⟩

theorem mem_exprs {e : Expr} : e ∈ p.exprs ↔ e ∈ p.items ∨ e ∈ p.predicates ∨ e ∈ p.groupKeys ∨
    e ∈ p.having ∨ ∃ k ∈ p.sortKeys, k.key = e := by
  simp [exprs]

theorem DrawnFrom.addSelection (h : p.DrawnFrom input) (id : Nat)
    (projections predicates : List Expr) (sortKeys : List (SortKey Expr)) :
    (p.addSelection (.selection id input projections predicates sortKeys) input projections
      predicates sortKeys).DrawnFrom (.selection id input projections predicates sortKeys) := by
  have hNodes : input.nodes ⊆ (Relation.selection id input projections predicates sortKeys).nodes :=
    Relation.nodes_subset_of_mem_inputs (by simp [Relation.inputs])
  have hKeys {q : SelectPlan} {e : Expr}
      (hk : ∃ k ∈ (if sortKeys.isEmpty then q.sortKeys else sortKeys), k.key = e) :
      (∃ k ∈ q.sortKeys, k.key = e) ∨ ∃ k ∈ sortKeys, k.key = e := by
    rcases hk with ⟨k, hk, rfl⟩
    split at hk
    · exact .inl ⟨k, hk, rfl⟩
    · exact .inr ⟨k, hk, rfl⟩
  unfold SelectPlan.addSelection
  simp only
  -- the sort keys may be those of the input or new ones, in either branch
  split
  · refine h.extend hNodes rfl fun e he => ?_
    rcases mem_exprs.1 he with hItem | hPredicate | hGroup | hHaving | hSort
    · exact .inl (mem_exprs.2 (.inl hItem))
    · exact .inl (mem_exprs.2 (.inr (.inl hPredicate)))
    · exact .inl (mem_exprs.2 (.inr (.inr (.inl hGroup))))
    · exact .inl (mem_exprs.2 (.inr (.inr (.inr (.inl hHaving)))))
    · rcases hKeys hSort with hOld | hNew
      · exact .inl (mem_exprs.2 (.inr (.inr (.inr (.inr hOld)))))
      · exact .inr (by simpa [Relation.exprs] using .inr (.inr hNew))
  · refine h.simpleOr.extend hNodes rfl fun e he => ?_
    rcases mem_exprs.1 he with hItem | hPredicate | hGroup | hHaving | hSort
    · exact .inr (by simp [Relation.exprs, show e ∈ projections from hItem])
    · rcases List.mem_append.1 hPredicate with hOld | hNew
      · exact .inl (mem_exprs.2 (.inr (.inl hOld)))
      · exact .inr (by simp [Relation.exprs, hNew])
    · exact .inl (mem_exprs.2 (.inr (.inr (.inl hGroup))))
    · exact .inl (mem_exprs.2 (.inr (.inr (.inr (.inl hHaving)))))
    · rcases hKeys hSort with hOld | hNew
      · exact .inl (mem_exprs.2 (.inr (.inr (.inr (.inr hOld)))))
      · exact .inr (by simpa [Relation.exprs] using .inr (.inr hNew))

theorem DrawnFrom.addGrouping (h : p.DrawnFrom input) (id : Nat)
    (keys metrics having : List Expr) :
    (p.addGrouping (.aggregation id input keys metrics having) input keys metrics
      having).DrawnFrom (.aggregation id input keys metrics having) := by
  have hNodes : input.nodes ⊆ (Relation.aggregation id input keys metrics having).nodes :=
    Relation.nodes_subset_of_mem_inputs (by simp [Relation.inputs])
  refine h.simpleOr.extend hNodes rfl fun e he => ?_
  rcases mem_exprs.1 he with hItem | hPredicate | hGroup | hHaving | ⟨k, hk, -⟩
  · exact .inr (List.mem_append_left _ hItem)
  · exact .inl (mem_exprs.2 (.inr (.inl hPredicate)))
  · exact .inr (by simp [Relation.exprs, show e ∈ keys from hGroup])
  · exact .inr (List.mem_append_right _ hHaving)
  · cases hk

theorem DrawnFrom.addLimit (h : p.DrawnFrom input) (id count offset : Nat) :
    (p.addLimit input count offset).DrawnFrom (.limit id input count offset) := by
  have hNodes : input.nodes ⊆ (Relation.limit id input count offset).nodes :=
    Relation.nodes_subset_of_mem_inputs (by simp [Relation.inputs])
  unfold SelectPlan.addLimit
  split
  · exact (drawnFrom_ofSource input).extend hNodes rfl fun _ he => .inl he
  · exact h.extend hNodes rfl fun _ he => .inl he

theorem DrawnFrom.addDistinct (h : p.DrawnFrom input) (id : Nat) :
    (p.addDistinct input).DrawnFrom (.distinct id input) := by
  have hNodes : input.nodes ⊆ (Relation.distinct id input).nodes :=
    Relation.nodes_subset_of_mem_inputs (by simp [Relation.inputs])
  unfold SelectPlan.addDistinct
  split
  · exact (drawnFrom_ofSource input).extend hNodes rfl fun _ he => .inl he
  · exact h.extend hNodes rfl fun _ he => .inl he

theorem drawnFrom_ofRelation (h : ofRelation r = .ok p) : p.DrawnFrom r := by
  induction r generalizing p with
  | table | selfReference | sqlQuery | join =>
      cases h
      exact drawnFrom_ofSource _
  | selection id input projections predicates sortKeys ih =>
      rcases of_map_ok h with ⟨q, hq, rfl⟩
      exact (ih hq).addSelection id projections predicates sortKeys
  | aggregation id input keys metrics having ih =>
      rcases of_map_ok h with ⟨q, hq, rfl⟩
      exact (ih hq).addGrouping id keys metrics having
  | limit id input count offset ih =>
      rcases of_map_ok h with ⟨q, hq, rfl⟩
      exact (ih hq).addLimit id count offset
  | distinct id input ih =>
      rcases of_map_ok h with ⟨q, hq, rfl⟩
      exact (ih hq).addDistinct id
  | union => cases h

/-- Only a union cannot be planned. -/
theorem exists_ofRelation (h : r.containsUnion = false) : ∃ p, ofRelation r = .ok p := by
  have hMap {input : Relation} {f : SelectPlan → SelectPlan}
      (hInput : ∃ p, ofRelation input = .ok p) : ∃ p, (ofRelation input).map f = .ok p := by
    rcases hInput with ⟨p, hp⟩
    exact ⟨f p, by rw [hp]; rfl⟩
  induction r with
  | table | selfReference | sqlQuery | join => exact ⟨_, rfl⟩
  | selection _ _ _ _ _ ih
  | aggregation _ _ _ _ _ ih
  | limit _ _ _ _ ih
  | distinct _ _ ih => exact hMap (ih h)
  | union => cases h

/-- The relation whose columns are the items is a node of what is planned, and no part of what
stands in the `FROM` clause. -/
def OutputApart (p : SelectPlan) (r : Relation) : Prop :=
  ∀ w ∈ p.output, w ∈ r.nodes ∧ w ∉ p.source.nodes

theorem outputApart_of_none (h : p.output = none) (r : Relation) : p.OutputApart r := by
  intro w hw
  rw [h] at hw
  cases hw

theorem OutputApart.above {q : SelectPlan} (h : p.OutputApart input) (hInput : input ∈ whole.inputs)
    (hSource : q.source = p.source) (hOutput : q.output = p.output) : q.OutputApart whole := by
  intro w hw
  rw [hOutput] at hw
  rw [hSource]
  exact ⟨Relation.nodes_subset_of_mem_inputs hInput (h w hw).1, (h w hw).2⟩

theorem outputApart_of_whole (hInput : input ∈ whole.inputs)
    (hSource : p.source.nodes ⊆ input.nodes) (hOutput : p.output = some whole) :
    p.OutputApart whole := by
  intro w hw
  rw [hOutput] at hw
  cases hw
  exact ⟨whole.self_mem_nodes, fun hMem =>
    Relation.notMem_nodes_of_mem_inputs hInput (hSource hMem)⟩

theorem OutputApart.simpleOr (h : p.OutputApart input) : (p.simpleOr input).OutputApart input := by
  unfold SelectPlan.simpleOr
  split
  · exact h
  · exact outputApart_of_none rfl input

theorem outputApart_ofRelation (h : ofRelation r = .ok p) : p.OutputApart r := by
  induction r generalizing p with
  | table | selfReference | sqlQuery | join =>
      cases h
      exact outputApart_of_none rfl _
  | selection id input projections predicates sortKeys ih =>
      rcases of_map_ok h with ⟨q, hq, rfl⟩
      have hInput : input ∈ (Relation.selection id input projections predicates sortKeys).inputs :=
        List.mem_singleton.2 rfl
      unfold addSelection
      simp only
      split
      · -- only the order changes, and the output stays
        exact (ih hq).above hInput rfl rfl
      · cases projections with
        | nil => exact (ih hq).simpleOr.above hInput rfl rfl
        | cons e es =>
            exact outputApart_of_whole hInput (drawnFrom_ofRelation hq).simpleOr.source rfl
  | aggregation id input keys metrics having ih =>
      rcases of_map_ok h with ⟨q, hq, rfl⟩
      exact outputApart_of_whole (List.mem_singleton.2 rfl)
        (drawnFrom_ofRelation hq).simpleOr.source rfl
  | limit id input count offset ih =>
      rcases of_map_ok h with ⟨q, hq, rfl⟩
      unfold addLimit
      split
      · exact outputApart_of_none rfl _
      · exact (ih hq).above (List.mem_singleton.2 rfl) rfl rfl
  | distinct id input ih =>
      rcases of_map_ok h with ⟨q, hq, rfl⟩
      unfold addDistinct
      split
      · exact outputApart_of_none rfl _
      · exact (ih hq).above (List.mem_singleton.2 rfl) rfl rfl
  | union => cases h

end SelectPlan

/-! ## Join chains -/

/-- The dialect has the join, in a chain that it can stand in: another join may be on its left
only. -/
structure Dialect.Joins (d : Dialect) (kind : JoinKind) (right : Relation)
    (predicates : List Expr) : Prop where
  right : right.isJoin = false
  predicates : d.checkJoinPredicates predicates = .ok ()
  label : ∃ label, d.joinLabel kind = .ok label

namespace JoinChain

/-- The chain is put together from nodes of a relation. -/
structure DrawnFrom (c : JoinChain) (r : Relation) : Prop where
  tables : ∀ t ∈ c.tables, t.nodes ⊆ r.nodes
  predicates : ∀ s ∈ c.steps, ∀ e ∈ s.predicates, ∃ m ∈ r.nodes, e ∈ m.exprs

/-- Reading a join tree as a chain goes down its left side, and checks every join on the way. -/
theorem of_ofRelation_join {d : Dialect} {id : Nat} {kind : JoinKind} {left right : Relation}
    {predicates : List Expr} {c : JoinChain}
    (h : ofRelation d (.join id kind left right predicates) = .ok c) :
    d.Joins kind right predicates ∧
      ∃ c', ofRelation d left = .ok c' ∧ c = c'.append ⟨id, kind, right, predicates⟩ := by
  rw [ofRelation] at h
  split at h
  · cases h
  · next hRight =>
    split at h
    · cases h
    · next hPredicates =>
      split at h
      · cases h
      · next label hLabel =>
        rcases of_map_ok h with ⟨c', hc', rfl⟩
        exact ⟨⟨by simpa using hRight, hPredicates, label, hLabel⟩, c', hc', rfl⟩

theorem drawnFrom_ofRelation {d : Dialect} {r : Relation} {c : JoinChain}
    (h : ofRelation d r = .ok c) : c.DrawnFrom r := by
  induction r generalizing c with
  | join id kind left right predicates ihLeft _ =>
      -- the left side is a chain by induction, and the right side is one more table
      rcases of_ofRelation_join h with ⟨-, c', hc', rfl⟩
      have hLeft := ihLeft hc'
      have hLeftNodes : left.nodes ⊆ (Relation.join id kind left right predicates).nodes :=
        Relation.nodes_subset_of_mem_inputs (by simp [Relation.inputs])
      have hRightNodes : right.nodes ⊆ (Relation.join id kind left right predicates).nodes :=
        Relation.nodes_subset_of_mem_inputs (by simp [Relation.inputs])
      constructor
      · intro t ht
        have ht : t ∈ c'.tables ∨ t = right := by
          simpa [tables, append, or_assoc] using ht
        rcases ht with ht | rfl
        · exact List.Subset.trans (hLeft.tables t ht) hLeftNodes
        · exact hRightNodes
      · intro s hs e he
        rcases List.mem_append.1 hs with hs | hs
        · rcases hLeft.predicates s hs e he with ⟨m, hm, hExpr⟩
          exact ⟨m, hLeftNodes hm, hExpr⟩
        · rw [List.mem_singleton] at hs
          subst hs
          exact ⟨_, Relation.self_mem_nodes _, he⟩
  | _ =>
      cases h
      exact ⟨by simp [tables], by simp⟩

end JoinChain

end TableQuery
