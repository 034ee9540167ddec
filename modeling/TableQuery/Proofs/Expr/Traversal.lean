import Mathlib.Data.List.Forall2
import TableQuery.Proofs.Expr.Induction
import TableQuery.Sql.JoinChain

/-!
# Traversal — what is visited in an expression, and in which order

What stands below a node is listed in one place (`children`), and gone through by the search for a
node (`anyNode`) and by rebuilding from the leaves up (`transformUp`), which know the kinds of nodes
by themselves. Both go by the list: a node satisfies the search if it has the property or one of its
children satisfies the search (`anyNode_eq`), and it is rebuilt from its rebuilt children, in order
(`transformUp_eq`).

An occurrence is a position with the node there, and a position tells which child to take at each
step down. Rebuilding with a step that may keep a state of its own (`visitUp`) hands over all
occurrences once, each behind those below it and those to the left of it (`handed_forall₂`). So
whatever holds of no node after a step, if it holds of none below before, holds of no node in the
end (`anyNode_visitUp`).
-/

namespace TableQuery
namespace Expr

/-! ## Children -/

/-- Sort keys with other expressions in them, as many as before. -/
def rekeyed (ks : List (SortKey Expr)) (es : List Expr) : List (SortKey Expr) :=
  (ks.zip es).map fun p => ⟨p.2, p.1.ascending⟩

theorem keys_rekeyed {ks : List (SortKey Expr)} {es : List Expr} (h : es.length = ks.length) :
    (rekeyed ks es).map (·.key) = es := by
  rw [rekeyed, List.map_map]
  exact List.map_snd_zip (Nat.le_of_eq h)

theorem rekeyed_map (ks : List (SortKey Expr)) (f : Expr → Expr) :
    rekeyed ks ((ks.map (·.key)).map f) = ks.map (SortKey.map f) := by
  induction ks with
  | nil => rfl
  | cons k ks ih =>
      rw [List.map_cons, List.map_cons, List.map_cons, ← ih]
      rfl

/-- The node with other expressions below it, as many as before. -/
def withChildren : Expr → List Expr → Expr
  | .call op _, cs => .call op cs
  | .udf name _ output, cs => .udf name cs output
  | .cast _ target, [c] => .cast c target
  | .alias _ name, [c] => .alias c name
  | .window _ partition order frame, func :: keys =>
    .window func (keys.take partition.length)
      (rekeyed order (keys.drop partition.length)) frame
  | e, _ => e

theorem children_withChildren {e : Expr} {cs : List Expr} (h : cs.length = e.children.length) :
    (e.withChildren cs).children = cs := by
  cases e with
  | column ref => exact (List.length_eq_zero_iff.1 h).symm
  | literal value => exact (List.length_eq_zero_iff.1 h).symm
  | call op args => rfl
  | cast arg target =>
      rcases List.length_eq_one_iff.1 h with ⟨c, rfl⟩
      rfl
  | «alias» expr name =>
      rcases List.length_eq_one_iff.1 h with ⟨c, rfl⟩
      rfl
  | window func partition order frame =>
      cases cs with
      | nil => cases h
      | cons c keys =>
          simp only [children, List.length_cons, List.length_append, List.length_map,
            Nat.add_right_cancel_iff] at h
          have hOrder : (keys.drop partition.length).length = order.length := by
            rw [List.length_drop]
            omega
          rw [withChildren, children, keys_rekeyed hOrder, List.take_append_drop]
  | udf name args output => rfl

theorem withChildren_map (e : Expr) (f : Expr → Expr) :
    e.withChildren (e.children.map f) =
      match e with
      | .column ref => .column ref
      | .literal value => .literal value
      | .call op args => .call op (args.map f)
      | .cast arg target => .cast (f arg) target
      | .alias expr name => .alias (f expr) name
      | .window func partition order frame =>
        .window (f func) (partition.map f) (order.map (SortKey.map f)) frame
      | .udf name args output => .udf name (args.map f) output := by
  cases e with
  | window func partition order frame =>
      have hPartition : (partition.map f).length = partition.length := List.length_map f
      rw [children, List.map_cons, List.map_append, withChildren, List.take_left' hPartition,
        List.drop_left' hPartition, rekeyed_map]
  | _ => rfl

theorem withChildren_children (e : Expr) : e.withChildren e.children = e := by
  have hMap := withChildren_map e id
  rw [List.map_id] at hMap
  rw [hMap]
  cases e with
  | window func partition order frame =>
      have hOrder : order.map (SortKey.map id) = order := List.map_id order
      simp [hOrder]
  | _ => simp

/-! ## One step of a traversal -/

theorem anyNodeList_eq_any (p : Expr → Bool) (es : List Expr) :
    anyNodeList p es = es.any (anyNode p) := by
  induction es with
  | nil => rfl
  | cons e es ih => rw [anyNodeList, ih, List.any_cons]

theorem anyNodeKeys_eq_any (p : Expr → Bool) (ks : List (SortKey Expr)) :
    anyNodeKeys p ks = (ks.map (·.key)).any (anyNode p) := by
  induction ks with
  | nil => rfl
  | cons k ks ih => rw [anyNodeKeys, ih, List.map_cons, List.any_cons]

/-- Whether some node has a property is asked of the node itself and of its children. -/
theorem anyNode_eq (p : Expr → Bool) (e : Expr) :
    e.anyNode p = (p e || e.children.any (anyNode p)) := by
  cases e <;>
    simp [anyNode, children, anyNodeList_eq_any, anyNodeKeys_eq_any, Bool.or_assoc]

/-- A node is rebuilt from its rebuilt children. -/
theorem transformUp_eq (f : Expr → Expr) (e : Expr) :
    e.transformUp f = f (e.withChildren (e.children.map (transformUp f))) := by
  rw [withChildren_map]
  cases e <;> simp only [transformUp, transformList_eq_map, transformKeys_eq_map]

section Visit

variable {σ : Type}

mutual

/-- Rebuilds the tree from the leaves up by a step that may keep a state. -/
def visitUp (f : Expr → σ → Expr × σ) : Expr → σ → Expr × σ
  | .column ref, s => f (.column ref) s
  | .literal value, s => f (.literal value) s
  | .call op args, s =>
    let rest := visitList f args s
    f (.call op rest.1) rest.2
  | .cast arg target, s =>
    let rest := visitUp f arg s
    f (.cast rest.1 target) rest.2
  | .alias expr name, s =>
    let rest := visitUp f expr s
    f (.alias rest.1 name) rest.2
  | .window func partition order frame, s =>
    let first := visitUp f func s
    let second := visitList f partition first.2
    let third := visitKeys f order second.2
    f (.window first.1 second.1 third.1 frame) third.2
  | .udf name args output, s =>
    let rest := visitList f args s
    f (.udf name rest.1 output) rest.2

/-- Rebuilds each of the trees, one after another. -/
def visitList (f : Expr → σ → Expr × σ) : List Expr → σ → List Expr × σ
  | [], s => ([], s)
  | e :: es, s =>
    let first := visitUp f e s
    let rest := visitList f es first.2
    (first.1 :: rest.1, rest.2)

/-- Rebuilds the expression of each sort key, one after another. -/
def visitKeys (f : Expr → σ → Expr × σ) : List (SortKey Expr) → σ → List (SortKey Expr) × σ
  | [], s => ([], s)
  | ⟨e, up⟩ :: ks, s =>
    let first := visitUp f e s
    let rest := visitKeys f ks first.2
    (⟨first.1, up⟩ :: rest.1, rest.2)

end

variable {f : Expr → σ → Expr × σ}

@[simp] theorem length_visitList (es : List Expr) (s : σ) :
    (visitList f es s).1.length = es.length := by
  induction es generalizing s with
  | nil => rfl
  | cons e es ih => rw [visitList, List.length_cons, ih, List.length_cons]

theorem visitList_append (es es' : List Expr) (s : σ) :
    visitList f (es ++ es') s =
      ((visitList f es s).1 ++ (visitList f es' (visitList f es s).2).1,
        (visitList f es' (visitList f es s).2).2) := by
  induction es generalizing s with
  | nil => rfl
  | cons e es ih => simp only [List.cons_append, visitList, ih]

theorem visitKeys_eq (ks : List (SortKey Expr)) (s : σ) :
    visitKeys f ks s =
      (rekeyed ks (visitList f (ks.map (·.key)) s).1, (visitList f (ks.map (·.key)) s).2) := by
  induction ks generalizing s with
  | nil => rfl
  | cons k ks ih => simp only [visitKeys, ih, List.map_cons, visitList, rekeyed, List.zip_cons_cons]

/-- The step comes to a node when it has been through the children, in order. -/
theorem visitUp_eq (e : Expr) (s : σ) :
    visitUp f e s =
      f (e.withChildren (visitList f e.children s).1) (visitList f e.children s).2 := by
  cases e with
  | window func partition order frame =>
      have hPartition (s : σ) : (visitList f partition s).1.length = partition.length :=
        length_visitList partition s
      simp only [visitUp, children, visitList, visitList_append, visitKeys_eq, withChildren,
        List.take_left' (hPartition _), List.drop_left' (hPartition _)]
  | _ => rfl

theorem visitList_of_stateless {g : Expr → Expr} {es : List Expr}
    (h : ∀ e ∈ es, ∀ s : σ, visitUp (fun n s => (g n, s)) e s = (e.transformUp g, s)) (s : σ) :
    visitList (fun n s => (g n, s)) es s = (es.map (transformUp g), s) := by
  induction es with
  | nil => rfl
  | cons e es ih =>
      rcases List.forall_mem_cons.1 h with ⟨he, hes⟩
      simp only [visitList, he s, ih hes, List.map_cons]

/-- A step without a state rebuilds as it does by itself. -/
theorem visitUp_stateless (g : Expr → Expr) (e : Expr) (s : σ) :
    visitUp (fun n s => (g n, s)) e s = (e.transformUp g, s) := by
  induction e using childrenInduction generalizing s with
  | node e ih => rw [visitUp_eq, visitList_of_stateless ih, transformUp_eq]

end Visit

/-! ## Occurrences -/

/-- The node at a position, which tells which child to take at each step down. -/
def subterm? : Expr → List Nat → Option Expr
  | e, [] => some e
  | e, i :: path => e.children[i]?.bind fun c => c.subterm? path

/-- The occurrences below a node from those in each of its children, which are numbered from a
number on. -/
def numbered (start : Nat) : List (List (List Nat × Expr)) → List (List Nat × Expr)
  | [] => []
  | os :: oss => os.map (fun o => (start :: o.1, o.2)) ++ numbered (start + 1) oss

/-- The nodes with their positions, each behind those below it. -/
def occurrences (e : Expr) : List (List Nat × Expr) :=
  numbered 0 (e.children.attach.map fun c => c.1.occurrences) ++ [([], e)]
termination_by sizeOf e
decreasing_by exact sizeOf_lt_of_mem_children c.2

theorem occurrences_eq (e : Expr) :
    e.occurrences = numbered 0 (e.children.map occurrences) ++ [([], e)] := by
  rw [occurrences, List.attach_map_val]

/-- A position comes before the one of a node that it is below, and before any that branches off to
its right. -/
inductive Before : List Nat → List Nat → Prop where
  | inside {i : Nat} {path : List Nat} : Before (i :: path) []
  | left {i j : Nat} {path path' : List Nat} (h : i < j) : Before (i :: path) (j :: path')
  | under {i : Nat} {path path' : List Nat} (h : Before path path') :
      Before (i :: path) (i :: path')

theorem Before.ne {path path' : List Nat} (h : Before path path') : path ≠ path' := by
  induction h with
  | inside => simp
  | left h => exact fun hSame => Nat.ne_of_lt h (List.cons.inj hSame).1
  | under _ ih => exact fun hSame => ih (List.cons.inj hSame).2

theorem mem_numbered_iff {start : Nat} {oss : List (List (List Nat × Expr))} {path : List Nat}
    {n : Expr} :
    (path, n) ∈ numbered start oss ↔
      ∃ i rest os, path = (start + i) :: rest ∧ oss[i]? = some os ∧ (rest, n) ∈ os := by
  induction oss generalizing start with
  | nil => simp [numbered]
  | cons os oss ih =>
      rw [numbered, List.mem_append, ih]
      constructor
      · rintro (hFirst | ⟨i, rest, os', rfl, hPlace, hMem⟩)
        · rcases List.mem_map.1 hFirst with ⟨⟨rest, n'⟩, hMem, hSame⟩
          cases hSame
          exact ⟨0, rest, os, rfl, rfl, hMem⟩
        · refine ⟨i + 1, rest, os', ?_, hPlace, hMem⟩
          rw [Nat.add_right_comm, Nat.add_assoc]
      · rintro ⟨i, rest, os', rfl, hPlace, hMem⟩
        cases i with
        | zero =>
            cases hPlace
            exact .inl (List.mem_map.2 ⟨(rest, n), hMem, rfl⟩)
        | succ i =>
            refine .inr ⟨i, rest, os', ?_, hPlace, hMem⟩
            rw [Nat.add_right_comm, Nat.add_assoc]

/-- The occurrences are the nodes that are reached by going from a node to one of its children. -/
theorem mem_occurrences_iff {e n : Expr} {path : List Nat} :
    (path, n) ∈ e.occurrences ↔ e.subterm? path = some n := by
  induction e using childrenInduction generalizing path n with
  | node e ih =>
    rw [occurrences_eq, List.mem_append, mem_numbered_iff, List.mem_singleton]
    cases path with
    | nil => simp [subterm?, eq_comm]
    | cons i path =>
        simp only [subterm?, Option.bind_eq_some_iff]
        constructor
        · rintro (⟨j, rest, os, hPath, hPlace, hMem⟩ | hSame)
          · rw [Nat.zero_add, List.cons.injEq] at hPath
            rcases hPath with ⟨rfl, rfl⟩
            rw [List.getElem?_map, Option.map_eq_some_iff] at hPlace
            rcases hPlace with ⟨c, hChild, rfl⟩
            exact ⟨c, hChild, (ih c (List.mem_of_getElem? hChild)).1 hMem⟩
          · cases hSame
        · rintro ⟨c, hChild, hSub⟩
          refine .inl ⟨i, path, c.occurrences, by rw [Nat.zero_add], ?_, ?_⟩
          · rw [List.getElem?_map, hChild]
            rfl
          · exact (ih c (List.mem_of_getElem? hChild)).2 hSub

theorem pairwise_numbered {start : Nat} {oss : List (List (List Nat × Expr))}
    (h : ∀ os ∈ oss, os.Pairwise fun o o' => Before o.1 o'.1) :
    (numbered start oss).Pairwise fun o o' => Before o.1 o'.1 := by
  induction oss generalizing start with
  | nil => exact .nil
  | cons os oss ih =>
      rcases List.forall_mem_cons.1 h with ⟨hFirst, hRest⟩
      rw [numbered, List.pairwise_append, List.pairwise_map]
      refine ⟨hFirst.imp .under, ih hRest, ?_⟩
      -- what is numbered later is to the right
      rintro o ho ⟨path, n⟩ hLater
      rcases List.mem_map.1 ho with ⟨o', -, rfl⟩
      rcases mem_numbered_iff.1 hLater with ⟨i, rest, _, rfl, -, -⟩
      exact .left (by omega)

theorem pairwise_occurrences (e : Expr) :
    e.occurrences.Pairwise fun o o' => Before o.1 o'.1 := by
  induction e using childrenInduction with
  | node e ih =>
    rw [occurrences_eq, List.pairwise_append]
    refine ⟨pairwise_numbered (List.forall_mem_map.2 ih), List.pairwise_singleton _ _, ?_⟩
    -- what is below the node has a position that goes on
    rintro ⟨path, n⟩ ho o' ho'
    rcases mem_numbered_iff.1 ho with ⟨i, rest, _, rfl, -, -⟩
    rw [List.mem_singleton.1 ho']
    exact .inside

theorem nodup_positions (e : Expr) : (e.occurrences.map (·.1)).Nodup := by
  rw [List.Nodup, List.pairwise_map]
  exact (pairwise_occurrences e).imp Before.ne

/-! ## What the step is handed -/

section Handed

variable {σ : Type} {f : Expr → σ → Expr × σ}

/-- The step, with a note of every node that it is handed. -/
def noting (f : Expr → σ → Expr × σ) (n : Expr) (s : List Expr × σ) : Expr × (List Expr × σ) :=
  let result := f n s.2
  (result.1, s.1 ++ [n], result.2)

/-- The nodes that the step is handed, in order. -/
def handed (f : Expr → σ → Expr × σ) (e : Expr) (s : σ) : List Expr :=
  (visitUp (noting f) e ([], s)).2.1

/-- A node in place of an occurrence: with what the children there have been rebuilt to. -/
def IsHandedFor (f : Expr → σ → Expr × σ) (o : List Nat × Expr) (n : Expr) : Prop :=
  ∃ s, n = o.2.withChildren (visitList f o.2.children s).1

theorem forall₂_numbered_cons {start : Nat} {os : List (List Nat × Expr)}
    {oss : List (List (List Nat × Expr))} {ns ns' : List Expr}
    (h : List.Forall₂ (IsHandedFor f) os ns)
    (h' : List.Forall₂ (IsHandedFor f) (numbered (start + 1) oss) ns') :
    List.Forall₂ (IsHandedFor f) (numbered start (os :: oss)) (ns ++ ns') := by
  have hFirst : List.Forall₂ (IsHandedFor f) (os.map fun o => (start :: o.1, o.2)) ns :=
    List.forall₂_map_left_iff.2 h
  exact List.rel_append hFirst h'

/-- Taking notes changes nothing else of a traversal, and the notes are one node for each
occurrence. -/
def IsNoted (f : Expr → σ → Expr × σ) (e : Expr) : Prop :=
  ∀ seen s, ∃ ns, visitUp (noting f) e (seen, s) =
      ((visitUp f e s).1, seen ++ ns, (visitUp f e s).2) ∧
    List.Forall₂ (IsHandedFor f) e.occurrences ns

theorem exists_notes {es : List Expr} (h : ∀ e ∈ es, IsNoted f e) (start : Nat)
    (seen : List Expr) (s : σ) :
    ∃ ns, visitList (noting f) es (seen, s) =
        ((visitList f es s).1, seen ++ ns, (visitList f es s).2) ∧
      List.Forall₂ (IsHandedFor f) (numbered start (es.map occurrences)) ns := by
  induction es generalizing start seen s with
  | nil => exact ⟨[], by simp [visitList], .nil⟩
  | cons e es ih =>
      rcases List.forall_mem_cons.1 h with ⟨he, hes⟩
      rcases he seen s with ⟨ns, hFirst, hHanded⟩
      rcases ih hes (start + 1) (seen ++ ns) (visitUp f e s).2 with ⟨ns', hRest, hHanded'⟩
      refine ⟨ns ++ ns', ?_, forall₂_numbered_cons hHanded hHanded'⟩
      simp only [visitList, hFirst, hRest, List.append_assoc]

theorem isNoted (f : Expr → σ → Expr × σ) (e : Expr) : IsNoted f e := by
  induction e using childrenInduction with
  | node e ih =>
    intro seen s
    -- behind the notes on the children comes the one on the node itself
    rcases exists_notes ih 0 seen s with ⟨ns, hChildren, hHanded⟩
    refine ⟨ns ++ [e.withChildren (visitList f e.children s).1], ?_, ?_⟩
    · rw [visitUp_eq, hChildren, visitUp_eq]
      simp only [noting, List.append_assoc]
    · rw [occurrences_eq]
      exact List.rel_append hHanded (.cons ⟨s, rfl⟩ .nil)

/-- The step is handed one node for each occurrence, in their order. -/
theorem handed_forall₂ (f : Expr → σ → Expr × σ) (e : Expr) (s : σ) :
    List.Forall₂ (IsHandedFor f) e.occurrences (handed f e s) := by
  rcases isNoted f e [] s with ⟨ns, hVisit, hHanded⟩
  rw [handed, hVisit]
  exact hHanded

/-- Without a state the nodes handed over are those of the expression, rebuilt below. -/
theorem handed_stateless (g : Expr → Expr) (e : Expr) (s : σ) :
    handed (fun n s => (g n, s)) e s =
      e.occurrences.map fun o => o.2.withChildren (o.2.children.map (transformUp g)) := by
  have hEach (o : List Nat × Expr) (n : Expr) : IsHandedFor (fun n (s : σ) => (g n, s)) o n →
      o.2.withChildren (o.2.children.map (transformUp g)) = n := by
    rintro ⟨s, rfl⟩
    rw [visitList_of_stateless fun c _ => visitUp_stateless g c]
  have hAll := (handed_forall₂ (fun n s => (g n, s)) e s).imp hEach
  rw [← List.forall₂_map_left_iff (f := fun o : List Nat × Expr =>
    o.2.withChildren (o.2.children.map (transformUp g))), List.forall₂_eq_eq_eq] at hAll
  exact hAll.symm

/-- A step that gives every node back gives the expression back. -/
theorem transformUp_id (e : Expr) : e.transformUp id = e := by
  induction e using childrenInduction with
  | node e ih =>
    have hChildren : e.children.map (transformUp id) = e.children.map id := List.map_congr_left ih
    rw [transformUp_eq, hChildren, List.map_id, withChildren_children]
    rfl

theorem handed_id (e : Expr) (s : σ) :
    handed (fun n s => (n, s)) e s = e.occurrences.map (·.2) := by
  have hHanded := handed_stateless id e s
  have hChildren (n : Expr) : n.children.map (transformUp id) = n.children := by
    rw [List.map_congr_left fun c _ => transformUp_id c, List.map_id']
  simp only [hChildren, withChildren_children] at hHanded
  exact hHanded

end Handed

/-! ## Properties of nodes -/

/-- A node has the property if some occurrence has. -/
theorem anyNode_eq_true_iff {p : Expr → Bool} {e : Expr} :
    e.anyNode p = true ↔ ∃ path n, e.subterm? path = some n ∧ p n = true := by
  induction e using childrenInduction with
  | node e ih =>
    rw [anyNode_eq, Bool.or_eq_true, List.any_eq_true]
    constructor
    · rintro (hSelf | ⟨c, hc, hAny⟩)
      · exact ⟨[], e, rfl, hSelf⟩
      · rcases (ih c hc).1 hAny with ⟨path, n, hSub, hn⟩
        rcases List.mem_iff_getElem?.1 hc with ⟨i, hChild⟩
        refine ⟨i :: path, n, ?_, hn⟩
        rw [subterm?, hChild, Option.bind_some, hSub]
    · rintro ⟨path, n, hSub, hn⟩
      cases path with
      | nil =>
          cases hSub
          exact .inl hn
      | cons i path =>
          rcases Option.bind_eq_some_iff.1 hSub with ⟨c, hChild, hSub⟩
          have hc := List.mem_of_getElem? hChild
          exact .inr ⟨c, hc, (ih c hc).2 ⟨path, n, hSub, hn⟩⟩

/-- No node below has the property exactly if no child satisfies the search. -/
theorem forall_below_iff {p : Expr → Bool} {e : Expr} :
    (∀ i path n, e.subterm? (i :: path) = some n → p n = false) ↔
      ∀ c ∈ e.children, c.anyNode p = false := by
  constructor
  · intro h c hc
    rw [Bool.eq_false_iff]
    intro hAny
    rcases anyNode_eq_true_iff.1 hAny with ⟨path, n, hSub, hn⟩
    rcases List.mem_iff_getElem?.1 hc with ⟨i, hChild⟩
    have hNot := h i path n (by rw [subterm?, hChild, Option.bind_some, hSub])
    rw [hn] at hNot
    cases hNot
  · intro h i path n hSub
    rcases Option.bind_eq_some_iff.1 hSub with ⟨c, hChild, hSub⟩
    rw [Bool.eq_false_iff]
    intro hn
    have hAny := anyNode_eq_true_iff.2 ⟨path, n, hSub, hn⟩
    rw [h c (List.mem_of_getElem? hChild)] at hAny
    cases hAny

theorem anyNode_of_mem_visitList {σ : Type} {f : Expr → σ → Expr × σ} {p : Expr → Bool}
    {es : List Expr} (h : ∀ e ∈ es, ∀ s, (visitUp f e s).1.anyNode p = false) (s : σ) :
    ∀ e ∈ (visitList f es s).1, e.anyNode p = false := by
  induction es generalizing s with
  | nil => simp [visitList]
  | cons e es ih =>
      rcases List.forall_mem_cons.1 h with ⟨he, hes⟩
      exact List.forall_mem_cons.2 ⟨he s, ih hes _⟩

/-- A step that leaves no node with a property, where there was none below, leaves none at all. -/
theorem anyNode_visitUp {σ : Type} {f : Expr → σ → Expr × σ} {p : Expr → Bool}
    (h : ∀ x s, (∀ i path n, x.subterm? (i :: path) = some n → p n = false) →
      (f x s).1.anyNode p = false) (e : Expr) (s : σ) : (visitUp f e s).1.anyNode p = false := by
  induction e using childrenInduction generalizing s with
  | node e ih =>
    rw [visitUp_eq]
    refine h _ _ (forall_below_iff.2 ?_)
    rw [children_withChildren (length_visitList _ _)]
    exact anyNode_of_mem_visitList ih s

theorem anyNode_transformUp {f : Expr → Expr} {p : Expr → Bool}
    (h : ∀ x, (∀ i path n, x.subterm? (i :: path) = some n → p n = false) →
      (f x).anyNode p = false) (e : Expr) : (e.transformUp f).anyNode p = false := by
  have hVisit := anyNode_visitUp (σ := Unit) (f := fun n s => (f n, s)) (fun x _ => h x) e ()
  rw [visitUp_stateless] at hVisit
  exact hVisit

/-- The occurrences in an expression are the nodes that can be reached by going from a node to one
of its children, each with the position that leads to it, once, and behind those below it and to the
left of it. Rebuilding hands over one node for each of them, in this order: the node there, with its
children rebuilt, by a step with a state and by one without; if the step gives nodes back as they
are, these are the very nodes of the expression, and what is rebuilt is the expression itself. The
search for a node finds it exactly if some occurrence has the property. If a step leaves no node
with a property wherever there is none below, then no node of what is rebuilt has it. -/
theorem traversals_agree (e : Expr) :
    ((∀ path n, (path, n) ∈ e.occurrences ↔ e.subterm? path = some n) ∧
      (e.occurrences.map (·.1)).Nodup ∧
      e.occurrences.Pairwise fun o o' => Before o.1 o'.1) ∧
    (∀ (σ : Type) (f : Expr → σ → Expr × σ) (s : σ),
      List.Forall₂ (fun o n => ∃ s', n = o.2.withChildren (visitList f o.2.children s').1)
        e.occurrences (handed f e s)) ∧
    (∀ f : Expr → Expr, visitUp (fun n s => (f n, s)) e () = (e.transformUp f, ()) ∧
      handed (fun n s => (f n, s)) e () =
        e.occurrences.map fun o => o.2.withChildren (o.2.children.map (transformUp f))) ∧
    (handed (fun n s => (n, s)) e () = e.occurrences.map (·.2) ∧ e.transformUp id = e) ∧
    (∀ p : Expr → Bool,
      e.anyNode p = true ↔ ∃ path n, e.subterm? path = some n ∧ p n = true) ∧
    (∀ (p : Expr → Bool) (σ : Type) (f : Expr → σ → Expr × σ),
      (∀ x s, (∀ i path n, x.subterm? (i :: path) = some n → p n = false) →
        (f x s).1.anyNode p = false) → ∀ s, (visitUp f e s).1.anyNode p = false) ∧
    ∀ (p : Expr → Bool) (f : Expr → Expr),
      (∀ x, (∀ i path n, x.subterm? (i :: path) = some n → p n = false) →
        (f x).anyNode p = false) → (e.transformUp f).anyNode p = false :=
  ⟨⟨fun _ _ => mem_occurrences_iff, nodup_positions e, pairwise_occurrences e⟩,
    fun _ f s => handed_forall₂ f e s,
    fun f => ⟨visitUp_stateless f e (), handed_stateless f e ()⟩,
    ⟨handed_id e (), transformUp_id e⟩, fun _ => anyNode_eq_true_iff,
    fun _ _ _ h s => anyNode_visitUp h e s, fun _ _ h => anyNode_transformUp h e⟩

/-- Whether the node gives a name. -/
def isNamed : Expr → Bool
  | .alias _ _ => true
  | _ => false

/-- A sum over a window, with names in the operand and in both kinds of keys. -/
def namedWindow : Expr :=
  .window (.call .sum [.alias (.literal (.int 1)) "x"])
    [.alias (.literal (.int 2)) "y"] [⟨.alias (.literal (.int 3)) "z", false⟩] none

/-- Names are gone from the keys of a window as well, whose order stays. -/
theorem traversals_agree_namedWindow :
    (∀ x, (∀ i path n, x.subterm? (i :: path) = some n → isNamed n = false) →
      (unnamed x).anyNode isNamed = false) ∧
    namedWindow.anyNode isNamed = true ∧
    namedWindow.transformUp unnamed =
      .window (.call .sum [.literal (.int 1)]) [.literal (.int 2)] [⟨.literal (.int 3), false⟩]
        none ∧
    (namedWindow.transformUp unnamed).anyNode isNamed = false := by
  have hStep : ∀ x, (∀ i path n, x.subterm? (i :: path) = some n → isNamed n = false) →
      (unnamed x).anyNode isNamed = false := by
    intro x hBelow
    have hChildren := forall_below_iff.1 hBelow
    cases x with
    | «alias» expr name => exact hChildren expr (List.mem_singleton.2 rfl)
    | _ =>
        -- any other node stays, and has no name itself
        rw [anyNode_eq, Bool.or_eq_false_iff, List.any_eq_false]
        exact ⟨rfl, fun c hc => Bool.eq_false_iff.1 (hChildren c hc)⟩
  exact ⟨hStep, rfl, rfl, (traversals_agree namedWindow).2.2.2.2.2.2 isNamed unnamed hStep⟩

/-- The operands of a product are visited before it, with all that is below them. -/
example (a : ColumnRef) :
    handed (fun n s => (n, s)) (.call .multiply [.call .add [.column a, .literal (.int 1)],
        .literal (.int 2)]) () =
      [.column a, .literal (.int 1), .call .add [.column a, .literal (.int 1)], .literal (.int 2),
        .call .multiply [.call .add [.column a, .literal (.int 1)], .literal (.int 2)]] := rfl

end Expr
end TableQuery
