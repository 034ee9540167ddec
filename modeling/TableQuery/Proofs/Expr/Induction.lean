import TableQuery.Expr.Basic

/-!
# Induction — one principle for expressions and the lists in them

An expression holds expressions in lists, and a window holds them in sort keys. This file gives

* `Expr.childrenInduction`, which goes from the children of a node to the node, and by kinds of nodes
  `Expr.inductionOn`, whose hypotheses speak of every member of these lists, and
  `Expr.writtenInduction`, which goes to the operands of a function over a window past the function;
* the traversals of lists as maps and quantifiers, so that a fact about all expressions needs one
  proof and not one for expressions, one for lists and one for sort keys;
* `Expr.Without`, which says that no call of some kind stands anywhere in an expression, and
  `Expr.Within`, which says that an expression stands somewhere in another.
-/

namespace TableQuery
namespace Expr

theorem sizeOf_lt_of_mem_children {c e : Expr} (h : c ∈ e.children) : sizeOf c < sizeOf e := by
  cases e with
  | column ref => cases h
  | literal value => cases h
  | call op args =>
      have hLt : sizeOf c < sizeOf args := List.sizeOf_lt_of_mem h
      simp only [Expr.call.sizeOf_spec]
      omega
  | cast arg target =>
      rw [List.mem_singleton.1 h, Expr.cast.sizeOf_spec]
      omega
  | «alias» expr name =>
      rw [List.mem_singleton.1 h, Expr.alias.sizeOf_spec]
      omega
  | window func partition order frame =>
      simp only [children, List.mem_cons, List.mem_append, List.mem_map] at h
      simp only [Expr.window.sizeOf_spec]
      rcases h with rfl | hPartition | ⟨k, hOrder, rfl⟩
      · omega
      · have hLt : sizeOf c < sizeOf partition := List.sizeOf_lt_of_mem hPartition
        omega
      · have hLt : sizeOf k < sizeOf order := List.sizeOf_lt_of_mem hOrder
        have hKey : sizeOf k.key < sizeOf k := by
          rcases k with ⟨key, up⟩
          simp only [SortKey.mk.sizeOf_spec]
          omega
        omega
  | udf name args output =>
      have hLt : sizeOf c < sizeOf args := List.sizeOf_lt_of_mem h
      simp only [Expr.udf.sizeOf_spec]
      omega

/-- Induction over expressions from the children up. -/
@[elab_as_elim]
theorem childrenInduction {P : Expr → Prop} (node : ∀ e, (∀ c ∈ e.children, P c) → P e)
    (e : Expr) : P e :=
  node e fun c _ => childrenInduction node c
termination_by sizeOf e
decreasing_by
  rename_i hc
  exact sizeOf_lt_of_mem_children hc

/-- Induction over expressions: a property holds of a node if it holds of all that stands directly
below the node. -/
@[elab_as_elim, induction_eliminator]
theorem inductionOn {P : Expr → Prop} (column : ∀ ref, P (.column ref))
    (literal : ∀ value, P (.literal value))
    (call : ∀ op args, (∀ a ∈ args, P a) → P (.call op args))
    (cast : ∀ arg target, P arg → P (.cast arg target))
    (aliased : ∀ expr name, P expr → P (.alias expr name))
    (window : ∀ func partition order frame, P func → (∀ p ∈ partition, P p) →
      (∀ k ∈ order, P k.key) → P (.window func partition order frame))
    (udf : ∀ name args output, (∀ a ∈ args, P a) → P (.udf name args output)) (e : Expr) : P e := by
  induction e using childrenInduction with
  | node e ih =>
    cases e with
    | column ref => exact column ref
    | literal value => exact literal value
    | call op args => exact call op args ih
    | cast arg target => exact cast arg target (ih arg (List.mem_singleton.2 rfl))
    | «alias» expr name => exact aliased expr name (ih expr (List.mem_singleton.2 rfl))
    | window func partition order frame =>
        refine window func partition order frame (ih func List.mem_cons_self) ?_ ?_
        · intro p hp
          exact ih p (List.mem_cons_of_mem _ (List.mem_append_left _ hp))
        · intro k hk
          have hKey : k.key ∈ order.map (·.key) := List.mem_map.2 ⟨k, hk, rfl⟩
          exact ih k.key (List.mem_cons_of_mem _ (List.mem_append_right _ hKey))
    | udf name args output => exact udf name args output ih

/-- Induction over expressions as they are written: of a function over a window, the operands are
written and the call of the function itself is not, and anything else over a window is refused
without being looked at. -/
@[elab_as_elim]
theorem writtenInduction {P : Expr → Prop} (column : ∀ ref, P (.column ref))
    (literal : ∀ value, P (.literal value))
    (call : ∀ op args, (∀ a ∈ args, P a) → P (.call op args))
    (cast : ∀ arg target, P arg → P (.cast arg target))
    (aliased : ∀ expr name, P expr → P (.alias expr name))
    (window : ∀ op args partition order frame, (∀ a ∈ args, P a) → (∀ p ∈ partition, P p) →
      (∀ k ∈ order, P k.key) → P (.window (.call op args) partition order frame))
    (misplaced : ∀ func partition order frame, (∀ op args, func ≠ .call op args) →
      P (.window func partition order frame))
    (udf : ∀ name args output, (∀ a ∈ args, P a) → P (.udf name args output)) (e : Expr) : P e := by
  -- the operands are carried along, since the property of a call says nothing of them
  suffices h : P e ∧ ∀ op args, e = .call op args → ∀ a ∈ args, P a from h.1
  induction e with
  | column ref => exact ⟨column ref, by simp⟩
  | literal value => exact ⟨literal value, by simp⟩
  | call op args ih =>
      have hArgs : ∀ a ∈ args, P a := fun a ha => (ih a ha).1
      refine ⟨call op args hArgs, ?_⟩
      rintro _ _ ⟨⟩
      exact hArgs
  | cast arg target ih => exact ⟨cast arg target ih.1, by simp⟩
  | aliased expr name ih => exact ⟨aliased expr name ih.1, by simp⟩
  | window func partition order frame ihFunc ihPartition ihOrder =>
      refine ⟨?_, by simp⟩
      cases func with
      | call op args =>
          exact window op args partition order frame (ihFunc.2 op args rfl)
            (fun p hp => (ihPartition p hp).1) fun k hk => (ihOrder k hk).1
      | _ => exact misplaced _ partition order frame (by simp)
  | udf name args output ih => exact ⟨udf name args output fun a ha => (ih a ha).1, by simp⟩

/-! ## Rebuilding -/

theorem transformList_eq_map (f : Expr → Expr) (es : List Expr) :
    transformList f es = es.map (transformUp f) := by
  induction es with
  | nil => rfl
  | cons e es ih => simp [transformList, ih]

theorem transformKeys_eq_map (f : Expr → Expr) (ks : List (SortKey Expr)) :
    transformKeys f ks = ks.map (SortKey.map (transformUp f)) := by
  induction ks with
  | nil => rfl
  | cons k ks ih => simp [transformKeys, SortKey.map, ih]

/-- What leaves each member of a list alone leaves the list alone. -/
theorem transformList_eq_self {f : Expr → Expr} {es : List Expr}
    (h : ∀ e ∈ es, e.transformUp f = e) : transformList f es = es := by
  calc transformList f es
      = es.map (transformUp f) := transformList_eq_map f es
    _ = es.map id := List.map_congr_left h
    _ = es := List.map_id es

theorem transformKeys_eq_self {f : Expr → Expr} {ks : List (SortKey Expr)}
    (h : ∀ k ∈ ks, k.key.transformUp f = k.key) : transformKeys f ks = ks := by
  have hKey : ∀ k ∈ ks, k.map (transformUp f) = id k := by
    intro k hk
    simp [SortKey.map, h k hk]
  calc transformKeys f ks
      = ks.map (SortKey.map (transformUp f)) := transformKeys_eq_map f ks
    _ = ks.map id := List.map_congr_left hKey
    _ = ks := List.map_id ks

/-! ## Nodes -/

theorem anyNodeList_eq_false {p : Expr → Bool} {es : List Expr} :
    anyNodeList p es = false ↔ ∀ e ∈ es, e.anyNode p = false := by
  induction es with
  | nil => simp [anyNodeList]
  | cons e es ih => simp [anyNodeList, ih]

theorem anyNodeKeys_eq_false {p : Expr → Bool} {ks : List (SortKey Expr)} :
    anyNodeKeys p ks = false ↔ ∀ k ∈ ks, k.key.anyNode p = false := by
  induction ks with
  | nil => simp [anyNodeKeys]
  | cons k ks ih => simp [anyNodeKeys, ih]

/-! ## Calls -/

/-- Whether the node is a call of an operation, and with a number of arguments, that a condition
admits. -/
def isCallWith (p : Operation → Nat → Bool) : Expr → Bool
  | .call op args => p op args.length
  | _ => false

/-- No call anywhere in the expression meets the condition. -/
def Without (p : Operation → Nat → Bool) (e : Expr) : Prop :=
  e.anyNode (isCallWith p) = false

section Without

variable {p : Operation → Nat → Bool}

@[simp]
theorem without_column (ref : ColumnRef) : (column ref).Without p := rfl

@[simp]
theorem without_literal (value : Literal) : (literal value).Without p := rfl

@[simp]
theorem without_call {op : Operation} {args : List Expr} :
    (call op args).Without p ↔ p op args.length = false ∧ ∀ a ∈ args, a.Without p := by
  simp [Without, anyNode, isCallWith, anyNodeList_eq_false]

@[simp]
theorem without_cast {arg : Expr} {target : DataType} :
    (cast arg target).Without p ↔ arg.Without p := by
  simp [Without, anyNode, isCallWith]

@[simp]
theorem without_alias {expr : Expr} {name : String} :
    (Expr.alias expr name).Without p ↔ expr.Without p := by
  simp [Without, anyNode, isCallWith]

@[simp]
theorem without_window {func : Expr} {partition : List Expr} {order : List (SortKey Expr)}
    {frame : Option WindowFrame} :
    (window func partition order frame).Without p ↔
      func.Without p ∧ (∀ e ∈ partition, e.Without p) ∧ ∀ k ∈ order, k.key.Without p := by
  simp [Without, anyNode, isCallWith, anyNodeList_eq_false, anyNodeKeys_eq_false, and_assoc]

@[simp]
theorem without_udf {name : String} {args : List Expr} {output : DataType} :
    (udf name args output).Without p ↔ ∀ a ∈ args, a.Without p := by
  simp [Without, anyNode, isCallWith, anyNodeList_eq_false]

end Without

/-! ## Parts -/

/-- The first expression is the second or stands somewhere in it. -/
inductive Within (part : Expr) : Expr → Prop where
  | self : Within part part
  | operand {op : Operation} {args : List Expr} {a : Expr} (h : a ∈ args) (hPart : Within part a) :
      Within part (.call op args)
  | cast {arg : Expr} {target : DataType} (hPart : Within part arg) :
      Within part (.cast arg target)
  | named {expr : Expr} {name : String} (hPart : Within part expr) :
      Within part (.alias expr name)
  | function {func : Expr} {partition : List Expr} {order : List (SortKey Expr)}
      {frame : Option WindowFrame} (hPart : Within part func) :
      Within part (.window func partition order frame)
  | partitionKey {func : Expr} {partition : List Expr} {order : List (SortKey Expr)}
      {frame : Option WindowFrame} {p : Expr} (h : p ∈ partition) (hPart : Within part p) :
      Within part (.window func partition order frame)
  | sortKey {func : Expr} {partition : List Expr} {order : List (SortKey Expr)}
      {frame : Option WindowFrame} {k : SortKey Expr} (h : k ∈ order) (hPart : Within part k.key) :
      Within part (.window func partition order frame)
  | argument {name : String} {args : List Expr} {output : DataType} {a : Expr} (h : a ∈ args)
      (hPart : Within part a) : Within part (.udf name args output)

/-- What stands nowhere in an expression stands nowhere in its parts. -/
theorem Within.without {p : Operation → Nat → Bool} {part e : Expr} (h : part.Within e)
    (hWithout : e.Without p) : part.Without p := by
  induction h with
  | self => exact hWithout
  | operand ha _ ih => exact ih ((without_call.1 hWithout).2 _ ha)
  | cast _ ih => exact ih (without_cast.1 hWithout)
  | named _ ih => exact ih (without_alias.1 hWithout)
  | function _ ih => exact ih (without_window.1 hWithout).1
  | partitionKey hp _ ih => exact ih ((without_window.1 hWithout).2.1 _ hp)
  | sortKey hk _ ih => exact ih ((without_window.1 hWithout).2.2 _ hk)
  | argument ha _ ih => exact ih (without_udf.1 hWithout _ ha)

end Expr
end TableQuery
