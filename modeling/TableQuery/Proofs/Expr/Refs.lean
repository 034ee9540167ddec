import TableQuery.Proofs.Sql.WellFormed

/-!
# Refs — the columns that an expression mentions

An expression has a text only if every column in it has one: no part of an expression is left out
when it is written.
-/

namespace TableQuery
namespace Expr

mutual

/-- The columns that an expression mentions, in order. -/
def refs : Expr → List ColumnRef
  | .column ref => [ref]
  | .literal _ => []
  | .call _ args | .udf _ args _ => refsList args
  | .cast arg _ => arg.refs
  | .alias expr _ => expr.refs
  | .window func partition order _ => func.refs ++ refsList partition ++ refsKeys order

def refsList : List Expr → List ColumnRef
  | [] => []
  | e :: es => e.refs ++ refsList es

def refsKeys : List (SortKey Expr) → List ColumnRef
  | [] => []
  | ⟨e, _⟩ :: ks => e.refs ++ refsKeys ks

end

variable {d : Dialect} {cx : Context} {ref : ColumnRef}

theorem mem_refsList {es : List Expr} : ref ∈ refsList es ↔ ∃ e ∈ es, ref ∈ e.refs := by
  induction es with
  | nil => simp [refsList]
  | cons e es ih => simp [refsList, ih]

theorem mem_refsKeys {ks : List (SortKey Expr)} :
    ref ∈ refsKeys ks ↔ ∃ k ∈ ks, ref ∈ k.key.refs := by
  induction ks with
  | nil => simp [refsKeys]
  | cons k ks ih => simp [refsKeys, ih]

/-- Every column of a well-formed expression is resolved. -/
theorem WellFormed.resolves {e : Expr} (h : e.WellFormed d cx) (hRef : ref ∈ e.refs) :
    cx.Resolves ref := by
  induction h with
  | column hResolves =>
      rw [refs, List.mem_singleton] at hRef
      rw [hRef]
      exact hResolves
  | literal => cases hRef
  | call _ _ _ ih | udf _ _ ih =>
      rcases mem_refsList.1 hRef with ⟨a, ha, hRef⟩
      exact ih a ha hRef
  | cast _ _ ih | named _ ih => exact ih hRef
  | window _ _ _ _ _ ihArgs ihPartition ihOrder =>
      -- the function, the partition and the order mention columns of their own
      rw [refs, refs, List.mem_append, List.mem_append] at hRef
      rcases hRef with (hRef | hRef) | hRef
      · rcases mem_refsList.1 hRef with ⟨a, ha, hRef⟩
        exact ihArgs a ha hRef
      · rcases mem_refsList.1 hRef with ⟨p, hp, hRef⟩
        exact ihPartition p hp hRef
      · rcases mem_refsKeys.1 hRef with ⟨k, hk, hRef⟩
        exact ihOrder k hk hRef

theorem columnText_of_plainSql {e : Expr} {text : String} (h : e.plainSql d cx = .ok text)
    (hRef : ref ∈ e.refs) : ∃ t, cx.columnText ref = .ok t :=
  ((accepts e).1 ⟨text, h⟩).resolves hRef

/-- The columns that stand in the text of an expression: those of what it is rewritten to. -/
def written (d : Dialect) (e : Expr) : List ColumnRef :=
  (d.rewrites.apply e).refs

theorem columnText_of_sql {e : Expr} {text : String} (h : e.sql d cx = .ok text)
    (hRef : ref ∈ e.written d) : ∃ t, cx.columnText ref = .ok t :=
  columnText_of_plainSql h hRef

theorem columnText_of_namedSql {e : Expr} {text : String} (h : e.namedSql d cx = .ok text)
    (hRef : ref ∈ e.written d) : ∃ t, cx.columnText ref = .ok t := by
  unfold namedSql at h
  split at h
  · cases h
  · next inner hInner => exact columnText_of_sql hInner hRef

end Expr
end TableQuery
