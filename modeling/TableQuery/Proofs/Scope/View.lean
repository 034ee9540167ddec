import TableQuery.Proofs.Scope.Resolve
import TableQuery.Sql.Statement

/-!
# View — references to a table that only a view stands for

A self-reference is not built from the relation it points to, so the search for the only item built
from that relation passes the view over. What it does not pass over is the last way out, the search
by name: a reference to the hidden relation is resolved to whichever item is the only one with a
column of the name, and that can be the view (`Scope.resolve_hidden`).
-/

namespace TableQuery

/-- A view is not built from what it points to, unless it has the same identity. -/
theorem Relation.contains_selfReference_of_ne {id : Nat} {target : Relation} {o : Origin}
    (h : (selfReference id target).origin ≠ o) : (selfReference id target).contains o = false :=
  beq_false_of_ne h

namespace Scope

variable {s : Scope} {o : Origin} {name : String}

/-- A reference to a relation of which no item was built, and that is not part of the clause, goes
by its name. -/
theorem resolve_eq_byName (hItems : ∀ e ∈ s.entries, e.relation.contains o = false)
    (hPass : o ∉ s.passThrough) : s.resolve ⟨o, name⟩ = s.byName name := by
  have hSelf : ∀ e ∈ s.entries, (e.relation.origin == o) = false := by
    intro e he
    refine beq_false_of_ne fun hSame => ?_
    -- an item that is the relation itself would be built from it
    have hContains : e.relation.contains o = true := by
      subst hSame
      cases e.relation <;> simp [Relation.contains]
    rw [hItems e he] at hContains
    cases hContains
  have hFind : s.entries.find? (·.relation.origin == o) = none := by
    rw [List.find?_eq_none]
    intro e he
    simp [hSelf e he]
  have hNone : s.containing o = [] := by
    refine List.filter_eq_nil_iff.2 fun e he => ?_
    simp [hItems e he]
  unfold resolve
  simp only [hFind, hNone]
  split <;> rfl

theorem byName_eq_ok_iff {e : ScopeEntry} (he : e ∈ s.entries) :
    s.byName name = .ok e ↔ e.exposes name = true ∧ (s.exposing name).length = 1 := by
  constructor
  · intro h
    rcases of_byName h with ⟨hOnly, -, hExposes⟩
    exact ⟨hExposes, by rw [hOnly]; rfl⟩
  · rintro ⟨hExposes, hLength⟩
    rcases List.length_eq_one_iff.1 hLength with ⟨only, hOnly⟩
    have hMem : e ∈ s.exposing name := List.mem_filter.2 ⟨he, hExposes⟩
    rw [hOnly, List.mem_singleton] at hMem
    subst hMem
    exact byName_of_exposing hOnly

/-- In a scope with a view of a relation, where the relation is no item, no other item was built
from it, and it is not part of the clause, a reference to a column of the relation goes by the name
of the column alone. So it is resolved to the view if, and only if, the view has a column of the
name and no other item has one. -/
theorem resolve_hidden {view : ScopeEntry} {id : Nat} {target : Relation}
    (hMem : view ∈ s.entries) (hView : view.relation = .selfReference id target)
    (hOwn : (Relation.selfReference id target).origin ≠ target.origin)
    (hOthers : ∀ e ∈ s.entries, e ≠ view → e.relation.contains target.origin = false)
    (hPass : target.origin ∉ s.passThrough) :
    s.resolve ⟨target.origin, name⟩ = s.byName name ∧
      (s.resolve ⟨target.origin, name⟩ = .ok view ↔
        view.exposes name = true ∧ (s.exposing name).length = 1) := by
  -- the view hides its target from the search for what was built from it
  have hItems : ∀ e ∈ s.entries, e.relation.contains target.origin = false := by
    intro e he
    by_cases hSame : e = view
    · rw [hSame, hView]
      exact Relation.contains_selfReference_of_ne hOwn
    · exact hOthers e he hSame
  have hName : s.resolve ⟨target.origin, name⟩ = s.byName name := resolve_eq_byName hItems hPass
  exact ⟨hName, by rw [hName]; exact byName_eq_ok_iff hMem⟩

end Scope

/-- A table with a column. -/
def Relation.lookedAt : Relation :=
  .table 1 "t" ⟨[⟨"a", .string, true⟩]⟩

/-- A view of the table. -/
def Relation.lookAt : Relation :=
  .selfReference 2 lookedAt

/-- A column of the table is selected from the view. -/
def Relation.pastTheView : Relation :=
  .selection 3 lookAt [lookedAt.column "a"] [] []

/-- The view as an item. -/
def ScopeEntry.ofLookAt : ScopeEntry :=
  ⟨.lookAt, none, ["a"]⟩

/-- The scope of a statement over the view. -/
def Scope.ofLookAt : Scope :=
  ⟨[.ofLookAt], false, [Relation.lookAt.origin], some (Relation.pastTheView.origin, ["a"])⟩

/-- The column that the view has is found there, although it was taken from the table; a column
that it does not have is found nowhere. -/
theorem Scope.resolve_hidden_ofLookAt :
    ofLookAt.resolve ⟨Relation.lookedAt.origin, "a"⟩ = .ok .ofLookAt ∧
      ofLookAt.resolve ⟨Relation.lookedAt.origin, "b"⟩ = .error (.columnNotFound "b" ["a"]) := by
  have hMem : ScopeEntry.ofLookAt ∈ ofLookAt.entries := List.mem_singleton.2 rfl
  have hOthers : ∀ e ∈ ofLookAt.entries, e ≠ .ofLookAt →
      e.relation.contains Relation.lookedAt.origin = false :=
    fun e he hOther => absurd (List.mem_singleton.1 he) hOther
  rcases resolve_hidden hMem rfl (by decide) hOthers (by decide) with ⟨-, hFound⟩
  rcases resolve_hidden hMem rfl (by decide) hOthers (by decide) with ⟨hName, -⟩
  exact ⟨hFound.2 ⟨rfl, rfl⟩, hName.trans rfl⟩

/-- A view does not hide what it points to: a column of the table, selected from the view, is bound
to the view, which is the only item, and the statement is written. -/
theorem Scope.hidden_resolved_to_view :
    ofLookAt.entries = [.ofLookAt] ∧
      ScopeEntry.ofLookAt.relation = .selfReference 2 Relation.lookedAt ∧
      Relation.lookedAt.origin ∉ ofLookAt.passThrough ∧
      ofLookAt.resolve ⟨Relation.lookedAt.origin, "a"⟩ = .ok .ofLookAt ∧
      (SelectPlan.ofRelation Relation.pastTheView).map (·.scope ofLookAt.entries false) =
        .ok ofLookAt ∧
      Dialect.standard.compile Relation.pastTheView = .ok "SELECT a\nFROM t" :=
  ⟨rfl, rfl, by decide, rfl, rfl, by decide +kernel⟩

end TableQuery
