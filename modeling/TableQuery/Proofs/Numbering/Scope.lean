import TableQuery.Proofs.Numbering.Expr

/-!
# Scope — columns where aliases are numbered from some number on

The items of a scope differ from one numbering to the other in their aliases only. How a column is
resolved depends on relations and on names of columns, so it is resolved to the same item in all
numberings or refused in all of them, and its texts are numbered (`ScopeForm.steady_columnText`).
-/

namespace TableQuery

/-- An item of a `FROM` clause whose alias, if it has one, is counted from the first one. -/
structure ItemForm where
  relation : Relation
  distance? : Option Nat
  columns : List String

namespace ItemForm

/-- The item where the first alias has a given number. -/
def entry (i : ItemForm) (first : Nat) : ScopeEntry :=
  ⟨i.relation, i.distance?.map fun n => aliasName (first + n), i.columns⟩

/-- The item where aliases are counted from one that was drawn earlier. -/
def later (drawn : Nat) (i : ItemForm) : ItemForm :=
  { i with distance? := i.distance?.map (drawn + ·) }

theorem entry_later (i : ItemForm) (drawn first : Nat) :
    (i.later drawn).entry first = i.entry (first + drawn) := by
  rcases i with ⟨relation, _ | n, columns⟩
  · rfl
  · simp only [later, entry, Option.map_some, Nat.add_assoc]

end ItemForm

/-- A scope whose aliases are counted from the first one. -/
structure ScopeForm where
  items : List ItemForm
  qualify : Bool
  passThrough : List Origin
  outputs : Option (Origin × List String)

namespace ScopeForm

/-- The scope where the first alias has a given number. -/
def scope (f : ScopeForm) (first : Nat) : Scope :=
  ⟨f.items.map (·.entry first), f.qualify, f.passThrough, f.outputs⟩

variable (f : ScopeForm)

/-- The items are the same in all numberings. -/
def IsItem (e : Nat → ScopeEntry) : Prop :=
  ∃ i : ItemForm, e = i.entry

theorem steady_checked (i : ItemForm) (name : String) :
    Steady IsItem fun k => Scope.checked (i.entry k) name := by
  have hExposes : ∀ k, (i.entry k).exposes name = i.columns.contains name := fun _ => rfl
  simp only [Scope.checked, hExposes]
  cases i.columns.contains name with
  | true => exact .ok ⟨i, rfl⟩
  | false => exact .error (.columnNotFound name i.columns)

/-- What can be told of relations and columns picks the same items in all numberings. -/
theorem exists_filter {p : ScopeEntry → Bool}
    (h : ∀ (i : ItemForm) (k : Nat), p (i.entry k) = p (i.entry 0)) :
    ∃ found : List ItemForm, ∀ k, (f.scope k).entries.filter p = found.map (·.entry k) := by
  refine ⟨f.items.filter fun i => p (i.entry 0), fun k => ?_⟩
  simp only [scope, List.filter_map, Function.comp_def, h]

theorem steady_byName (name : String) : Steady IsItem fun k => (f.scope k).byName name := by
  rcases f.exists_filter (p := (·.exposes name)) fun _ _ => rfl with ⟨found, hFound⟩
  simp only [Scope.byName, Scope.exposing, hFound]
  rcases found with _ | ⟨i, _ | ⟨j, rest⟩⟩
  · exact .inr ⟨_, fun k => ⟨_, rfl, rfl⟩⟩
  · exact .ok ⟨i, rfl⟩
  · -- the candidates are named by their aliases, so only the variants of the errors agree
    exact .inr ⟨_, fun k => ⟨_, rfl, rfl⟩⟩

theorem steady_resolve (col : ColumnRef) : Steady IsItem fun k => (f.scope k).resolve col := by
  have hFind : ∀ k, (f.scope k).entries.find? (·.relation.origin == col.origin) =
      (f.items.find? (·.relation.origin == col.origin)).map (·.entry k) := by
    intro k
    rw [scope, List.find?_map]
    rfl
  rcases f.exists_filter (p := (·.relation.contains col.origin)) fun _ _ => rfl with
    ⟨found, hFound⟩
  have hPass : ∀ k, (f.scope k).passThrough = f.passThrough := fun _ => rfl
  simp only [Scope.resolve, Scope.containing, hFind, hFound, hPass]
  -- by identity, as a part of the clause, by the only item around it, and at last by name
  cases f.items.find? (·.relation.origin == col.origin) with
  | some i => exact steady_checked i col.name
  | none =>
      simp only [Option.map_none]
      cases f.passThrough.contains col.origin with
      | true => exact f.steady_byName col.name
      | false =>
          rcases found with _ | ⟨i, _ | ⟨j, rest⟩⟩
          · exact f.steady_byName col.name
          · exact steady_checked i col.name
          · exact f.steady_byName col.name

theorem steady_columnText (col : ColumnRef) :
    Steady Numbered fun k => (f.scope k).columnText col := by
  have hOutput : ∀ k, (f.scope k).isOutput col = (f.scope 0).isOutput col := fun _ => rfl
  simp only [Scope.columnText, hOutput]
  split
  · exact .const _ numbered_const
  · refine (f.steady_resolve col).andThen (fun k e he => by rw [he]) fun t ht hResolved => ?_
    rcases ht with ⟨i, rfl⟩
    simp only [hResolved]
    cases Identifier.safe col.name with
    | error e => exact .error e
    | ok name =>
        refine .ok ?_
        rcases i with ⟨relation, _ | n, columns⟩
        · exact numbered_const name
        · -- the alias of the item stands in front of the name where columns are qualified
          cases hQualify : f.qualify with
          | false =>
              simp only [scope, hQualify, ItemForm.entry, Option.map_some]
              exact numbered_const name
          | true =>
              simp only [scope, hQualify, ItemForm.entry, Option.map_some]
              exact (numbered_alias n).join "." (numbered_const name)

end ScopeForm

end TableQuery
