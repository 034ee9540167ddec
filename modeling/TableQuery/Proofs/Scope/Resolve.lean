import Mathlib.Data.List.Basic
import TableQuery.Proofs.Outcome
import TableQuery.Scope

/-!
# Resolve — what resolution can answer

A column reference is resolved to an item of the scope that has a column with its name, whichever of
the four rules applies.
-/

namespace TableQuery.Scope

variable {s : Scope} {col : ColumnRef} {name : String} {entry : ScopeEntry}

theorem of_byName (h : s.byName name = .ok entry) :
    s.exposing name = [entry] ∧ entry ∈ s.entries ∧ entry.exposes name = true := by
  have hOnly : s.exposing name = [entry] := by
    unfold byName at h
    split at h
    · cases h
    · next only hOnly =>
      cases h
      exact hOnly
    · cases h
  have hMem : entry ∈ s.exposing name := by simp [hOnly]
  exact ⟨hOnly, List.mem_filter.1 hMem⟩

theorem of_checked {e : ScopeEntry} (h : checked e name = .ok entry) :
    e = entry ∧ entry.exposes name = true := by
  unfold checked at h
  split at h
  · next hExposes =>
    cases h
    exact ⟨rfl, hExposes⟩
  · cases h

/-- All the ways in which a reference can be resolved. -/
theorem resolve_cases (h : s.resolve col = .ok entry) :
    (s.entries.find? (·.relation.origin == col.origin) = some entry) ∨
    (s.entries.find? (·.relation.origin == col.origin) = none ∧
      s.passThrough.contains col.origin = false ∧ s.containing col.origin = [entry]) ∨
    (s.entries.find? (·.relation.origin == col.origin) = none ∧
      (s.passThrough.contains col.origin = true ∨ ∀ e, s.containing col.origin ≠ [e]) ∧
      s.exposing col.name = [entry]) := by
  unfold resolve at h
  split at h
  · -- the relation itself is an item
    next e hFind =>
    left
    rw [hFind, (of_checked h).1]
  · next hFind =>
    right
    split at h
    · -- part of the clause, so the name has to do
      next hPass => exact .inr ⟨hFind, .inl hPass, (of_byName h).1⟩
    · next hPass =>
      rw [Bool.not_eq_true] at hPass
      split at h
      · next e hOnly =>
        rw [(of_checked h).1] at hOnly
        exact .inl ⟨hFind, hPass, hOnly⟩
      · next hMany => exact .inr ⟨hFind, .inr hMany, (of_byName h).1⟩

/-- The item that a reference is resolved to is one of the scope's, and has the column. -/
theorem mem_of_resolve (h : s.resolve col = .ok entry) :
    entry ∈ s.entries ∧ entry.exposes col.name = true := by
  unfold resolve at h
  split at h
  · next e hFind =>
    rcases of_checked h with ⟨rfl, hExposes⟩
    exact ⟨List.mem_of_find?_eq_some hFind, hExposes⟩
  · split at h
    · exact (of_byName h).2
    · split at h
      · next e hOnly =>
        rcases of_checked h with ⟨rfl, hExposes⟩
        have hMem : e ∈ s.containing col.origin := by simp [hOnly]
        exact ⟨(List.mem_filter.1 hMem).1, hExposes⟩
      · exact (of_byName h).2

/-! ## When a reference is resolved -/

theorem checked_of_exposes {e : ScopeEntry} (h : e.exposes name = true) :
    checked e name = .ok e := by
  rw [checked, if_pos h]

theorem byName_of_exposing (h : s.exposing name = [entry]) : s.byName name = .ok entry := by
  rw [byName, h]

/-- The item with the identity of the reference is taken if it has the column. -/
theorem resolve_of_find (h : s.entries.find? (·.relation.origin == col.origin) = some entry)
    (hExposes : entry.exposes col.name = true) : s.resolve col = .ok entry := by
  unfold resolve
  rw [h]
  exact checked_of_exposes hExposes

/-- The only item that was built from the relation of the reference is taken if it has the
column. -/
theorem resolve_of_containing (hNone : s.entries.find? (·.relation.origin == col.origin) = none)
    (hPass : s.passThrough.contains col.origin = false) (h : s.containing col.origin = [entry])
    (hExposes : entry.exposes col.name = true) : s.resolve col = .ok entry := by
  unfold resolve
  simp only [hNone, hPass, h]
  exact checked_of_exposes hExposes

/-- The only item that has the column is taken if the relation of the reference is part of the
clause, or if no item or several were built from it. -/
theorem resolve_of_exposing (hNone : s.entries.find? (·.relation.origin == col.origin) = none)
    (hWay : s.passThrough.contains col.origin = true ∨ ∀ e, s.containing col.origin ≠ [e])
    (h : s.exposing col.name = [entry]) : s.resolve col = .ok entry := by
  have hName := byName_of_exposing h
  unfold resolve
  simp only [hNone]
  split
  · exact hName
  · next hPass =>
    split
    · next e hOnly =>
      rcases hWay with hPass' | hMany
      · exact absurd hPass' hPass
      · exact absurd hOnly (hMany e)
    · exact hName

/-- A column has a text if its name can be written, and if it is one of the statement's own or can
be resolved. -/
theorem exists_columnText_iff : (∃ text, s.columnText col = .ok text) ↔
    (∃ safe, Identifier.safe col.name = .ok safe) ∧
      (s.isOutput col = true ∨ ∃ entry, s.resolve col = .ok entry) := by
  unfold columnText
  constructor
  · rintro ⟨text, hText⟩
    split at hText
    · next hOwn => exact ⟨⟨text, hText⟩, .inl hOwn⟩
    · split at hText
      · cases hText
      · next entry hResolve =>
        rcases of_map_ok hText with ⟨safe, hSafe, -⟩
        exact ⟨⟨safe, hSafe⟩, .inr ⟨entry, hResolve⟩⟩
  · rintro ⟨⟨safe, hSafe⟩, hFound⟩
    split
    · exact ⟨safe, hSafe⟩
    · next hOther =>
      rcases hFound with hOwn | ⟨entry, hResolve⟩
      · exact absurd hOwn hOther
      · rw [hResolve, hSafe]
        exact ⟨_, rfl⟩

/-! ## Items that differ in their aliases -/

/-- The items stand for the same relation, perhaps under different aliases. -/
def SameItem (e e' : ScopeEntry) : Prop :=
  e.relation = e'.relation ∧ e.columns = e'.columns

theorem SameItem.exposes_eq {e e' : ScopeEntry} (h : SameItem e e') (name : String) :
    e.exposes name = e'.exposes name := by
  rw [ScopeEntry.exposes, ScopeEntry.exposes, h.2]

theorem SameItem.symm {e e' : ScopeEntry} (h : SameItem e e') : SameItem e' e :=
  ⟨h.1.symm, h.2.symm⟩

/-- Lists of the same items have the same items with a property of relations and columns. -/
theorem sameItems_filter {es es' : List ScopeEntry} (h : List.Forall₂ SameItem es es')
    {f : ScopeEntry → Bool} (hf : ∀ e e', SameItem e e' → f e = f e') :
    List.Forall₂ SameItem (es.filter f) (es'.filter f) := by
  refine List.rel_filter ?_ h
  intro e e' hSame
  simp [hf e e' hSame]

theorem sameItems_find? {es es' : List ScopeEntry} (h : List.Forall₂ SameItem es es')
    {f : ScopeEntry → Bool} (hf : ∀ e e', SameItem e e' → f e = f e') :
    (es.find? f = none → es'.find? f = none) ∧
      ∀ {e}, es.find? f = some e → ∃ e', es'.find? f = some e' ∧ SameItem e e' := by
  have hFiltered := sameItems_filter h hf
  rw [← List.head?_filter, ← List.head?_filter]
  generalize es.filter f = ks at hFiltered
  generalize es'.filter f = ks' at hFiltered
  cases hFiltered with
  | nil => simp
  | cons hHead _ =>
      refine ⟨by simp, ?_⟩
      intro e he
      cases he
      exact ⟨_, rfl, hHead⟩

/-- Resolution looks at relations and their columns, and not at aliases. -/
theorem exists_resolve_of_sameItems {s' : Scope}
    (hItems : List.Forall₂ SameItem s.entries s'.entries)
    (hPass : s'.passThrough.contains col.origin = s.passThrough.contains col.origin)
    (h : s.resolve col = .ok entry) : ∃ entry', s'.resolve col = .ok entry' := by
  have hExposes := (mem_of_resolve h).2
  -- each of the searches for the item goes the same way in both scopes
  have hFinds := sameItems_find? hItems (f := (·.relation.origin == col.origin))
    fun e e' hSame => by simp only [hSame.1]
  have hContaining : List.Forall₂ SameItem (s.containing col.origin) (s'.containing col.origin) :=
    sameItems_filter hItems fun e e' hSame => by simp only [hSame.1]
  have hExposing : List.Forall₂ SameItem (s.exposing col.name) (s'.exposing col.name) :=
    sameItems_filter hItems fun e e' hSame => hSame.exposes_eq col.name
  rcases resolve_cases h with hFind | ⟨hNone, hOut, hOnly⟩ | ⟨hNone, hWay, hOnly⟩
  · rcases hFinds.2 hFind with ⟨entry', hFind', hSame⟩
    exact ⟨entry', resolve_of_find hFind' (hSame.exposes_eq col.name ▸ hExposes)⟩
  · rw [hOnly] at hContaining
    rcases eq_singleton_of_forall₂ hContaining with ⟨entry', hOnly', hSame⟩
    exact ⟨entry', resolve_of_containing (hFinds.1 hNone) (hPass.trans hOut) hOnly'
      (hSame.exposes_eq col.name ▸ hExposes)⟩
  · rw [hOnly] at hExposing
    rcases eq_singleton_of_forall₂ hExposing with ⟨entry', hOnly', -⟩
    refine ⟨entry', resolve_of_exposing (hFinds.1 hNone) ?_ hOnly'⟩
    rw [hPass]
    refine hWay.imp_right fun hMany e' hOne => ?_
    -- a single item built from the relation here would be a single one there
    have hBack := hContaining.flip.imp fun _ _ hSame => SameItem.symm hSame
    rw [hOne] at hBack
    rcases eq_singleton_of_forall₂ hBack with ⟨e, hOne', -⟩
    exact hMany e hOne'

end TableQuery.Scope
