import TableQuery.Proofs.Relation.Nodes
import TableQuery.Proofs.Scope.Resolve

/-!
# Joined — one more item at the end of a scope

A statement that is extended by a join gets one more item. If the item has nothing to do with the
relation that a column was taken from, it can neither be that relation nor be built from it, so it
is never what the first searches look for (`Scope.item?_joined`). Only the search by name sees it,
and that search gives no answer where there are two. So a new item can make a reference ambiguous,
and never turns it to another item.
-/

namespace TableQuery

/-- Every relation is built from itself. -/
theorem Relation.contains_origin (r : Relation) : r.contains r.origin = true :=
  Relation.contains_iff.2 ⟨r, r.self_mem_visible, rfl⟩

namespace Scope

variable {s : Scope} {e entry : ScopeEntry} {col : ColumnRef} {o : Origin} {name : String}

/-- The scope with one more item. -/
def joined (s : Scope) (e : ScopeEntry) : Scope :=
  { s with entries := s.entries ++ [e] }

/-! ## The item that columns of a relation are looked up in -/

/-- The item that columns of the relation are looked up in, whatever columns the other items have:
the relation itself, or else the only item that was built from it. -/
def item? (s : Scope) (o : Origin) : Option ScopeEntry :=
  match s.entries.find? (·.relation.origin == o) with
  | some entry => some entry
  | none =>
    if s.passThrough.contains o then none
    else
      match s.containing o with
      | [entry] => some entry
      | _ => none

/-- A reference is resolved to that item, and goes by its name if there is none. -/
theorem resolve_eq (s : Scope) (col : ColumnRef) :
    s.resolve col =
      match s.item? col.origin with
      | some entry => checked entry col.name
      | none => s.byName col.name := by
  unfold resolve item?
  cases s.entries.find? (·.relation.origin == col.origin) with
  | some entry => rfl
  | none =>
      cases s.passThrough.contains col.origin with
      | true => rfl
      | false =>
          match s.containing col.origin with
          | [] => rfl
          | [entry] => rfl
          | _ :: _ :: _ => rfl

/-- There is such an item exactly if the relation is an item, or if a single item was built from it
and it is not just a part of the clause. -/
theorem exists_item?_iff : (∃ entry, s.item? o = some entry) ↔
    (∃ entry ∈ s.entries, entry.relation.origin = o) ∨
      (o ∉ s.passThrough ∧ ∃ entry, s.containing o = [entry]) := by
  unfold item?
  cases hFind : s.entries.find? (·.relation.origin == o) with
  | some entry =>
      have hOrigin : entry.relation.origin = o := by simpa using List.find?_some hFind
      have hItem : ∃ entry ∈ s.entries, entry.relation.origin = o :=
        ⟨entry, List.mem_of_find?_eq_some hFind, hOrigin⟩
      exact iff_of_true ⟨entry, rfl⟩ (.inl hItem)
  | none =>
      have hNone : ¬∃ entry ∈ s.entries, entry.relation.origin = o := by
        rintro ⟨entry, hEntry, hOrigin⟩
        exact List.find?_eq_none.1 hFind entry hEntry (beq_iff_eq.2 hOrigin)
      rw [or_iff_right hNone]
      by_cases hPass : o ∈ s.passThrough
      · simp [hPass]
      · match hItems : s.containing o with
        | [] => simp [hPass]
        | [entry] => simp [hPass]
        | _ :: _ :: _ => simp [hPass]

/-- What was not built from a relation is not the relation. -/
theorem origin_ne_of_contains (h : e.relation.contains o = false) : e.relation.origin ≠ o := by
  intro hOrigin
  have hSelf := e.relation.contains_origin
  rw [hOrigin, h] at hSelf
  cases hSelf

/-- The search does not see an item that was not built from the relation. -/
theorem item?_joined (h : e.relation.contains o = false) : (s.joined e).item? o = s.item? o := by
  have hFind : (s.joined e).entries.find? (·.relation.origin == o) =
      s.entries.find? (·.relation.origin == o) := by
    have hLast : [e].find? (·.relation.origin == o) = none := by
      simpa using origin_ne_of_contains h
    calc
      (s.joined e).entries.find? (·.relation.origin == o)
        = (s.entries.find? (·.relation.origin == o)).or ([e].find? (·.relation.origin == o)) :=
          List.find?_append
      _ = s.entries.find? (·.relation.origin == o) := by rw [hLast, Option.or_none]
  have hContaining : (s.joined e).containing o = s.containing o := by
    have hLast : [e].filter (·.relation.contains o) = [] := by simp [h]
    calc
      (s.joined e).containing o
        = s.containing o ++ [e].filter (·.relation.contains o) := List.filter_append ..
      _ = s.containing o := by rw [hLast, List.append_nil]
  unfold item?
  rw [hFind, hContaining]
  rfl

/-! ## The search by name -/

/-- The new item comes last among the items that have a column of the name. -/
theorem exposing_joined :
    (s.joined e).exposing name = s.exposing name ++ [e].filter (·.exposes name) :=
  List.filter_append ..

/-- A name is ambiguous if two items or more have a column of it, and they are told. -/
theorem byName_eq_ambiguous_iff {n : String} {candidates : List String} :
    s.byName name = .error (.ambiguousColumn n candidates) ↔
      n = name ∧ 2 ≤ (s.exposing name).length ∧
        candidates = (s.exposing name).map (·.candidate name) := by
  unfold byName
  match s.exposing name with
  | [] => simp
  | [only] => simp
  | e :: e' :: es => simp [eq_comm]

theorem byName_joined_of_ok (h : s.byName name = .ok entry) :
    (s.joined e).byName name = .ok entry ∨
      (e.exposes name = true ∧ (s.joined e).byName name =
        .error (.ambiguousColumn name [entry.candidate name, e.candidate name])) := by
  have hOld := (of_byName h).1
  cases hNew : e.exposes name with
  | false =>
      left
      apply byName_of_exposing
      simp [exposing_joined, hOld, hNew]
  | true =>
      right
      have hBoth : (s.joined e).exposing name = [entry, e] := by
        simp [exposing_joined, hOld, hNew]
      refine ⟨rfl, ?_⟩
      apply byName_eq_ambiguous_iff.2
      simp [hBoth]

theorem byName_joined_of_ambiguous {n : String} {candidates : List String}
    (h : s.byName name = .error (.ambiguousColumn n candidates)) :
    (s.joined e).byName name = .error (.ambiguousColumn n
      (candidates ++ ([e].filter (·.exposes name)).map (·.candidate name))) := by
  rcases byName_eq_ambiguous_iff.1 h with ⟨hName, hTwo, hCandidates⟩
  apply byName_eq_ambiguous_iff.2
  refine ⟨hName, ?_, ?_⟩
  · rw [exposing_joined, List.length_append]
    exact Nat.le_add_right_of_le hTwo
  · rw [exposing_joined, List.map_append, hCandidates]

/-! ## What becomes of a reference -/

section Apart

variable (hApart : e.relation.contains col.origin = false)
include hApart

theorem resolve_joined_of_ok (h : s.resolve col = .ok entry) :
    (s.joined e).resolve col = .ok entry ∨
      (s.item? col.origin = none ∧ e.exposes col.name = true ∧ (s.joined e).resolve col =
        .error (.ambiguousColumn col.name [entry.candidate col.name, e.candidate col.name])) := by
  rw [resolve_eq] at h
  rw [resolve_eq, item?_joined hApart]
  cases hItem : s.item? col.origin with
  | some found =>
      rw [hItem] at h
      exact .inl h
  | none =>
      rw [hItem] at h
      rcases byName_joined_of_ok h with hKept | ⟨hExposes, hTold⟩
      · exact .inl hKept
      · exact .inr ⟨rfl, hExposes, hTold⟩

theorem resolve_joined_of_ambiguous {n : String} {candidates : List String}
    (h : s.resolve col = .error (.ambiguousColumn n candidates)) :
    (s.joined e).resolve col = .error (.ambiguousColumn n
      (candidates ++ ([e].filter (·.exposes col.name)).map (·.candidate col.name))) := by
  rw [resolve_eq] at h
  rw [resolve_eq, item?_joined hApart]
  cases hItem : s.item? col.origin with
  | some found =>
      -- an item that lacks the column is not a matter of ambiguity
      rw [hItem] at h
      simp only [checked] at h
      split at h <;> cases h
  | none =>
      rw [hItem] at h
      exact byName_joined_of_ambiguous h

theorem resolve_joined_of_item (h : ∃ entry, s.item? col.origin = some entry) :
    (s.joined e).resolve col = s.resolve col := by
  rcases h with ⟨entry, hItem⟩
  rw [resolve_eq, resolve_eq, item?_joined hApart, hItem]

end Apart

/-- However many such items are added, one after another, a reference that was resolved keeps its
item or becomes ambiguous. -/
theorem resolve_joinedAll {es : List ScopeEntry}
    (hApart : ∀ e ∈ es, e.relation.contains col.origin = false) (h : s.resolve col = .ok entry) :
    (es.foldl joined s).resolve col = .ok entry ∨
      ∃ candidates, (es.foldl joined s).resolve col =
        .error (.ambiguousColumn col.name candidates) := by
  -- by induction on the items, with the ambiguous references along
  suffices hRun : ∀ s' : Scope, (s'.resolve col = .ok entry ∨
      ∃ candidates, s'.resolve col = .error (.ambiguousColumn col.name candidates)) →
      (es.foldl joined s').resolve col = .ok entry ∨
        ∃ candidates, (es.foldl joined s').resolve col =
          .error (.ambiguousColumn col.name candidates) from hRun s (.inl h)
  clear h
  induction es with
  | nil => exact fun s' hNow => hNow
  | cons e es ih =>
      intro s' hNow
      have hHead := hApart e List.mem_cons_self
      apply ih fun e' he' => hApart e' (List.mem_cons_of_mem _ he')
      rcases hNow with hKept | ⟨candidates, hAmbiguous⟩
      · rcases resolve_joined_of_ok hHead hKept with hStill | ⟨-, -, hTold⟩
        · exact .inl hStill
        · exact .inr ⟨_, hTold⟩
      · exact .inr ⟨_, resolve_joined_of_ambiguous hHead hAmbiguous⟩

/-- An item that is not the relation of a reference, and was not built from it, never turns the
reference to another item: what was resolved is resolved as before, or is ambiguous between its item
and the new one. What was ambiguous stays ambiguous, with the new item among the candidates if it
has the column. And nothing changes where the relation is an item itself, or where a single item
was built from it. -/
theorem resolve_joined (hApart : e.relation.contains col.origin = false) :
    (∀ entry, s.resolve col = .ok entry →
      (s.joined e).resolve col = .ok entry ∨
        (s.joined e).resolve col =
          .error (.ambiguousColumn col.name [entry.candidate col.name, e.candidate col.name])) ∧
    (∀ n candidates, s.resolve col = .error (.ambiguousColumn n candidates) →
      ∃ more, (s.joined e).resolve col = .error (.ambiguousColumn n (candidates ++ more))) ∧
    ((∃ entry ∈ s.entries, entry.relation.origin = col.origin) ∨
        (col.origin ∉ s.passThrough ∧ ∃ entry, s.containing col.origin = [entry]) →
      (s.joined e).resolve col = s.resolve col) := by
  refine ⟨?_, ?_, ?_⟩
  · intro entry hEntry
    exact (resolve_joined_of_ok hApart hEntry).imp_right fun h => h.2.2
  · intro n candidates hAmbiguous
    exact ⟨_, resolve_joined_of_ambiguous hApart hAmbiguous⟩
  · intro hWay
    exact resolve_joined_of_item hApart (exists_item?_iff.2 hWay)

end Scope

/-- Two tables with the same column, as items. -/
def ScopeEntry.leftHalf : ScopeEntry :=
  ⟨.table 1 "l" ⟨[⟨"a", .string, true⟩]⟩, some "t0", ["a"]⟩

def ScopeEntry.rightHalf : ScopeEntry :=
  ⟨.table 2 "r" ⟨[⟨"a", .string, true⟩]⟩, some "t1", ["a"]⟩

/-- The scope of a statement over a join, with only the first of the two tables in it. -/
def Scope.ofLeftHalf : Scope :=
  ⟨[.leftHalf], true, [⟨3, .join⟩], none⟩

/-- The column of the first table is found as before. The column of the join was found by its name
and is ambiguous now. -/
theorem Scope.resolve_joined_rightHalf :
    (ofLeftHalf.joined .rightHalf).resolve ⟨⟨1, .table⟩, "a"⟩ = .ok .leftHalf ∧
      ofLeftHalf.resolve ⟨⟨3, .join⟩, "a"⟩ = .ok .leftHalf ∧
      (ofLeftHalf.joined .rightHalf).resolve ⟨⟨3, .join⟩, "a"⟩ =
        .error (.ambiguousColumn "a" ["t0.a", "t1.a"]) := by
  have hTable : ScopeEntry.rightHalf.relation.contains ⟨1, .table⟩ = false := by decide
  have hJoin : ScopeEntry.rightHalf.relation.contains ⟨3, .join⟩ = false := by decide
  have hFound : ofLeftHalf.resolve ⟨⟨3, .join⟩, "a"⟩ = .ok .leftHalf := rfl
  refine ⟨?_, hFound, ?_⟩
  · have hSame : (ofLeftHalf.joined .rightHalf).resolve ⟨⟨1, .table⟩, "a"⟩ =
        ofLeftHalf.resolve ⟨⟨1, .table⟩, "a"⟩ :=
      (resolve_joined hTable).2.2 (.inl ⟨.leftHalf, List.mem_singleton.2 rfl, rfl⟩)
    exact hSame
  · rcases (resolve_joined hJoin).1 .leftHalf hFound with hStill | hTold
    · cases hStill
    · exact hTold

end TableQuery
