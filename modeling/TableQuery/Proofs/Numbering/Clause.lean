import TableQuery.Proofs.Numbering.Layout
import TableQuery.Proofs.Numbering.Scope
import TableQuery.Proofs.Sql.Tree

/-!
# Clauses — statements over steady columns

In a scope whose columns are steady, each clause of a statement is steady. Its text is numbered, but
for the select list and the `FROM` clause, which have gaps in them.
-/

namespace TableQuery

section Texts

variable {n : Nat} {ts : Nat → List String}

theorem Each.numbered_conjunctionText (h : Each Numbered n ts) (keyword : String) :
    Numbered fun k => conjunctionText keyword (ts k) := by
  rcases h with ⟨us, -, hus, hMembers⟩
  simp only [hMembers]
  -- a single condition stands without parentheses
  rcases us with _ | ⟨u, _ | ⟨v, us⟩⟩
  · exact numbered_const (conjunctionText keyword [])
  · exact (numbered_const keyword).join " " (hus u (by simp))
  · have hEnclosed : ∀ t ∈ (u :: v :: us).map fun t k => "(" ++ t k ++ ")", Numbered t := by
      intro t ht
      rcases List.mem_map.1 ht with ⟨w, hw, rfl⟩
      exact (hus w hw).enclosed "(" ")"
    have hParts := TableQuery.numbered_intercalate (" AND\n" ++ Text.spaces (keyword.length + 1))
      hEnclosed
    have hText := (numbered_const keyword).join " " hParts
    simp only [List.map_map, Function.comp_def] at hText
    simpa only [List.map_cons, conjunctionText, List.map_map, Function.comp_def] using hText

theorem Each.numbered_onText (h : Each Numbered n ts) : Numbered fun k => onText (ts k) := by
  unfold onText
  simp only [h.isEmpty]
  cases n == 0 with
  | true => exact numbered_const "ON TRUE"
  | false => exact h.numbered_conjunctionText "ON"

/-- A clause that is there for all numbers, with a numbered text, or for none. -/
def Optional (clause : Nat → Option String) : Prop :=
  ∃ us : List (Nat → String), (∀ u ∈ us, Numbered u) ∧ ∀ k, (clause k).toList = us.map (· k)

theorem optional_none : Optional fun _ => none :=
  ⟨[], by simp, fun _ => rfl⟩

theorem optional_some {t : Nat → String} (ht : Numbered t) : Optional fun k => some (t k) :=
  ⟨[t], by simpa using ht, fun _ => rfl⟩

theorem Optional.toList_append {c c' : Nat → Option String} (h : Optional c) (h' : Optional c') :
    ∃ us : List (Nat → String), (∀ u ∈ us, Numbered u) ∧
      ∀ k, (c k).toList ++ (c' k).toList = us.map (· k) := by
  rcases h with ⟨us, hus, hc⟩
  rcases h' with ⟨vs, hvs, hc'⟩
  refine ⟨us ++ vs, List.forall_mem_append.2 ⟨hus, hvs⟩, fun k => ?_⟩
  rw [hc, hc', List.map_append]

end Texts

section Clauses

variable {d : Dialect} {cx : Nat → Context} {flag : Bool}

/-- Contexts, one for each number of the next alias, in which columns are steady. -/
structure SteadyContext (d : Dialect) (flag : Bool) (cx : Nat → Context) : Prop where
  uniform : d.spellings.Uniform
  flag : ∀ k, (cx k).alwaysAlias = flag
  columns : ∀ ref, Steady Numbered fun k => (cx k).columnText ref

variable (h : SteadyContext d flag cx)

namespace SteadyContext

include h

theorem sql (e : Expr) : Steady Numbered fun k => e.sql d (cx k) :=
  Expr.steady_plainSql h.uniform h.columns _

theorem namedSql (e : Expr) : Steady Numbered fun k => e.namedSql d (cx k) := by
  simp only [Expr.namedSql, h.flag]
  refine (h.sql e).andThen (fun k err he => by rw [he]) fun t ht hText => ?_
  simp only [hText]
  cases e.outputName? with
  | none => exact .ok ht
  | some name =>
      simp only
      cases e.isBareColumn && !flag with
      | true => exact .ok ht
      | false =>
          cases Identifier.safe name with
          | error err => exact .error err
          | ok safe => exact .ok (ht.join " AS " (numbered_const safe))

theorem conditions (ps : List Expr) :
    Steady (Each Numbered ps.length) fun k => ps.mapM (Expr.sql d (cx k)) :=
  Steady.mapM fun e _ => h.sql e

theorem selectClause (p : SelectPlan) :
    Steady (Laid (p.items.length - 1)) fun k => p.selectClause d (cx k) := by
  unfold SelectPlan.selectClause
  have hItems : Steady (Each Numbered p.items.length)
      fun k => p.items.mapM (Expr.namedSql d (cx k)) := Steady.mapM fun e _ => h.namedSql e
  refine hItems.map fun ts hts => ?_
  rcases hts with ⟨us, hCount, hus, hMembers⟩
  simp only [hMembers, ← hCount]
  exact laid_selectText p.distinct hus

theorem whereClause (p : SelectPlan) : Steady Optional fun k => p.whereClause d (cx k) := by
  unfold SelectPlan.whereClause
  refine (h.conditions p.predicates).map fun ts hts => ?_
  simp only [hts.isEmpty]
  cases p.predicates.length == 0 with
  | true => exact optional_none
  | false => exact optional_some (hts.numbered_conjunctionText "WHERE")

theorem groupClause (p : SelectPlan) : Steady Optional fun k => p.groupClause d (cx k) := by
  unfold SelectPlan.groupClause
  split
  · split
    · exact .ok optional_none
    · exact .error _
  · -- the names of the keys do not depend on the scope
    cases p.groupKeys.mapM SelectPlan.groupKeyText with
    | error e => exact .error e
    | ok keys =>
        refine (h.conditions p.having).map fun ts hts => ?_
        have hKeys := (numbered_const "GROUP BY ").append (numbered_const (", ".intercalate keys))
        refine optional_some (hKeys.append ?_)
        unfold SelectPlan.havingText
        simp only [hts.isEmpty]
        cases p.having.length == 0 with
        | true => exact numbered_const ""
        | false => exact (numbered_const "\nHAVING ").append (hts.numbered_intercalate " AND ")

theorem orderClause (p : SelectPlan) : Steady Optional fun k => p.orderClause d (cx k) := by
  unfold SelectPlan.orderClause
  have hKeys : Steady (Each Numbered p.sortKeys.length)
      fun k => p.sortKeys.mapM (SortKey.sql d (cx k)) :=
    Steady.mapM fun s _ => (h.sql s.key).map fun t ht => ht.sortKeyText s.ascending
  refine hKeys.map fun ts hts => ?_
  simp only [hts.isEmpty]
  cases p.sortKeys.length == 0 with
  | true => exact optional_none
  | false =>
      have hText := (numbered_const "ORDER BY ").append (hts.numbered_intercalate ", ")
      exact optional_some hText

theorem clauses (p : SelectPlan) {n : Nat} {t : Nat → String} (ht : Laid n t) :
    Steady (Laid (p.items.length - 1 + n)) fun k => p.clauses d (cx k) (t k) := by
  unfold SelectPlan.clauses
  refine (h.selectClause p).andThen (fun k e he => by simp only [he]) fun s hs hSelect => ?_
  refine (h.whereClause p).andThen (fun k e he => by simp only [hSelect, he])
    fun w hw hFilter => ?_
  refine (h.groupClause p).andThen (fun k e he => by simp only [hSelect, hFilter, he])
    fun g hg hGroup => ?_
  simp only [hSelect, hFilter, hGroup]
  refine (h.orderClause p).map fun o ho => ?_
  -- which clauses there are is the same for all numbers
  rcases hw.toList_append hg with ⟨us, hus, hFront⟩
  have hLimit : Optional fun _ => p.limit.map RowLimit.text := by
    cases p.limit with
    | none => exact optional_none
    | some l => exact optional_some (numbered_const l.text)
  rcases ho.toList_append hLimit with ⟨vs, hvs, hBack⟩
  have hAll : ∀ u ∈ us ++ vs, Numbered u := List.forall_mem_append.2 ⟨hus, hvs⟩
  have hLines : ∀ k, [s k, t k] ++ (w k).toList ++ (g k).toList ++ (o k).toList ++
      (p.limit.map RowLimit.text).toList = s k :: t k :: (us ++ vs).map (· k) := by
    intro k
    rw [List.map_append, ← hFront, ← hBack]
    simp
  simp only [hLines]
  exact laid_lines hs ht hAll

end SteadyContext

end Clauses

end TableQuery
