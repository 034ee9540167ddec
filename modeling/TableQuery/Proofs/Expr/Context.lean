import TableQuery.Proofs.Expr.Refs

/-!
# Context — what an expression needs of its surroundings

An expression looks at its context for nothing but the texts of columns. So contexts that write all
columns alike write all expressions alike, and an expression that has a text in one context has one
in every context that writes its columns.
-/

namespace TableQuery
namespace Expr

variable {d d' : Dialect} {cx cx' : Context}

/-! ## The same text -/

theorem operandsSql_congr {wrap : Bool} {es : List Expr}
    (h : ∀ e ∈ es, e.plainSql d cx = e.plainSql d cx') :
    operandsSql d cx wrap es = operandsSql d cx' wrap es := by
  rw [operandsSql_eq_mapM, operandsSql_eq_mapM]
  exact mapM_congr fun e he => by rw [h e he]

theorem listSql_congr {es : List Expr} (h : ∀ e ∈ es, e.plainSql d cx = e.plainSql d cx') :
    listSql d cx es = listSql d cx' es := by
  rw [listSql_eq_mapM, listSql_eq_mapM]
  exact mapM_congr h

theorem keysSql_congr {ks : List (SortKey Expr)}
    (h : ∀ k ∈ ks, k.key.plainSql d cx = k.key.plainSql d cx') :
    keysSql d cx ks = keysSql d cx' ks := by
  rw [keysSql_eq_mapM, keysSql_eq_mapM]
  exact mapM_congr fun k hk => by rw [h k hk]

theorem plainSql_congr (h : cx.columnText = cx'.columnText) (e : Expr) :
    e.plainSql d cx = e.plainSql d cx' := by
  induction e using writtenInduction with
  | column ref => rw [plainSql, plainSql, h]
  | literal value => rw [plainSql, plainSql]
  | call op args ih => simp only [plainSql, operandsSql_congr ih]
  | cast arg target ih => simp only [plainSql, ih]
  | aliased expr name ih => rw [plainSql, plainSql, ih]
  | window op args partition order frame ihArgs ihPartition ihOrder =>
      simp only [plainSql, operandsSql_congr ihArgs, listSql_congr ihPartition,
        keysSql_congr ihOrder]
  | misplaced func partition order frame hFunc =>
      rw [plainSql, plainSql]
      · exact hFunc
      · exact hFunc
  | udf name args output ih => simp only [plainSql, listSql_congr ih]

theorem sql_congr (h : cx.columnText = cx'.columnText) (e : Expr) : e.sql d cx = e.sql d cx' :=
  plainSql_congr h _

theorem namedSql_congr (h : cx.columnText = cx'.columnText)
    (hFlag : cx.alwaysAlias = cx'.alwaysAlias) (e : Expr) :
    e.namedSql d cx = e.namedSql d cx' := by
  rw [namedSql, namedSql, sql_congr h, hFlag]

/-! ## Some text -/

/-- An expression stays well-formed wherever its columns are resolved, as long as operations have
the same spellings. -/
theorem WellFormed.transfer (hSpell : d'.spellings = d.spellings) {e : Expr}
    (h : e.WellFormed d cx) (hRefs : ∀ ref ∈ e.refs, cx'.Resolves ref) : e.WellFormed d' cx' := by
  have hSpells {op : Operation} {args : Nat} (h : d.Spells op args) : d'.Spells op args := by
    rw [Dialect.Spells, hSpell]
    exact h
  induction h with
  | column => exact .column (hRefs _ (List.mem_singleton.2 rfl))
  | literal hFinite => exact .literal hFinite
  | call hPlain hRule _ ih =>
      exact .call hPlain (hSpells hRule) fun a ha =>
        ih a ha fun ref hRef => hRefs ref (mem_refsList.2 ⟨a, ha, hRef⟩)
  | cast _ hTarget ih => exact .cast (ih hRefs) hTarget
  | named _ ih => exact .named (ih hRefs)
  | window hWindow hRule _ _ _ ihArgs ihPartition ihOrder =>
      simp only [refs, List.mem_append, mem_refsList, mem_refsKeys] at hRefs
      exact .window hWindow (hSpells hRule)
        (fun a ha => ihArgs a ha fun ref hRef => hRefs ref (.inl (.inl ⟨a, ha, hRef⟩)))
        (fun p hp => ihPartition p hp fun ref hRef => hRefs ref (.inl (.inr ⟨p, hp, hRef⟩)))
        fun k hk => ihOrder k hk fun ref hRef => hRefs ref (.inr ⟨k, hk, hRef⟩)
  | udf hName _ ih =>
      exact .udf hName fun a ha =>
        ih a ha fun ref hRef => hRefs ref (mem_refsList.2 ⟨a, ha, hRef⟩)

theorem exists_plainSql (hSpell : d'.spellings = d.spellings) {e : Expr} {text : String}
    (h : e.plainSql d cx = .ok text) (hRefs : ∀ ref ∈ e.refs, ∃ t, cx'.columnText ref = .ok t) :
    ∃ t, e.plainSql d' cx' = .ok t := by
  have hWell : e.WellFormed d cx := (accepts e).1 ⟨text, h⟩
  exact (accepts e).2 (hWell.transfer hSpell hRefs)

/-- An expression with a text has one wherever its columns have one. -/
theorem exists_sql (hSpell : d'.spellings = d.spellings) (hRewrites : d'.rewrites = d.rewrites)
    {e : Expr} {text : String} (h : e.sql d cx = .ok text)
    (hRefs : ∀ ref ∈ e.written d, ∃ t, cx'.columnText ref = .ok t) :
    ∃ t, e.sql d' cx' = .ok t := by
  unfold sql
  rw [hRewrites]
  exact exists_plainSql hSpell h hRefs

/-- Apart from its expression, an item needs a name that can be written. -/
theorem exists_namedSql (hSpell : d'.spellings = d.spellings)
    (hRewrites : d'.rewrites = d.rewrites) (hFlag : cx'.alwaysAlias = cx.alwaysAlias) {e : Expr}
    {text : String} (h : e.namedSql d cx = .ok text)
    (hRefs : ∀ ref ∈ e.written d, ∃ t, cx'.columnText ref = .ok t) :
    ∃ t, e.namedSql d' cx' = .ok t := by
  unfold namedSql at h ⊢
  rw [hFlag]
  split at h
  · cases h
  · next inner hInner =>
    rcases exists_sql hSpell hRewrites hInner hRefs with ⟨inner', hInner'⟩
    rw [hInner']
    simp only
    split at h
    · exact ⟨_, rfl⟩
    · split at h
      · next hBare =>
        rw [if_pos hBare]
        exact ⟨_, rfl⟩
      · next hBare =>
        rcases of_map_ok h with ⟨safe, hSafe, -⟩
        rw [if_neg hBare, hSafe]
        exact ⟨_, rfl⟩

end Expr
end TableQuery
