import TableQuery.Proofs.Expr.Induction
import TableQuery.Proofs.Numbering.Spelling
import TableQuery.Proofs.Sql.Inversion

/-!
# Steady — outcomes that do not depend on how many aliases have been drawn

Whether an expression has a text does not depend on the numbers of the aliases around it: there is a
text for all numbers, or an error of one kind for all of them (`Steady`). The messages of errors can
differ, since a message can name aliases. If the columns of a scope are steady, and the spelling
rules are uniform, every expression over these columns is steady, and its texts are numbered
(`Expr.steady_plainSql`).
-/

namespace TableQuery

/-- For each number of the next alias there is a result, and the results are a family of some kind;
or there is an error for each number, and these are of one variant. -/
def Steady {α : Type} (P : (Nat → α) → Prop) (f : Nat → Except SqlError α) : Prop :=
  (∃ t, P t ∧ ∀ k, f k = .ok (t k)) ∨
    ∃ variant, ∀ k, ∃ e, f k = .error e ∧ e.ctorIdx = variant

/-- Lists that consist, for each number, of the members of the same families. -/
def Each {α : Type} (P : (Nat → α) → Prop) (count : Nat) (ts : Nat → List α) : Prop :=
  ∃ us : List (Nat → α), us.length = count ∧ (∀ u ∈ us, P u) ∧ ∀ k, ts k = us.map (· k)

namespace Steady

variable {α β : Type} {P : (Nat → α) → Prop} {Q : (Nat → β) → Prop}

theorem ok {t : Nat → α} (h : P t) : Steady P fun k => .ok (t k) :=
  .inl ⟨t, h, fun _ => rfl⟩

theorem error (e : SqlError) : Steady P fun _ => .error e :=
  .inr ⟨e.ctorIdx, fun _ => ⟨e, rfl, rfl⟩⟩

/-- What does not depend on aliases at all. -/
theorem const (x : Except SqlError α) (h : ∀ a, P fun _ => a) : Steady P fun _ => x := by
  cases x with
  | error e => exact error e
  | ok a => exact ok (h a)

theorem map {f : Nat → Except SqlError α} {g : Nat → α → β} (h : Steady P f)
    (hg : ∀ t, P t → Q fun k => g k (t k)) : Steady Q fun k => (f k).map (g k) := by
  rcases h with ⟨t, ht, hf⟩ | ⟨variant, hf⟩
  · simp only [hf]
    exact ok (hg t ht)
  · refine .inr ⟨variant, fun k => ?_⟩
    rcases hf k with ⟨e, he, hVariant⟩
    exact ⟨e, congrArg (Except.map (g k)) he, hVariant⟩

/-- A computation that starts with a steady one: its errors are handed on, and with each result the
computation goes on. -/
theorem andThen {f : Nat → Except SqlError α} {g : Nat → Except SqlError β} (h : Steady P f)
    (hError : ∀ k e, f k = .error e → g k = .error e)
    (hOk : ∀ t, P t → (∀ k, f k = .ok (t k)) → Steady Q g) : Steady Q g := by
  rcases h with ⟨t, ht, hf⟩ | ⟨variant, hf⟩
  · exact hOk t ht hf
  · refine .inr ⟨variant, fun k => ?_⟩
    rcases hf k with ⟨e, he, hVariant⟩
    exact ⟨e, hError k e he, hVariant⟩

theorem mapM {xs : List β} {f : β → Nat → Except SqlError α} (h : ∀ x ∈ xs, Steady P (f x)) :
    Steady (Each P xs.length) fun k => xs.mapM fun x => f x k := by
  induction xs with
  | nil => exact ok ⟨[], rfl, by simp, fun _ => rfl⟩
  | cons x xs ih =>
      simp only [List.mapM_cons]
      refine (h x (by simp)).andThen (fun k e he => by rw [he]; rfl) fun t ht hHead => ?_
      refine (ih fun y hy => h y (List.mem_cons_of_mem _ hy)).andThen
        (fun k e he => by rw [hHead, he]; rfl) fun ts hts hTail => ?_
      rcases hts with ⟨us, hCount, hus, hMembers⟩
      simp only [hHead, hTail, hMembers]
      refine ok ⟨t :: us, ?_, List.forall_mem_cons.2 ⟨ht, hus⟩, fun _ => rfl⟩
      rw [List.length_cons, hCount, List.length_cons]

end Steady

/-! ## Putting lists together -/

section Lists

variable {n : Nat} {ts us : Nat → List String} {t : Nat → String}

theorem Each.numbered_intercalate (h : Each Numbered n ts) (separator : String) :
    Numbered fun k => separator.intercalate (ts k) := by
  rcases h with ⟨vs, -, hvs, hMembers⟩
  simp only [hMembers]
  exact TableQuery.numbered_intercalate separator hvs

theorem Each.isEmpty (h : Each Numbered n ts) (k : Nat) : (ts k).isEmpty = (n == 0) := by
  rcases h with ⟨vs, rfl, -, hMembers⟩
  rw [hMembers, List.isEmpty_map]
  cases vs <;> rfl

theorem numbered_windowClauses {m : Nat} (hPartition : Each Numbered m ts)
    (hOrder : Each Numbered n us) (frame : Option WindowFrame) :
    Numbered fun k => windowClauses (ts k) (us k) frame := by
  have hKeys := (numbered_const "PARTITION BY ").append (hPartition.numbered_intercalate ", ")
  have hSorts := (numbered_const "ORDER BY ").append (hOrder.numbered_intercalate ", ")
  let parts : List (Nat → String) :=
    (if m == 0 then [] else [fun k => "PARTITION BY " ++ ", ".intercalate (ts k)]) ++
      (if n == 0 then [] else [fun k => "ORDER BY " ++ ", ".intercalate (us k)]) ++
      (frame.map fun f _ => f.sql).toList
  have hParts : ∀ t ∈ parts, Numbered t := by
    intro t ht
    simp only [parts, List.mem_append] at ht
    rcases ht with (ht | ht) | ht
    · split at ht
      · cases ht
      · rw [List.mem_singleton.1 ht]
        exact hKeys
    · split at ht
      · cases ht
      · rw [List.mem_singleton.1 ht]
        exact hSorts
    · rcases Option.map_eq_some_iff.1 (Option.mem_toList.1 ht) with ⟨f, -, rfl⟩
      exact numbered_const f.sql
  -- whether there are keys does not depend on the number, so the same parts stand in all texts
  have hText : ∀ k, windowClauses (ts k) (us k) frame = " ".intercalate (parts.map (· k)) := by
    intro k
    simp only [windowClauses, hPartition.isEmpty, hOrder.isEmpty, parts, List.map_append]
    cases frame <;> split <;> split <;> rfl
  simp only [hText]
  exact TableQuery.numbered_intercalate " " hParts

theorem numbered_windowText {m : Nat} (op : Operation) (ht : Numbered t)
    (hPartition : Each Numbered m ts) (hOrder : Each Numbered n us) (frame : Option WindowFrame) :
    Numbered fun k => windowText op (t k) (ts k) (us k) frame := by
  have hText := (ht.join " OVER (" (numbered_windowClauses hPartition hOrder frame)).append
    (numbered_const ")")
  unfold windowText
  cases op.countsFromZero with
  | true => exact hText.enclosed "(" " - 1)"
  | false => exact hText

theorem Numbered.sortKeyText (ht : Numbered t) (ascending : Bool) :
    Numbered fun k => sortKeyText (t k) ascending := by
  cases ascending with
  | true => exact ht
  | false => exact ht.append (numbered_const " DESC")

end Lists

namespace Expr

variable {d : Dialect} {cx : Nat → Context}

theorem numbered_operandText {t : Nat → String} (ht : Numbered t) (wrap : Bool) (e : Expr) :
    Numbered fun k => e.operandText d wrap (t k) := by
  unfold operandText
  cases wrap && e.isCompound d with
  | true => exact ht.enclosed "(" ")"
  | false => exact ht

theorem steady_operandsSql (wrap : Bool) {es : List Expr}
    (h : ∀ e ∈ es, Steady Numbered fun k => e.plainSql d (cx k)) :
    Steady (Each Numbered es.length) fun k => operandsSql d (cx k) wrap es := by
  simp only [operandsSql_eq_mapM]
  exact Steady.mapM fun e he => (h e he).map fun t ht => numbered_operandText ht wrap e

theorem steady_listSql {es : List Expr}
    (h : ∀ e ∈ es, Steady Numbered fun k => e.plainSql d (cx k)) :
    Steady (Each Numbered es.length) fun k => listSql d (cx k) es := by
  simp only [listSql_eq_mapM]
  exact Steady.mapM h

theorem steady_keysSql {ks : List (SortKey Expr)}
    (h : ∀ s ∈ ks, Steady Numbered fun k => s.key.plainSql d (cx k)) :
    Steady (Each Numbered ks.length) fun k => keysSql d (cx k) ks := by
  simp only [keysSql_eq_mapM]
  exact Steady.mapM fun s hs => (h s hs).map fun t ht => ht.sortKeyText s.ascending

/-- A call over numbered operands is numbered, as its rule is uniform. -/
theorem numbered_render (hUniform : d.spellings.Uniform) {op : Operation} {rule : SpellingRule}
    {n : Nat} (hRule : d.ruleFor op n = .ok rule) {ts : Nat → List String}
    (hts : Each Numbered n ts) : Numbered fun k => rule.render (ts k) := by
  rcases Dialect.of_ruleFor hRule with ⟨hSpelled, hArity⟩
  rcases hts with ⟨us, rfl, hus, hMembers⟩
  simp only [hMembers]
  exact hUniform op rule hSpelled us hArity hus

/-- Over steady columns and with uniform rules, expressions are steady. -/
theorem steady_plainSql (hUniform : d.spellings.Uniform)
    (hColumns : ∀ ref, Steady Numbered fun k => (cx k).columnText ref) (e : Expr) :
    Steady Numbered fun k => e.plainSql d (cx k) := by
  induction e using writtenInduction with
  | column ref =>
      simp only [plainSql]
      exact hColumns ref
  | literal value =>
      simp only [plainSql]
      exact .const _ numbered_const
  | call op args ih =>
      simp only [plainSql]
      split
      · exact .error _
      · -- which rule there is depends on the operation and the number of operands
        cases hRule : d.ruleFor op args.length with
        | error e => exact .error e
        | ok rule =>
            exact (steady_operandsSql _ ih).map fun ts hts => numbered_render hUniform hRule hts
  | cast arg target ih =>
      simp only [plainSql]
      refine ih.andThen (fun k e he => by rw [he]) fun t ht hText => ?_
      simp only [hText]
      cases target.sqlName with
      | error e => exact .error e
      | ok name =>
          have hCast := ((numbered_const "CAST(").append ht).join " AS " (numbered_const name)
          exact .ok (hCast.append (numbered_const ")"))
  | aliased expr name ih =>
      simp only [plainSql]
      exact ih
  | window op args partition order frame ihArgs ihPartition ihOrder =>
      simp only [plainSql]
      split
      · cases hRule : d.ruleFor op args.length with
        | error e => exact .error e
        | ok rule =>
            refine (steady_operandsSql rule.isOperatorLike ihArgs).andThen
              (fun k e he => by simp only [he]) fun ts hts hOperands => ?_
            refine (steady_listSql ihPartition).andThen
              (fun k e he => by simp only [hOperands, he]) fun ps hps hKeys => ?_
            simp only [hOperands, hKeys]
            exact (steady_keysSql ihOrder).map fun us hus =>
              numbered_windowText op (numbered_render hUniform hRule hts) hps hus frame
      · exact .error _
  | misplaced func partition order frame hFunc =>
      have hRefused : ∀ k, (window func partition order frame).plainSql d (cx k) =
          .error (.unsupportedExpr ("window over non-analytic expression " ++ inspect func)) := by
        intro k
        rw [plainSql]
        exact hFunc
      simp only [hRefused]
      exact .error _
  | udf name args output ih =>
      simp only [plainSql]
      refine (steady_listSql ih).andThen (fun k e he => by rw [he]) fun ts hts hTexts => ?_
      simp only [hTexts]
      cases Identifier.safe name with
      | error e => exact .error e
      | ok safe =>
          have hCall := (numbered_const safe).join "(" (hts.numbered_intercalate ", ")
          exact .ok (hCall.append (numbered_const ")"))

end Expr

end TableQuery
