import TableQuery.Proofs.Sql.Inversion

/-!
# Coverage — no node of a relation is passed over

A relation has a text only if every node of it can be part of a statement: whichever way operations
are merged into clauses or cut into derived tables, each node is planned as a clause, walked as a
join of a chain, or written as a table. So what one step refuses is refused at every depth:

* `Dialect.union_refused` for the combination of two results;
* `Dialect.joins_of_compile` for joins that the dialect lacks.
-/

namespace TableQuery

variable {d : Dialect} {r m : Relation}

/-- The relation itself, without regard to its inputs, can be part of a statement. -/
def Relation.Admitted (d : Dialect) : Relation → Prop
  | .union .. => False
  | .join _ kind _ right predicates => d.Joins kind right predicates
  | .table .. | .selfReference .. | .sqlQuery .. | .selection .. | .aggregation .. | .limit ..
  | .distinct .. => True

namespace Relation

theorem admitted_of_isClause (h : m.isClause = true) : m.Admitted d := by
  cases m with
  | selection | aggregation | limit | distinct => trivial
  | _ => cases h

/-- A node of a join tree that is read as a chain is one of its joins, or belongs to a table. -/
theorem admitted_or_mem_table {c : JoinChain} (h : JoinChain.ofRelation d r = .ok c)
    (hm : m ∈ r.nodes) : m.Admitted d ∨ ∃ t ∈ r.fromTables, m ∈ t.nodes := by
  induction r generalizing c with
  | join id kind left right predicates ihLeft _ =>
      rcases JoinChain.of_ofRelation_join h with ⟨hJoins, c', hc', -⟩
      rcases List.mem_cons.1 hm with rfl | hm
      · exact .inl hJoins
      · rcases List.mem_append.1 hm with hm | hm
        · rcases ihLeft hc' hm with hAdmitted | ⟨t, ht, hm⟩
          · exact .inl hAdmitted
          · exact .inr ⟨t, List.mem_append_left _ ht, hm⟩
        · exact .inr ⟨right, by simp [fromTables], hm⟩
  | _ => exact .inr ⟨_, by simp [fromTables], hm⟩

/-- A node of a table is a name, a query or a view, or it belongs to a derived table. -/
theorem admitted_or_mem_derived {t : Relation} (hm : m ∈ t.nodes) :
    m.Admitted d ∨ ∃ target, t.derived? = some target ∧ m ∈ target.nodes := by
  cases hDerived : t.derived? with
  | some target =>
      rcases cases_of_derived hDerived with rfl | ⟨id, rfl⟩
      · exact .inr ⟨t, rfl, hm⟩
      · rcases List.mem_cons.1 hm with rfl | hm
        · exact .inl trivial
        · exact .inr ⟨target, rfl, hm⟩
  | none =>
      left
      cases t with
      | table | sqlQuery =>
          rw [List.mem_singleton.1 hm]
          trivial
      | selfReference id target =>
          cases target with
          | table =>
              rcases (by simpa [nodes] using hm) with rfl | rfl
              · trivial
              · trivial
          | _ => cases hDerived
      | _ => cases hDerived

end Relation

/-- Every node of a relation that has a text can be part of a statement, by induction on how deep
statements may stand in one another. -/
theorem admitted_of_statement {allowance : Nat} :
    ∀ {cx r text}, (statement d allowance cx r).1 = .ok text → ∀ m ∈ r.nodes, m.Admitted d := by
  induction allowance with
  | zero =>
      intro cx r text h
      cases h
  | succ allowance ih =>
      intro cx r text h m hm
      rcases of_statement h with ⟨p, hPlan, hText⟩
      rcases p.of_render hText with ⟨chain, -, -, -, -, hChain, -⟩
      -- from the relation to the plan's source, from there to a table, and then to a statement
      rcases SelectPlan.isClause_or_mem_source hPlan hm with hClause | hm
      · exact Relation.admitted_of_isClause hClause
      · rcases Relation.admitted_or_mem_table hChain hm with hAdmitted | ⟨t, ht, hm⟩
        · exact hAdmitted
        · rcases Relation.admitted_or_mem_derived hm with hAdmitted | ⟨target, hDerived, hm⟩
          · exact hAdmitted
          · have hTarget : target ∈ r.derivedTables :=
              (Relation.mem_derivedTables hPlan).2 ⟨t, ht, hDerived⟩
            rcases exists_statement_of_mem_derivedTables h hTarget with ⟨cx', inner, hInner⟩
            exact ih hInner m hm

theorem Dialect.admitted_of_compile {text : String} (h : d.compile r = .ok text)
    (hm : r.Reaches m) : m.Admitted d :=
  admitted_of_statement (of_compile h) m (Relation.mem_nodes_iff_reaches.2 hm)

/-! ## Unions -/

theorem Relation.containsUnion_of_mem_nodes {id : Nat} {left right : Relation} {distinct : Bool}
    (h : .union id left right distinct ∈ r.nodes) : r.containsUnion = true := by
  induction r with
  | table | sqlQuery => cases List.mem_singleton.1 h
  | union => rfl
  | join _ _ _ _ _ ihLeft ihRight =>
      rcases List.mem_cons.1 h with h | h
      · cases h
      · rw [containsUnion, Bool.or_eq_true]
        exact (List.mem_append.1 h).imp ihLeft ihRight
  | selfReference _ _ ih
  | selection _ _ _ _ _ ih
  | aggregation _ _ _ _ _ ih
  | limit _ _ _ _ ih
  | distinct _ _ ih =>
      rcases List.mem_cons.1 h with h | h
      · cases h
      · exact ih h

/-- A relation in which two results are combined, at any depth, is never compiled. A dialect without
unions says so, whatever else there is to be said against the relation. -/
theorem Dialect.union_refused (d : Dialect) (r : Relation)
    (h : ∃ id left right distinct, r.Reaches (.union id left right distinct)) :
    (∃ e, d.compile r = .error e) ∧
      (d.unions = false → d.compile r =
        .error (.unsupportedStatement "HeavyDB backend doesn't support Union operation")) := by
  rcases h with ⟨id, left, right, distinct, hUnion⟩
  constructor
  · cases hText : d.compile r with
    | error e => exact ⟨e, rfl⟩
    | ok text => exact (d.admitted_of_compile hText hUnion).elim
  · intro hUnions
    have hContains := Relation.containsUnion_of_mem_nodes (Relation.mem_nodes_iff_reaches.2 hUnion)
    rw [compile, hUnions, hContains]
    rfl

/-- A view of a limited union, joined on the right. -/
def Relation.viewedUnion : Relation :=
  let t : Relation := .table 1 "t" ⟨[⟨"a", .string, true⟩]⟩
  let u : Relation := .table 2 "u" ⟨[⟨"a", .string, true⟩]⟩
  .join 6 .inner t (.selfReference 5 (.limit 4 (.union 3 t u false) 5 0)) []

/-- The dialect of the server, as if unions were not refused before a relation is planned. -/
def Dialect.lenient : Dialect :=
  { standard with unions := true }

theorem Dialect.union_refused_viewedUnion :
    (∃ id left right distinct,
        Relation.viewedUnion.Reaches (.union id left right distinct)) ∧
      (∃ e, lenient.compile Relation.viewedUnion = .error e) ∧
      standard.compile Relation.viewedUnion =
        .error (.unsupportedStatement "HeavyDB backend doesn't support Union operation") := by
  have hUnion : ∃ id left right distinct,
      Relation.viewedUnion.Reaches (.union id left right distinct) :=
    -- down to the view, what it points to, and the union
    ⟨3, _, _, _, .step (List.mem_cons_of_mem _ (List.mem_singleton.2 rfl))
      (.step (List.mem_singleton.2 rfl) (.step (List.mem_singleton.2 rfl) (.refl _)))⟩
  exact ⟨hUnion, (union_refused lenient _ hUnion).1, (union_refused standard _ hUnion).2 rfl⟩

/-! ## Joins -/

/-- The join kinds of the dialects: the others have no keyword. -/
theorem Dialect.of_joinLabel {kind : JoinKind} {label : String}
    (h : d.joinLabel kind = .ok label) :
    kind = .inner ∨ kind = .left ∨ kind = .leftSemi ∨ kind = .cross := by
  cases kind with
  | inner | left | leftSemi | cross => decide
  | _ => cases h

/-- A condition that passes the check is an equality, which may have a name. -/
theorem Dialect.of_checkJoinPredicates {predicates : List Expr} (hOnly : d.nonEquiJoins = false)
    (h : d.checkJoinPredicates predicates = .ok ()) {p : Expr} (hp : p ∈ predicates) :
    ∃ args, p = .call .equals args ∨ ∃ name, p = .alias (.call .equals args) name := by
  -- only a call of the operation counts as one
  have hCall {e : Expr} (he : e.isCallOf .equals = true) : ∃ args, e = .call .equals args := by
    cases e with
    | call op args => exact ⟨args, by rw [eq_of_beq he]⟩
    | _ => cases he
  unfold checkJoinPredicates at h
  simp only [hOnly, Bool.false_eq_true, if_false] at h
  split at h
  · cases h
  · next hNone =>
    have hEquals : p.unnamed.isCallOf .equals = true := by
      simpa using List.find?_eq_none.1 hNone p hp
    cases p with
    | «alias» inner name =>
        rcases hCall (e := inner) hEquals with ⟨args, rfl⟩
        exact ⟨args, .inr ⟨name, rfl⟩⟩
    | _ =>
        rcases hCall hEquals with ⟨args, hp⟩
        exact ⟨args, .inl hp⟩

/-- In a compiled relation every join, at any depth, is of a kind that has a keyword, has no join on
its right, and is on equalities where the dialect has no other conditions. -/
theorem Dialect.joins_of_compile {d : Dialect} {r : Relation} {text : String}
    (h : d.compile r = .ok text) {id : Nat} {kind : JoinKind} {left right : Relation}
    {predicates : List Expr} (hJoin : r.Reaches (.join id kind left right predicates)) :
    (kind = .inner ∨ kind = .left ∨ kind = .leftSemi ∨ kind = .cross) ∧ right.isJoin = false ∧
      (d.nonEquiJoins = false → ∀ p ∈ predicates,
        ∃ args, p = .call .equals args ∨ ∃ name, p = .alias (.call .equals args) name) := by
  have hJoins : d.Joins kind right predicates := d.admitted_of_compile h hJoin
  rcases hJoins.label with ⟨label, hLabel⟩
  exact ⟨of_joinLabel hLabel, hJoins.right, fun hOnly p hp =>
    of_checkJoinPredicates hOnly hJoins.predicates hp⟩

/-- A left join inside of a derived table, which is joined to another table. -/
def Relation.joinedBelow : Relation :=
  let column (id : Nat) (kind : RelationKind) : Expr := .column ⟨⟨id, kind⟩, "a"⟩
  let t : Relation := .table 1 "t" ⟨[⟨"a", .string, true⟩]⟩
  let u : Relation := .table 2 "u" ⟨[⟨"a", .string, true⟩]⟩
  let v : Relation := .table 3 "v" ⟨[⟨"a", .string, true⟩]⟩
  let below : Relation :=
    .join 4 .left t u [.alias (.call .equals [column 1 .table, column 2 .table]) "same"]
  .join 6 .inner v (.limit 5 below 10 0) [.call .equals [column 3 .table, column 5 .limit]]

/-- The dialect of the server for joins on equalities only. -/
def Dialect.equating : Dialect :=
  { standard with nonEquiJoins := false }

theorem Dialect.joins_of_compile_joinedBelow :
    ∃ text left right predicates, equating.compile Relation.joinedBelow = .ok text ∧
      Relation.joinedBelow.Reaches (.join 4 .left left right predicates) ∧
      equating.nonEquiJoins = false ∧ right.isJoin = false ∧ ∀ p ∈ predicates,
        ∃ args, p = .call .equals args ∨ ∃ name, p = .alias (.call .equals args) name := by
  have hText : equating.compile Relation.joinedBelow = .ok
      ("SELECT *\nFROM v t0\n  JOIN (\n    SELECT *\n    FROM t t2\n      LEFT JOIN u t3\n" ++
        "        ON t2.a = t3.a\n    LIMIT 10\n  ) t1\n    ON t0.a = t1.a") := by
    decide +kernel
  have hJoin : ∃ left right predicates,
      Relation.joinedBelow.Reaches (.join 4 .left left right predicates) :=
    ⟨_, _, _, .step (List.mem_cons_of_mem _ (List.mem_singleton.2 rfl))
      (.step (List.mem_singleton.2 rfl) (.refl _))⟩
  rcases hJoin with ⟨left, right, predicates, hJoin⟩
  rcases joins_of_compile hText hJoin with ⟨-, hRight, hEqualities⟩
  exact ⟨_, left, right, predicates, hText, hJoin, rfl, hRight, hEqualities rfl⟩

end TableQuery
