import TableQuery.Proofs.Expr.Induction
import TableQuery.Rewrite.Basic

/-!
# Complete — one pass rewrites everything

A set of rules is at rest if the output of no rule calls the target of a rule. The check that admits
rules keeps sets at rest, whichever rules are offered and in whichever order, and what a set at rest
has rewritten holds no call that one of its rules would take. So a second pass changes nothing.
-/

namespace TableQuery
namespace RewriteSet

variable {s : RewriteSet}

/-! ## Where rules fire -/

/-- Whether a rule takes the calls of an operation with a number of arguments. -/
def takes (s : RewriteSet) (op : Operation) (args : Nat) : Bool :=
  (s.rule? op).any (·.arity.accepts args)

/-- No rule takes any call in the expression. -/
def Finished (s : RewriteSet) (e : Expr) : Prop :=
  e.Without s.takes

theorem rewriteNode_of_not_takes {op : Operation} {args : List Expr}
    (h : s.takes op args.length = false) : s.rewriteNode (.call op args) = .call op args := by
  cases hRule : s.rule? op with
  | none => simp [rewriteNode, hRule]
  | some r =>
      have hArity : r.arity.accepts args.length = false := by
        simpa [takes, hRule] using h
      simp [rewriteNode, hRule, hArity]

/-- The output of the rule that takes a call stands in place of the call. -/
theorem exists_rule_of_takes {op : Operation} {args : List Expr}
    (h : s.takes op args.length = true) :
    ∃ r ∈ s.rules, r.target = op ∧ r.arity.accepts args.length = true ∧
      s.rewriteNode (.call op args) = r.output.fill args := by
  cases hRule : s.rule? op with
  | none => simp [takes, hRule] at h
  | some r =>
      have hArity : r.arity.accepts args.length = true := by
        simpa [takes, hRule] using h
      have hTarget : r.target = op := by
        simpa using List.find?_some hRule
      refine ⟨r, List.mem_of_find?_eq_some hRule, hTarget, hArity, ?_⟩
      simp [rewriteNode, hRule, hArity]

/-! ## Expressions without work left -/

theorem transformUp_of_finished {e : Expr} (h : s.Finished e) :
    e.transformUp s.rewriteNode = e := by
  induction e with
  | column ref => rfl
  | literal value => rfl
  | call op args ih =>
      rcases Expr.without_call.1 h with ⟨hNode, hArgs⟩
      have hSame : Expr.transformList s.rewriteNode args = args :=
        Expr.transformList_eq_self fun a ha => ih a ha (hArgs a ha)
      simpa [Expr.transformUp, hSame] using rewriteNode_of_not_takes hNode
  | cast arg target ih =>
      have hArg := ih (Expr.without_cast.1 h)
      simp [Expr.transformUp, hArg, rewriteNode]
  | aliased expr name ih =>
      have hExpr := ih (Expr.without_alias.1 h)
      simp [Expr.transformUp, hExpr, rewriteNode]
  | window func partition order frame ihFunc ihPartition ihOrder =>
      rcases Expr.without_window.1 h with ⟨hFunc, hPartition, hOrder⟩
      have hKeys : Expr.transformList s.rewriteNode partition = partition :=
        Expr.transformList_eq_self fun p hp => ihPartition p hp (hPartition p hp)
      have hSorts : Expr.transformKeys s.rewriteNode order = order :=
        Expr.transformKeys_eq_self fun k hk => ihOrder k hk (hOrder k hk)
      simp [Expr.transformUp, ihFunc hFunc, hKeys, hSorts, rewriteNode]
  | udf name args output ih =>
      have hArgs := Expr.without_udf.1 h
      have hSame : Expr.transformList s.rewriteNode args = args :=
        Expr.transformList_eq_self fun a ha => ih a ha (hArgs a ha)
      simp [Expr.transformUp, hSame, rewriteNode]

theorem finished_of_rules_eq_nil (h : s.rules = []) (e : Expr) : s.Finished e := by
  have hTakes (op : Operation) (args : Nat) : s.takes op args = false := by
    simp [takes, rule?, h]
  induction e with
  | column ref => exact Expr.without_column ref
  | literal value => exact Expr.without_literal value
  | call op args ih => exact Expr.without_call.2 ⟨hTakes op args.length, ih⟩
  | cast arg target ih => exact Expr.without_cast.2 ih
  | aliased expr name ih => exact Expr.without_alias.2 ih
  | window func partition order frame ihFunc ihPartition ihOrder =>
      exact Expr.without_window.2 ⟨ihFunc, ihPartition, ihOrder⟩
  | udf name args output ih => exact Expr.without_udf.2 ih

/-- Without rules the pass is left out, which makes no difference. -/
theorem apply_eq_transformUp (s : RewriteSet) (e : Expr) :
    s.apply e = e.transformUp s.rewriteNode := by
  unfold apply
  split
  · next hEmpty =>
    have hNil : s.rules = [] := List.isEmpty_iff.1 hEmpty
    exact (transformUp_of_finished (finished_of_rules_eq_nil hNil e)).symm
  · rfl

theorem apply_of_finished {e : Expr} (h : s.Finished e) : s.apply e = e := by
  calc s.apply e
      = e.transformUp s.rewriteNode := s.apply_eq_transformUp e
    _ = e := transformUp_of_finished h

/-! ## Sets at rest -/

/-- Whether the operation is the target of a rule. -/
def isTarget (s : RewriteSet) (op : Operation) : Bool :=
  s.rules.any (·.target == op)

/-- The output of no rule calls the target of a rule, whatever the number of arguments. -/
def AtRest (s : RewriteSet) : Prop :=
  ∀ r ∈ s.rules, ∀ old ∈ s.rules, r.produces old.target = false

/-- An expression that calls no target of a single rule calls no target at all. -/
theorem without_isTarget {e : Expr}
    (h : ∀ r ∈ s.rules, e.anyNode (·.isCallOf r.target) = false) :
    e.Without fun op _ => s.isTarget op := by
  -- said with the predicate of the induction, which looks at operations alone
  have hCalls : ∀ r ∈ s.rules, e.Without fun op _ => op == r.target := by
    intro r hr
    have hSame : (Expr.isCallOf r.target) = Expr.isCallWith fun op _ => op == r.target := by
      funext n
      cases n <;> rfl
    simpa [Expr.Without, ← hSame] using h r hr
  clear h
  induction e with
  | column ref => exact Expr.without_column ref
  | literal value => exact Expr.without_literal value
  | call op args ih =>
      simp only [Expr.without_call, beq_eq_false_iff_ne] at hCalls
      refine Expr.without_call.2 ⟨?_, fun a ha => ih a ha fun r hr => (hCalls r hr).2 a ha⟩
      apply List.any_eq_false.2
      intro r hr hTarget
      exact (hCalls r hr).1 (beq_iff_eq.1 hTarget).symm
  | cast arg target ih =>
      exact Expr.without_cast.2 (ih fun r hr => Expr.without_cast.1 (hCalls r hr))
  | aliased expr name ih =>
      exact Expr.without_alias.2 (ih fun r hr => Expr.without_alias.1 (hCalls r hr))
  | window func partition order frame ihFunc ihPartition ihOrder =>
      simp only [Expr.without_window] at hCalls
      exact Expr.without_window.2 ⟨ihFunc fun r hr => (hCalls r hr).1,
        fun p hp => ihPartition p hp fun r hr => (hCalls r hr).2.1 p hp,
        fun k hk => ihOrder k hk fun r hr => (hCalls r hr).2.2 k hk⟩
  | udf name args output ih =>
      simp only [Expr.without_udf] at hCalls
      exact Expr.without_udf.2 fun a ha => ih a ha fun r hr => hCalls r hr a ha

theorem not_takes_of_not_isTarget {op : Operation} (h : s.isTarget op = false) (args : Nat) :
    s.takes op args = false := by
  have hNone : s.rule? op = none := by
    simpa [isTarget, rule?] using h
  simp [takes, hNone]

/-- Every template but the place for all arguments fills one place of a list. -/
theorem fillList_cons (t : Template) (ts : List Template) :
    t = .allArguments ∨
      ∀ args, Template.fillList args (t :: ts) = t.fill args :: Template.fillList args ts := by
  cases t with
  | allArguments => exact .inl rfl
  | _ => exact .inr fun args => rfl

theorem fillKeys_cons (t : Template) (up : Bool) (ks : List (SortKey Template)) :
    t = .allArguments ∨
      ∀ args, Template.fillKeys args (⟨t, up⟩ :: ks) =
        ⟨t.fill args, up⟩ :: Template.fillKeys args ks := by
  cases t with
  | allArguments => exact .inl rfl
  | _ => exact .inr fun args => rfl

mutual

/-- A template whose own calls are of no targets is finished once it is filled with what is
finished: the calls of a filled template are its own and those of its arguments. -/
theorem finished_fill {blanks args : List Expr} (hArgs : ∀ a ∈ args, s.Finished a) (t : Template)
    (h : (t.fill blanks).Without fun op _ => s.isTarget op) : s.Finished (t.fill args) := by
  match t with
  | .argument i =>
      rw [Template.fill, List.getD_eq_getElem?_getD]
      cases hArg : args[i]? with
      | none => exact Expr.without_literal .null
      | some a => exact hArgs a (List.mem_of_getElem? hArg)
  | .allArguments => exact Expr.without_literal .null
  | .column ref => exact Expr.without_column ref
  | .literal value => exact Expr.without_literal value
  | .call op parts =>
      rw [Template.fill, Expr.without_call] at h
      exact Expr.without_call.2 ⟨not_takes_of_not_isTarget h.1 _, finished_fillList hArgs parts h.2⟩
  | .cast part target =>
      exact Expr.without_cast.2 (finished_fill hArgs part (Expr.without_cast.1 h))
  | .alias part name =>
      exact Expr.without_alias.2 (finished_fill hArgs part (Expr.without_alias.1 h))
  | .window func partition order frame =>
      rw [Template.fill, Expr.without_window] at h
      exact Expr.without_window.2 ⟨finished_fill hArgs func h.1,
        finished_fillList hArgs partition h.2.1, finished_fillKeys hArgs order h.2.2⟩
  | .udf name parts output =>
      exact Expr.without_udf.2 (finished_fillList hArgs parts (Expr.without_udf.1 h))

theorem finished_fillList {blanks args : List Expr} (hArgs : ∀ a ∈ args, s.Finished a)
    (ts : List Template)
    (h : ∀ e ∈ Template.fillList blanks ts, e.Without fun op _ => s.isTarget op) :
    ∀ e ∈ Template.fillList args ts, s.Finished e := by
  match ts with
  | [] => simp [Template.fillList]
  | t :: ts =>
      rcases fillList_cons t ts with rfl | hFill
      · rw [Template.fillList, List.forall_mem_append] at h ⊢
        exact ⟨hArgs, finished_fillList hArgs ts h.2⟩
      · rw [hFill, List.forall_mem_cons] at h ⊢
        exact ⟨finished_fill hArgs t h.1, finished_fillList hArgs ts h.2⟩

theorem finished_fillKeys {blanks args : List Expr} (hArgs : ∀ a ∈ args, s.Finished a)
    (ks : List (SortKey Template))
    (h : ∀ k ∈ Template.fillKeys blanks ks, k.key.Without fun op _ => s.isTarget op) :
    ∀ k ∈ Template.fillKeys args ks, s.Finished k.key := by
  match ks with
  | [] => simp [Template.fillKeys]
  | ⟨t, up⟩ :: ks =>
      rcases fillKeys_cons t up ks with rfl | hFill
      · rw [Template.fillKeys, List.forall_mem_append] at h ⊢
        refine ⟨?_, finished_fillKeys hArgs ks h.2⟩
        simpa using hArgs
      · rw [hFill, List.forall_mem_cons] at h ⊢
        exact ⟨finished_fill hArgs t h.1, finished_fillKeys hArgs ks h.2⟩

end

/-! ## The pass -/

/-- Each node is finished once what stands below it is. -/
theorem finished_rewriteNode_call (hs : s.AtRest) {op : Operation} {args : List Expr}
    (hArgs : ∀ a ∈ args, s.Finished a) : s.Finished (s.rewriteNode (.call op args)) := by
  cases hTakes : s.takes op args.length with
  | false =>
      rw [rewriteNode_of_not_takes hTakes]
      exact Expr.without_call.2 ⟨hTakes, hArgs⟩
  | true =>
      -- the sample of the rule calls no targets, and over other arguments the output adds none
      rcases exists_rule_of_takes hTakes with ⟨r, hr, -, -, hNode⟩
      rw [hNode]
      exact finished_fill hArgs r.output (without_isTarget (hs r hr))

/-- What a set at rest has rewritten is finished. -/
theorem finished_apply (hs : s.AtRest) (e : Expr) : s.Finished (s.apply e) := by
  rw [apply_eq_transformUp]
  induction e with
  | column ref => exact Expr.without_column ref
  | literal value => exact Expr.without_literal value
  | call op args ih =>
      rw [Expr.transformUp]
      apply finished_rewriteNode_call hs
      simpa [Expr.transformList_eq_map] using ih
  | cast arg target ih => exact Expr.without_cast.2 ih
  | aliased expr name ih => exact Expr.without_alias.2 ih
  | window func partition order frame ihFunc ihPartition ihOrder =>
      refine Expr.without_window.2 ⟨ihFunc, ?_, ?_⟩
      · simpa [Expr.transformList_eq_map, Finished] using ihPartition
      · simpa [Expr.transformKeys_eq_map, SortKey.map, Finished] using ihOrder
  | udf name args output ih =>
      apply Expr.without_udf.2
      simpa [Expr.transformList_eq_map, Finished] using ih

/-- To rewrite a part of what has been rewritten once more changes nothing. -/
theorem apply_of_within (hs : s.AtRest) {part e : Expr} (h : part.Within (s.apply e)) :
    s.apply part = part :=
  apply_of_finished (h.without (finished_apply hs e))

/-! ## Admission -/

/-- The rules with one more, if it is admitted. -/
def offer (s : RewriteSet) (r : RewriteRule) : RewriteSet :=
  match s.withRule r with
  | .ok more => more
  | .error _ => s

/-- The rules with each of some more that is admitted, one after another. -/
def offerAll (s : RewriteSet) (more : List RewriteRule) : RewriteSet :=
  more.foldl offer s

/-- What the check has found out about a rule that it admits. -/
theorem of_withRule {r : RewriteRule} {more : RewriteSet} (h : s.withRule r = .ok more) :
    more = s.insert r ∧ r.produces r.target = false ∧
      (∀ old ∈ s.rules, r.produces old.target = false) ∧
      ∀ old ∈ s.rules, old.target ≠ r.target → old.produces r.target = false := by
  unfold withRule at h
  split at h
  · cases h
  · next hSelf =>
    split at h
    · cases h
    · next hOld =>
      split at h
      · cases h
      · next hNew =>
        cases h
        refine ⟨rfl, by simpa using hSelf, ?_, ?_⟩
        · intro old hMem
          simpa using List.find?_eq_none.1 hOld old hMem
        · intro old hMem hOther
          simpa [hOther] using List.find?_eq_none.1 hNew old hMem

/-- An admitted rule leaves a set at rest, also where it takes the place of another. -/
theorem AtRest.withRule (hs : s.AtRest) {r : RewriteRule} {more : RewriteSet}
    (h : s.withRule r = .ok more) : more.AtRest := by
  rcases of_withRule h with ⟨rfl, hSelf, hOld, hNew⟩
  have hMem {q : RewriteRule} (hq : q ∈ (s.insert r).rules) :
      (q ∈ s.rules ∧ q.target ≠ r.target) ∨ q = r := by
    simpa [insert] using hq
  -- the output of either kind of rule against the target of either kind
  intro q hq old hold
  rcases hMem hq with ⟨hqMem, hqOther⟩ | rfl
  · rcases hMem hold with ⟨holdMem, -⟩ | rfl
    · exact hs q hqMem old holdMem
    · exact hNew q hqMem hqOther
  · rcases hMem hold with ⟨holdMem, -⟩ | rfl
    · exact hOld old holdMem
    · exact hSelf

theorem AtRest.offer (hs : s.AtRest) (r : RewriteRule) : (s.offer r).AtRest := by
  unfold RewriteSet.offer
  split
  · next more hAdmitted => exact hs.withRule hAdmitted
  · exact hs

theorem AtRest.offerAll (hs : s.AtRest) (more : List RewriteRule) : (s.offerAll more).AtRest := by
  induction more generalizing s with
  | nil => exact hs
  | cons r more ih => exact ih (hs.offer r)

theorem atRest_empty : empty.AtRest := by
  intro r hr
  cases hr

theorem atRest_standard : standard.AtRest := by
  unfold AtRest
  decide

/-- Whatever rules are offered to the empty or to the standard set, those that it admits rewrite
everything in one pass: no call is left that a rule would take, in operands or in the keys of
windows, and a second pass changes nothing. -/
theorem complete_of_offerAll {base : RewriteSet} (hBase : base = empty ∨ base = standard)
    (more : List RewriteRule) (e : Expr) :
    ((base.offerAll more).apply e).Without (base.offerAll more).takes ∧
      (base.offerAll more).apply ((base.offerAll more).apply e) =
        (base.offerAll more).apply e := by
  have hRest : base.AtRest := by
    rcases hBase with rfl | rfl
    · exact atRest_empty
    · exact atRest_standard
  have hFinished := finished_apply (hRest.offerAll more) e
  exact ⟨hFinished, apply_of_finished hFinished⟩

/-- A rule is admitted, one whose output another would take is refused, and the calls stand in the
keys of a window. -/
theorem complete_of_offerAll_windowKeys :
    let differs : RewriteRule := ⟨"xor", .xor, .exactly 2, .call .notEquals [.allArguments]⟩
    let looping : RewriteRule :=
      ⟨"modulus", .modulus, .exactly 2, .call .floorDivide [.argument 1, .argument 0]⟩
    let s := standard.offerAll [differs, looping]
    let x : Expr := .literal (.int 7)
    let e : Expr := .window (.call .rank []) [.call .xor [.call .allTrue [x], x]]
      [⟨.call .floorDivide [x, x], true⟩] none
    (standard = empty ∨ standard = standard) ∧ s = standard.offer differs ∧
      (s.apply e).Without s.takes ∧ s.apply (s.apply e) = s.apply e :=
  ⟨.inr rfl, rfl, complete_of_offerAll (.inr rfl) _ _⟩

end RewriteSet
end TableQuery
