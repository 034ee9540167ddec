import TableQuery.Proofs.Condition.Spelling
import TableQuery.Proofs.Sql.Expr

/-!
# Expr — the text of an expression is settled

By induction over expressions: the text of an expression is settled, and flat unless the expression
is compound, in which case an operator around it puts it in parentheses. An `OR` stands outside of
all brackets exactly if the expression is a disjunction, before or after rewriting.
-/

namespace TableQuery

variable {d : Dialect} {cx : Context}

/-- The aliases of the innermost scope are flat texts. -/
def Context.AliasesFlat (cx : Context) : Prop :=
  ∀ s ∈ cx.top?, ∀ e ∈ s.entries, ∀ a ∈ e.alias?, Legible true a

namespace Expr

/-- Whether the expression is an `OR`, under any names. -/
def isDisjunction : Expr → Bool
  | .call op _ => op == .or
  | .alias expr _ => expr.isDisjunction
  | _ => false

end Expr

/-! ## Leaves -/

theorem Scope.legible_columnText {s : Scope} {col : ColumnRef} {text : String}
    (hAliases : ∀ e ∈ s.entries, ∀ a ∈ e.alias?, Legible true a)
    (h : s.columnText col = .ok text) : Legible true text := by
  unfold columnText at h
  -- a name of the output stands alone, any other behind the alias of its item
  split at h
  · exact Identifier.legible_of_safe h
  · split at h
    · cases h
    · next entry hEntry =>
      rcases of_map_ok h with ⟨name, hName, rfl⟩
      have hRead : Legible true name := Identifier.legible_of_safe hName
      split
      · next a hAlias _ =>
        exact (hAliases entry (mem_of_resolve hEntry).1 a hAlias).join (by decide) hRead
      · exact hRead

theorem Context.legible_columnText {col : ColumnRef} {text : String} (hcx : cx.AliasesFlat)
    (h : cx.columnText col = .ok text) : Legible true text := by
  unfold columnText at h
  split at h
  · next s hTop => exact s.legible_columnText (hcx s hTop) h
  · cases h

theorem FrameBound.legible_sql (b : FrameBound) : Legible false b.sql := by
  cases b with
  | preceding n => exact (legible_natText n).before (by decide) (by decide)
  | following n => exact (legible_natText n).before (by decide) (by decide)
  | unboundedPreceding | currentRow | unboundedFollowing => exact .of_quiet (by decide)

/-- The `AND` of a window frame connects bounds; it stands in parentheses with all of the frame. -/
theorem WindowFrame.legible_sql (f : WindowFrame) : Legible false f.sql := by
  rcases f with ⟨units, first, last⟩
  have hBetween : Link " BETWEEN " (.word "BETWEEN".toList) := by decide
  have hAnd : Link " AND " (.word "AND".toList) := by decide
  have hBounds {word : String} (hWord : Legible false word) :
      Legible false (word ++ " BETWEEN " ++ first.sql ++ " AND " ++ last.sql) :=
    (hWord.link hBetween first.legible_sql).link hAnd last.legible_sql
  cases units with
  | rows => exact hBounds (show Legible false "ROWS" from .of_quiet (by decide))
  | range => exact hBounds (show Legible false "RANGE" from .of_quiet (by decide))

namespace Expr

/-! ## Windows -/

theorem legible_windowClauses {partition order : List String} (frame : Option WindowFrame)
    (hPartition : ∀ text ∈ partition, Legible false text)
    (hOrder : ∀ text ∈ order, Legible false text) :
    Legible false (windowClauses partition order frame) := by
  have hBlank : Gap " " := by decide
  refine .intercalate hBlank fun text hText => ?_
  simp only [List.mem_append] at hText
  rcases hText with (hText | hText) | hText
  · split at hText
    · cases hText
    · rw [List.mem_singleton.1 hText]
      exact .behind (by decide) (by decide) (.intercalate gap_comma hPartition)
  · split at hText
    · cases hText
    · rw [List.mem_singleton.1 hText]
      exact .behind (by decide) (by decide) (.intercalate gap_comma hOrder)
  · cases frame with
    | none => cases hText
    | some f =>
        obtain rfl : text = f.sql := by simpa using hText
        exact f.legible_sql

theorem legible_windowText (op : Operation) {func : String} {partition order : List String}
    {frame : Option WindowFrame} (hFunc : Legible true func)
    (hPartition : ∀ text ∈ partition, Legible false text)
    (hOrder : ∀ text ∈ order, Legible false text) :
    Legible true (windowText op func partition order frame) := by
  have hWindow {q : Bool} :
      Legible q (func ++ " OVER (" ++ windowClauses partition order frame ++ ")") := by
    have hOver : Legible q (func ++ " OVER ") := hFunc.of_flat.before (by decide) (by decide)
    exact (hOver.call (legible_windowClauses frame hPartition hOrder)).of_toList_eq (by simp)
  unfold windowText
  split
  · have hLess : Legible false
        (func ++ " OVER (" ++ windowClauses partition order frame ++ ")" ++ " - 1") :=
      hWindow.before (by decide) (by decide)
    exact hLess.paren.of_toList_eq (by simp)
  · exact hWindow

theorem legible_sortKeyText {text : String} (h : Legible false text) (up : Bool) :
    Legible false (sortKeyText text up) := by
  cases up with
  | false => exact h.before (by decide) (by decide)
  | true => exact h

/-! ## Expressions -/

/-- What is known of the text of an expression: it is settled, has an `OR` outside of brackets just
if the expression is a disjunction, and is flat unless the expression is compound. -/
structure TextSettled (d : Dialect) (e : Expr) (text : String) : Prop where
  settled : Settled e.isDisjunction text
  flat : e.isCompound d = false → Legible true text

theorem TextSettled.of_flat {e : Expr} {text : String} (he : e.isDisjunction = false)
    (h : Legible true text) : e.TextSettled d text where
  settled := by
    rw [he]
    exact h.settled
  flat _ := h

/-- An operand is flat where its operator puts compound operands in parentheses. -/
theorem TextSettled.operand {e : Expr} {text : String} (h : e.TextSettled d text) (wrap : Bool) :
    Legible wrap (e.operandText d wrap text) := by
  unfold operandText
  cases wrap with
  | false => exact h.settled.legible
  | true =>
      cases hCompound : e.isCompound d with
      | false => simpa [hCompound] using h.flat hCompound
      | true => simpa [hCompound] using h.settled.legible.paren

theorem legible_operandsSql {wrap : Bool} {es : List Expr} {texts : List String}
    (hes : ∀ e ∈ es, ∀ text, e.plainSql d cx = .ok text → e.TextSettled d text)
    (h : operandsSql d cx wrap es = .ok texts) : ∀ text ∈ texts, Legible wrap text := by
  rw [operandsSql_eq_mapM] at h
  refine forall_mem_of_mapM h fun e he operand hOperand => ?_
  rcases of_map_ok hOperand with ⟨text, hText, rfl⟩
  exact (hes e he text hText).operand wrap

theorem legible_listSql {es : List Expr} {texts : List String}
    (hes : ∀ e ∈ es, ∀ text, e.plainSql d cx = .ok text → e.TextSettled d text)
    (h : listSql d cx es = .ok texts) : ∀ text ∈ texts, Legible false text := by
  rw [listSql_eq_mapM] at h
  exact forall_mem_of_mapM h fun e he text hText => (hes e he text hText).settled.legible

theorem legible_keysSql {ks : List (SortKey Expr)} {texts : List String}
    (hks : ∀ k ∈ ks, ∀ text, k.key.plainSql d cx = .ok text → k.key.TextSettled d text)
    (h : keysSql d cx ks = .ok texts) : ∀ text ∈ texts, Legible false text := by
  rw [keysSql_eq_mapM] at h
  refine forall_mem_of_mapM h fun k hk sorted hSorted => ?_
  rcases of_map_ok hSorted with ⟨text, hText, rfl⟩
  exact legible_sortKeyText (hks k hk text hText).settled.legible k.ascending

/-- What the rule for a call makes of its operands. -/
theorem of_renders {P : String → Prop} {op : Operation} {args : List Expr} {rule : SpellingRule}
    {texts : List String} (hd : d.IsStandard) (hRule : d.ruleFor op args.length = .ok rule)
    (hTexts : operandsSql d cx rule.isOperatorLike args = .ok texts)
    (hLegible : ∀ text ∈ texts, Legible rule.isOperatorLike text)
    (h : Spellings.standardRule? op = some rule → rule.Renders P) : P (rule.render texts) := by
  rcases of_ruleFor hd hRule with ⟨hStandard, hArity⟩
  rw [operandsSql_eq_mapM] at hTexts
  rw [(forall₂_of_mapM hTexts).length_eq] at hArity
  exact h hStandard texts hArity hLegible

/-- The rules whose texts have a connective are those of operators. -/
theorem connects_eq_false {op : Operation} {rule : SpellingRule}
    (h : Spellings.standardRule? op = some rule) (hLike : rule.isOperatorLike = false) :
    Spellings.connects op = false := by
  by_contra hOp
  simp only [Spellings.connects, Bool.not_eq_false, Bool.or_eq_true, beq_iff_eq] at hOp
  rcases hOp with (rfl | rfl) | rfl <;> cases h <;> cases hLike

theorem textSettled_plainSql (hd : d.IsStandard) (hcx : cx.AliasesFlat) (e : Expr) {text : String}
    (hUnits : e.UnitsNamed) (h : e.plainSql d cx = .ok text) : e.TextSettled d text := by
  -- both facts at once: an operator needs flat operands to give a settled text
  induction e using writtenInduction generalizing text with
  | column ref => exact .of_flat rfl (cx.legible_columnText hcx h)
  | literal value => exact .of_flat rfl (Literal.legible_of_sql h)
  | call op args ih =>
      rw [unitsNamed_call] at hUnits
      rcases of_plainSql_call h with ⟨rule, texts, -, hRule, hTexts, rfl⟩
      have hLegible := legible_operandsSql (fun a ha _ => ih a ha (hUnits.2 a ha)) hTexts
      -- truncations take their unit apart, which needs the operand and not only its text
      by_cases hOp : op = .dateTruncate
      · subst hOp
        rcases of_truncation hd hRule hUnits.1 hTexts with ⟨hStandard, u, operand, rfl⟩
        cases hStandard
        exact .of_flat rfl (Spellings.legible_dateTruncateText (hLegible operand (by simp)) u)
      · refine ⟨of_renders hd hRule hTexts hLegible fun hStandard =>
          Spellings.settled_of_standardRule hStandard hOp, fun hCompound => ?_⟩
        refine of_renders hd hRule hTexts hLegible fun hStandard => ?_
        have hLike : rule.isOperatorLike = false := by
          rw [isCompound, hd.spellings] at hCompound
          simpa [Spellings.standard, hStandard] using hCompound
        exact Spellings.flat_of_standardRule hStandard hOp (connects_eq_false hStandard hLike)
  | cast arg target ih =>
      rw [unitsNamed_cast] at hUnits
      rw [plainSql] at h
      split at h
      · cases h
      · next inner hInner =>
        have hArg := (ih hUnits hInner).settled.legible
        rcases of_map_ok h with ⟨name, hName, rfl⟩
        have hInside := hArg.join (g := " AS ") (by decide) (target.legible_sqlName hName)
        exact .of_flat rfl
          ((hInside.enclosed (o := "CAST(") (by decide)).of_toList_eq (by simp))
  | aliased expr name ih =>
      rw [unitsNamed_alias] at hUnits
      rw [plainSql] at h
      have hExpr := ih hUnits h
      exact ⟨hExpr.settled, hExpr.flat⟩
  | window op args partition order frame ihArgs ihPartition ihOrder =>
      rw [unitsNamed_window, unitsNamed_call] at hUnits
      rcases hUnits with ⟨⟨-, hArgs⟩, hPartition, hOrder⟩
      rcases of_plainSql_window h with
        ⟨_, _, rule, operands, keys, sorted, hFunc, hWindow, hRule, hOperands, hKeys, hSorted, rfl⟩
      cases hFunc
      -- only analytic functions and reductions stand over a window, and none of them connects
      have hOp : Spellings.connects op = false := by
        by_contra hConnects
        simp only [Spellings.connects, Bool.not_eq_false, Bool.or_eq_true, beq_iff_eq]
          at hConnects
        rcases hConnects with (rfl | rfl) | rfl <;> cases hWindow
      have hCall : Legible true (rule.render operands) :=
        of_renders hd hRule hOperands
          (legible_operandsSql (fun a ha _ => ihArgs a ha (hArgs a ha)) hOperands)
          fun hStandard => Spellings.flat_of_standardRule hStandard (ne_dateTruncate hWindow) hOp
      exact .of_flat rfl (legible_windowText op hCall
        (legible_listSql (fun p hp _ => ihPartition p hp (hPartition p hp)) hKeys)
        (legible_keysSql (fun k hk _ => ihOrder k hk (hOrder k hk)) hSorted))
  | misplaced func partition order frame hFunc =>
      rcases of_plainSql_window h with ⟨op, args, _, _, _, _, hCall, -⟩
      exact absurd hCall (hFunc op args)
  | udf name args output ih =>
      rw [unitsNamed_udf] at hUnits
      rw [plainSql] at h
      split at h
      · cases h
      · next texts hTexts =>
        have hArgs := Legible.intercalate gap_comma
          (legible_listSql (fun a ha _ => ih a ha (hUnits a ha)) hTexts)
        rcases of_map_ok h with ⟨safe, hSafe, rfl⟩
        have hName : Legible true safe := Identifier.legible_of_safe hSafe
        exact .of_flat rfl ((hName.call hArgs).of_toList_eq (by simp))

/-! ## Rewriting -/

theorem isDisjunction_rewriteNode (e : Expr) :
    (RewriteSet.standard.rewriteNode e).isDisjunction = e.isDisjunction := by
  cases e with
  | call op args =>
      by_cases hOp : op = .or
      · -- no `OR` is rewritten, and in the other cases none is made
        subst hOp
        have hNone : RewriteSet.standard.rule? .or = none := by decide
        simp [RewriteSet.rewriteNode, hNone]
      · rcases RewriteSet.rewriteNode_call_cases op args with
          hSame | ⟨a, b, rfl, rfl, hNode⟩ | ⟨a, fold, -, -, rfl, hNode | hNode⟩
        · rw [hSame]
        all_goals
          rw [hNode]
          simp [isDisjunction, RewriteSet.flagsCall, hOp]
  | _ => rfl

theorem isDisjunction_apply (e : Expr) :
    (RewriteSet.standard.apply e).isDisjunction = e.isDisjunction := by
  change (e.transformUp _).isDisjunction = _
  induction e using inductionOn with
  | aliased expr name ih =>
      rw [transformUp, isDisjunction_rewriteNode]
      exact ih
  | _ => exact isDisjunction_rewriteNode _

/-- The text of an expression is settled, and has an `OR` outside of brackets just if the expression
is a disjunction. -/
theorem settled_sql (hd : d.IsStandard) (hcx : cx.AliasesFlat) {e : Expr} {text : String}
    (hUnits : e.UnitsNamed) (h : e.sql d cx = .ok text) : Settled e.isDisjunction text := by
  unfold sql at h
  rw [hd.rewrites] at h
  have hText := textSettled_plainSql hd hcx _ (RewriteSet.unitsNamed_apply hUnits) h
  rw [← isDisjunction_apply]
  exact hText.settled

end Expr

end TableQuery
