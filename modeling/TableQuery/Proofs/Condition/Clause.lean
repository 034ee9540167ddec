import TableQuery.Proofs.Condition.Expr
import TableQuery.Proofs.Sql.Statement

/-!
# Clause — which lists of conditions are read as conjunctions

The conditions of a `WHERE` clause and of a join stand in parentheses where there are several, so
that they are read as the conjunction of all of them. Those of a `HAVING` clause stand bare between
`AND`s: an alternative among several of them takes in its neighbours.
-/

namespace TableQuery

open Lexeme

/-! ## Conditions behind keywords -/

namespace Condition

/-- The condition behind the first of a keyword in a text. -/
def after? (keyword text : String) : Option Condition :=
  (lex text.toList).bind fun ls =>
    ofSymbols? (((symbols ls).dropWhile fun s => !s.isKeyword keyword).drop 1)

variable {keyword : String} {ts : List Token}

theorem after?_eq {text : String} (h : Phrase text ts) : after? keyword text =
    ofSymbols? (((symbolsOf text).dropWhile fun s => !s.isKeyword keyword).drop 1) := by
  rcases h with ⟨ls, hText, hTidy, -⟩
  simp [after?, symbolsOf, hText, hTidy.lex_spell]

/-- The condition of a sentence behind a text that ends with the keyword. -/
theorem after?_append {front body : String} (pre : List Symbol) {s : Symbol} {xs : List Segment}
    (hFront : Phrase front ts) (hEnds : EndsApart front) (hSymbols : symbolsOf front = pre ++ [s])
    (hPre : ∀ u ∈ pre, u.isKeyword keyword = false) (hs : s.isKeyword keyword = true)
    (hBody : Sentence body xs) : after? keyword (front ++ body) = some (Segment.assemble xs) := by
  rcases hBody with ⟨⟨us, hPhrase⟩, hReads⟩
  -- nothing before the last symbol of the front is the keyword, so the front is dropped whole
  rw [after?_eq (hFront.append_of_trails hPhrase hEnds.trails),
    symbolsOf_append_of_endsApart hFront hPhrase hEnds, hSymbols, List.append_assoc,
    List.dropWhile_append_of_pos (by simpa using hPre)]
  simp [hs, hReads.ofSymbols?_eq]

/-- A condition is moved to the right with the text that it is read from. -/
theorem after?_indent {text : String} (h : Phrase text ts) (width : Nat) :
    after? keyword (Text.indent width text) =
      (after? keyword text).map (mapTokens (Token.moved width)) := by
  -- what stands behind the keyword is moved as all the text is, for no keyword is a token
  have hBehind :
      ((symbolsOf (Text.indent width text)).dropWhile fun s => !s.isKeyword keyword).drop 1 =
        (((symbolsOf text).dropWhile fun s => !s.isKeyword keyword).drop 1).map
          (Symbol.mapToken (Token.moved width)) := by
    rw [symbolsOf_indent h, List.dropWhile_map, ← List.map_drop]
    simp [Function.comp_def]
  rw [after?_eq h, after?_eq (h.indent width), hBehind, ofSymbols?_map]

/-- The condition is the conjunction of those that the texts of expressions stand for, in order. -/
def IsConjunctionOf (d : Dialect) (cx : Context) (c : Condition) (es : List Expr) : Prop :=
  ∃ texts cs, es.mapM (Expr.sql d cx) = .ok texts ∧ texts.mapM ofText? = some cs ∧
    c.conjuncts = cs.flatMap conjuncts

end Condition

/-! ## Rows of conditions -/

section Rows

open Segment

variable {d : Dialect} {cx : Context} {texts : List String} {es : List Expr}
  {xss : List (List Segment)}

theorem mapM_ofText? (h : List.Forall₂ Sentence texts xss) :
    texts.mapM Condition.ofText? = some (xss.map assemble) := by
  induction h with
  | nil => rfl
  | cons ha _ ih => simp [List.mapM_cons, ha.ofText?_eq, ih]

theorem isConjunctionOf_iff (hTexts : es.mapM (Expr.sql d cx) = .ok texts)
    (h : List.Forall₂ Sentence texts xss) (c : Condition) :
    c.IsConjunctionOf d cx es ↔ c.conjuncts = xss.flatMap fun xs => (assemble xs).conjuncts := by
  have hRead := mapM_ofText? h
  constructor
  · rintro ⟨texts', cs, hTexts', hCs, hEq⟩
    cases hTexts.symm.trans hTexts'
    cases hRead.symm.trans hCs
    rw [hEq, List.flatMap_map]
  · intro hEq
    exact ⟨texts, _, hTexts, hRead, by rw [hEq, List.flatMap_map]⟩

/-- The segments of settled texts, of which one has alternatives if one of the expressions is a
disjunction. -/
theorem exists_segments
    (h : List.Forall₂ (fun text (e : Expr) => Settled e.isDisjunction text) texts es) :
    ∃ xss, List.Forall₂ Sentence texts xss ∧ (∀ xs ∈ xss, waitsAfter false xs = false) ∧
      ((∀ xs ∈ xss, IsConjunctive xs) ↔ ∀ e ∈ es, e.isDisjunction = false) := by
  induction h with
  | nil => exact ⟨[], .nil, by simp, by simp⟩
  | cons hText _ ih =>
      rcases hText with ⟨xs, hSentence, hWaits, hOr⟩
      rcases ih with ⟨xss, hSentences, hSettled, hAll⟩
      refine ⟨xs :: xss, .cons hSentence hSentences, ?_, ?_⟩
      · exact List.forall_mem_cons.2 ⟨hWaits, hSettled⟩
      · rw [List.forall_mem_cons, List.forall_mem_cons, hOr, hAll]

/-- The texts of conditions are sentences, each settled. -/
theorem exists_segments_of_mapM (hd : d.IsStandard) (hcx : cx.AliasesFlat)
    (hUnits : ∀ e ∈ es, e.UnitsNamed) (h : es.mapM (Expr.sql d cx) = .ok texts) :
    ∃ xss, List.Forall₂ Sentence texts xss ∧ (∀ xs ∈ xss, waitsAfter false xs = false) ∧
      ((∀ xs ∈ xss, IsConjunctive xs) ↔ ∀ e ∈ es, e.isDisjunction = false) := by
  have hTexts : List.Forall₂ (fun text (e : Expr) => Settled e.isDisjunction text) texts
      (es.map id) :=
    forall₂_map_of_mapM h fun e he _ hText => Expr.settled_sql hd hcx (hUnits e he) hText
  rw [List.map_id] at hTexts
  exact exists_segments hTexts

/-- A word that opens a clause, with a blank behind it. -/
def Opening (keyword : String) : Prop :=
  Bare (keyword ++ " ") ∧ EndsApart (keyword ++ " ") ∧
    symbolsOf (keyword ++ " ") = [.word keyword.toList] ∧
    (Symbol.word keyword.toList).isKeyword keyword = true

instance (keyword : String) : Decidable (Opening keyword) :=
  inferInstanceAs (Decidable (_ ∧ _))

theorem after?_opening {keyword body : String} {xs : List Segment} (hKeyword : Opening keyword)
    (hBody : Sentence body xs) :
    Condition.after? keyword (keyword ++ " " ++ body) = some (assemble xs) := by
  rcases hKeyword with ⟨hBare, hEnds, hSymbols, hSelf⟩
  exact Condition.after?_append [] (.of_bare hBare) hEnds hSymbols (by simp) hSelf hBody

/-- Several conditions stand in parentheses, so each is read by itself. -/
theorem conjuncts_conjunctionText (keyword : String) (hKeyword : Opening keyword)
    (hLink : Link (" AND\n" ++ Text.spaces (keyword.length + 1)) (.word "AND".toList))
    (hne : texts ≠ []) (h : List.Forall₂ Sentence texts xss) :
    ∃ c, Condition.after? keyword (conjunctionText keyword texts) = some c ∧
      c.conjuncts = xss.flatMap fun xs => (assemble xs).conjuncts := by
  unfold conjunctionText
  split
  · next text =>
    rcases List.forall₂_cons_left_iff.1 h with ⟨xs, rest, hText, hRest, rfl⟩
    rw [List.forall₂_nil_left_iff] at hRest
    exact ⟨_, after?_opening hKeyword hText, by simp [hRest]⟩
  · -- in the row of parentheses there is neither an `OR` nor a `BETWEEN`
    let group (xs : List Segment) : Segment :=
      .group (.mark '(' :: (xs.flatMap Segment.symbols ++ [.mark ')'])) (assemble xs)
    have hParens : List.Forall₂ Sentence (texts.map fun p => "(" ++ p ++ ")")
        (xss.map fun xs => [group xs]) := by
      rw [List.forall₂_map_left_iff, List.forall₂_map_right_iff]
      exact h.imp fun _ _ hText => hText.paren
    have hne' : (xss.map fun xs => [group xs]) ≠ [] := by
      rintro hNil
      rw [List.map_eq_nil_iff] at hNil
      rw [hNil, List.forall₂_nil_right_iff] at h
      exact hne h
    have hAll := conjuncts_assemble_conjoined hne'
      (by simp [waitsAfter, waits, isKeyword, group]) (by simp [IsConjunctive, isKeyword, group])
    refine ⟨_, after?_opening hKeyword (.conjoined hLink hParens), ?_⟩
    rw [hAll, List.flatMap_map]
    rfl

theorem exists_phrases (h : List.Forall₂ Sentence texts xss) :
    ∃ tss, List.Forall₂ Phrase texts tss := by
  induction h with
  | nil => exact ⟨[], .nil⟩
  | cons ha _ ih =>
      rcases ha.phrase with ⟨ts, hPhrase⟩
      rcases ih with ⟨tss, hPhrases⟩
      exact ⟨ts :: tss, .cons hPhrase hPhrases⟩

end Rows

/-! ## Clauses -/

section Clauses

variable {d : Dialect} {cx : Context} (hd : d.IsStandard) (hcx : cx.AliasesFlat)
include hd hcx

theorem SelectPlan.reads_whereClause {p : SelectPlan} (hUnits : ∀ e ∈ p.predicates, e.UnitsNamed)
    {filter : Option String} (h : p.whereClause d cx = .ok filter) (hne : p.predicates ≠ []) :
    ∃ clause c, filter = some clause ∧ Condition.after? "WHERE" clause = some c ∧
      c.IsConjunctionOf d cx p.predicates := by
  rcases of_map_ok h with ⟨texts, hTexts, rfl⟩
  rcases exists_segments_of_mapM hd hcx hUnits hTexts with ⟨xss, hSentences, -, -⟩
  have hSome : texts ≠ [] := by
    intro hNil
    have hLength := (forall₂_of_mapM hTexts).length_eq
    rw [hNil, List.length_nil, List.length_eq_zero_iff] at hLength
    exact hne hLength
  rcases conjuncts_conjunctionText "WHERE" (by decide) (by decide) hSome hSentences with
    ⟨c, hRead, hConjuncts⟩
  refine ⟨_, c, by simp [hSome], hRead, ?_⟩
  exact (isConjunctionOf_iff hTexts hSentences c).2 hConjuncts

/-- A join without conditions is on the condition `TRUE`. -/
theorem reads_onText {es : List Expr} (hUnits : ∀ e ∈ es, e.UnitsNamed) {texts : List String}
    (h : es.mapM (Expr.sql d cx) = .ok texts) (width : Nat) :
    ∃ c : Condition, Condition.after? "ON" (Text.indent width (onText texts)) =
        some (c.mapTokens (Token.moved width)) ∧
      (es = [] → c = .test [.word "TRUE".toList]) ∧ (es ≠ [] → c.IsConjunctionOf d cx es) := by
  rcases exists_segments_of_mapM hd hcx hUnits h with ⟨xss, hSentences, -, -⟩
  rcases exists_phrases hSentences with ⟨tss, hPhrases⟩
  simp only [Condition.after?_indent (phrase_onText hPhrases)]
  have hLength := (forall₂_of_mapM h).length_eq
  cases texts with
  | nil =>
      obtain rfl : es = [] := List.length_eq_zero_iff.1 hLength
      -- the one word of the condition is no token, so it does not change when it is moved
      refine ⟨.test [.word "TRUE".toList], ?_, fun _ => rfl, fun hne => absurd rfl hne⟩
      have hTrue : Condition.after? "ON" (onText []) = some (.test [.word "TRUE".toList]) := by
        decide
      rw [hTrue]
      rfl
  | cons text texts =>
      have hne : es ≠ [] := by
        rintro rfl
        simp at hLength
      rcases conjuncts_conjunctionText "ON" (by decide) (by decide) (by simp) hSentences with
        ⟨c, hRead, hConjuncts⟩
      refine ⟨c, ?_, fun hNil => absurd hNil hne, fun _ => ?_⟩
      · have hText : onText (text :: texts) = conjunctionText "ON" (text :: texts) := rfl
        rw [hText, hRead]
        rfl
      · exact (isConjunctionOf_iff h hSentences c).2 hConjuncts

omit hd hcx in
/-- The names of the groups are not the keyword of their conditions. -/
theorem SelectPlan.isKeyword_of_groupKeyText (key : Expr) {text : String}
    (h : groupKeyText key = .ok text) :
    Legible true text ∧ ∀ s ∈ symbolsOf text, s.isKeyword "HAVING" = false := by
  unfold groupKeyText at h
  split at h
  · next name _ =>
    refine ⟨Identifier.legible_of_safe h, fun s hs => ?_⟩
    rw [Identifier.safe_eq_ok h] at hs
    rcases Identifier.of_mem_symbolsOf_quote hs with ⟨t, rfl⟩ | ⟨hReserved, rfl⟩
    · rfl
    · exact Identifier.isKeyword_of_not_isReserved hReserved (by decide +kernel) (by decide)
  · cases h

omit hd hcx in
theorem forall_symbolsOf_intercalate {P : Symbol → Prop} {g : String} (hg : Gap g)
    (hP : ∀ s ∈ symbolsOf g, P s) {texts : List String}
    (h : ∀ text ∈ texts, Legible true text ∧ ∀ s ∈ symbolsOf text, P s) :
    ∀ s ∈ symbolsOf (g.intercalate texts), P s := by
  induction texts with
  | nil =>
      have hNone : symbolsOf "" = [] := rfl
      simp [hNone]
  | cons a texts ih =>
      rw [List.forall_mem_cons] at h
      cases texts with
      | nil => simpa using h.1.2
      | cons b texts =>
          rcases h.1.1.phrase with ⟨s, ha⟩
          have hRest := Legible.intercalate hg fun text hText => (h.2 text hText).1
          rcases hRest.phrase with ⟨t, hMore⟩
          have hGlue : Phrase g [] := .of_bare hg.1.1
          have hFront := ha.append_of_leads hGlue hg.2.1.leads
          rw [String.intercalate_cons_cons,
            symbolsOf_append_of_endsApart hFront hMore hg.2.2.append,
            symbolsOf_append_of_startsApart ha hGlue hg.2.1]
          simp only [List.forall_mem_append]
          exact ⟨⟨h.1.2, hP⟩, ih h.2⟩

omit hd hcx in
/-- What stands before the conditions of groups: the keywords and the names, and the keyword. -/
theorem after?_having {keys : List String} {body : String} {xs : List Segment}
    (hKeys : ∀ key ∈ keys,
      Legible true key ∧ ∀ s ∈ symbolsOf key, s.isKeyword "HAVING" = false)
    (hBody : Sentence body xs) :
    Condition.after? "HAVING" ("GROUP BY " ++ ", ".intercalate keys ++ "\nHAVING " ++ body) =
      some (Segment.assemble xs) := by
  have hGroup : Phrase "GROUP BY " [] := .of_bare (by decide)
  have hHaving : Phrase "\nHAVING " [] := .of_bare (by decide)
  have hEnds : EndsApart "GROUP BY " := by decide
  have hStarts : StartsApart "\nHAVING " := by decide
  have hSymbols : symbolsOf "GROUP BY " = [.word "GROUP".toList, .word "BY".toList] := by decide
  have hKeyword : symbolsOf "\nHAVING " = [.word "HAVING".toList] := by decide
  rcases (Legible.intercalate gap_comma fun key hKey => (hKeys key hKey).1).phrase with
    ⟨ts, hList⟩
  have hNames := hGroup.append_of_trails hList hEnds.trails
  refine Condition.after?_append (symbolsOf ("GROUP BY " ++ ", ".intercalate keys))
    (hNames.append_of_leads hHaving hStarts.leads) (EndsApart.append (by decide)) ?_ ?_
    (s := .word "HAVING".toList) (by decide) hBody
  · rw [symbolsOf_append_of_startsApart hNames hHaving hStarts, hKeyword]
  · rw [symbolsOf_append_of_endsApart hGroup hList hEnds, hSymbols]
    refine List.forall_mem_append.2 ⟨by decide, ?_⟩
    exact forall_symbolsOf_intercalate gap_comma (by decide) hKeys

/-- Several conditions of groups are read as their conjunction just if none is a disjunction. -/
theorem SelectPlan.reads_groupClause {p : SelectPlan} (hUnits : ∀ e ∈ p.having, e.UnitsNamed)
    {group : Option String} (h : p.groupClause d cx = .ok group) (hne : p.having ≠ []) :
    ∃ clause c, group = some clause ∧ Condition.after? "HAVING" clause = some c ∧
      (c.IsConjunctionOf d cx p.having ↔
        p.having.length ≤ 1 ∨ ∀ e ∈ p.having, e.isDisjunction = false) := by
  -- a plan that does not group has no conditions of groups
  rcases of_groupClause h with ⟨-, hNone, -⟩ | ⟨keys, texts, hKeys, hTexts, rfl⟩
  · exact absurd hNone hne
  · rcases exists_segments_of_mapM hd hcx hUnits hTexts with ⟨xss, hSentences, hSettled, hOr⟩
    have hLength : p.having.length = xss.length :=
      (forall₂_of_mapM hTexts).length_eq.trans hSentences.length_eq
    have hSome : xss ≠ [] := by
      rintro rfl
      exact hne (List.length_eq_zero_iff.1 hLength)
    have hTextsSome : texts.isEmpty = false := by
      cases hSentences with
      | nil => exact absurd rfl hSome
      | cons => rfl
    have hNames := forall_mem_of_mapM hKeys fun key _ text hText =>
      isKeyword_of_groupKeyText key hText
    have hAnd : Link " AND " (.word "AND".toList) := by decide
    have hRead := after?_having hNames (.conjoined hAnd hSentences)
    -- the row of conditions is read without regard to where one ends and the next begins
    refine ⟨_, Segment.assemble (Segment.conjoined xss), rfl, ?_, ?_⟩
    · rw [← hRead]
      simp [havingText, hTextsSome, String.append_assoc]
    · rw [isConjunctionOf_iff hTexts hSentences,
        Segment.conjuncts_assemble_conjoined_iff hSome hSettled, hOr, hLength]

end Clauses

/-! ## Statements -/

/-- The text of a statement in its parts. Of each join, the line of the table and the condition. -/
structure StatementParts where
  select : String
  first : String
  joins : List (String × String)
  filter : Option String
  group : Option String
  order : Option String
  limit : Option String

/-- The text of joins, each part on lines of its own. -/
def joinsText : List (String × String) → String
  | [] => ""
  | (table, condition) :: rest => "\n" ++ table ++ "\n" ++ condition ++ joinsText rest

def StatementParts.text (s : StatementParts) : String :=
  "\n".intercalate ([s.select, "FROM " ++ s.first ++ joinsText s.joins] ++ s.filter.toList ++
    s.group.toList ++ s.order.toList ++ s.limit.toList)

namespace SelectPlan

/-- The conditions of a plan: those of its rows, of its joins and of its groups. -/
def conditions (d : Dialect) (p : SelectPlan) : List Expr :=
  p.predicates ++ p.having ++
    match JoinChain.ofRelation d p.source with
    | .error _ => []
    | .ok chain => chain.steps.flatMap (·.predicates)

end SelectPlan

/-- The condition of a join, which is moved with the text around it, is read as the conjunction of
the conditions of the join, or as `TRUE` if it has none. -/
def JoinStep.ReadsAs (d : Dialect) (cx : Context) (step : JoinStep) (condition : String) : Prop :=
  ∃ c : Condition,
    Condition.after? "ON" condition = some (c.mapTokens (Token.moved (2 * d.indent))) ∧
      (step.predicates = [] → c = .test [.word "TRUE".toList]) ∧
      (step.predicates ≠ [] → c.IsConjunctionOf d cx step.predicates)

/-- The clauses of a statement in the scope of its tables, and the conditions that they are read
as. -/
structure SelectPlan.ReadsConditions (d : Dialect) (cx : Context) (p : SelectPlan)
    (chain : JoinChain) (s : StatementParts) : Prop where
  formed : JoinChain.ofRelation d p.source = .ok chain
  scope : ∃ scope, cx.top? = some scope ∧ scope.entries.map (·.relation) = chain.tables
  joinLines : ∃ tables, joinLines d cx chain.steps tables = .ok (joinsText s.joins)
  whereClause : p.whereClause d cx = .ok s.filter
  groupClause : p.groupClause d cx = .ok s.group
  /-- The conditions of the rows are read as their conjunction. -/
  filter : p.predicates ≠ [] → ∃ clause c, s.filter = some clause ∧
    Condition.after? "WHERE" clause = some c ∧ c.IsConjunctionOf d cx p.predicates
  /-- The conditions of each join are read as their conjunction. -/
  joins : List.Forall₂ (fun step join => step.ReadsAs d cx join.2) chain.steps s.joins
  /-- Several conditions of the groups are read as their conjunction just if none is an `OR`. -/
  having : p.having ≠ [] → ∃ clause c, s.group = some clause ∧
    Condition.after? "HAVING" clause = some c ∧
    (c.IsConjunctionOf d cx p.having ↔
      p.having.length ≤ 1 ∨ ∀ e ∈ p.having, e.isDisjunction = false)

/-! ### The statement -/

variable {d : Dialect} {cx : Context}

theorem reads_joinLines (hd : d.IsStandard) (hcx : cx.AliasesFlat) {steps : List JoinStep} :
    ∀ {tables text}, (∀ s ∈ steps, ∀ e ∈ s.predicates, e.UnitsNamed) →
      tables.length = steps.length → joinLines d cx steps tables = .ok text →
      ∃ joins, text = joinsText joins ∧
        List.Forall₂ (fun step join => step.ReadsAs d cx join.2) steps joins := by
  induction steps with
  | nil =>
      intro tables text _ _ h
      cases h
      exact ⟨[], rfl, .nil⟩
  | cons step steps ih =>
      intro tables text hUnits hLength h
      cases tables with
      | nil => cases hLength
      | cons table tables =>
          rw [List.forall_mem_cons] at hUnits
          -- the line of the table is not read: only what stands behind it is a condition
          rcases of_joinLines_cons h with ⟨label, ps, rest, -, hPs, hRest, rfl⟩
          rcases ih hUnits.2 (Nat.succ.inj hLength) hRest with ⟨joins, rfl, hJoins⟩
          have hOn := reads_onText hd hcx hUnits.1 hPs (2 * d.indent)
          exact ⟨(_, _) :: joins, rfl, .cons hOn hJoins⟩

/-- The conditions of a statement over any way of writing derived tables. -/
theorem SelectPlan.exists_readsConditions (hd : d.IsStandard) {nested : Renderer} {p : SelectPlan}
    (hUnits : ∀ e ∈ p.conditions d, e.UnitsNamed) {text : String}
    (h : (p.render d nested cx).1 = .ok text) :
    ∃ cx' chain s, StatementParts.text s = text ∧ p.ReadsConditions d cx' chain s := by
  rcases p.of_render h with ⟨chain, first, rest, joins, cx', hChain, hItems, hJoins, hClauses⟩
  -- the conditions by the clauses that they stand in
  simp only [conditions, hChain, List.forall_mem_append, List.mem_flatMap] at hUnits
  rcases hUnits with ⟨⟨hPredicates, hHaving⟩, hSteps⟩
  have hFrom := congrArg Prod.fst hItems
  rcases relations_fromItems (p.qualifies cx) hFrom with ⟨hTables, -⟩
  have hFlat : (cx'.push (p.scope ((first :: rest).map (·.1)) (p.qualifies cx))).AliasesFlat :=
    alias_of_top_push (alias_of_fromItems legible_aliasName hFrom) cx' p _
  have hLength : (rest.map (·.2)).length = chain.steps.length := by
    have hAll := congrArg List.length hTables
    simpa [JoinChain.tables] using hAll
  rcases reads_joinLines hd hFlat (fun s hs e he => hSteps e ⟨s, hs, he⟩) hLength hJoins with
    ⟨lines, rfl, hLines⟩
  rcases of_clauses hClauses with ⟨select, filter, group, order, -, hFilter, hGroup, -, rfl⟩
  refine ⟨_, chain, ⟨select, first.2, lines, filter, group, order, p.limit.map RowLimit.text⟩, rfl,
    hChain, ⟨_, rfl, ?_⟩, ⟨_, hJoins⟩, hFilter, hGroup, ?_, hLines, ?_⟩
  · simpa [SelectPlan.scope, Function.comp_def] using hTables
  · exact reads_whereClause hd hFlat hPredicates hFilter
  · exact reads_groupClause hd hFlat hHaving hGroup

/-- The conditions of the rows and of each join are read as the conjunction of their conditions,
with `NOT` before `AND` and `AND` before `OR`. Those of the groups stand without parentheses: one of
them is read as it is, and several as their conjunction exactly if none of them is an `OR`. -/
theorem SelectPlan.conditions_of_render {g : Generator} (hd : g.dialect.IsStandard)
    {p : SelectPlan} (hUnits : ∀ e ∈ p.conditions g.dialect, e.UnitsNamed) {text : String}
    (h : (p.render g.dialect Generator.statement g).1 = .ok text) :
    ∃ cx chain s, StatementParts.text s = text ∧ p.ReadsConditions g.dialect cx chain s := by
  -- the generator writes what is written over its context alone, with the levels that are left
  have hFollows : ∀ m, g.Follows Generator.statement
      (TableQuery.statement g.dialect g.allowance) m := fun m cx =>
    (g.withContext cx).statement_eq_lift m
  have hRender := Generator.render_lift (d := g.dialect) (p := p) (fun _ _ m _ => hFollows m)
    g.context
  have hSelf : g.withContext g.context = g := rfl
  rw [hSelf] at hRender
  rw [hRender] at h
  exact exists_readsConditions hd hUnits h

/-! ### A statement with groups -/

/-- A table of amounts and their kinds. -/
def amounts : Relation :=
  .table 1 "t" ⟨[⟨"a", .int32, true⟩, ⟨"b", .string, true⟩]⟩

/-- The sum of the amounts is large or small. -/
def largeOrSmall : Expr :=
  .call .or
    [.call .greater [.call .sum [amounts.column "a"], .literal (.int 5)],
      .call .less [.call .sum [amounts.column "a"], .literal (.int 1)]]

/-- There are more than two amounts. -/
def several : Expr :=
  .call .greater [.call .count [amounts.column "a"], .literal (.int 2)]

/-- The sums of the amounts by kind, under conditions. -/
def sums (predicates having : List Expr) : SelectPlan :=
  { SelectPlan.ofSource amounts with
    items := [amounts.column "b", .alias (.call .sum [amounts.column "a"]) "s"]
    groupKeys := [amounts.column "b"]
    predicates
    having }

theorem SelectPlan.conditions_of_render_sums :
    ∃ cx chain s, StatementParts.text s = "\n".intercalate
        ["SELECT b, SUM(a) AS s", "FROM t",
          "WHERE (a IS NOT NULL) AND", "      (a BETWEEN 1 AND 9)",
          "GROUP BY b", "HAVING (SUM(a) > 5) OR (SUM(a) < 1)"] ∧
      (sums [.call .notNull [amounts.column "a"],
        .call .between [amounts.column "a", .literal (.int 1), .literal (.int 9)]]
        [largeOrSmall]).ReadsConditions .standard cx chain s :=
  conditions_of_render (g := .new .standard) ⟨rfl, rfl⟩ (by decide +kernel) (by decide +kernel)

/-- The scope of the table of amounts. -/
def overAmounts : Context :=
  (Context.new false).push ⟨[⟨amounts, none, ["a", "b"]⟩], false, [], none⟩

/-- The second condition of the groups goes to the second alternative of the first. -/
theorem SelectPlan.having_regroups :
    ((sums [] [largeOrSmall, several]).render .standard Generator.statement (.new .standard)).1 =
        .ok ("\n".intercalate ["SELECT b, SUM(a) AS s", "FROM t", "GROUP BY b",
          "HAVING (SUM(a) > 5) OR (SUM(a) < 1) AND COUNT(a) > 2"]) ∧
      (sums [] [largeOrSmall, several]).groupClause .standard overAmounts =
        .ok (some "GROUP BY b\nHAVING (SUM(a) > 5) OR (SUM(a) < 1) AND COUNT(a) > 2") ∧
      ∃ c, Condition.after? "HAVING"
          "GROUP BY b\nHAVING (SUM(a) > 5) OR (SUM(a) < 1) AND COUNT(a) > 2" = some c ∧
        ¬ c.IsConjunctionOf .standard overAmounts [largeOrSmall, several] := by
  have hText : (sums [] [largeOrSmall, several]).groupClause .standard overAmounts =
      .ok (some "GROUP BY b\nHAVING (SUM(a) > 5) OR (SUM(a) < 1) AND COUNT(a) > 2") := by
    decide +kernel
  have hFlat : overAmounts.AliasesFlat := by
    rintro s ⟨⟩ e he a ha
    cases List.mem_singleton.1 he
    cases ha
  rcases reads_groupClause ⟨rfl, rfl⟩ hFlat (by decide +kernel) hText (by decide +kernel) with
    ⟨clause, c, hClause, hRead, hConjunction⟩
  cases hClause
  exact ⟨by decide +kernel, hText, c, hRead, hConjunction.not.2 (by decide +kernel)⟩

end TableQuery
