import TableQuery.Proofs.Numbering.Statement

/-!
# Reuse — what a generator writes does not depend on what it has written

A generator is used for one relation after the other, and all that is left in it of these is the
number of the next alias. So a relation has a text on a used generator exactly if it has one on a
new generator, it draws the same number of aliases there, and the texts are the same up to the
numbers of aliases and the line breaks of select lists (`Generator.reuse`). Nothing more can be
said: an alias that stands where a unit of time is expected is written in capitals, and a rule of a
dialect that tells one alias from another can write anything.
-/

namespace TableQuery

namespace Generator

/-- The generator where more aliases have been drawn. -/
def withDrawn (g : Generator) (drawn : Nat) : Generator :=
  g.withContext ⟨g.context.alwaysAlias, g.context.nextAlias + drawn, g.context.scopes⟩

/-- Writing a relation, or refusing it, leaves nothing in a generator but the aliases drawn. -/
theorem exists_drawn_statement (g : Generator) (r : Relation) :
    ∃ drawn, (g.statement r).2 = g.withDrawn drawn := by
  have hReaches := progresses_statement g.dialect g.allowance g.context r
  have hScopes := scopes_statement g.dialect g.allowance g.context r
  rcases Nat.exists_eq_add_of_le hReaches.aliases with ⟨drawn, hDrawn⟩
  refine ⟨drawn, ?_⟩
  rw [statement_eq_lift, lift, withDrawn, ← hDrawn, ← hReaches.flag, ← hScopes]

theorem exists_drawn_after (g : Generator) (earlier : List Relation) :
    ∃ drawn, g.after earlier = g.withDrawn drawn := by
  induction earlier generalizing g with
  | nil => exact ⟨0, rfl⟩
  | cons r earlier ih =>
      rcases g.exists_drawn_statement r with ⟨drawn, hDrawn⟩
      rcases ih (g.withDrawn drawn) with ⟨more, hMore⟩
      refine ⟨drawn + more, ?_⟩
      calc g.after (r :: earlier)
          = (g.withDrawn drawn).after earlier := by rw [after, List.foldl_cons, hDrawn, after]
        _ = (g.withDrawn drawn).withDrawn more := hMore
        _ = g.withDrawn (drawn + more) := by
          simp only [withDrawn, withContext, Nat.add_assoc]

/-- However a generator has been used before, a relation has a text, or it has none and the errors
are of one variant. If it has a text, so many aliases are drawn for it, and it is written from the
same pieces with the aliases counted from the next one: besides the numbers of aliases only the gaps
between the items of select lists can differ. -/
theorem reuse {d : Dialect} (hUniform : d.spellings.Uniform) (r : Relation) :
    (∃ ps drawn, ps.count .gap = r.separators ∧ ∀ earlier,
      let g := (Generator.new d).after earlier
      ∃ text, (g.statement r).1 = .ok text ∧
        (g.statement r).2.context.nextAlias = g.context.nextAlias + drawn ∧
        Writes g.context.nextAlias ps text.toList) ∨
    ∃ variant, ∀ earlier, ∃ e,
      (((Generator.new d).after earlier).statement r).1 = .error e ∧ e.ctorIdx = variant := by
  rcases steady_statement hUniform d.alwaysAlias (Generator.new d).allowance r with
    ⟨t, drawn, ⟨ps, hGaps, hWrites⟩, hText⟩ | ⟨variant, hError⟩
  · refine .inl ⟨ps, drawn, hGaps, fun earlier => ?_⟩
    rcases (Generator.new d).exists_drawn_after earlier with ⟨more, hAfter⟩
    let k := (Generator.new d).context.nextAlias + more
    have hStatement : ((Generator.new d).withDrawn more).statement r =
        ((Generator.new d).withDrawn more).lift (.ok (t k), ⟨d.alwaysAlias, k + drawn, []⟩) := by
      rw [statement_eq_lift]
      exact congrArg _ (hText k [])
    simp only [hAfter, hStatement]
    exact ⟨t k, rfl, rfl, hWrites k⟩
  · refine .inr ⟨variant, fun earlier => ?_⟩
    rcases (Generator.new d).exists_drawn_after earlier with ⟨more, hAfter⟩
    rcases hError ((Generator.new d).context.nextAlias + more) [] with ⟨e, cx, he, hVariant⟩
    refine ⟨e, ?_, hVariant⟩
    rw [hAfter, statement_eq_lift]
    exact congrArg Prod.fst he

end Generator

/-! ## Texts that differ in more -/

/-- The dialect of the server, with an alias for every table. -/
def Dialect.aliasing : Dialect :=
  { standard with alwaysAlias := true }

/-- A table with a point in time and a text. -/
def Relation.dated : Relation :=
  .table 1 "t" ⟨[⟨"a", .timestamp, true⟩, ⟨"u", .string, true⟩]⟩

/-- The points in time, cut down to units that are taken from the other column. -/
def Relation.truncated : Relation :=
  .selection 2 dated
    [.alias (.call .dateTruncate [.column ⟨⟨1, .table⟩, "a"⟩, .column ⟨⟨1, .table⟩, "u"⟩]) "d",
      .column ⟨⟨1, .table⟩, "a"⟩] [] []

theorem Generator.reuse_truncated :
    Dialect.aliasing.spellings.Uniform ∧ Relation.truncated.separators = 1 ∧
      ∃ ps, ps.count .gap = 1 ∧
        Writes 0 ps "SELECT DATE_TRUNC(T0.U, t0.a) AS d, t0.a AS a\nFROM t t0".toList ∧
        Writes 1 ps "SELECT DATE_TRUNC(T1.U, t1.a) AS d, t1.a AS a\nFROM t t1".toList := by
  have hUniform : Dialect.aliasing.spellings.Uniform := Spellings.uniform_standard
  have hGaps : Relation.truncated.separators = 1 := by
    rw [Relation.separators_eq rfl]
    rfl
  refine ⟨hUniform, hGaps, ?_⟩
  have hFresh : (((Generator.new Dialect.aliasing).after []).statement Relation.truncated).1 =
      .ok "SELECT DATE_TRUNC(T0.U, t0.a) AS d, t0.a AS a\nFROM t t0" := by decide +kernel
  have hUsed : (((Generator.new Dialect.aliasing).after [Relation.truncated]).statement
      Relation.truncated).1 = .ok "SELECT DATE_TRUNC(T1.U, t1.a) AS d, t1.a AS a\nFROM t t1" := by
    decide +kernel
  have hNext : ((Generator.new Dialect.aliasing).after [Relation.truncated]).context.nextAlias =
      1 := by decide +kernel
  rcases Generator.reuse hUniform Relation.truncated with
    ⟨ps, drawn, hCount, hAll⟩ | ⟨variant, hError⟩
  · rcases hAll [] with ⟨text, hText, -, hWrites⟩
    rcases hAll [Relation.truncated] with ⟨text', hText', -, hWrites'⟩
    obtain rfl := Except.ok.inj (hFresh.symm.trans hText)
    obtain rfl := Except.ok.inj (hUsed.symm.trans hText')
    rw [hNext] at hWrites'
    exact ⟨ps, hCount.trans hGaps, hWrites, hWrites'⟩
  · rcases hError [] with ⟨e, he, -⟩
    cases hFresh.symm.trans he

/-- What follows the letters that aliases in capitals start with. -/
def followers : List Char → List (Option Char)
  | [] => []
  | c :: cs => if c = 'T' then cs.head? :: followers cs else followers cs

theorem followers_append {cs : List Char} (h : 'T' ∉ cs) (ds : List Char) :
    followers (cs ++ ds) = followers ds := by
  induction cs with
  | nil => rfl
  | cons c cs ih =>
      rw [List.mem_cons, not_or] at h
      rw [List.cons_append, followers, if_neg fun hc => h.1 hc.symm, ih h.2]

theorem notMem_aliasName (n : Nat) : 'T' ∉ (aliasName n).toList := by
  rw [toList_aliasName, List.mem_cons, not_or]
  refine ⟨by decide, fun hMem => ?_⟩
  have hDigit := Text.isDigit_of_mem_natText hMem
  cases hDigit

theorem IsGap.notMem {space : List Char} (h : IsGap space) {c : Char}
    (hc : c ∉ [',', '\n', ' ']) : c ∉ space := by
  simp only [List.mem_cons, List.not_mem_nil, not_or] at hc
  rcases hc with ⟨hComma, hBreak, hBlank, -⟩
  cases h with
  | line => simp [hComma, hBlank]
  | wrapped width => simp [hComma, hBreak, hBlank]

namespace Writes

variable {first first' : Nat} {ps : List Piece} {cs cs' : List Char}

/-- Without aliases in capitals, no number of an alias follows such a letter. -/
theorem followers_eq (h : Writes first ps cs) (h' : Writes first' ps cs')
    (hPlain : ∀ n, .mark (.capital n) ∉ ps) :
    followers cs = followers cs' ∧ cs.head? = cs'.head? := by
  induction h generalizing cs' with
  | nil =>
      cases h'
      exact ⟨rfl, rfl⟩
  | mark m hRest ih =>
      cases h' with
      | mark _ hRest' =>
        rcases ih hRest' fun n hn => hPlain n (List.mem_cons_of_mem _ hn) with ⟨hSame, hHead⟩
        cases m with
        | char c =>
            refine ⟨?_, rfl⟩
            simp only [Mark.write, List.singleton_append, followers, hSame, hHead]
        | «alias» n =>
            simp only [Mark.write]
            refine ⟨?_, by simp [toList_aliasName]⟩
            rw [followers_append (notMem_aliasName _), followers_append (notMem_aliasName _), hSame]
        | capital n => exact absurd (List.mem_cons_self ..) (hPlain n)
  | gap hSpace hRest ih =>
      cases h' with
      | gap hSpace' hRest' =>
        rcases ih hRest' fun n hn => hPlain n (List.mem_cons_of_mem _ hn) with ⟨hSame, hHead⟩
        rw [followers_append (hSpace.notMem (by decide)),
          followers_append (hSpace'.notMem (by decide))]
        refine ⟨hSame, ?_⟩
        cases hSpace <;> cases hSpace' <;> rfl

/-- A letter that is in no alias is written only where it stands among the pieces. -/
theorem count_letter (h : Writes first ps cs) {c : Char} (hDigit : c.isDigit = false)
    (hc : c ∉ ['t', 'T', ',', '\n', ' ']) : cs.count c = ps.count (.mark (.char c)) := by
  rw [List.mem_cons, List.mem_cons, not_or, not_or] at hc
  rcases hc with ⟨hSmall, hCapital, hGap⟩
  have hDigits : ∀ n : Nat, (toString n).toList.count c = 0 := by
    intro n
    refine List.count_eq_zero.2 fun hMem => ?_
    rw [Text.isDigit_of_mem_natText hMem] at hDigit
    cases hDigit
  induction h with
  | nil => rfl
  | mark m hRest ih =>
      have hMark : (m.write first).count c = if m = .char c then 1 else 0 := by
        cases m with
        | char b => simp [Mark.write, List.count_singleton]
        | «alias» n =>
            rw [Mark.write, toList_aliasName, List.count_cons_of_ne (Ne.symm hSmall), hDigits]
            rfl
        | capital n =>
            rw [Mark.write, List.count_cons_of_ne (Ne.symm hCapital), hDigits]
            rfl
      rw [List.count_append, ih, hMark, List.count_cons, Nat.add_comm]
      simp
  | gap hSpace hRest ih =>
      rw [List.count_append, List.count_eq_zero.2 (hSpace.notMem hGap), ih, Nat.zero_add,
        List.count_cons]
      simp

end Writes

/-- The server's rules, with one for missing values that looks for an alias. -/
def Dialect.choosy : Dialect :=
  { aliasing with
    spellings := Spellings.standard.insert .isNull
      (.splice (.exactly 1) fun args => if args = ["t0.a"] then "TRUE" else "FALSE") }

/-- Whether points in time are missing. -/
def Relation.missing : Relation :=
  .selection 2 dated [.alias (.call .isNull [.column ⟨⟨1, .table⟩, "a"⟩]) "d"] [] []

/-- Texts of one relation by a new and by a used generator can differ in the number of an alias in
capitals, and, by a rule that looks for an alias, in anything. -/
theorem Generator.reuse_changes :
    ((((Generator.new Dialect.aliasing).after []).statement Relation.truncated).1 =
        .ok "SELECT DATE_TRUNC(T0.U, t0.a) AS d, t0.a AS a\nFROM t t0" ∧
      (((Generator.new Dialect.aliasing).after [Relation.truncated]).statement
        Relation.truncated).1 = .ok "SELECT DATE_TRUNC(T1.U, t1.a) AS d, t1.a AS a\nFROM t t1" ∧
      ∀ ps, (∀ n, .mark (.capital n) ∉ ps) → ∀ first,
        Writes 0 ps "SELECT DATE_TRUNC(T0.U, t0.a) AS d, t0.a AS a\nFROM t t0".toList →
        ¬Writes first ps "SELECT DATE_TRUNC(T1.U, t1.a) AS d, t1.a AS a\nFROM t t1".toList) ∧
    (((Generator.new Dialect.choosy).after []).statement Relation.missing).1 =
        .ok "SELECT TRUE AS d\nFROM t t0" ∧
      (((Generator.new Dialect.choosy).after [Relation.missing]).statement Relation.missing).1 =
        .ok "SELECT FALSE AS d\nFROM t t1" ∧
      ∀ ps first, Writes 0 ps "SELECT TRUE AS d\nFROM t t0".toList →
        ¬Writes first ps "SELECT FALSE AS d\nFROM t t1".toList := by
  refine ⟨⟨by decide +kernel, by decide +kernel, ?_⟩, by decide +kernel, by decide +kernel, ?_⟩
  · intro ps hPlain first hFresh hUsed
    have hSame := (hFresh.followers_eq hUsed hPlain).1
    revert hSame
    decide +kernel
  · -- there is one more letter of the word that only the used generator writes
    intro ps first hFresh hUsed
    have hSame := (hFresh.count_letter (c := 'F') rfl (by decide)).trans
      (hUsed.count_letter rfl (by decide)).symm
    revert hSame
    decide +kernel

end TableQuery
