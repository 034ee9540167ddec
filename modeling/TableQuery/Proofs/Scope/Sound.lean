import TableQuery.Proofs.Identifier
import TableQuery.Proofs.Relation.Carry
import TableQuery.Proofs.Scope.Resolve
import TableQuery.Proofs.Scope.Select

/-!
# Sound — which column a reference is written as

A column of a relation is looked up among items that were built from it, and they may have computed
another column of that name. The item that is found carries the very column whenever some item does,
and two references are written alike only if they are to the same column of the same item.
-/

namespace TableQuery

/-! ## Resolution -/

namespace Scope

variable {s : Scope} {ref : ColumnRef} {entry : ScopeEntry} {r : Relation}

/-- If any item carries a column, then a reference to the column is resolved to one that does. -/
theorem carries_of_resolve (hIds : r.Identified)
    (hNodes : ∀ e ∈ s.entries, e.relation.nodes ⊆ r.nodes)
    (hColumns : ∀ e ∈ s.entries, e.columns = e.relation.columnNames)
    (h : s.resolve ref = .ok entry) {e : ScopeEntry} (he : e ∈ s.entries)
    (hCarries : e.relation.Carries ref.name ref.origin) :
    entry.relation.Carries ref.name ref.origin := by
  rcases resolve_cases h with hFind | ⟨-, -, hOnly⟩ | ⟨-, -, hOnly⟩
  · -- the item is the relation of the reference, and so is what the other item was built from
    have hOrigin : entry.relation.origin = ref.origin := by
      simpa using List.find?_some hFind
    rcases hCarries.exists_visible with ⟨m, hm, hm', hOnce⟩
    have hNode := hNodes e he (Relation.visible_subset_nodes _ hm)
    have hEntry := hNodes entry (List.mem_of_find?_eq_some hFind) (Relation.self_mem_nodes _)
    have hSame := hIds m hNode entry.relation hEntry (hm'.trans hOrigin.symm)
    rw [hSame] at hOnce
    exact hOrigin ▸ .self hOnce
  · -- only one item was built from the relation, and the item that carries the column was
    have hMem : e ∈ s.containing ref.origin := List.mem_filter.2 ⟨he, hCarries.contains⟩
    rw [hOnly, List.mem_singleton] at hMem
    exact hMem ▸ hCarries
  · -- only one item has a column of the name, and the item that carries the column has
    have hExposes : e.exposes ref.name = true := by
      simpa [ScopeEntry.exposes, hColumns e he] using hCarries.mem_columnNames
    have hMem : e ∈ s.exposing ref.name := List.mem_filter.2 ⟨he, hExposes⟩
    rw [hOnly, List.mem_singleton] at hMem
    exact hMem ▸ hCarries

/-- A column that is not one of the statement's own is written by its name, behind the alias of its
item where columns are qualified. -/
theorem of_columnText {text : String} (hOwn : s.isOutput ref = false)
    (h : s.columnText ref = .ok text) :
    ∃ entry, s.resolve ref = .ok entry ∧
      (s.qualify = false → text = Identifier.quote ref.name) ∧
      (s.qualify = true → ∀ a ∈ entry.alias?, text = a ++ "." ++ Identifier.quote ref.name) := by
  rw [columnText, hOwn] at h
  simp only [Bool.false_eq_true, if_false] at h
  split at h
  · cases h
  · next entry hEntry =>
    rcases of_map_ok h with ⟨name, hName, hText⟩
    rw [Identifier.safe_eq_ok hName] at hText
    refine ⟨entry, hEntry, ?_, ?_⟩
    · intro hBare
      rw [hBare] at hText
      simpa using hText.symm
    · intro hQualified a ha
      rw [hQualified, ha] at hText
      exact hText.symm

/-- What stands before the first point of a text, and behind it. -/
theorem eq_of_pointed_eq {a b m n : String} (ha : '.' ∉ a.toList) (hb : '.' ∉ b.toList)
    (h : a ++ "." ++ m = b ++ "." ++ n) : a = b ∧ m = n := by
  have hLists : a.toList ++ '.' :: m.toList = b.toList ++ '.' :: n.toList := by
    simpa using congrArg String.toList h
  have hAlias : a.toList = b.toList := by
    have hTaken {cs ds : List Char} (hcs : '.' ∉ cs) :
        (cs ++ '.' :: ds).takeWhile (· != '.') = cs := by
      have hAll : ∀ c ∈ cs, (c != '.') = true := by
        intro c hc
        rw [bne_iff_ne]
        rintro rfl
        exact hcs hc
      rw [List.takeWhile_append_of_pos hAll]
      simp
    calc
      a.toList = (a.toList ++ '.' :: m.toList).takeWhile (· != '.') := (hTaken ha).symm
      _ = (b.toList ++ '.' :: n.toList).takeWhile (· != '.') := by rw [hLists]
      _ = b.toList := hTaken hb
  rw [hAlias] at hLists
  have hName := List.append_cancel_left hLists
  exact ⟨String.toList_inj.1 hAlias, String.toList_inj.1 (List.cons.inj hName).2⟩

/-- Columns of items that can be told apart are written alike only if they belong to the same item
and have the same name. -/
theorem resolve_eq_of_columnText_eq (hItems : s.Distinguished) {ref' : ColumnRef} {text : String}
    (hOwn : s.isOutput ref = false) (hOwn' : s.isOutput ref' = false)
    (h : s.columnText ref = .ok text) (h' : s.columnText ref' = .ok text) :
    s.resolve ref = s.resolve ref' ∧ Identifier.quote ref.name = Identifier.quote ref'.name := by
  rcases of_columnText hOwn h with ⟨entry, hResolve, hBare, hQualified⟩
  rcases of_columnText hOwn' h' with ⟨entry', hResolve', hBare', hQualified'⟩
  have hEntry := (mem_of_resolve hResolve).1
  have hEntry' := (mem_of_resolve hResolve').1
  rw [hResolve, hResolve']
  cases hQualify : s.qualify with
  | false =>
      -- bare columns have only one item that they can belong to
      have hSame := hItems.single hQualify entry hEntry entry' hEntry'
      exact ⟨congrArg Except.ok hSame, (hBare hQualify).symm.trans (hBare' hQualify)⟩
  | true =>
      rcases hItems.named hQualify entry hEntry with ⟨k, hAlias⟩
      rcases hItems.named hQualify entry' hEntry' with ⟨k', hAlias'⟩
      have hText := hQualified hQualify _ hAlias
      have hText' := hQualified' hQualify _ hAlias'
      -- no alias has a point, so the first one ends it
      rcases eq_of_pointed_eq (pointless_aliasName k) (pointless_aliasName k')
        (hText.symm.trans hText') with ⟨hSameAlias, hName⟩
      have hSame : entry = entry' := by
        refine List.inj_on_of_nodup_map (hItems.apart hQualify) hEntry hEntry' ?_
        rw [hAlias, hAlias', hSameAlias]
      exact ⟨congrArg Except.ok hSame, hName⟩

/-- An item is found by its own identity before anything else is tried. -/
theorem origin_of_resolve (h : s.resolve ref = .ok entry) {e : ScopeEntry} (he : e ∈ s.entries)
    (hOrigin : e.relation.origin = ref.origin) : entry.relation.origin = ref.origin := by
  -- an item with the identity rules out all that is tried without one
  have hNot : s.entries.find? (·.relation.origin == ref.origin) ≠ none := by
    intro hNone
    have hOther := List.find?_eq_none.1 hNone e he
    exact hOther (beq_iff_eq.2 hOrigin)
  rcases resolve_cases h with hFind | ⟨hNone, -, -⟩ | ⟨hNone, -, -⟩
  · simpa using List.find?_some hFind
  · exact absurd hNone hNot
  · exact absurd hNone hNot

/-- A reference is resolved to an item that has a column of its name: to the relation of the
reference if that is an item, and to an item that carries the column if there is any. -/
def Binds (s : Scope) (ref : ColumnRef) : Prop :=
  ∃ entry ∈ s.entries, s.resolve ref = .ok entry ∧ ref.name ∈ entry.relation.columnNames ∧
    ∀ e ∈ s.entries,
      (e.relation.origin = ref.origin → entry.relation = e.relation) ∧
      (e.relation.Carries ref.name ref.origin → entry.relation.Carries ref.name ref.origin)

end Scope

/-! ## Compiled relations -/

namespace Select.WellScoped

variable {q : Select} {d : Dialect} {r : Relation} {ref ref' : ColumnRef}

/-- A column of what the items were built from is none of the statement's own. -/
theorem isOutput_eq_false (h : q.WellScoped d r) (hIds : r.Identified)
    (hFrom : ∃ e ∈ q.scope.entries, e.relation.contains ref.origin = true) :
    q.scope.isOutput ref = false := by
  rcases hFrom with ⟨e, he, hContains⟩
  rcases Relation.contains_iff.1 hContains with ⟨m, hm, hOrigin⟩
  have hNode := Relation.visible_subset_nodes _ hm
  unfold Scope.isOutput
  split
  · next origin names hOwn =>
    rcases h.outputs _ hOwn with ⟨w, hw, hSame, hApart⟩
    -- the output lies above all that its statement selects from
    have hOther : origin ≠ ref.origin := by
      intro hEq
      have hWhole := hIds w hw m (h.nodes e he hNode) ((hSame.trans hEq).trans hOrigin.symm)
      exact hApart e he (hWhole ▸ hNode)
    simp [hOther]
  · rfl

theorem binds (h : q.WellScoped d r) (hIds : r.Identified) (hRef : ref ∈ q.references d)
    (hOwn : q.scope.isOutput ref = false) : q.scope.Binds ref := by
  rcases h.written ref hRef with ⟨text, hText⟩
  rcases Scope.of_columnText hOwn hText with ⟨entry, hResolve, -⟩
  rcases Scope.mem_of_resolve hResolve with ⟨hEntry, hExposes⟩
  refine ⟨entry, hEntry, hResolve, ?_, ?_⟩
  · simpa [ScopeEntry.exposes, h.columns entry hEntry] using hExposes
  · intro e he
    constructor
    · intro hOrigin
      have hFound := Scope.origin_of_resolve hResolve he hOrigin
      exact hIds _ (h.nodes entry hEntry (Relation.self_mem_nodes _)) _
        (h.nodes e he (Relation.self_mem_nodes _)) (hFound.trans hOrigin.symm)
    · exact Scope.carries_of_resolve hIds h.nodes h.columns hResolve he

end Select.WellScoped

/-- Every column that a compiled statement takes from its items is bound to the relation it was
taken from, or to an item that carries it, as long as any item does. Two columns that are written
alike, and not as the statement's own, are the same column of the same item, unless one of their
names was quoted from the start. -/
theorem Dialect.resolution_sound {d : Dialect} {r : Relation} {text : String} (hIds : r.Identified)
    (h : d.compile r = .ok text) {q : Select} (hq : q ∈ d.selects r) :
    (∀ ref ∈ q.references d, (∃ e ∈ q.scope.entries, e.relation.contains ref.origin = true) →
      q.scope.isOutput ref = false ∧ q.scope.Binds ref) ∧
    ∀ ref ∈ q.references d, ∀ ref' ∈ q.references d,
      q.scope.isOutput ref = false → q.scope.isOutput ref' = false →
      q.scope.columnText ref = q.scope.columnText ref' →
      q.scope.resolve ref = q.scope.resolve ref' ∧
        (ref.name = ref'.name ∨ Identifier.isQuoted ref.name = true ∨
          Identifier.isQuoted ref'.name = true) := by
  have hScoped := d.wellScoped_of_compile h hq
  constructor
  · intro ref hRef hFrom
    have hOwn := hScoped.isOutput_eq_false hIds hFrom
    exact ⟨hOwn, hScoped.binds hIds hRef hOwn⟩
  · intro ref hRef ref' hRef' hOwn hOwn' hSame
    rcases hScoped.written ref hRef with ⟨text, hText⟩
    have hText' : q.scope.columnText ref' = .ok text := hSame.symm.trans hText
    rcases Scope.resolve_eq_of_columnText_eq hScoped.distinguished hOwn hOwn' hText hText' with
      ⟨hResolve, hName⟩
    refine ⟨hResolve, ?_⟩
    cases hQuoted : Identifier.isQuoted ref.name with
    | true => exact .inr (.inl rfl)
    | false =>
        cases hQuoted' : Identifier.isQuoted ref'.name with
        | true => exact .inr (.inr rfl)
        | false => exact .inl (Identifier.eq_of_quote_eq hQuoted hQuoted' hName)

/-- The first rows of a table, with one of its columns. -/
def Relation.firstRows : Relation :=
  .limit 4
    (.selection 3 (.table 2 "u" ⟨[⟨"a", .string, true⟩, ⟨"c", .string, true⟩]⟩)
      [.column ⟨⟨2, .table⟩, "a"⟩] [] [])
    5 0

theorem Relation.carries_firstRows : firstRows.Carries "a" ⟨2, .table⟩ := by
  let source : Relation := .table 2 "u" ⟨[⟨"a", .string, true⟩, ⟨"c", .string, true⟩]⟩
  have hSource : source.Carries "a" ⟨2, .table⟩ := .self (r := source) (by decide)
  have hProjected : Carries "a" ⟨2, .table⟩
      (.selection 3 source [.column ⟨source.origin, "a"⟩] [] []) :=
    .projected 3 [] [] (List.mem_singleton.2 rfl) (.inl rfl) (by decide) source.self_mem_visible
      hSource hSource
  exact .limit 4 5 0 hProjected

/-- A table joined with the first rows of another. -/
def Relation.joinedFirstRows : Relation :=
  .join 5 .inner (.table 1 "t" ⟨[⟨"a", .string, true⟩, ⟨"b", .string, true⟩]⟩) firstRows
    [.call .equals [.column ⟨⟨1, .table⟩, "a"⟩, .column ⟨⟨2, .table⟩, "a"⟩]]

theorem Dialect.resolution_sound_joinedFirstRows :
    Relation.joinedFirstRows.Identified ∧
      (∃ text, standard.compile Relation.joinedFirstRows = .ok text) ∧
      ∃ q ∈ standard.selects Relation.joinedFirstRows,
        ∃ entry ∈ q.scope.entries, q.scope.resolve ⟨⟨2, .table⟩, "a"⟩ = .ok entry ∧
          entry.relation.Carries "a" ⟨2, .table⟩ := by
  have hIds : Relation.joinedFirstRows.Identified := Relation.identified_of_nodup (by decide)
  have hText : standard.compile Relation.joinedFirstRows = .ok ("SELECT *\nFROM t t0\n" ++
      "  JOIN (\n    SELECT a\n    FROM u\n    LIMIT 5\n  ) t1\n    ON t0.a = t1.a") := by
    decide +kernel
  have hFirst : ((standard.selects Relation.joinedFirstRows).map
      fun q => (q.references standard, q.scope.entries.map (·.relation))).head? = some
        ([⟨⟨1, .table⟩, "a"⟩, ⟨⟨2, .table⟩, "a"⟩], Relation.joinedFirstRows.inputs) := by
    rfl
  rcases List.mem_map.1 (List.mem_of_head? hFirst) with ⟨q, hq, hEq⟩
  rcases Prod.mk.inj hEq with ⟨hRefs, hItems⟩
  have hItem : Relation.firstRows ∈ q.scope.entries.map (·.relation) := by
    rw [hItems]
    exact List.mem_of_mem_tail (List.mem_singleton.2 rfl)
  rcases List.mem_map.1 hItem with ⟨e, he, hFirstRows⟩
  have hCarries : e.relation.Carries "a" ⟨2, .table⟩ := hFirstRows ▸ Relation.carries_firstRows
  have hRef : (⟨⟨2, .table⟩, "a"⟩ : ColumnRef) ∈ q.references standard := by simp [hRefs]
  rcases ((resolution_sound hIds hText hq).1 _ hRef ⟨e, he, hCarries.contains⟩).2 with
    ⟨entry, hEntry, hResolve, -, hBest⟩
  exact ⟨hIds, ⟨_, hText⟩, q, hq, entry, hEntry, hResolve, (hBest e he).2 hCarries⟩

/-! ## Columns that are not carried -/

/-- A column in lower case under the name of another. -/
def Relation.lowered : Relation :=
  .selection 2 (.table 1 "t" ⟨[⟨"a", .string, true⟩, ⟨"b", .string, true⟩]⟩)
    [.alias (.call .lowercase [.column ⟨⟨1, .table⟩, "b"⟩]) "a"] [] []

theorem Relation.not_carries_lowered : ¬lowered.Carries "a" ⟨1, .table⟩ := by
  intro h
  rcases h.exists_bare (by decide) with ⟨item, hItem, ref, hBare⟩
  rw [List.mem_singleton] at hItem
  subst hItem
  rcases hBare with hBare | hBare
  · cases hBare
  · cases hBare

/-- A filter by the column that only the name is left of. -/
def Relation.filteredLowered : Relation :=
  .selection 3 lowered [] [.call .isNull [.column ⟨⟨1, .table⟩, "a"⟩]] []

/-- A filter by a column whose name is given to two columns. -/
def Relation.filteredTwice : Relation :=
  .selection 3
    (.selection 2 (.table 1 "t" ⟨[⟨"a", .string, true⟩, ⟨"b", .string, true⟩]⟩)
      [.column ⟨⟨1, .table⟩, "a"⟩, .alias (.column ⟨⟨1, .table⟩, "b"⟩) "a"] [] [])
    [] [.call .isNull [.column ⟨⟨1, .table⟩, "a"⟩]] []

/-- A column in lower case under its own name, by which the rows are sorted. -/
def Relation.sortedLowered : Relation :=
  .selection 3
    (.selection 2 (.table 1 "t" ⟨[⟨"a", .string, true⟩]⟩)
      [.alias (.call .lowercase [.column ⟨⟨1, .table⟩, "a"⟩]) "a"] [] [])
    [] [] [⟨.column ⟨⟨2, .selection⟩, "a"⟩, true⟩]

/-- Two columns, the name of one of them in quotes from the start. -/
def Relation.quotedTwice : Relation :=
  .selection 2 (.table 1 "t" ⟨[⟨"x y", .string, true⟩, ⟨"\"x y\"", .string, true⟩]⟩) []
    [.call .equals [.column ⟨⟨1, .table⟩, "x y"⟩, .column ⟨⟨1, .table⟩, "\"x y\""⟩]] []

/-- A reference to a column that no item carries is bound to another one of its name, also where
there are two; the statement's own columns are written by their bare names, and a name that is
quoted already is written as it is. -/
theorem Dialect.columns_confused :
    ((∃ text, standard.compile Relation.filteredLowered = .ok text) ∧
      ∃ q ∈ standard.selects Relation.filteredLowered, ∃ ref ∈ q.references standard, ∃ entry,
        q.scope.resolve ref = .ok entry ∧ entry.relation.contains ref.origin = true ∧
          ¬entry.relation.Carries ref.name ref.origin) ∧
    ((∃ text, standard.compile Relation.filteredTwice = .ok text) ∧
      ∃ q ∈ standard.selects Relation.filteredTwice, ∃ ref ∈ q.references standard, ∃ entry,
        q.scope.resolve ref = .ok entry ∧ entry.relation.contains ref.origin = true ∧
          entry.relation.columnNames.count ref.name = 2) ∧
    ∀ r ∈ [Relation.sortedLowered, Relation.quotedTwice],
      (∃ text, standard.compile r = .ok text) ∧
      ∃ q ∈ standard.selects r, ∃ ref ∈ q.references standard, ∃ ref' ∈ q.references standard,
        ref ≠ ref' ∧ q.scope.columnText ref = q.scope.columnText ref' := by
  refine ⟨⟨⟨"SELECT *\nFROM (\n  SELECT LOWER(b) AS a\n  FROM t\n) t0\nWHERE a IS NULL", ?_⟩, ?_⟩,
    ⟨⟨"SELECT *\nFROM (\n  SELECT a, b AS a\n  FROM t\n) t0\nWHERE a IS NULL", ?_⟩, ?_⟩, ?_⟩
  · decide +kernel
  · have hFirst : ((standard.selects Relation.filteredLowered).map
        fun q => (q.references standard, q.scope.resolve ⟨⟨1, .table⟩, "a"⟩)).head? = some
          ([⟨⟨1, .table⟩, "a"⟩], .ok ⟨Relation.lowered, some "t0", ["a"]⟩) := by
      rfl
    rcases List.mem_map.1 (List.mem_of_head? hFirst) with ⟨q, hq, hEq⟩
    rcases Prod.mk.inj hEq with ⟨hRefs, hResolve⟩
    exact ⟨q, hq, _, by simp [hRefs], _, hResolve, by decide, Relation.not_carries_lowered⟩
  · decide +kernel
  · have hFirst : ((standard.selects Relation.filteredTwice).map fun q =>
        (q.references standard, (q.scope.resolve ⟨⟨1, .table⟩, "a"⟩).map
          fun entry => (entry.relation.contains ⟨1, .table⟩,
            entry.relation.columnNames.count "a"))).head? = some
          ([⟨⟨1, .table⟩, "a"⟩], .ok (true, 2)) := by
      rfl
    rcases List.mem_map.1 (List.mem_of_head? hFirst) with ⟨q, hq, hEq⟩
    rcases Prod.mk.inj hEq with ⟨hRefs, hResult⟩
    rcases of_map_ok hResult with ⟨entry, hResolve, hEntry⟩
    rcases Prod.mk.inj hEntry with ⟨hContains, hCount⟩
    exact ⟨q, hq, _, by simp [hRefs], entry, hResolve, hContains, hCount⟩
  · intro r hr
    rcases List.mem_pair.1 hr with rfl | rfl
    · refine ⟨⟨"SELECT LOWER(a) AS a\nFROM t\nORDER BY a", ?_⟩, ?_⟩
      · decide +kernel
      · decide +kernel
    · refine ⟨⟨"SELECT *\nFROM t\nWHERE \"x y\" = \"x y\"", ?_⟩, ?_⟩
      · decide +kernel
      · decide +kernel

end TableQuery
