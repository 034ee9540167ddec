import Mathlib.Data.List.Basic
import TableQuery.Proofs.Arity
import TableQuery.Proofs.Rewrite.Complete

/-!
# Value — rewriting keeps the value of an expression

Expressions are read in any way in which the value of a node depends on its form and on the values
below it alone. A set of rules keeps all values if each of its rules does so for the calls that it
takes. The standard rules do so in every reading in which rounded division and the reductions of
truth values are what they are defined to be.

That definition is the usual one: over the rows of a group, the least of the flags is one exactly if
every value is true, and the greatest exactly if some value is.
-/

namespace TableQuery

/-! ## Readings of expressions -/

/-- A reading of expressions: what each form means, over values of some type. -/
structure Expr.Reading (α : Type) where
  column : ColumnRef → α
  literal : Literal → α
  call : Operation → List α → α
  cast : α → DataType → α
  named : α → String → α
  window : α → List α → List (SortKey α) → Option WindowFrame → α
  udf : String → List α → DataType → α

namespace Expr.Reading

variable {α : Type} (R : Reading α)

mutual

/-- The value of an expression. -/
def value : Expr → α
  | .column ref => R.column ref
  | .literal v => R.literal v
  | .call op args => R.call op (values args)
  | .cast arg target => R.cast (value arg) target
  | .alias expr name => R.named (value expr) name
  | .window func partition order frame =>
    R.window (value func) (values partition) (keyValues order) frame
  | .udf name args output => R.udf name (values args) output

/-- The values of expressions in a row. -/
def values : List Expr → List α
  | [] => []
  | e :: es => value e :: values es

/-- The values of sort keys. -/
def keyValues : List (SortKey Expr) → List (SortKey α)
  | [] => []
  | ⟨e, up⟩ :: ks => ⟨value e, up⟩ :: keyValues ks

end

theorem values_transformList {f : Expr → Expr} {es : List Expr}
    (h : ∀ e ∈ es, R.value (e.transformUp f) = R.value e) :
    R.values (transformList f es) = R.values es := by
  induction es with
  | nil => rfl
  | cons e es ih =>
      rw [List.forall_mem_cons] at h
      simp [transformList, values, h.1, ih h.2]

theorem keyValues_transformKeys {f : Expr → Expr} {ks : List (SortKey Expr)}
    (h : ∀ k ∈ ks, R.value (k.key.transformUp f) = R.value k.key) :
    R.keyValues (transformKeys f ks) = R.keyValues ks := by
  induction ks with
  | nil => rfl
  | cons k ks ih =>
      rw [List.forall_mem_cons] at h
      simp [transformKeys, keyValues, h.1, ih h.2]

/-- What keeps the value of every node keeps the value of a tree. -/
theorem value_transformUp {f : Expr → Expr} (hf : ∀ e, R.value (f e) = R.value e) (e : Expr) :
    R.value (e.transformUp f) = R.value e := by
  induction e with
  | column ref => exact hf _
  | literal v => exact hf _
  | call op args ih =>
      rw [transformUp, hf]
      simp only [value, R.values_transformList ih]
  | cast arg target ih =>
      rw [transformUp, hf]
      simp only [value, ih]
  | aliased expr name ih =>
      rw [transformUp, hf]
      simp only [value, ih]
  | window func partition order frame ihFunc ihPartition ihOrder =>
      rw [transformUp, hf]
      simp only [value, ihFunc, R.values_transformList ihPartition,
        R.keyValues_transformKeys ihOrder]
  | udf name args output ih =>
      rw [transformUp, hf]
      simp only [value, R.values_transformList ih]

end Expr.Reading

/-! ## Sound rules -/

section Sound

variable {α : Type} {R : Expr.Reading α}

/-- The output of the rule has the value of each call that the rule takes. -/
def RewriteRule.Sound (r : RewriteRule) (R : Expr.Reading α) : Prop :=
  ∀ args, r.arity.accepts args.length = true →
    R.value (r.output.fill args) = R.value (.call r.target args)

/-- Rules that keep the values of calls keep the values of all expressions. -/
theorem RewriteSet.value_apply_of_sound {s : RewriteSet} (h : ∀ r ∈ s.rules, r.Sound R)
    (e : Expr) : R.value (s.apply e) = R.value e := by
  have hNode : ∀ n, R.value (s.rewriteNode n) = R.value n := by
    intro n
    cases n with
    | call op args =>
        cases hTakes : s.takes op args.length with
        | false => rw [rewriteNode_of_not_takes hTakes]
        | true =>
            rcases exists_rule_of_takes hTakes with ⟨r, hr, rfl, hArity, hRule⟩
            rw [hRule]
            exact h r hr args hArity
    | _ => rfl
  rw [apply_eq_transformUp]
  exact R.value_transformUp hNode e

end Sound

/-! ## The standard rules -/

namespace Expr.Reading

variable {α : Type}

/-- Whether a fold over a condition's flags, one where it holds and zero elsewhere, gives one. -/
def flags (R : Reading α) (fold : Operation) (x : α) : α :=
  R.call .equals
    [R.call fold [R.call .ifElse [x, R.literal (.int 1), R.literal (.int 0)]], R.literal (.int 1)]

/-- Rounded division and the reductions of truth values mean what they are defined to be. -/
structure Reduces (R : Reading α) : Prop where
  floorDivide : ∀ a b, R.call .floorDivide [a, b] = R.call .floor [R.call .divide [a, b]]
  allTrue : ∀ x, R.call .allTrue [x] = R.flags .minimum x
  anyTrue : ∀ x, R.call .anyTrue [x] = R.flags .maximum x
  notAllTrue : ∀ x, R.call .notAllTrue [x] = R.call .not [R.call .allTrue [x]]
  notAnyTrue : ∀ x, R.call .notAnyTrue [x] = R.call .not [R.call .anyTrue [x]]

theorem Reduces.sound {R : Reading α} (hR : R.Reduces) :
    ∀ r ∈ RewriteSet.standard.rules, r.Sound R := by
  simp only [RewriteSet.standard, List.forall_mem_cons]
  refine ⟨?_, ?_, ?_, ?_, ?_, by simp⟩
  -- a rule takes a fixed number of arguments, and over these the law of its target is the claim
  · intro args hArity
    rcases Arity.exists_two hArity with ⟨a, b, rfl⟩
    exact (hR.floorDivide (R.value a) (R.value b)).symm
  all_goals
    intro args hArity
    rcases Arity.exists_one hArity with ⟨a, rfl⟩
  · exact (hR.allTrue (R.value a)).symm
  · exact (hR.anyTrue (R.value a)).symm
  · calc R.call .not [R.flags .minimum (R.value a)]
        = R.call .not [R.call .allTrue [R.value a]] := by rw [hR.allTrue]
      _ = R.call .notAllTrue [R.value a] := (hR.notAllTrue (R.value a)).symm
  · calc R.call .not [R.flags .maximum (R.value a)]
        = R.call .not [R.call .anyTrue [R.value a]] := by rw [hR.anyTrue]
      _ = R.call .notAnyTrue [R.value a] := (hR.notAnyTrue (R.value a)).symm

/-- A reading with rounded division and the reductions read by their definitions. -/
def reducing (R : Reading α) : Reading α :=
  { R with
    call := fun op args =>
      match op, args with
      | .floorDivide, [a, b] => R.call .floor [R.call .divide [a, b]]
      | .allTrue, [x] => R.flags .minimum x
      | .anyTrue, [x] => R.flags .maximum x
      | .notAllTrue, [x] => R.call .not [R.flags .minimum x]
      | .notAnyTrue, [x] => R.call .not [R.flags .maximum x]
      | op, args => R.call op args }

theorem reduces_reducing (R : Reading α) : R.reducing.Reduces where
  floorDivide _ _ := rfl
  allTrue _ := rfl
  anyTrue _ := rfl
  notAllTrue _ := rfl
  notAnyTrue _ := rfl

end Expr.Reading

/-! ## Groups of rows -/

/-- A value in a row: missing, a truth value or a whole number. -/
inductive Cell where
  | null
  | truth (b : Bool)
  | number (n : Int)
  deriving DecidableEq

namespace Cell

/-- A truth value that may be missing. -/
def ofTruth? : Option Bool → Cell
  | some b => .truth b
  | none => .null

/-- The number in a cell, if there is one. -/
def number? : Cell → Option Int
  | .number n => some n
  | _ => none

/-- A choice by a condition: where the condition is missing, it does not hold. -/
def choose (condition then_ else_ : Cell) : Cell :=
  if condition = .truth true then then_ else else_

/-- One where a condition holds, and zero elsewhere. -/
def flag (condition : Option Bool) : Cell :=
  choose (ofTruth? condition) (.number 1) (.number 0)

/-- A comparison, which is missing where one side is. -/
def same : Cell → Cell → Cell
  | .null, _ | _, .null => .null
  | a, b => .truth (a = b)

/-- The least of the numbers; missing ones are left out, and without any it is missing. -/
def least (cells : List Cell) : Cell :=
  ((cells.filterMap number?).min?).elim .null .number

/-- The greatest of the numbers. -/
def greatest (cells : List Cell) : Cell :=
  ((cells.filterMap number?).max?).elim .null .number

end Cell

namespace Expr.Reading

variable {Row : Type}

/-- Expressions over the rows of a group: columns hold truth values that may be missing, choices
and comparisons work row by row, and the least and the greatest value fold the whole group. All else
is read as in some other reading. -/
def grouped (rest : Reading (Row → Cell)) (rows : List Row)
    (columns : ColumnRef → Row → Option Bool) : Reading (Row → Cell) :=
  { rest with
    column := fun ref row => Cell.ofTruth? (columns ref row)
    literal := fun
      | .int n => fun _ => .number n
      | v => rest.literal v
    call := fun op args =>
      match op, args with
      | .ifElse, [x, a, b] => fun row => Cell.choose (x row) (a row) (b row)
      | .equals, [a, b] => fun row => (a row).same (b row)
      | .minimum, [x] => fun _ => Cell.least (rows.map x)
      | .maximum, [x] => fun _ => Cell.greatest (rows.map x)
      | op, args => rest.call op args }

/-- A reading in which everything is missing. -/
def missing : Reading (Row → Cell) where
  column _ _ := .null
  literal _ _ := .null
  call _ _ _ := .null
  cast _ _ _ := .null
  named x _ := x
  window _ _ _ _ _ := .null
  udf _ _ _ _ := .null

/-- The number of a flag. -/
def flag (b : Option Bool) : Int :=
  if b = some true then 1 else 0

theorem cell_flag_eq (b : Option Bool) : Cell.flag b = .number (flag b) := by
  rcases b with _ | _ | _ <;> rfl

theorem same_one_iff (n : Int) : Cell.same (.number n) (.number 1) = .truth true ↔ n = 1 := by
  simp [Cell.same]

theorem flag_eq_one_iff (b : Option Bool) : flag b = 1 ↔ b = some true := by
  by_cases h : b = some true <;> simp [flag, h]

theorem flag_bounds (b : Option Bool) : 0 ≤ flag b ∧ flag b ≤ 1 := by
  by_cases h : b = some true <;> simp [flag, h]

section Grouped

variable {rest : Reading (Row → Cell)} {rows : List Row} {columns : ColumnRef → Row → Option Bool}

/-- A fold over the flags of a column sees nothing but numbers. -/
theorem filterMap_flags (conditions : Row → Option Bool) :
    (rows.map fun row => Cell.flag (conditions row)).filterMap Cell.number? =
      rows.map fun row => flag (conditions row) := by
  induction rows with
  | nil => rfl
  | cons row rows ih =>
      rw [List.map_cons, cell_flag_eq, List.map_cons, ← ih]
      exact List.filterMap_cons_some rfl

/-- The least flag of a group is one exactly if the condition holds in every row. -/
theorem least_flags_iff (hRows : rows ≠ []) (conditions : Row → Option Bool) :
    (rows.map fun row => flag (conditions row)).min? = some 1 ↔
      ∀ row ∈ rows, conditions row = some true := by
  rw [List.min?_eq_some_iff]
  constructor
  · -- the least flag is at most the flag of any row, and no flag is above one
    rintro ⟨-, hLeast⟩ row hRow
    have hFlag := hLeast _ (List.mem_map_of_mem hRow)
    have hBounds := flag_bounds (conditions row)
    exact (flag_eq_one_iff _).1 (by omega)
  · intro hAll
    have hFlags : ∀ row ∈ rows, flag (conditions row) = 1 :=
      fun row hRow => (flag_eq_one_iff _).2 (hAll row hRow)
    -- an empty group would have no least flag
    rcases List.exists_mem_of_ne_nil rows hRows with ⟨row, hRow⟩
    refine ⟨List.mem_map.2 ⟨row, hRow, hFlags row hRow⟩, ?_⟩
    intro n hn
    rcases List.mem_map.1 hn with ⟨row', hRow', rfl⟩
    exact Int.le_of_eq (hFlags row' hRow').symm

/-- The greatest flag of a group is one exactly if the condition holds in some row. -/
theorem greatest_flags_iff (conditions : Row → Option Bool) :
    (rows.map fun row => flag (conditions row)).max? = some 1 ↔
      ∃ row ∈ rows, conditions row = some true := by
  rw [List.max?_eq_some_iff]
  constructor
  · rintro ⟨hMem, -⟩
    rcases List.mem_map.1 hMem with ⟨row, hRow, hFlag⟩
    exact ⟨row, hRow, (flag_eq_one_iff _).1 hFlag⟩
  · rintro ⟨row, hRow, hTrue⟩
    refine ⟨List.mem_map.2 ⟨row, hRow, (flag_eq_one_iff _).2 hTrue⟩, ?_⟩
    intro n hn
    rcases List.mem_map.1 hn with ⟨row', -, rfl⟩
    exact (flag_bounds (conditions row')).2

/-- A fold gives one exactly if its number is one. -/
theorem elim_same_iff (n? : Option Int) :
    (n?.elim Cell.null Cell.number).same (.number 1) = .truth true ↔ n? = some 1 := by
  cases n? with
  | none => simp [Cell.same]
  | some n => simpa using same_one_iff n

/-- The rewritten reduction to all values is true exactly if every value of the column is. -/
theorem value_allTrue_iff (hRows : rows ≠ []) (ref : ColumnRef) (row : Row) :
    (grouped rest rows columns).value
        (RewriteSet.standard.apply (.call .allTrue [.column ref])) row = .truth true ↔
      ∀ r ∈ rows, columns ref r = some true := by
  have hValue : (grouped rest rows columns).value
      (RewriteSet.standard.apply (.call .allTrue [.column ref])) row =
        (Cell.least (rows.map fun r => Cell.flag (columns ref r))).same (.number 1) := rfl
  rw [hValue, Cell.least, filterMap_flags, elim_same_iff]
  exact least_flags_iff hRows (columns ref)

theorem value_anyTrue_iff (ref : ColumnRef) (row : Row) :
    (grouped rest rows columns).value
        (RewriteSet.standard.apply (.call .anyTrue [.column ref])) row = .truth true ↔
      ∃ r ∈ rows, columns ref r = some true := by
  have hValue : (grouped rest rows columns).value
      (RewriteSet.standard.apply (.call .anyTrue [.column ref])) row =
        (Cell.greatest (rows.map fun r => Cell.flag (columns ref r))).same (.number 1) := rfl
  rw [hValue, Cell.greatest, filterMap_flags, elim_same_iff]
  exact greatest_flags_iff (columns ref)

end Grouped

end Expr.Reading

/-- The standard rewriting keeps the value of every expression in every reading in which rounded
division and the reductions are what they are defined to be; and over a group of rows with truth
values, what the reductions are rewritten to is true exactly if every value is true, or some value
is. -/
theorem RewriteSet.keeps_value {α : Type} {R : Expr.Reading α} (hR : R.Reduces) (e : Expr)
    {Row : Type} (rest : Expr.Reading (Row → Cell)) {rows : List Row} (hRows : rows ≠ [])
    (columns : ColumnRef → Row → Option Bool) (ref : ColumnRef) (row : Row) :
    R.value (standard.apply e) = R.value e ∧
      ((Expr.Reading.grouped rest rows columns).value
          (standard.apply (.call .allTrue [.column ref])) row = .truth true ↔
        ∀ r ∈ rows, columns ref r = some true) ∧
      ((Expr.Reading.grouped rest rows columns).value
          (standard.apply (.call .anyTrue [.column ref])) row = .truth true ↔
        ∃ r ∈ rows, columns ref r = some true) :=
  ⟨value_apply_of_sound hR.sound e, Expr.Reading.value_allTrue_iff hRows ref row,
    Expr.Reading.value_anyTrue_iff ref row⟩

/-- The hypotheses hold of a group of two rows, of which one has a missing value; the reduction
stands in the key of a window. -/
theorem RewriteSet.keeps_value_two_rows :
    let columns : ColumnRef → Bool → Option Bool := fun _ row => if row then some true else none
    let R := (Expr.Reading.grouped Expr.Reading.missing [false, true] columns).reducing
    let x : ColumnRef := ⟨⟨0, .table⟩, "x"⟩
    let e : Expr := .window (.call .rank []) [.call .notAnyTrue [.alias (.column x) "y"]]
      [⟨.call .floorDivide [.column x, .literal (.int 2)], true⟩] none
    R.Reduces ∧ [false, true] ≠ [] ∧ R.value (standard.apply e) = R.value e ∧
      ((Expr.Reading.grouped Expr.Reading.missing [false, true] columns).value
          (standard.apply (.call .allTrue [.column x])) true = .truth true ↔
        ∀ r ∈ [false, true], columns x r = some true) ∧
      ((Expr.Reading.grouped Expr.Reading.missing [false, true] columns).value
          (standard.apply (.call .anyTrue [.column x])) true = .truth true ↔
        ∃ r ∈ [false, true], columns x r = some true) := by
  intro columns R x e
  have hRows : [false, true] ≠ [] := by decide
  exact ⟨Expr.Reading.reduces_reducing _, hRows,
    RewriteSet.keeps_value (Expr.Reading.reduces_reducing _) e Expr.Reading.missing hRows columns x
      true⟩

end TableQuery
