import Mathlib.Data.List.Basic
import TableQuery.Proofs.Expr.Canonical
import TableQuery.Proofs.Identifier
import TableQuery.Proofs.Sql.Atom

/-!
# Reader — reading expressions back

A reader of the texts of expressions. It goes from left to right and looks ahead at no more than the
next symbol, and knows no precedence: behind an operand stands at most one operator. What it reads
is the canonical form of an expression. Operators and functions are looked up in the spellings, so
the reader follows them.

Readers of the parts take the reader of whole expressions as an argument; `Reader.read` ties the
knot, as deep as a bound on the nesting says.
-/

namespace TableQuery

/-- Reads something from the front of a text, and leaves what stands behind it. -/
abbrev Reader (α : Type) := List Char → Option (α × List Char)

namespace Reader

/-! ## Symbols -/

/-- What stands behind a symbol. -/
def after (symbol : String) (cs : List Char) : Option (List Char) :=
  cs.dropPrefix? symbol.toList

/-- The entry of a table whose symbol the text starts with. -/
def lookup {α : Type} (table : List (String × α)) : Reader α := fun cs =>
  table.findSome? fun (symbol, a) => (after symbol cs).map (a, ·)

/-- Neither text starts with the other. -/
def apart (s t : String) : Bool :=
  !s.toList.isPrefixOf t.toList && !t.toList.isPrefixOf s.toList

theorem after_append (s : String) (cs : List Char) : after s (s.toList ++ cs) = some cs :=
  List.dropPrefix?_append_of_beq cs (beq_self_eq_true s.toList)

theorem after_of_apart {s t : String} (h : apart s t = true) (cs : List Char) :
    after s (t.toList ++ cs) = none := by
  simp only [apart, Bool.and_eq_true, Bool.not_eq_true', ← Bool.not_eq_true,
    List.isPrefixOf_iff_prefix] at h
  cases hAfter : after s (t.toList ++ cs) with
  | none => rfl
  | some rest =>
      rcases List.dropPrefix?_eq_some_iff.1 hAfter with ⟨start, hText, hStart⟩
      rw [eq_of_beq hStart] at hText
      -- of two texts in front of a third, the shorter one is in front of the longer one
      have hFront : s.toList <+: t.toList ++ cs := ⟨rest, hText.symm⟩
      rcases List.prefix_or_prefix_of_prefix hFront (List.prefix_append t.toList cs) with hs | ht
      · exact absurd hs h.1
      · exact absurd ht h.2

section Lookup

variable {α : Type} {table : List (String × α)}

/-- Where no symbol starts with another, each of them is found. -/
theorem lookup_append (hTable : table.Pairwise fun a b => apart a.1 b.1 = true) {s : String} {a : α}
    (h : (s, a) ∈ table) (cs : List Char) : lookup table (s.toList ++ cs) = some (a, cs) := by
  unfold lookup
  induction table with
  | nil => cases h
  | cons entry table ih =>
      rw [List.pairwise_cons] at hTable
      rw [List.findSome?_cons]
      rcases List.mem_cons.1 h with rfl | hMem
      · simp [after_append]
      · simp only [after_of_apart (hTable.1 _ hMem), Option.map_none]
        exact ih hTable.2 hMem

theorem lookup_of_apart {s : String} (h : ∀ entry ∈ table, apart entry.1 s = true)
    (cs : List Char) : lookup table (s.toList ++ cs) = none := by
  apply List.findSome?_eq_none_iff.2
  intro entry hEntry
  simp only [after_of_apart (h entry hEntry), Option.map_none]

end Lookup

/-! ## Words, numbers and quoted texts -/

/-- Whether the text has letters, digits and underscores only. -/
def isWord (w : String) : Bool :=
  w.toList.all Identifier.isWordChar

/-- The letters, digits and underscores at the front of a text, and what stands behind them. -/
def word (cs : List Char) : String × List Char :=
  (String.ofList (cs.takeWhile Identifier.isWordChar), cs.dropWhile Identifier.isWordChar)

/-- A number in decimal digits. -/
def number : Reader Nat := fun cs =>
  some (Nat.ofDigitChars 10 (cs.takeWhile Char.isDigit) 0, cs.dropWhile Char.isDigit)

/-- The rest of a quoted text, in which two quotes stand for one. -/
def quoted (q : Char) : Reader (List Char)
  | [] => none
  | [c] => if c = q then some ([], []) else none
  | c :: d :: cs =>
    if c ≠ q then (quoted q (d :: cs)).map fun (seen, cs) => (c :: seen, cs)
    else if d = q then (quoted q cs).map fun (seen, cs) => (q :: seen, cs)
    else some ([], d :: cs)

/-- The types with a name of one word. -/
def simpleTypes : List DataType :=
  [.boolean, .int8, .int16, .int32, .int64, .float32, .float64, .string, .date, .time, .timestamp,
   .point, .lineString, .polygon, .multiPolygon]

/-- The name of a type. -/
def typeName : Reader DataType := fun cs => do
  let (name, cs) := word cs
  if name = "DECIMAL" then
    let cs ← after "(" cs
    let (precision, cs) ← number cs
    let cs ← after ", " cs
    let (scale, cs) ← number cs
    let cs ← after ")" cs
    return (.decimal precision scale, cs)
  else
    let target ← simpleTypes.find? (·.sqlName? == some name)
    return (target, cs)

/-- A run of characters of some kind ends where a character of another kind stands. -/
theorem span_append {p : Char → Bool} {w cs : List Char} (hRun : ∀ c ∈ w, p c = true)
    (hEnd : ∀ c ∈ cs.head?, p c = false) :
    (w ++ cs).takeWhile p = w ∧ (w ++ cs).dropWhile p = cs := by
  rw [List.takeWhile_append_of_pos hRun, List.dropWhile_append_of_pos hRun]
  cases cs with
  | nil => simp
  | cons c cs => simp [hEnd c rfl]

theorem word_append {w : String} (hWord : isWord w = true) {cs : List Char}
    (hEnd : ∀ c ∈ cs.head?, Identifier.isWordChar c = false) :
    word (w.toList ++ cs) = (w, cs) := by
  rcases span_append (List.all_eq_true.1 hWord) hEnd with ⟨hTake, hDrop⟩
  rw [word, hTake, hDrop, String.ofList_toList]

theorem word_ends_at_paren (cs : List Char) :
    ∀ c ∈ ("(".toList ++ cs).head?, Identifier.isWordChar c = false := by
  intro c hc
  obtain rfl : '(' = c := by simpa using hc
  decide

theorem number_append (n : Nat) {cs : List Char} (hEnd : ∀ c ∈ cs.head?, c.isDigit = false) :
    number ((toString n).toList ++ cs) = some (n, cs) := by
  have hDigits : ∀ c ∈ Nat.toDigits 10 n, c.isDigit = true := fun c hc =>
    Nat.isDigit_of_mem_toDigits (by decide) (by decide) hc
  rcases span_append hDigits hEnd with ⟨hTake, hDrop⟩
  rw [number, Nat.toString_eq_ofList_toDigits, String.toList_ofList, hTake, hDrop,
    Nat.ofDigitChars_ten_toDigits]

theorem quoted_append {q : Char} (s : List Char) {cs : List Char} (hEnd : cs.head? ≠ some q) :
    quoted q (Lexeme.doubled q s ++ q :: cs) = some (s, cs) := by
  induction s with
  | nil =>
      cases cs with
      | nil => simp [Lexeme.doubled, quoted]
      | cons d cs =>
          have hd : d ≠ q := by simpa using hEnd
          simp [Lexeme.doubled, quoted, hd]
  | cons c s ih =>
      by_cases hc : c = q
      · simp [Lexeme.doubled, quoted, hc, ih]
      · -- a character that is no quote never stands last, since a quote closes the text
        cases hRest : Lexeme.doubled q s ++ q :: cs with
        | nil => simp at hRest
        | cons d rest =>
            rw [hRest] at ih
            simp [Lexeme.doubled, quoted, hc, hRest, ih]

theorem simpleTypes_names : ∀ t ∈ simpleTypes, (t.sqlName?.all fun name =>
    isWord name && name != "DECIMAL" &&
      simpleTypes.find? (·.sqlName? == some name) == some t) = true := by
  decide +kernel

theorem typeName_decimal (precision scale : Nat) (cs : List Char) :
    typeName ("DECIMAL".toList ++ ("(".toList ++ ((toString precision).toList ++
      (", ".toList ++ ((toString scale).toList ++ (")".toList ++ cs)))))) =
        some (.decimal precision scale, cs) := by
  have hWord : isWord "DECIMAL" = true := by decide
  have hPrecision : number ((toString precision).toList ++ (", ".toList ++
      ((toString scale).toList ++ (")".toList ++ cs)))) =
        some (precision, ", ".toList ++ ((toString scale).toList ++ (")".toList ++ cs))) :=
    number_append precision (by simp [Char.isDigit])
  have hScale : number ((toString scale).toList ++ (")".toList ++ cs)) =
      some (scale, ")".toList ++ cs) :=
    number_append scale (by simp [Char.isDigit])
  unfold typeName
  rw [word_append hWord (word_ends_at_paren _)]
  simp only [if_true, after_append, hPrecision, hScale, Option.bind_eq_bind, Option.bind_some]
  rfl

theorem typeName_append {t : DataType} {name : String} (h : t.sqlName? = some name) {cs : List Char}
    (hEnd : ∀ c ∈ cs.head?, Identifier.isWordChar c = false) :
    typeName (name.toList ++ cs) = some (t, cs) := by
  by_cases hSimple : t ∈ simpleTypes
  · have hName := simpleTypes_names t hSimple
    simp only [h, Option.all_some, Bool.and_eq_true, bne_iff_ne, beq_iff_eq] at hName
    rcases hName with ⟨⟨hWord, hOther⟩, hFind⟩
    simp [typeName, word_append hWord hEnd, hOther, hFind]
  · cases t with
    | decimal precision scale =>
        cases h
        simpa [String.toList_append] using typeName_decimal precision scale cs
    | null | binary | interval | array => cases h
    | _ => exact absurd (by decide) hSimple

/-! ## Tables of spellings -/

/-- How an expression goes on behind its first operand. -/
inductive Continuation where
  /-- An operator and a second operand. -/
  | between (op : Operation)
  /-- An operator and nothing else. -/
  | behind (op : Operation)
  /-- Two more operands, the bounds of a range. -/
  | range
  /-- A list in parentheses. -/
  | among (op : Operation)
  deriving DecidableEq

/-- What stands behind the first operand of a call, and how the text goes on there. -/
def continuationOf (op : Operation) : Option (String × Continuation) :=
  match Spellings.standardRule? op, op with
  | some ⟨_, .between symbol⟩, _ => some (" " ++ symbol ++ " ", .between op)
  | some ⟨_, .after symbol⟩, _ => some (symbol, .behind op)
  | _, .between => some (" BETWEEN ", .range)
  | _, .inList => some (" IN (", .among op)
  | _, .notInList => some (" NOT IN (", .among op)
  | _, _ => none

def continuations : List (String × Continuation) :=
  Operation.catalog.filterMap continuationOf

/-- What stands in front of the only operand of a call. -/
def openingOf (op : Operation) : Option (String × Operation) :=
  match Spellings.standardRule? op, op with
  | some ⟨_, .before symbol⟩, _ => some (symbol, op)
  | _, .negate => some ("-", op)
  | _, _ => none

def openings : List (String × Operation) :=
  Operation.catalog.filterMap openingOf

/-- The name of a function. -/
def functionName? (op : Operation) : Option String :=
  match Spellings.standardRule? op with
  | some ⟨_, .function name⟩ => some name
  | _ => none

/-- The function with a name. Of two functions with one name it is the one that stands in canonical
expressions. -/
def functionNamed? (name : String) : Option Operation :=
  Operation.catalog.find? fun op => functionName? op == some name && op != .ifNull

theorem mem_continuations (op : Operation) {entry : String × Continuation}
    (h : continuationOf op = some entry) : entry ∈ continuations :=
  List.mem_filterMap.2 ⟨op, op.mem_catalog, h⟩

theorem mem_openings (op : Operation) {entry : String × Operation} (h : openingOf op = some entry) :
    entry ∈ openings :=
  List.mem_filterMap.2 ⟨op, op.mem_catalog, h⟩

theorem continuations_apart : continuations.Pairwise fun a b => apart a.1 b.1 = true := by
  decide +kernel

theorem openings_eq : openings = [("-", .negate), ("NOT ", .not)] := by
  decide +kernel

theorem functions_named : ∀ op ∈ Operation.catalog, ((functionName? op).all fun name =>
    isWord name && name != "" && name != "CAST" &&
      functionNamed? name == some (if op = .ifNull then .coalesce else op)) = true := by
  decide +kernel

/-- A function is found by its name, which is a word. -/
theorem of_functionName {op : Operation} {name : String} (h : functionName? op = some name) :
    isWord name = true ∧ name ≠ "" ∧ name ≠ "CAST" ∧
      functionNamed? name = some (if op = .ifNull then .coalesce else op) := by
  have hName := functions_named op op.mem_catalog
  simp only [h, Option.all_some, Bool.and_eq_true, bne_iff_ne, beq_iff_eq] at hName
  exact ⟨hName.1.1.1, hName.1.1.2, hName.1.2, hName.2⟩

/-! ## Expressions -/

section Expressions

variable (o : Origin) (expr : Reader Expr) (n : Nat)

/-- A constant or a column, by a word. -/
def atom (name : String) : Option Expr :=
  if name = "NULL" then some (.literal .null)
  else if name = "TRUE" then some (.literal (.boolean true))
  else if name = "FALSE" then some (.literal (.boolean false))
  else if name.toList.head?.any Char.isDigit then
    some (.literal (.int (Nat.ofDigitChars 10 name.toList 0)))
  else if name = "" || Identifier.needsQuotes name then none
  else some (.column ⟨o, name⟩)

/-- At most `n` expressions with commas between them, and the parenthesis behind them. -/
def list : Nat → Reader (List Expr)
  | 0, _ => none
  | n + 1, cs => do
    let (e, cs) ← expr cs
    match after ", " cs with
    | some cs =>
      let (es, cs) ← list n cs
      return (e :: es, cs)
    | none =>
      let cs ← after ")" cs
      return ([e], cs)

/-- The arguments of a function. -/
def arguments : Reader (List Expr) := fun cs =>
  list expr n cs <|> (after ")" cs).map ([], ·)

/-- At most `n` branches of a choice, and the word behind them. -/
def branches : Nat → Reader (List Expr)
  | 0, _ => none
  | n + 1, cs =>
    match after " WHEN " cs with
    | some cs => do
      let (condition, cs) ← expr cs
      let cs ← after " THEN " cs
      let (value, cs) ← expr cs
      let (es, cs) ← branches n cs
      return (condition :: value :: es, cs)
    | none =>
      match after " ELSE " cs with
      | some cs => do
        let (default, cs) ← expr cs
        let cs ← after " END" cs
        return ([default], cs)
      | none => (after " END" cs).map ([], ·)

/-- What a word starts: a cast, a function, a choice, or itself. -/
def named (cs : List Char) : Option (Expr × List Char) :=
  let (name, cs) := word cs
  match after "(" cs with
  | some cs =>
    if name = "CAST" then do
      let (arg, cs) ← expr cs
      let cs ← after " AS " cs
      let (target, cs) ← typeName cs
      let cs ← after ")" cs
      return (.cast arg target, cs)
    else do
      let op ← functionNamed? name
      let (args, cs) ← arguments expr n cs
      return (.call op args, cs)
  | none =>
    if name = "CASE" then (branches expr n cs).map fun (es, cs) => (.call .searchedCase es, cs)
    else (atom o name).map (·, cs)

/-- An operand of an operator. -/
def operand (cs : List Char) : Option (Expr × List Char) :=
  match cs with
  | '(' :: cs => do
    let (e, cs) ← expr cs
    let cs ← after ")" cs
    return (e, cs)
  | '\'' :: cs => (quoted '\'' cs).map fun (s, cs) => (.literal (.string (String.ofList s)), cs)
  | '"' :: cs => (quoted '"' cs).map fun (s, cs) => (.column ⟨o, String.ofList s⟩, cs)
  | cs => named o expr n cs

/-- What may stand behind the first operand. -/
def continued (x : Expr) (cs : List Char) : Option (Expr × List Char) :=
  match lookup continuations cs with
  | none => some (x, cs)
  | some (.between op, cs) => (operand o expr n cs).map fun (y, cs) => (.call op [x, y], cs)
  | some (.behind op, cs) => some (.call op [x], cs)
  | some (.range, cs) => do
    let (lo, cs) ← operand o expr n cs
    let cs ← after " AND " cs
    let (hi, cs) ← operand o expr n cs
    return (.call .between [x, lo, hi], cs)
  | some (.among op, cs) => (list expr n cs).map fun (es, cs) => (.call op (x :: es), cs)

/-- An expression whose parts are read by another reader. -/
def whole : Reader Expr := fun cs =>
  match operand o expr n cs with
  | some (x, cs) => continued o expr n x cs
  | none => do
    let (op, cs) ← lookup openings cs
    let (x, cs) ← operand o expr n cs
    return (.call op [x], cs)

end Expressions

/-- Reads an expression over the columns of a relation, nested to a bound. -/
def read (o : Origin) : Nat → Reader Expr
  | 0 => fun _ => none
  | n + 1 => whole o (read o n) n

end Reader
end TableQuery
