import TableQuery.Plan
import TableQuery.Sql.Expr
import TableQuery.Sql.JoinChain
import TableQuery.Text.Lines

/-!
# Clauses

The text of each clause of a `SELECT` statement over the scope that its `FROM` clause has opened.
-/

namespace TableQuery

/-- Items of a select list wrap where a line would grow beyond this many bytes. -/
def lineWidth : Nat := 70

/-- Lines after the first start under the first item after `SELECT `. -/
def continuationIndent : Nat := 7

/-- The length of the line that a text leaves open, when it is put behind `length` bytes. -/
def lengthAfter (length : Nat) (item : String) : Nat :=
  match Text.afterLastBreak? item.toList with
  | some tail => (String.ofList tail).utf8ByteSize
  | none => length + item.utf8ByteSize

/-- The length of the first line of a text. -/
def firstLineLength (item : String) : Nat :=
  match Text.lines item with
  | [] => 0
  | line :: _ => line.utf8ByteSize

/-- The items after the first, behind a line of `length` bytes. -/
def moreItems (length : Nat) : List String → String
  | [] => ""
  | item :: rest =>
    if lineWidth < length + 2 + firstLineLength item then
      ",\n" ++ Text.spaces continuationIndent ++ item
        ++ moreItems (lengthAfter continuationIndent item) rest
    else ", " ++ item ++ moreItems (lengthAfter (length + 2) item) rest

/-- The text of a select list; no items stand for all columns. -/
def selectText (distinct : Bool) (items : List String) : String :=
  let opening := if distinct then "SELECT DISTINCT " else "SELECT "
  match items with
  | [] => opening ++ "*"
  | item :: rest => opening ++ item ++ moreItems (lengthAfter opening.utf8ByteSize item) rest

/-- Conditions that must all hold, behind a keyword: several stand in parentheses, each on a line of
its own under the first. -/
def conjunctionText (keyword : String) : List String → String
  | [p] => keyword ++ " " ++ p
  | ps =>
    let gap := " AND\n" ++ Text.spaces (keyword.length + 1)
    keyword ++ " " ++ gap.intercalate (ps.map fun p => "(" ++ p ++ ")")

/-- The condition of a join. -/
def onText (ps : List String) : String :=
  if ps.isEmpty then "ON TRUE" else conjunctionText "ON" ps

/-- The text of a limit: the offset follows the count after a comma. -/
def RowLimit.text (l : RowLimit) : String :=
  if l.offset = 0 then "LIMIT " ++ toString l.count
  else "LIMIT " ++ toString l.count ++ ", " ++ toString l.offset

namespace SelectPlan

variable (d : Dialect) (cx : Context)

/-- The `SELECT` clause. -/
def selectClause (p : SelectPlan) : Except SqlError String :=
  (p.items.mapM (Expr.namedSql d cx)).map (selectText p.distinct)

/-- The `WHERE` clause, if there are conditions. -/
def whereClause (p : SelectPlan) : Except SqlError (Option String) :=
  (p.predicates.mapM (Expr.sql d cx)).map fun ps =>
    if ps.isEmpty then none else some (conjunctionText "WHERE" ps)

/-- The name by which a key is grouped. -/
def groupKeyText (key : Expr) : Except SqlError String :=
  match key.outputName? with
  | some name => Identifier.safe name
  | none => .error (.unsupportedExpr ("group key without a name: " ++ inspect key))

/-- The `HAVING` part, behind the group keys. -/
def havingText (ps : List String) : String :=
  if ps.isEmpty then "" else "\nHAVING " ++ " AND ".intercalate ps

/-- The `GROUP BY` clause over the names of the keys, with `HAVING` on a line of its own. -/
def groupClause (p : SelectPlan) : Except SqlError (Option String) :=
  if p.groupKeys.isEmpty then
    if p.having.isEmpty then .ok none
    else .error (.unsupportedExpr "HAVING requires at least one group key")
  else
    match p.groupKeys.mapM groupKeyText with
    | .error e => .error e
    | .ok keys =>
      (p.having.mapM (Expr.sql d cx)).map fun having =>
        some ("GROUP BY " ++ ", ".intercalate keys ++ havingText having)

/-- The `ORDER BY` clause, if there are sort keys. -/
def orderClause (p : SelectPlan) : Except SqlError (Option String) :=
  (p.sortKeys.mapM (SortKey.sql d cx)).map fun keys =>
    if keys.isEmpty then none else some ("ORDER BY " ++ ", ".intercalate keys)

/-- The statement, given its `FROM` clause. -/
def clauses (p : SelectPlan) ( fromText : String) : Except SqlError String :=
  match p.selectClause d cx with
  | .error e => .error e
  | .ok select =>
    match p.whereClause d cx with
    | .error e => .error e
    | .ok filter =>
      match p.groupClause d cx with
      | .error e => .error e
      | .ok group =>
        (p.orderClause d cx).map fun order =>
          "\n".intercalate
            ([select, fromText] ++ filter.toList ++ group.toList ++ order.toList
              ++ (p.limit.map RowLimit.text).toList)

end SelectPlan

end TableQuery
