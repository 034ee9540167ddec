import TableQuery.Spelling.Basic
import TableQuery.Text.Casing
import TableQuery.Text.Numeral

/-!
# The standard spellings

The rule of the server's dialect for each operation that it has. Operations without a rule either
are rewritten first or have no SQL text.
-/

namespace TableQuery.Spellings

/-- The operand at a place, or `NULL` where the call has none. -/
def operand (args : List String) (i : Nat) : String :=
  args.getD i "NULL"

/-- A minus sign in front of an operand that starts with one would open a comment, so such an
operand is put in parentheses. -/
def negateText (args : List String) : String :=
  let x := operand args 0
  if x.toList.head? == some '-' then "-(" ++ x ++ ")" else "-" ++ x

/-- Membership in a range: `a BETWEEN b AND c`. -/
def betweenText (args : List String) : String :=
  operand args 0 ++ " BETWEEN " ++ operand args 1 ++ " AND " ++ operand args 2

/-- Membership in a list: `a IN (b, c)`, or another keyword in place of `IN`. -/
def listText (keyword : String) (args : List String) : String :=
  operand args 0 ++ " " ++ keyword ++ " (" ++ ", ".intercalate (args.drop 1) ++ ")"

/-- A choice by one condition: `CASE WHEN a THEN b ELSE c END`. -/
def ifElseText (args : List String) : String :=
  "CASE WHEN " ++ operand args 0 ++ " THEN " ++ operand args 1 ++ " ELSE " ++ operand args 2
    ++ " END"

/-- The branches of a `CASE`: operands in pairs, and a last one without a partner as the default. -/
def branchesText : List String → String
  | [] => ""
  | [default] => " ELSE " ++ default
  | condition :: value :: rest =>
    " WHEN " ++ condition ++ " THEN " ++ value ++ branchesText rest

/-- A choice by several conditions: `CASE WHEN a THEN b WHEN c THEN d ELSE e END`. -/
def searchedCaseText (args : List String) : String :=
  "CASE" ++ branchesText args ++ " END"

/-- The natural logarithm, or the quotient of two for another base. -/
def logText : List String → String
  | [x] => "LN(" ++ x ++ ")"
  | args => "LN(" ++ operand args 0 ++ ") / LN(" ++ operand args 1 ++ ")"

/-- A position counted from one. A number is counted on; any other text gets the sum written out. -/
def oneBased (start : String) : String :=
  match (Text.readInt? Text.int64Min Text.int64Max start).map (· + 1) with
  | some n => if n ≤ Text.int64Max then toString n else "(" ++ start ++ " + 1)"
  | none => "(" ++ start ++ " + 1)"

/-- A part of a text: `SUBSTRING(s, start)` or `SUBSTRING(s, start, length)`. -/
def substringText : List String → String
  | [s, start] => "SUBSTRING(" ++ s ++ ", " ++ oneBased start ++ ")"
  | args =>
    "SUBSTRING(" ++ operand args 0 ++ ", " ++ oneBased (operand args 1) ++ ", " ++ operand args 2
      ++ ")"

/-- A field of a time: `EXTRACT(field FROM a)`. -/
def extractText (field : String) (args : List String) : String :=
  "EXTRACT(" ++ field ++ " FROM " ++ operand args 0 ++ ")"

/-- The seconds since the epoch, as a whole number. -/
def epochText (args : List String) : String :=
  "CAST(EXTRACT(EPOCH FROM " ++ operand args 0 ++ ") AS INT)"

/-- A quoted unit of time as a bare keyword. -/
def unitKeyword (text : String) : String :=
  let bare := ((text.toList.dropWhile (· == '\'')).reverse.dropWhile (· == '\'')).reverse
  Text.upperAscii (String.ofList bare)

/-- A time cut to a unit: `DATE_TRUNC(unit, a)`. -/
def dateTruncateText (args : List String) : String :=
  "DATE_TRUNC(" ++ unitKeyword (operand args 1) ++ ", " ++ operand args 0 ++ ")"

/-- A count of different values: `COUNT(DISTINCT a)`. -/
def countDistinctText (args : List String) : String :=
  "COUNT(DISTINCT " ++ operand args 0 ++ ")"

def standardRule? : Operation → Option SpellingRule
  | .add => some (.binary "+")
  | .subtract => some (.binary "-")
  | .multiply => some (.binary "*")
  | .divide => some (.binary "/")
  | .modulus => some (.binary "%")
  | .negate => some (.spliceOperands (.exactly 1) negateText)
  | .power => some (.function "POWER" (.exactly 2))
  | .equals => some (.binary "=")
  | .notEquals => some (.binary "<>")
  | .greater => some (.binary ">")
  | .greaterEqual => some (.binary ">=")
  | .less => some (.binary "<")
  | .lessEqual => some (.binary "<=")
  | .between => some (.spliceOperands (.exactly 3) betweenText)
  | .inList => some (.spliceOperands (.atLeast 2) (listText "IN"))
  | .notInList => some (.spliceOperands (.atLeast 2) (listText "NOT IN"))
  | .isNull => some (.trailing " IS NULL")
  | .notNull => some (.trailing " IS NOT NULL")
  | .and => some (.binary "AND")
  | .or => some (.binary "OR")
  | .not => some (.leading "NOT ")
  | .ifElse => some (.splice (.exactly 3) ifElseText)
  | .searchedCase => some (.splice (.atLeast 2) searchedCaseText)
  | .coalesce => some (.function "COALESCE" (.atLeast 1))
  | .ifNull => some (.function "COALESCE" (.exactly 2))
  | .nullIf => some (.function "NULLIF" (.exactly 2))
  | .greatest => some (.function "GREATEST" (.atLeast 1))
  | .least => some (.function "LEAST" (.atLeast 1))
  | .absolute => some (.unary "ABS")
  | .ceiling => some (.unary "CEIL")
  | .floor => some (.unary "FLOOR")
  | .exponential => some (.unary "EXP")
  | .naturalLog => some (.unary "LN")
  | .log10 => some (.unary "LOG10")
  | .squareRoot => some (.unary "SQRT")
  | .sign => some (.unary "SIGN")
  | .sin => some (.unary "SIN")
  | .cos => some (.unary "COS")
  | .tan => some (.unary "TAN")
  | .asin => some (.unary "ASIN")
  | .acos => some (.unary "ACOS")
  | .atan => some (.unary "ATAN")
  | .cot => some (.unary "COT")
  | .degrees => some (.unary "DEGREES")
  | .radians => some (.unary "RADIANS")
  | .atan2 => some (.function "ATAN2" (.exactly 2))
  | .round => some (.function "ROUND" (.range 1 2))
  | .pi => some (.function "PI" (.exactly 0))
  | .numericTruncate => some (.function "TRUNCATE" (.exactly 2))
  | .log => some (.spliceOperands (.range 1 2) logText)
  | .stringLength => some (.unary "CHAR_LENGTH")
  | .byteLength => some (.unary "LENGTH")
  | .lowercase => some (.unary "LOWER")
  | .uppercase => some (.unary "UPPER")
  | .strip => some (.unary "TRIM")
  | .stripLeft => some (.unary "LTRIM")
  | .stripRight => some (.unary "RTRIM")
  | .substring => some (.splice (.range 2 3) substringText)
  | .stringConcat => some (.binary "||")
  | .like => some (.binary "LIKE")
  | .likeAnyCase => some (.binary "ILIKE")
  | .regexSearch => some (.function "REGEXP_LIKE" (.exactly 2))
  | .extractYear => some (.splice (.exactly 1) (extractText "YEAR"))
  | .extractQuarter => some (.splice (.exactly 1) (extractText "QUARTER"))
  | .extractMonth => some (.splice (.exactly 1) (extractText "MONTH"))
  | .extractWeek => some (.splice (.exactly 1) (extractText "WEEK"))
  | .extractDay => some (.splice (.exactly 1) (extractText "DAY"))
  | .extractDayOfWeek => some (.splice (.exactly 1) (extractText "DOW"))
  | .extractDayOfYear => some (.splice (.exactly 1) (extractText "DOY"))
  | .extractHour => some (.splice (.exactly 1) (extractText "HOUR"))
  | .extractMinute => some (.splice (.exactly 1) (extractText "MINUTE"))
  | .extractSecond => some (.splice (.exactly 1) (extractText "SECOND"))
  | .extractMillisecond => some (.splice (.exactly 1) (extractText "MILLISECOND"))
  | .extractEpochSeconds => some (.splice (.exactly 1) epochText)
  | .dateTruncate => some (.splice (.exactly 2) dateTruncateText)
  | .dateDiff => some (.function "DATEDIFF" (.exactly 3))
  | .dateAdd => some (.function "DATEADD" (.exactly 3))
  | .now => some (.function "NOW" (.exactly 0))
  | .count => some (.unary "COUNT")
  | .countStar => some (.splice (.exactly 0) (fun _ => "COUNT(*)"))
  | .countDistinct => some (.splice (.exactly 1) countDistinctText)
  | .approxCountDistinct => some (.unary "APPROX_COUNT_DISTINCT")
  | .sum => some (.unary "SUM")
  | .mean => some (.unary "AVG")
  | .minimum => some (.unary "MIN")
  | .maximum => some (.unary "MAX")
  | .deviationSample => some (.unary "STDDEV_SAMP")
  | .deviationPopulation => some (.unary "STDDEV_POP")
  | .varianceSample => some (.unary "VAR_SAMP")
  | .variancePopulation => some (.unary "VAR_POP")
  | .correlation => some (.function "CORR" (.exactly 2))
  | .covarianceSample => some (.function "COVAR_SAMP" (.exactly 2))
  | .covariancePopulation => some (.function "COVAR_POP" (.exactly 2))
  | .arbitrary => some (.unary "SAMPLE")
  | .rowNumber => some (.function "ROW_NUMBER" (.exactly 0))
  | .rank => some (.function "RANK" (.exactly 0))
  | .denseRank => some (.function "DENSE_RANK" (.exactly 0))
  | .percentRank => some (.function "PERCENT_RANK" (.exactly 0))
  | .cumulativeDistribution => some (.function "CUME_DIST" (.exactly 0))
  | .nTile => some (.unary "NTILE")
  | .lag => some (.function "LAG" (.range 1 2))
  | .lead => some (.function "LEAD" (.range 1 2))
  | .firstValue => some (.unary "FIRST_VALUE")
  | .lastValue => some (.unary "LAST_VALUE")
  | .mercatorX => some (.unary "conv_4326_900913_x")
  | .mercatorY => some (.unary "conv_4326_900913_y")
  | .geoArea => some (.unary "ST_Area")
  | .geoPerimeter => some (.unary "ST_Perimeter")
  | .geoLength => some (.unary "ST_Length")
  | .geoDistance => some (.function "ST_Distance" (.exactly 2))
  | .geoMaxDistance => some (.function "ST_MaxDistance" (.exactly 2))
  | .geoContains => some (.function "ST_Contains" (.exactly 2))
  | .geoIntersects => some (.function "ST_Intersects" (.exactly 2))
  | .geoWithin => some (.function "ST_Within" (.exactly 2))
  | .geoDisjoint => some (.function "ST_Disjoint" (.exactly 2))
  | .geoDWithin => some (.function "ST_DWithin" (.exactly 3))
  | .geoX => some (.unary "ST_X")
  | .geoY => some (.unary "ST_Y")
  | .geoXMin => some (.unary "ST_XMin")
  | .geoXMax => some (.unary "ST_XMax")
  | .geoYMin => some (.unary "ST_YMin")
  | .geoYMax => some (.unary "ST_YMax")
  | .geoStartPoint => some (.unary "ST_StartPoint")
  | .geoEndPoint => some (.unary "ST_EndPoint")
  | .geoPointN => some (.function "ST_PointN" (.exactly 2))
  | .geoNPoints => some (.unary "ST_NPoints")
  | .geoNRings => some (.unary "ST_NRings")
  | .geoSrid => some (.unary "ST_SRID")
  | .geoSetSrid => some (.function "ST_SetSRID" (.exactly 2))
  | .geoTransform => some (.function "ST_Transform" (.exactly 2))
  | .geoPoint => some (.function "ST_Point" (.exactly 2))
  | _ => none

/-- The rules of the server's dialect. -/
def standard : Spellings :=
  ⟨standardRule?⟩

end TableQuery.Spellings
