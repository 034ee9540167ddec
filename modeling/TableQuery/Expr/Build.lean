import TableQuery.Expr.Basic

/-!
# Building expressions

Short words for the operations, and the shapes of calls whose arguments are more than a list of
expressions.
-/

namespace TableQuery

namespace Operation

/-- The operation behind a word that takes no operand. -/
def ofNullaryWord? : String → Option Operation
  | "count_star" => some .countStar
  | "row_number" => some .rowNumber
  | "rank" => some .rank
  | "dense_rank" => some .denseRank
  | "percent_rank" => some .percentRank
  | "cume_dist" => some .cumulativeDistribution
  | "now" => some .now
  | "pi" => some .pi
  | _ => none

/-- The operation behind a word that takes one operand. -/
def ofUnaryWord? : String → Option Operation
  | "is_null" => some .isNull
  | "not_null" => some .notNull
  | "abs" => some .absolute
  | "ceil" => some .ceiling
  | "floor" => some .floor
  | "exp" => some .exponential
  | "ln" => some .naturalLog
  | "log10" => some .log10
  | "sqrt" => some .squareRoot
  | "sign" => some .sign
  | "sin" => some .sin
  | "cos" => some .cos
  | "tan" => some .tan
  | "asin" => some .asin
  | "acos" => some .acos
  | "atan" => some .atan
  | "cot" => some .cot
  | "degrees" => some .degrees
  | "radians" => some .radians
  | "length" => some .stringLength
  | "lower" => some .lowercase
  | "upper" => some .uppercase
  | "strip" => some .strip
  | "lstrip" => some .stripLeft
  | "rstrip" => some .stripRight
  | "year" => some .extractYear
  | "quarter" => some .extractQuarter
  | "month" => some .extractMonth
  | "week_of_year" => some .extractWeek
  | "day" => some .extractDay
  | "day_of_week" => some .extractDayOfWeek
  | "day_of_year" => some .extractDayOfYear
  | "hour" => some .extractHour
  | "minute" => some .extractMinute
  | "second" => some .extractSecond
  | "millisecond" => some .extractMillisecond
  | "epoch_seconds" => some .extractEpochSeconds
  | "count" => some .count
  | "nunique" => some .countDistinct
  | "approx_nunique" => some .approxCountDistinct
  | "sum" => some .sum
  | "mean" => some .mean
  | "min" => some .minimum
  | "max" => some .maximum
  | "std" => some .deviationSample
  | "std_pop" => some .deviationPopulation
  | "var" => some .varianceSample
  | "var_pop" => some .variancePopulation
  | "arbitrary" => some .arbitrary
  | "all" => some .allTrue
  | "any" => some .anyTrue
  | "notall" => some .notAllTrue
  | "notany" => some .notAnyTrue
  | "first" => some .firstValue
  | "last" => some .lastValue
  | "st_area" => some .geoArea
  | "st_perimeter" => some .geoPerimeter
  | "st_length" => some .geoLength
  | "st_x" => some .geoX
  | "st_y" => some .geoY
  | "st_xmin" => some .geoXMin
  | "st_xmax" => some .geoXMax
  | "st_ymin" => some .geoYMin
  | "st_ymax" => some .geoYMax
  | "st_startpoint" => some .geoStartPoint
  | "st_endpoint" => some .geoEndPoint
  | "st_npoints" => some .geoNPoints
  | "st_nrings" => some .geoNRings
  | "st_srid" => some .geoSrid
  | "neg" => some .negate
  | "not" => some .not
  | "conv_4326_900913_x" => some .mercatorX
  | "conv_4326_900913_y" => some .mercatorY
  | "byte_length" => some .byteLength
  | _ => none

/-- The operation behind a word that takes two operands. -/
def ofBinaryWord? : String → Option Operation
  | "equals" => some .equals
  | "not_equals" => some .notEquals
  | "gt" => some .greater
  | "ge" => some .greaterEqual
  | "lt" => some .less
  | "le" => some .lessEqual
  | "and" => some .and
  | "or" => some .or
  | "xor" => some .xor
  | "floor_div" => some .floorDivide
  | "pow" => some .power
  | "like" => some .like
  | "ilike" => some .likeAnyCase
  | "re_search" => some .regexSearch
  | "concat" => some .stringConcat
  | "nullif" => some .nullIf
  | "fill_null" => some .ifNull
  | "atan2" => some .atan2
  | "st_distance" => some .geoDistance
  | "st_maxdistance" => some .geoMaxDistance
  | "st_contains" => some .geoContains
  | "st_intersects" => some .geoIntersects
  | "st_within" => some .geoWithin
  | "st_disjoint" => some .geoDisjoint
  | "st_pointn" => some .geoPointN
  | "st_setsrid" => some .geoSetSrid
  | "st_transform" => some .geoTransform
  | "corr" => some .correlation
  | "cov" => some .covarianceSample
  | "add" => some .add
  | "sub" => some .subtract
  | "mul" => some .multiply
  | "div" => some .divide
  | "rem" => some .modulus
  | _ => none

end Operation

namespace Expr

/-- A whole number. -/
def int (n : Int) : Expr :=
  .literal (.int n)

/-- A text. -/
def string (s : String) : Expr :=
  .literal (.string s)

/-- The value that is missing. -/
def null : Expr :=
  .literal .null

/-- Gives an output name; a name given before is replaced. -/
def named (e : Expr) (name : String) : Expr :=
  match e with
  | .alias inner _ => .alias inner name
  | other => .alias other name

/-- Applies a function over a window. -/
def windowed (e : Expr) (partition : List Expr) (order : List (SortKey Expr))
    (frame : Option WindowFrame) : Expr :=
  .window e partition order frame

/-- Sorts upwards. -/
def asc (e : Expr) : SortKey Expr :=
  ⟨e, true⟩

/-- Sorts downwards. -/
def desc (e : Expr) : SortKey Expr :=
  ⟨e, false⟩

/-- Whether the value lies between two others, ends included. -/
def between (e low high : Expr) : Expr :=
  .call .between [e, low, high]

/-- Whether the value is one of some others. -/
def isIn (e : Expr) (values : List Expr) : Expr :=
  .call .inList (e :: values)

/-- Whether the value is none of some others. -/
def notIn (e : Expr) (values : List Expr) : Expr :=
  .call .notInList (e :: values)

/-- One of two values, by a condition. -/
def ifElse (condition then_ else_ : Expr) : Expr :=
  .call .ifElse [condition, then_, else_]

/-- The logarithm, natural if no base is given. -/
def log (e : Expr) (base : Option Expr) : Expr :=
  .call .log (e :: base.toList)

/-- Rounds, to some number of decimal places if one is given. -/
def round (e : Expr) (places : Option Int) : Expr :=
  .call .round (e :: (places.map int).toList)

/-- Cuts a number after some decimal places. -/
def truncate (e : Expr) (places : Int) : Expr :=
  .call .numericTruncate [e, int places]

/-- The part of a text from a position counted from zero, up to a length if one is given. -/
def substring (e start : Expr) (length : Option Expr) : Expr :=
  .call .substring (e :: start :: length.toList)

/-- The start of the unit of time that a moment lies in. -/
def dateTruncate (e : Expr) (unit : TemporalUnit) : Expr :=
  .call .dateTruncate [e, string unit.keyword]

/-- The number of units of time from a start. -/
def delta (e start : Expr) (unit : TemporalUnit) : Expr :=
  .call .dateDiff [string unit.keyword, start, e]

/-- A moment moved by some units of time. -/
def dateAdd (e amount : Expr) (unit : TemporalUnit) : Expr :=
  .call .dateAdd [string unit.keyword, amount, e]

/-- The value some rows before, one if no offset is given. -/
def lag (e : Expr) (offset : Option Int) : Expr :=
  .call .lag (e :: (offset.map int).toList)

/-- The value some rows after, one if no offset is given. -/
def lead (e : Expr) (offset : Option Int) : Expr :=
  .call .lead (e :: (offset.map int).toList)

/-- Whether two shapes come within a distance. -/
def withinDistance (e other distance : Expr) : Expr :=
  .call .geoDWithin [e, other, distance]

/-- The number of the bucket that a row falls into. -/
def nTile (buckets : Int) : Expr :=
  .call .nTile [int buckets]

/-- The value of the first branch whose condition holds, or a default. -/
def searchedCase (branches : List (Expr × Expr)) (default : Option Expr) : Expr :=
  .call .searchedCase (branches.flatMap (fun b => [b.1, b.2]) ++ default.toList)

/-- The count `COUNT(*)`, whose output name is `count`. -/
def countStar : Expr :=
  .call .countStar []

end Expr

end TableQuery
