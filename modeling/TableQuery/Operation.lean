/-!
# Operations

Every operation that a call can carry, with the name under which it is shown. Whether a dialect can
spell an operation is not decided here; some operations exist only to be rewritten into others.
-/

namespace TableQuery

/-- An operation of a call. -/
inductive Operation where
  -- Arithmetic
  | add | subtract | multiply | divide | floorDivide | modulus | power | negate
  -- Comparison
  | equals | notEquals | greater | greaterEqual | less | lessEqual | between | inList
  | notInList | isNull | notNull
  -- Logical
  | and | or | not | xor
  -- Conditional
  | ifElse | searchedCase | coalesce | nullIf | ifNull | greatest | least
  -- Math
  | absolute | ceiling | floor | exponential | naturalLog | log10 | log | squareRoot | round
  | sign | sin | cos | tan | asin | acos | atan | atan2 | cot | degrees | radians | pi
  | numericTruncate
  -- Strings
  | stringLength | byteLength | lowercase | uppercase | strip | stripLeft | stripRight
  | substring | stringConcat | like | likeAnyCase | regexSearch | regexReplace
  -- Temporal
  | extractYear | extractQuarter | extractMonth | extractWeek | extractDay | extractDayOfWeek
  | extractDayOfYear | extractHour | extractMinute | extractSecond | extractMillisecond
  | extractEpochSeconds | dateTruncate | dateDiff | dateAdd | now
  -- Reductions
  | count | countStar | countDistinct | approxCountDistinct | sum | mean | minimum | maximum
  | deviationSample | deviationPopulation | varianceSample | variancePopulation | correlation
  | covarianceSample | covariancePopulation | arbitrary | allTrue | anyTrue | notAllTrue
  | notAnyTrue
  -- Analytic
  | rowNumber | rank | denseRank | percentRank | cumulativeDistribution | nTile | lag | lead
  | firstValue | lastValue
  -- Web-mercator conversion
  | mercatorX | mercatorY
  -- Geospatial
  | geoArea | geoPerimeter | geoLength | geoDistance | geoMaxDistance | geoContains
  | geoIntersects | geoWithin | geoDisjoint | geoDWithin | geoX | geoY | geoXMin | geoXMax
  | geoYMin | geoYMax | geoStartPoint | geoEndPoint | geoPointN | geoNPoints | geoNRings
  | geoSrid | geoSetSrid | geoTransform | geoPoint
  deriving DecidableEq, Repr

namespace Operation

/-- All operations, in the order of their declaration. -/
def catalog : List Operation :=
  [.add, .subtract, .multiply, .divide, .floorDivide, .modulus, .power, .negate, .equals,
   .notEquals, .greater, .greaterEqual, .less, .lessEqual, .between, .inList, .notInList,
   .isNull, .notNull, .and, .or, .not, .xor, .ifElse, .searchedCase, .coalesce, .nullIf, .ifNull,
   .greatest, .least, .absolute, .ceiling, .floor, .exponential, .naturalLog, .log10, .log,
   .squareRoot, .round, .sign, .sin, .cos, .tan, .asin, .acos, .atan, .atan2, .cot, .degrees,
   .radians, .pi, .numericTruncate, .stringLength, .byteLength, .lowercase, .uppercase, .strip,
   .stripLeft, .stripRight, .substring, .stringConcat, .like, .likeAnyCase, .regexSearch,
   .regexReplace, .extractYear, .extractQuarter, .extractMonth, .extractWeek, .extractDay,
   .extractDayOfWeek, .extractDayOfYear, .extractHour, .extractMinute, .extractSecond,
   .extractMillisecond, .extractEpochSeconds, .dateTruncate, .dateDiff, .dateAdd, .now, .count,
   .countStar, .countDistinct, .approxCountDistinct, .sum, .mean, .minimum, .maximum,
   .deviationSample, .deviationPopulation, .varianceSample, .variancePopulation, .correlation,
   .covarianceSample, .covariancePopulation, .arbitrary, .allTrue, .anyTrue, .notAllTrue,
   .notAnyTrue, .rowNumber, .rank, .denseRank, .percentRank, .cumulativeDistribution, .nTile,
   .lag, .lead, .firstValue, .lastValue, .mercatorX, .mercatorY, .geoArea, .geoPerimeter,
   .geoLength, .geoDistance, .geoMaxDistance, .geoContains, .geoIntersects, .geoWithin,
   .geoDisjoint, .geoDWithin, .geoX, .geoY, .geoXMin, .geoXMax, .geoYMin, .geoYMax,
   .geoStartPoint, .geoEndPoint, .geoPointN, .geoNPoints, .geoNRings, .geoSrid, .geoSetSrid,
   .geoTransform, .geoPoint]

/-- The name under which an operation is shown. -/
def name : Operation → String
  | .add => "Add"
  | .subtract => "Subtract"
  | .multiply => "Multiply"
  | .divide => "Divide"
  | .floorDivide => "FloorDivide"
  | .modulus => "Modulus"
  | .power => "Power"
  | .negate => "Negate"
  | .equals => "Equals"
  | .notEquals => "NotEquals"
  | .greater => "Greater"
  | .greaterEqual => "GreaterEqual"
  | .less => "Less"
  | .lessEqual => "LessEqual"
  | .between => "Between"
  | .inList => "InList"
  | .notInList => "NotInList"
  | .isNull => "IsNull"
  | .notNull => "NotNull"
  | .and => "And"
  | .or => "Or"
  | .not => "Not"
  | .xor => "Xor"
  | .ifElse => "IfElse"
  | .searchedCase => "SearchedCase"
  | .coalesce => "Coalesce"
  | .nullIf => "NullIf"
  | .ifNull => "IfNull"
  | .greatest => "Greatest"
  | .least => "Least"
  | .absolute => "Abs"
  | .ceiling => "Ceil"
  | .floor => "Floor"
  | .exponential => "Exp"
  | .naturalLog => "Ln"
  | .log10 => "Log10"
  | .log => "Log"
  | .squareRoot => "Sqrt"
  | .round => "Round"
  | .sign => "Sign"
  | .sin => "Sin"
  | .cos => "Cos"
  | .tan => "Tan"
  | .asin => "Asin"
  | .acos => "Acos"
  | .atan => "Atan"
  | .atan2 => "Atan2"
  | .cot => "Cot"
  | .degrees => "Degrees"
  | .radians => "Radians"
  | .pi => "Pi"
  | .numericTruncate => "NumericTruncate"
  | .stringLength => "StringLength"
  | .byteLength => "ByteLength"
  | .lowercase => "Lowercase"
  | .uppercase => "Uppercase"
  | .strip => "Strip"
  | .stripLeft => "LStrip"
  | .stripRight => "RStrip"
  | .substring => "Substring"
  | .stringConcat => "StringConcat"
  | .like => "Like"
  | .likeAnyCase => "ILike"
  | .regexSearch => "RegexSearch"
  | .regexReplace => "RegexReplace"
  | .extractYear => "ExtractYear"
  | .extractQuarter => "ExtractQuarter"
  | .extractMonth => "ExtractMonth"
  | .extractWeek => "ExtractWeek"
  | .extractDay => "ExtractDay"
  | .extractDayOfWeek => "ExtractDayOfWeek"
  | .extractDayOfYear => "ExtractDayOfYear"
  | .extractHour => "ExtractHour"
  | .extractMinute => "ExtractMinute"
  | .extractSecond => "ExtractSecond"
  | .extractMillisecond => "ExtractMillisecond"
  | .extractEpochSeconds => "ExtractEpochSeconds"
  | .dateTruncate => "DateTruncate"
  | .dateDiff => "DateDiff"
  | .dateAdd => "DateAdd"
  | .now => "Now"
  | .count => "Count"
  | .countStar => "CountStar"
  | .countDistinct => "CountDistinct"
  | .approxCountDistinct => "ApproxCountDistinct"
  | .sum => "Sum"
  | .mean => "Mean"
  | .minimum => "Min"
  | .maximum => "Max"
  | .deviationSample => "StdDevSamp"
  | .deviationPopulation => "StdDevPop"
  | .varianceSample => "VarSamp"
  | .variancePopulation => "VarPop"
  | .correlation => "Corr"
  | .covarianceSample => "CovarSamp"
  | .covariancePopulation => "CovarPop"
  | .arbitrary => "Arbitrary"
  | .allTrue => "All"
  | .anyTrue => "Any"
  | .notAllTrue => "NotAll"
  | .notAnyTrue => "NotAny"
  | .rowNumber => "RowNumber"
  | .rank => "MinRank"
  | .denseRank => "DenseRank"
  | .percentRank => "PercentRank"
  | .cumulativeDistribution => "CumeDist"
  | .nTile => "NTile"
  | .lag => "Lag"
  | .lead => "Lead"
  | .firstValue => "FirstValue"
  | .lastValue => "LastValue"
  | .mercatorX => "Conv4326To900913X"
  | .mercatorY => "Conv4326To900913Y"
  | .geoArea => "GeoArea"
  | .geoPerimeter => "GeoPerimeter"
  | .geoLength => "GeoLength"
  | .geoDistance => "GeoDistance"
  | .geoMaxDistance => "GeoMaxDistance"
  | .geoContains => "GeoContains"
  | .geoIntersects => "GeoIntersects"
  | .geoWithin => "GeoWithin"
  | .geoDisjoint => "GeoDisjoint"
  | .geoDWithin => "GeoDWithin"
  | .geoX => "GeoX"
  | .geoY => "GeoY"
  | .geoXMin => "GeoXMin"
  | .geoXMax => "GeoXMax"
  | .geoYMin => "GeoYMin"
  | .geoYMax => "GeoYMax"
  | .geoStartPoint => "GeoStartPoint"
  | .geoEndPoint => "GeoEndPoint"
  | .geoPointN => "GeoPointN"
  | .geoNPoints => "GeoNPoints"
  | .geoNRings => "GeoNRings"
  | .geoSrid => "GeoSrid"
  | .geoSetSrid => "GeoSetSrid"
  | .geoTransform => "GeoTransform"
  | .geoPoint => "GeoPoint"

/-- The operation shown under a name. -/
def ofName? (name : String) : Option Operation :=
  catalog.find? (·.name == name)

/-- Whether the operation folds many rows into one value. -/
def isReduction : Operation → Bool
  | .count | .countStar | .countDistinct | .approxCountDistinct | .sum | .mean | .minimum
  | .maximum | .deviationSample | .deviationPopulation | .varianceSample | .variancePopulation
  | .correlation | .covarianceSample | .covariancePopulation | .arbitrary | .allTrue | .anyTrue
  | .notAllTrue | .notAnyTrue => true
  | _ => false

/-- Whether the operation makes sense only over a window. -/
def isAnalytic : Operation → Bool
  | .rowNumber | .rank | .denseRank | .percentRank | .cumulativeDistribution | .nTile | .lag
  | .lead | .firstValue | .lastValue => true
  | _ => false

/-- Whether the operation counts from zero for the user and from one on the server. -/
def countsFromZero : Operation → Bool
  | .rowNumber | .rank | .denseRank | .nTile => true
  | _ => false

/-- The output name of a call that was given none; other calls take the name of their first
argument. -/
def defaultName? : Operation → Option String
  | .count | .countStar => some "count"
  | .countDistinct => some "nunique"
  | .approxCountDistinct => some "approx_nunique"
  | .sum => some "sum"
  | .mean => some "mean"
  | .minimum => some "min"
  | .maximum => some "max"
  | .deviationSample | .deviationPopulation => some "std"
  | .varianceSample | .variancePopulation => some "var"
  | .correlation => some "corr"
  | .covarianceSample | .covariancePopulation => some "cov"
  | .arbitrary => some "arbitrary"
  | .allTrue => some "all"
  | .anyTrue => some "any"
  | .notAllTrue => some "notall"
  | .notAnyTrue => some "notany"
  | .rowNumber => some "row_number"
  | .rank => some "rank"
  | .denseRank => some "dense_rank"
  | .percentRank => some "percent_rank"
  | .cumulativeDistribution => some "cume_dist"
  | .nTile => some "ntile"
  | .pi => some "pi"
  | .now => some "now"
  | _ => none

end Operation

/-- Units of time for truncation, difference and intervals. -/
inductive TemporalUnit where
  | year | quarter | month | week | day | hour | minute | second | millisecond
  deriving DecidableEq, Repr

namespace TemporalUnit

/-- All units, the longest first. -/
def catalog : List TemporalUnit :=
  [.year, .quarter, .month, .week, .day, .hour, .minute, .second, .millisecond]

def keyword : TemporalUnit → String
  | .year => "YEAR"
  | .quarter => "QUARTER"
  | .month => "MONTH"
  | .week => "WEEK"
  | .day => "DAY"
  | .hour => "HOUR"
  | .minute => "MINUTE"
  | .second => "SECOND"
  | .millisecond => "MILLISECOND"

def ofKeyword? (word : String) : Option TemporalUnit :=
  catalog.find? (·.keyword == word)

/-- The name under which a unit is shown. -/
def name : TemporalUnit → String
  | .year => "Year"
  | .quarter => "Quarter"
  | .month => "Month"
  | .week => "Week"
  | .day => "Day"
  | .hour => "Hour"
  | .minute => "Minute"
  | .second => "Second"
  | .millisecond => "Millisecond"

end TemporalUnit

end TableQuery
