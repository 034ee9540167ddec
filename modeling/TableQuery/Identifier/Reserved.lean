import TableQuery.Text.Casing

/-!
# Reserved words

The keywords of the SQL parser in ascending order, and the search for a name among them.
-/

namespace TableQuery.Identifier

/-- The keywords, in capital letters and in ascending order. -/
def reservedWords : Array String := #[
   "ABS", "ACCESS", "ADD", "ALL", "ALLOCATE", "ALLOW", "ALTER", "AND", "ANY", "ARCHIVE", "ARE",
   "ARRAY", "AS", "ASC", "ASENSITIVE", "ASYMMETRIC", "AT", "ATOMIC", "AUTHORIZATION", "AVG",
   "BEGIN", "BETWEEN", "BIGINT", "BINARY", "BIT", "BLOB", "BOOLEAN", "BOTH", "BY", "CALL",
   "CALLED", "CARDINALITY", "CASCADED", "CASE", "CAST", "CEIL", "CEILING", "CHAR", "CHARACTER",
   "CHARACTER_LENGTH", "CHAR_LENGTH", "CHECK", "CLOB", "CLOSE", "COALESCE", "COLLATE", "COLLECT",
   "COLUMN", "COMMIT", "CONDITION", "CONNECT", "CONSTRAINT", "CONVERT", "COPY", "CORR",
   "CORRESPONDING", "COUNT", "COVAR_POP", "COVAR_SAMP", "CREATE", "CROSS", "CUBE", "CUME_DIST",
   "CURRENT", "CURRENT_CATALOG", "CURRENT_DATE", "CURRENT_PATH", "CURRENT_ROLE",
   "CURRENT_SCHEMA", "CURRENT_TIME", "CURRENT_TIMESTAMP", "CURRENT_USER", "CURSOR", "CYCLE",
   "DASHBOARD", "DATABASE", "DATE", "DATETIME", "DAY", "DEALLOCATE", "DEC", "DECIMAL", "DECLARE",
   "DEFAULT", "DELETE", "DENSE_RANK", "DEREF", "DESC", "DESCRIBE", "DETERMINISTIC", "DISALLOW",
   "DISCONNECT", "DISTINCT", "DOUBLE", "DROP", "DUMP", "DYNAMIC", "EACH", "EDIT", "EDITOR",
   "ELEMENT", "ELSE", "EMPTY", "END", "ESCAPE", "EVERY", "EXCEPT", "EXEC", "EXECUTE", "EXISTS",
   "EXP", "EXPLAIN", "EXTEND", "EXTERNAL", "EXTRACT", "FALSE", "FETCH", "FILTER", "FIRST_VALUE",
   "FLOAT", "FLOOR", "FOR", "FOREIGN", "FRAME_ROW", "FREE", "FROM", "FULL", "FUNCTION", "FUSION",
   "GET", "GLOBAL", "GRANT", "GROUP", "GROUPING", "GROUPS", "HAVING", "HOLD", "HOUR", "IDENTITY",
   "IF", "ILIKE", "IMPORT", "IN", "INDICATOR", "INITIAL", "INNER", "INOUT", "INSENSITIVE",
   "INSERT", "INT", "INTEGER", "INTERSECT", "INTERSECTION", "INTERVAL", "INTO", "IS", "JOIN",
   "LAG", "LANGUAGE", "LARGE", "LAST_VALUE", "LATERAL", "LEAD", "LEADING", "LEFT", "LENGTH",
   "LIKE", "LIKE_REGEX", "LIMIT", "LN", "LOCAL", "LOCALTIME", "LOCALTIMESTAMP", "LOWER", "MATCH",
   "MATCHES", "MAX", "MEASURES", "MEMBER", "MERGE", "METHOD", "MIN", "MINUS", "MINUTE", "MOD",
   "MODIFIES", "MODULE", "MONTH", "MULTISET", "NATIONAL", "NATURAL", "NCHAR", "NCLOB", "NEW",
   "NEXT", "NO", "NONE", "NORMALIZE", "NOT", "NOW", "NTH_VALUE", "NTILE", "NULL", "NULLIF",
   "NUMERIC", "OF", "OFFSET", "OLD", "OMIT", "ON", "ONE", "ONLY", "OPEN", "OPTIMIZE", "OR",
   "ORDER", "OUT", "OUTER", "OVER", "OVERLAPS", "PARAMETER", "PARTITION", "PERCENT",
   "PERCENTILE_CONT", "PERCENTILE_DISC", "PERCENT_RANK", "PERIOD", "PERMUTE", "PORTION",
   "POSITION", "POWER", "PRECEDES", "PRECISION", "PREPARE", "PRIMARY", "PRIVILEGES", "PROCEDURE",
   "RANGE", "RANK", "READS", "REAL", "RECURSIVE", "REF", "REFERENCES", "REFERENCING", "RENAME",
   "RESET", "RESULT", "RETURN", "RETURNS", "REVOKE", "RIGHT", "ROLE", "ROLLBACK", "ROLLUP",
   "ROW", "ROWS", "ROW_NUMBER", "RUNNING", "SAVEPOINT", "SCHEMA", "SCOPE", "SCROLL", "SEARCH",
   "SECOND", "SEEK", "SELECT", "SENSITIVE", "SESSION_USER", "SET", "SHOW", "SIMILAR", "SKIP",
   "SMALLINT", "SOME", "SPECIFIC", "SPECIFICTYPE", "SQL", "SQLEXCEPTION", "SQLSTATE",
   "SQLWARNING", "SQRT", "START", "STATIC", "STDDEV_POP", "STDDEV_SAMP", "STREAM", "SUBMULTISET",
   "SUBSET", "SUBSTRING", "SUCCEEDS", "SUM", "SYMMETRIC", "SYSTEM", "SYSTEM_TIME", "SYSTEM_USER",
   "TABLE", "TABLESAMPLE", "TEMPORARY", "TEXT", "THEN", "TIME", "TIMESTAMP", "TIMEZONE_HOUR",
   "TIMEZONE_MINUTE", "TINYINT", "TO", "TRAILING", "TRANSLATE", "TRANSLATION", "TREAT",
   "TRIGGER", "TRIM", "TRUE", "TRUNCATE", "UESCAPE", "UNION", "UNIQUE", "UNKNOWN", "UNNEST",
   "UPDATE", "UPPER", "UPSERT", "USER", "USING", "VALUES", "VARBINARY", "VARCHAR", "VARYING",
   "VAR_POP", "VAR_SAMP", "VERSIONING", "VIEW", "WHEN", "WHENEVER", "WHERE", "WIDTH_BUCKET",
   "WINDOW", "WITH", "WITHIN", "WITHOUT", "YEAR"]

/-- Whether a word lies at one of the places `lo` to `hi - 1` of an ascending array: the half that
cannot hold it is dropped at each step. -/
def searchFrom (words : Array String) (word : String) (lo hi : Nat) : Bool :=
  if h : lo < hi ∧ hi ≤ words.size then
    let mid := (lo + hi) / 2
    have hmid : mid < words.size := by omega
    if word = words[mid] then true
    else if word < words[mid] then searchFrom words word lo mid
    else searchFrom words word (mid + 1) hi
  else false
termination_by hi - lo

/-- Whether the name is a keyword in some mix of cases. -/
def isReserved (name : String) : Bool :=
  searchFrom reservedWords (Text.upperAscii name) 0 reservedWords.size

end TableQuery.Identifier
