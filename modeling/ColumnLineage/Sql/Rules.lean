import ColumnLineage.Sql.Lexis
import ColumnLineage.Sql.Token

/-!
# Grammar rules

What a dialect decides about its grammar: which constructs it has, how strongly its operators bind,
and which words may serve as aliases.

## Main definitions

* `Binding`: how strongly each class of operators binds.
* `AliasRule`: which words an alias without AS may be.
* `Rules`: all decisions of one dialect.
-/

namespace ColumnLineage.Sql

/-- How strongly each class of operators binds; zero ends an expression. -/
structure Binding where
  period : Nat
  cast : Nat
  /-- A bracket behind an expression. -/
  bracket : Nat
  collation : Nat
  timeZone : Nat
  product : Nat
  /-- `||`. -/
  concat : Nat
  sum : Nat
  xor : Nat
  ampersand : Nat
  caret : Nat
  /-- `#`, `<<` and `>>`. -/
  shift : Nat
  pipe : Nat
  /-- `!`, `&&` and `^@`. -/
  mark : Nat
  /-- Where a colon stands for a path into a value, how strongly it binds. -/
  colon : Nat
  between : Nat
  equality : Nat
  like : Nat
  test : Nat
  /-- Operators on documents and arrays. -/
  document : Nat
  not : Nat
  and : Nat
  or : Nat

namespace Binding

/-- The binding most dialects share. -/
def common : Binding where
  period := 100
  cast := 50
  bracket := 50
  collation := 0
  timeZone := 41
  product := 40
  concat := 40
  sum := 30
  xor := 24
  ampersand := 23
  caret := 22
  shift := 22
  pipe := 21
  mark := 50
  colon := 21
  between := 20
  equality := 20
  like := 19
  test := 17
  document := 16
  not := 15
  and := 10
  or := 5

/-- The binding of a dialect that tells more classes apart. -/
def postgres : Binding where
  period := 200
  cast := 140
  bracket := 130
  collation := 120
  timeZone := 110
  product := 90
  concat := 70
  sum := 80
  xor := 75
  ampersand := 70
  caret := 100
  shift := 70
  pipe := 70
  mark := 70
  colon := 70
  between := 60
  equality := 50
  like := 60
  test := 40
  document := 70
  not := 30
  and := 20
  or := 10

end Binding

/-- Which words an alias without AS may be. -/
inductive AliasRule where
  /-- All but the words of a fixed list. -/
  | standard
  /-- Besides, no index hint is an alias of a table. -/
  | indexHints
  /-- Some words are aliases unless what follows gives them another meaning. -/
  | contextual
deriving DecidableEq, Repr

/-- How functions are defined. -/
inductive FunctionForm where
  /-- Not at all. -/
  | absent
  /-- With parameters and a body. -/
  | body
  /-- By the name of a class. -/
  | ofClass
  /-- As a macro. -/
  | asMacro
deriving DecidableEq, Repr

/-- All decisions of one dialect. -/
structure Rules where
  lexis : Lexis
  binding : Binding
  aliasRule : AliasRule
  -- Lists
  /-- A select list may end in a comma. -/
  projectionTrailingComma : Bool
  /-- Every list may end in a comma. -/
  trailingComma : Bool
  /-- A FROM clause may end in a comma. -/
  fromTrailingComma : Bool
  -- Select lists
  /-- A comment behind SELECT that starts with a plus sign belongs to the SELECT. -/
  optimizerHints : Bool
  /-- Words that change how a SELECT runs may stand behind it, DISTINCT and ALL among them. -/
  selectModifiers : Bool
  /-- A select list may be empty. -/
  emptySelectList : Bool
  /-- A star may leave out columns behind EXCEPT. -/
  starExcept : Bool
  /-- A star may leave out columns behind EXCLUDE. -/
  starExclude : Bool
  /-- A star may replace columns. -/
  starReplace : Bool
  /-- A star may rename columns. -/
  starRename : Bool
  /-- A star may select columns by a pattern. -/
  starIlike : Bool
  /-- CONNECT_BY_ROOT may stand in front of an item. -/
  rootOperator : Bool
  /-- `e.*` selects all fields of any expression. -/
  expressionStar : Bool
  -- Expressions
  /-- `x -> e` and `LAMBDA x : e` are functions. -/
  lambdas : Bool
  /-- `STRUCT(…)` builds a record. -/
  structLiterals : Bool
  /-- `{'a': 1}` builds a record. -/
  dictionaries : Bool
  /-- `MAP {'a': 1}` builds a map. -/
  mapLiterals : Bool
  /-- `ARRAY(SELECT …)` collects the rows of a query. -/
  arraySubqueries : Bool
  /-- EXISTS is a function unless a query follows. -/
  existsFunction : Bool
  /-- CURRENT_USER and its like are calls without parentheses. -/
  userFunctions : Bool
  /-- String literals that stand side by side are one. -/
  joinsStrings : Bool
  /-- `TRIM(x, 'c')` is a trim. -/
  trimCharacters : Bool
  /-- `EXTRACT(field, x)` is an extraction. -/
  extractComma : Bool
  /-- A field of a date may be any name. -/
  customDateFields : Bool
  /-- A field of a date may be a string. -/
  quotedDateFields : Bool
  /-- WEEK may name the day it starts with. -/
  weekDays : Bool
  /-- An interval needs a unit, and its amount may be any expression. -/
  intervalNeedsUnit : Bool
  /-- INTERVAL may be a name. -/
  intervalName : Bool
  /-- The type INTERVAL has fields and a precision. -/
  intervalOptions : Bool
  /-- BINARY in front of an expression converts it. -/
  binaryCast : Bool
  /-- TRY_CONVERT is a conversion. -/
  tryConvert : Bool
  /-- `MATCH (…) AGAINST (…)` is a search. -/
  matchAgainst : Bool
  /-- `!x` negates. -/
  bangNot : Bool
  /-- `x!` is a factorial, and `!!`, `|/`, `||/` and `@` are operators on one operand. -/
  mathOperators : Bool
  /-- `x NOTNULL` is a test. -/
  notNull : Bool
  /-- `&&` means AND. -/
  doubleAmpersandAnd : Bool
  /-- `&&` tells whether ranges overlap, and `^@` and `OPERATOR(…)` are operators. -/
  rangeOperators : Bool
  /-- `<<` and `>>` shift bits. -/
  shifts : Bool
  /-- DIV is an operator. -/
  divOperator : Bool
  /-- A colon after an expression starts a path into a value. -/
  colonPaths : Bool
  /-- A bracket after an expression starts a path into a value. -/
  bracketPaths : Bool
  /-- `^` raises to a power and `#` is an operator. -/
  powerCaret : Bool
  /-- The period of a composite may be followed by a star. -/
  compositeStar : Bool
  /-- `x(+)` marks the optional side of a join. -/
  outerJoinMark : Bool
  -- Calls
  /-- The name of a named argument is an expression. -/
  namedArgumentExpr : Bool
  /-- `name := value` is a named argument. -/
  assignedArgument : Bool
  /-- `name = value` is a named argument. -/
  equatedArgument : Bool
  /-- `name : value` is a named argument. -/
  colonArgument : Bool
  /-- A call may have a FILTER clause. -/
  filterClause : Bool
  /-- The treatment of nulls may stand among the arguments. -/
  nullTreatmentArgument : Bool
  /-- HAVING may bound an aggregate among its arguments. -/
  havingArgument : Bool
  /-- SEPARATOR may stand among the arguments. -/
  separatorArgument : Bool
  /-- A call may have parameters in front of its arguments. -/
  callParameters : Bool
  /-- A query may be the only argument without further parentheses. -/
  subqueryArgument : Bool
  -- Types
  /-- `T[]` is an array type. -/
  arrayTypeBrackets : Bool
  /-- ARRAY is a type by itself. -/
  bareArrayType : Bool
  /-- `STRUCT<a T>` is a type. -/
  structTypeBrackets : Bool
  /-- `STRUCT(a T)` is a type. -/
  structTypeParens : Bool
  /-- `UNION(a T)` is a type. -/
  unionType : Bool
  /-- NULLABLE, MAP and the like build types with parentheses. -/
  wrapperTypes : Bool
  /-- SIGNED may follow an integer type. -/
  signedSuffix : Bool
  -- Queries
  /-- FROM may stand in front of SELECT, or alone. -/
  fromFirst : Bool
  /-- GROUPING SETS, ROLLUP and CUBE may stand in a grouping. -/
  groupingSets : Bool
  /-- WITH ROLLUP and its like may follow a grouping. -/
  groupingModifiers : Bool
  /-- ORDER BY ALL orders by every column. -/
  orderByAll : Bool
  /-- WITH FILL may follow an ordering. -/
  withFill : Bool
  /-- `LIMIT a, b` skips rows. -/
  limitComma : Bool
  /-- `LIMIT n BY` limits each group. -/
  limitBy : Bool
  /-- PREWHERE filters before WHERE. -/
  prewhere : Bool
  /-- SETTINGS and FORMAT may follow a query. -/
  settings : Bool
  /-- A named window may be another one. -/
  windowReferences : Bool
  /-- CONNECT BY walks a hierarchy. -/
  connectBy : Bool
  /-- A definition may say whether it is materialized. -/
  materializedCtes : Bool
  -- Sources
  /-- A lone table may stand in parentheses. -/
  tableInParens : Bool
  /-- VALUES may be a source without parentheses. -/
  valuesSource : Bool
  /-- UNNEST is a source of its own. -/
  unnestSource : Bool
  /-- PARTITION may select parts of a table. -/
  partitionSelection : Bool
  /-- A table may be read as of a time or version. -/
  tableVersions : Bool
  /-- A sample stands in front of the alias. -/
  sampleBeforeAlias : Bool
  /-- Index hints may follow a table. -/
  indexHints : Bool
  /-- MATCH_RECOGNIZE may follow a table. -/
  matchRecognize : Bool
  /-- SEMANTIC_VIEW is a source of its own. -/
  semanticViews : Bool
  /-- A join without parentheses nests to the right. -/
  rightNestedJoins : Bool
  /-- A cross join may have a condition. -/
  crossJoinCondition : Bool
  /-- Two periods in a name leave out its middle part. -/
  doublePeriodNames : Bool
  /-- IDENTIFIER(…) computes a name. -/
  identifierCalls : Bool
  -- Statements
  /-- INSERT may assign columns with SET. -/
  insertSet : Bool
  /-- INSERT may give its table an alias. -/
  insertAlias : Bool
  /-- The modifiers of one database may stand in INSERT. -/
  insertModifiers : Bool
  /-- MERGE may insert the whole ROW. -/
  wholeRowInsert : Bool
  /-- Columns may follow the partition of an INSERT. -/
  columnsAfterPartition : Bool
  /-- REPLACE is INSERT. -/
  replaceStatement : Bool
  /-- CREATE VIEW may take a comment. -/
  viewComment : Bool
  /-- CREATE VIEW and CREATE TABLE may take OPTIONS and other clauses of one database. -/
  definitionOptions : Bool
  /-- The query of CREATE TABLE needs no AS. -/
  tableFromSelect : Bool
  /-- CREATE TABLE may take named options such as ENGINE; elsewhere a comment may follow the
  columns. -/
  namedTableOptions : Bool
  /-- PARTITION BY may follow the columns of a table. -/
  tablePartitions : Bool
  /-- The clauses of a table stand in any order. -/
  looseTables : Bool
  /-- KEY and INDEX are constraints of a table, KEY is one of a column, which may also count itself
  up and stand at a chosen place, and a constraint may have CONSTRAINT in front of it but no name. -/
  indexConstraints : Bool
  /-- AS computes a column from others. -/
  computedColumns : Bool
  /-- A generated column has to be stored. -/
  storedGeneration : Bool
  /-- The rows of a table may be kept in buckets. -/
  bucketedTables : Bool
  /-- ALTER TABLE may add a column unless it exists. -/
  guardedColumns : Bool
  /-- ALTER TABLE may choose the owner of a table. -/
  tableOwners : Bool
  /-- ALTER TABLE may rename constraints and convert the values of a column. -/
  columnConversions : Bool
  /-- DROP may be restricted to what is temporary. -/
  temporaryDrops : Bool
  /-- CREATE INDEX may take settings behind WITH. -/
  indexSettings : Bool
  /-- EXPLAIN may take options in parentheses. -/
  explainOptions : Bool
  /-- DESCRIBE needs the word TABLE. -/
  describeNeedsTable : Bool
  /-- DELETE may do without FROM. -/
  deleteWithoutFrom : Bool
  /-- How functions are defined. -/
  functionForm : FunctionForm
  /-- Macros can be defined. -/
  macros : Bool
  /-- Triggers can be defined. -/
  triggers : Bool
  -- Commands
  /-- The words that start a command in this dialect only. -/
  ownCommands : List Keyword
  /-- The kinds of objects that USE may name in front of the object. -/
  usedObjects : List Keyword
  /-- BEGIN may start a block. -/
  beginBlocks : Bool
  /-- A word behind BEGIN may say how the transaction locks. -/
  transactionModifiers : Bool
  /-- SET NAMES chooses a character set. -/
  setNames : Bool
  /-- SET may set several variables in parentheses. -/
  setLists : Bool
  /-- SET may hold several assignments, each with a scope of its own. -/
  assignmentLists : Bool
  /-- A user may be told apart by the machine it comes from. -/
  userHosts : Bool
  /-- CREATE ROLE takes options. -/
  roleOptions : Bool
  /-- DECLARE declares variables besides cursors. -/
  declaresVariables : Bool
  /-- EXECUTE IMMEDIATE runs a text. -/
  executesTexts : Bool
  /-- FLUSH empties caches and logs, and SHOW lists variables and their status. -/
  flushes : Bool
  /-- ATTACH takes a file with options. -/
  attachesFiles : Bool
  /-- LOAD loads an extension. -/
  loadsExtensions : Bool
  /-- LOAD DATA moves files into a table. -/
  loadsData : Bool
  /-- TRUNCATE may restart identities. -/
  truncateOptions : Bool

namespace Rules

/-- The rules of a dialect without any optional construct. -/
def plain (lexis : Lexis) : Rules where
  lexis := lexis
  binding := .common
  aliasRule := .standard
  projectionTrailingComma := false
  trailingComma := false
  fromTrailingComma := false
  optimizerHints := false
  selectModifiers := false
  emptySelectList := false
  starExcept := false
  starExclude := false
  starReplace := false
  starRename := false
  starIlike := false
  rootOperator := false
  expressionStar := false
  lambdas := false
  structLiterals := false
  dictionaries := false
  mapLiterals := false
  arraySubqueries := true
  existsFunction := false
  userFunctions := false
  joinsStrings := false
  trimCharacters := false
  extractComma := false
  customDateFields := false
  quotedDateFields := false
  weekDays := false
  intervalNeedsUnit := false
  intervalName := false
  intervalOptions := false
  binaryCast := false
  tryConvert := false
  matchAgainst := false
  bangNot := false
  mathOperators := false
  notNull := false
  doubleAmpersandAnd := false
  rangeOperators := false
  shifts := false
  divOperator := false
  colonPaths := true
  bracketPaths := false
  powerCaret := false
  compositeStar := false
  outerJoinMark := false
  namedArgumentExpr := false
  assignedArgument := false
  equatedArgument := false
  colonArgument := false
  filterClause := false
  nullTreatmentArgument := false
  havingArgument := false
  separatorArgument := false
  callParameters := false
  subqueryArgument := false
  arrayTypeBrackets := false
  bareArrayType := false
  structTypeBrackets := false
  structTypeParens := false
  unionType := false
  wrapperTypes := false
  signedSuffix := false
  fromFirst := false
  groupingSets := false
  groupingModifiers := false
  orderByAll := false
  withFill := false
  limitComma := false
  limitBy := false
  prewhere := false
  settings := false
  windowReferences := false
  connectBy := false
  materializedCtes := false
  tableInParens := false
  valuesSource := false
  unnestSource := false
  partitionSelection := false
  tableVersions := false
  sampleBeforeAlias := false
  indexHints := false
  matchRecognize := false
  semanticViews := false
  rightNestedJoins := false
  crossJoinCondition := false
  doublePeriodNames := false
  identifierCalls := false
  insertSet := false
  insertAlias := false
  insertModifiers := false
  wholeRowInsert := false
  columnsAfterPartition := false
  replaceStatement := false
  viewComment := false
  definitionOptions := false
  tableFromSelect := false
  namedTableOptions := true
  tablePartitions := false
  looseTables := false
  indexConstraints := false
  computedColumns := false
  storedGeneration := false
  bucketedTables := false
  guardedColumns := false
  tableOwners := false
  columnConversions := false
  temporaryDrops := false
  indexSettings := false
  explainOptions := false
  describeNeedsTable := false
  deleteWithoutFrom := false
  functionForm := .absent
  macros := false
  triggers := false
  ownCommands := []
  usedObjects := []
  beginBlocks := false
  transactionModifiers := false
  setNames := false
  setLists := false
  assignmentLists := false
  userHosts := false
  roleOptions := false
  declaresVariables := false
  executesTexts := false
  flushes := false
  attachesFiles := false
  loadsExtensions := false
  loadsData := false
  truncateOptions := false

/-- Most constructs of any dialect. -/
def generic : Rules :=
  { plain .generic with
    projectionTrailingComma := true
    optimizerHints := true
    emptySelectList := true
    starExcept := true
    starExclude := true
    starReplace := true
    starRename := true
    starIlike := true
    lambdas := true
    structLiterals := true
    dictionaries := true
    mapLiterals := true
    userFunctions := true
    trimCharacters := true
    extractComma := true
    customDateFields := true
    quotedDateFields := true
    weekDays := true
    intervalOptions := true
    tryConvert := true
    matchAgainst := true
    rangeOperators := true
    shifts := true
    assignedArgument := true
    filterClause := true
    nullTreatmentArgument := true
    havingArgument := true
    separatorArgument := true
    callParameters := true
    arrayTypeBrackets := true
    structTypeBrackets := true
    unionType := true
    wrapperTypes := true
    signedSuffix := true
    fromFirst := true
    groupingSets := true
    groupingModifiers := true
    withFill := true
    limitComma := true
    limitBy := true
    prewhere := true
    settings := true
    windowReferences := true
    connectBy := true
    tableInParens := true
    valuesSource := true
    unnestSource := true
    partitionSelection := true
    matchRecognize := true
    semanticViews := true
    insertModifiers := true
    wholeRowInsert := true
    replaceStatement := true
    viewComment := true
    definitionOptions := true
    tableFromSelect := true
    tablePartitions := true
    indexConstraints := true
    computedColumns := true
    bucketedTables := true
    guardedColumns := true
    tableOwners := true
    temporaryDrops := true
    indexSettings := true
    explainOptions := true
    deleteWithoutFrom := true
    functionForm := .body
    macros := true
    triggers := true
    ownCommands := ["COMMENT", "DETACH", "INSTALL", "OPTIMIZE"]
    transactionModifiers := true
    setNames := true
    setLists := true
    assignmentLists := true
    userHosts := true
    executesTexts := true
    flushes := true
    loadsExtensions := true
    truncateOptions := true }

/-- Lambdas, records and versions of tables. -/
def spark : Rules :=
  { plain .spark with
    starExcept := true
    lambdas := true
    structLiterals := true
    arraySubqueries := false
    existsFunction := true
    intervalNeedsUnit := true
    filterClause := true
    groupingSets := true
    groupingModifiers := true
    valuesSource := true
    tableVersions := true
    usedObjects := ["CATALOG", "DATABASE", "SCHEMA"] }

/-- Samples in front of aliases, and `!` for NOT. -/
def hive : Rules :=
  { plain .hive with
    intervalNeedsUnit := true
    bangNot := true
    filterClause := true
    groupingModifiers := true
    sampleBeforeAlias := true
    columnsAfterPartition := true
    namedTableOptions := false
    bucketedTables := true
    functionForm := .ofClass
    loadsData := true }

/-- Lambdas, records, maps, and lists that may end in a comma. -/
def duckdb : Rules :=
  { plain .duckdb with
    trailingComma := true
    starExclude := true
    starReplace := true
    lambdas := true
    dictionaries := true
    mapLiterals := true
    trimCharacters := true
    notNull := true
    shifts := true
    assignedArgument := true
    filterClause := true
    arrayTypeBrackets := true
    structTypeParens := true
    unionType := true
    fromFirst := true
    groupingSets := true
    orderByAll := true
    explainOptions := true
    equatedArgument := true
    computedColumns := true
    guardedColumns := true
    temporaryDrops := true
    functionForm := .asMacro
    macros := true
    ownCommands := ["DETACH", "INSTALL"]
    attachesFiles := true
    loadsExtensions := true }

/-- Contextual aliases, paths into values, and joins that nest to the right. -/
def snowflake : Rules :=
  { plain .snowflake with
    binding := { Binding.common with colon := 50 }
    aliasRule := .contextual
    projectionTrailingComma := true
    fromTrailingComma := true
    starExclude := true
    starReplace := true
    starRename := true
    starIlike := true
    rootOperator := true
    expressionStar := true
    trimCharacters := true
    extractComma := true
    customDateFields := true
    quotedDateFields := true
    intervalName := true
    outerJoinMark := true
    bracketPaths := true
    nullTreatmentArgument := true
    subqueryArgument := true
    dictionaries := true
    bareArrayType := true
    groupingSets := true
    connectBy := true
    tableInParens := true
    valuesSource := true
    tableVersions := true
    matchRecognize := true
    semanticViews := true
    rightNestedJoins := true
    doublePeriodNames := true
    identifierCalls := true
    viewComment := true
    looseTables := true
    describeNeedsTable := true
    ownCommands := ["COMMENT", "LIST", "LS", "REMOVE", "RM"]
    usedObjects := ["DATABASE", "SCHEMA", "WAREHOUSE", "ROLE", "SECONDARY"]
    beginBlocks := true
    setLists := true
    declaresVariables := true
    executesTexts := true }

/-- Strings side by side, index hints and conditions on cross joins. -/
def mysql : Rules :=
  { plain .mysql with
    aliasRule := .indexHints
    optimizerHints := true
    selectModifiers := true
    joinsStrings := true
    intervalNeedsUnit := true
    binaryCast := true
    matchAgainst := true
    doubleAmpersandAnd := true
    shifts := true
    divOperator := true
    separatorArgument := true
    signedSuffix := true
    limitComma := true
    partitionSelection := true
    indexHints := true
    crossJoinCondition := true
    insertSet := true
    insertModifiers := true
    replaceStatement := true
    tableFromSelect := true
    indexConstraints := true
    computedColumns := true
    temporaryDrops := true
    triggers := true
    ownCommands := ["LOCK", "UNLOCK"]
    setNames := true
    assignmentLists := true
    userHosts := true
    flushes := true }

/-- Operators of mathematics, ranges and documents, and materialized definitions. -/
def postgres : Rules :=
  { plain .postgres with
    binding := .postgres
    emptySelectList := true
    userFunctions := true
    customDateFields := true
    quotedDateFields := true
    intervalOptions := true
    mathOperators := true
    notNull := true
    rangeOperators := true
    shifts := true
    colonPaths := false
    powerCaret := true
    compositeStar := true
    namedArgumentExpr := true
    filterClause := true
    arrayTypeBrackets := true
    groupingSets := true
    materializedCtes := true
    unnestSource := true
    insertAlias := true
    tablePartitions := true
    storedGeneration := true
    guardedColumns := true
    tableOwners := true
    columnConversions := true
    indexSettings := true
    explainOptions := true
    colonArgument := true
    functionForm := .body
    triggers := true
    ownCommands := ["COMMENT", "LISTEN", "UNLISTEN", "NOTIFY"]
    setNames := true
    roleOptions := true
    loadsExtensions := true
    truncateOptions := true }

end Rules

end ColumnLineage.Sql
