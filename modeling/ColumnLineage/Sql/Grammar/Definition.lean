import ColumnLineage.Sql.Grammar.Change
import ColumnLineage.Sql.Grammar.Column

/-!
# Definitions

CREATE TABLE and CREATE VIEW, whose queries have lineage, and CREATE INDEX.  The clauses of a table
are read for the expressions in them.

## Main definitions

* `Parser.createTable`, `Parser.createExternalTable`, `Parser.createIndex`, `Parser.createView`:
  the definitions behind their keywords.
-/

namespace ColumnLineage.Sql.Parser

/-- The lexemes of a statement behind those that were taken already. -/
def restOfStatement : Parser Unit := fun _ lexemes =>
  .ok ((), lexemes.dropWhile fun l => l.token != .symbol ";" && l.token != .eof)

/-- The cluster of machines that a definition is for, if it stands here. -/
def onCluster : Parser Unit := do
  if ← keywords? ["ON", "CLUSTER"] then
    let _ ← ident

/-! ## Files -/

/-- How rows are delimited: each kind of delimiter with the words behind the one that names it. -/
def delimiters : List (Keyword × List Keyword) :=
  [("FIELDS", ["TERMINATED", "BY"]), ("COLLECTION", ["ITEMS", "TERMINATED", "BY"]),
    ("MAP", ["KEYS", "TERMINATED", "BY"]), ("LINES", ["TERMINATED", "BY"]),
    ("NULL", ["DEFINED", "AS"])]

/-- A delimiter of rows, if one stands here.  The word that names its kind is taken also where the
others are missing. -/
def delimiter? : Parser (Option Unit) := do
  let word ← peekKeyword
  match delimiters.lookup word with
  | none => return none
  | some more =>
    skip 1
    if !(← keywords? more) then return none
    let _ ← ident
    if ← given (word == "FIELDS") (keywords? ["ESCAPED", "BY"]) then
      let _ ← ident
    return some ()

/-- How rows are written, behind ROW. -/
def rowFormat : Parser Unit := do
  keyword "FORMAT"
  if ← keyword? "SERDE" then
    let _ ← stringContent
  else
    let _ ← keyword? "DELIMITED"
    let _ ← many delimiter?

/-- The partitions of a table that is stored in files. -/
def partitionColumns : Parser (List Node) := do
  if ← keywords? ["PARTITIONED", "BY"] then
    return (← inParens (separated columnDefinition)).flatten
  return []

/-- The buckets of a table that is stored in files. -/
def buckets : Parser (List Node) := do
  if !(← given (← rule (·.bucketedTables)) (keywords? ["CLUSTERED", "BY"])) then return []
  let _ ← identList
  let order : List Node ←
    if ← keywords? ["SORTED", "BY"] then do pure [.written (← inParens orderItems)] else pure []
  keyword "INTO"
  let _ ← numberValue
  keyword "BUCKETS"
  return order

/-- A clause on the files of a table, if one stands here. -/
def storageClause? : Parser (Option (List Node)) := do
  match ← peekKeyword with
  | "ROW" =>
    skip 1
    rowFormat
    return some []
  | "STORED" =>
    skip 1
    keyword "AS"
    if ← keyword? "INPUTFORMAT" then
      let input ← expr
      keyword "OUTPUTFORMAT"
      return some [.expr input, .expr (← expr)]
    fileFormat
    return some []
  | "LOCATION" =>
    skip 1
    let _ ← stringContent
    return some []
  | "WITH" =>
    let properties ← settingsBehind ["WITH", "SERDEPROPERTIES"]
    return if properties.isEmpty then none else some properties
  | _ => return none

/-- The formats and the place of the files of a table. -/
def storage : Parser (List Node) := do
  return (← many storageClause?).flatten

/-! ## Options -/

/-- The names of the options of a table that have a value. -/
def valuedOptions : List (List Keyword) :=
  [["DEFAULT", "CHARSET"], ["CHARSET"], ["DEFAULT", "CHARACTER", "SET"], ["CHARACTER", "SET"],
    ["DEFAULT", "COLLATE"], ["COLLATE"], ["DATA", "DIRECTORY"], ["INDEX", "DIRECTORY"],
    ["KEY_BLOCK_SIZE"], ["ROW_FORMAT"], ["PACK_KEYS"], ["STATS_AUTO_RECALC"],
    ["STATS_PERSISTENT"], ["STATS_SAMPLE_PAGES"], ["DELAY_KEY_WRITE"], ["COMPRESSION"],
    ["ENCRYPTION"], ["MAX_ROWS"], ["MIN_ROWS"], ["AUTOEXTEND_SIZE"], ["AVG_ROW_LENGTH"],
    ["CHECKSUM"], ["CONNECTION"], ["ENGINE_ATTRIBUTE"], ["PASSWORD"],
    ["SECONDARY_ENGINE_ATTRIBUTE"], ["INSERT_METHOD"], ["AUTO_INCREMENT"]]

/-- Takes a lexeme that satisfies a condition; it stands for what `what` says. -/
def lexemeOf (what : String) (holds : Token → Bool) : Parser Unit := do
  if holds (← peekToken) then skip 1 else expected what

/-- A token is a string literal between single quotes. -/
def isQuoted : Token → Bool
  | .literal .single _ => true
  | _ => false

/-- The storage of a tablespace behind its name, if that stands here. -/
def tablespaceStorage : Parser Unit := do
  if ← keyword? "STORAGE" then
    let _ ← symbol? "="
    match ← peekToken with
    | .word kind _ =>
      if ["DISK", "MEMORY"].contains (Text.upper kind) then skip 1
      else expected "Storage type (DISK or MEMORY)"
    | _ => expected "Token::Word"

/-- A named option of a table, such as its engine, if one stands here. -/
def namedOption? : Parser (Option Unit) := do
  let found ←
    if ← keywords? ["START", "TRANSACTION"] then pure true
    else if ← keyword? "COMMENT" then do
      let _ ← symbol? "="
      lexemeOf "Token::SingleQuotedString" isQuoted
      pure true
    else if ← keyword? "ENGINE" then do
      let _ ← symbol? "="
      lexemeOf "Token::Word" Token.isWord
      if ← atSymbol "(" then
        let _ ← inParens (separated ident)
      pure true
    else if ← keyword? "TABLESPACE" then do
      let _ ← symbol? "="
      lexemeOf "Token::Word" fun t => t.isWord || isQuoted t
      tablespaceStorage
      pure true
    else if ← keyword? "UNION" then do
      let _ ← symbol? "="
      lexemeOf "Token::LParen" (· == .symbol "(")
      let _ ← separatedUntil ")" ident
      symbol ")"
      pure true
    else if ← anyOf? valuedOptions then do
      let _ ← symbol? "="
      if (← attempt value).isNone then
        let _ ← ident
      pure true
    else pure false
  if !found then return none
  let _ ← symbol? ","
  return some ()

/-- What happens to the rows of a temporary table at the end of a transaction, behind ON COMMIT. -/
def commitAction : Parser Unit := do
  if !(← anyOf? [["DELETE", "ROWS"], ["PRESERVE", "ROWS"], ["DROP"]]) then
    refuse ("Expecting DELETE ROWS, PRESERVE ROWS or DROP" ++ (← peekToken).text)

/-- Expressions between parentheses, of which there may be none, or one without parentheses. -/
def exprsOrExpr : Parser (List Node) := do
  if !(← atSymbol "(") then return [.expr (← expr)]
  let keys ← inParens do if ← atSymbol ")" then return [] else separated expr
  return keys.map .expr

/-- The clauses of a table behind its columns: the parts that are visited in front of its query,
and those that are visited behind it. -/
def tableClauses : Parser (List Node × List Node) := do
  let rules ← rules
  let special := rules.definitionOptions
  let partitions ← partitionColumns
  let buckets ← buckets
  let storage ← storage
  let inherited ←
    if ← keyword? "INHERITS" then do
      if !(← atSymbol "(") then expected "a list of columns in parentheses"
      inParens (separated nameInside)
    else pure []
  let settings ← settingsBehind ["WITH"]
  let properties ← settingsBehind ["TBLPROPERTIES"]
  let partition : List Node ←
    if ← given rules.tablePartitions (keywords? ["PARTITION", "BY"]) then do
      pure [.expr (← expr)]
    else pure []
  let cluster : List Node ←
    if ← given special (keywords? ["CLUSTER", "BY"]) then do
      pure ((← separated expr).map .expr)
    else pure []
  let optional ← given special (atKeyword "OPTIONS")
  let options ← if optional then settingsBehind ["OPTIONS"] else pure []
  if rules.namedTableOptions && !optional && (settings ++ properties).isEmpty then
    let _ ← many namedOption?
  let key : List Node ←
    if ← given special (keywords? ["PRIMARY", "KEY"]) then do pure [.expr (← expr)] else pure []
  let order ← if ← keywords? ["ORDER", "BY"] then exprsOrExpr else pure []
  if ← keywords? ["ON", "COMMIT"] then commitAction
  let _ ← keyword? "STRICT"
  return (partitions ++ storage ++ settings ++ properties ++ options,
    key ++ order ++ partition ++ cluster ++ buckets ++ inherited.flatten)

/-! ## Tables -/

/-- The table that another one is like, if it stands here. -/
def modelTable : Parser (List Node) := do
  let parenthesized ← given (← rule (·.definitionOptions))
    (return (← atSymbol "(") && (← peekAt 1).keyword == "LIKE")
  if parenthesized then
    skip 2
    let inside ← nameInside
    let _ ← anyOf? [["INCLUDING", "DEFAULTS"], ["EXCLUDING", "DEFAULTS"]]
    symbol ")"
    return inside
  if (← oneOf? ["LIKE", "ILIKE"]).isSome then return ← nameInside
  return []

/-- The table that another one is a copy of, behind CLONE, if it has a name; what stands in its
place is passed over. -/
def clonedTable : Parser (Option (List Node)) := do
  match ← attempt nameInside with
  | some inside => return some inside
  | none => pure ()
  let _ ← many do
    let dotted := (identOf (← peekToken)).isSome && (← peekAt 1).token == .symbol "."
    if dotted then
      skip 2
      return some ()
    return none
  skip 1
  return none

/-- The bound of a partition, if it is a value. -/
def partitionBound : Parser (List Node) := do
  if (← oneOf? ["MINVALUE", "MAXVALUE"]).isSome then return []
  return [.expr (← expr)]

/-- The bounds of a partition in parentheses. -/
def partitionBounds : Parser (List Node) :=
  inParens do
    if ← atSymbol ")" then expected "at least one value"
    return (← separated partitionBound).flatten

/-- The rows that belong to a partition. -/
def partitionRows : Parser (List Node) := do
  if !(["FOR", "DEFAULT"].contains (← peekKeyword)) then
    expected "FOR VALUES or DEFAULT after PARTITION OF"
  if ← keyword? "DEFAULT" then return []
  keywords ["FOR", "VALUES"]
  if ← keyword? "IN" then return ← partitionBounds
  if ← keyword? "FROM" then
    let least ← partitionBounds
    keyword "TO"
    return least ++ (← partitionBounds)
  if ← keyword? "WITH" then
    inParens do
      keyword "MODULUS"
      let _ ← wholeNumber
      symbol ","
      keyword "REMAINDER"
      let _ ← wholeNumber
    return []
  expected "IN, FROM, or WITH after FOR VALUES"

/-- CREATE TABLE behind its keywords. -/
def createTable : Parser Statement := do
  let rules ← rules
  let name ← guarded ["IF", "NOT", "EXISTS"]
  let isPartition ← keywords? ["PARTITION", "OF"]
  let whole ← if isPartition then nameInside else pure []
  onCluster
  let model ← modelTable
  let clone ← if ← keyword? "CLONE" then clonedTable else pure none
  let columns ← columnDefinitions
  if ← given (!rules.namedTableOptions) (keyword? "COMMENT") then lexemeOf "comment" isQuoted
  let bounds ← if isPartition then partitionRows else pure []
  let _ ← keywords? ["WITHOUT", "ROWID"]
  let (early, late) ← tableClauses
  let bare ← given rules.tableFromSelect (atKeyword "SELECT")
  let content : List Node ←
    if ← keyword? "AS" then do pure [.query (← query)]
    else if bare then do pure [.query (← query)]
    else pure []
  return .other .createTable
    (name.parts ++ columns.parts ++ early ++ content ++ model ++ clone.getD [] ++ late ++ whole ++
      bounds)

/-- CREATE EXTERNAL TABLE behind EXTERNAL, which defines a table by its files. -/
def createExternalTable : Parser (List Node) := do
  keyword "TABLE"
  let name ← guarded ["IF", "NOT", "EXISTS"]
  let columns ← columnDefinitions
  let partitions ← partitionColumns
  let storage ← storage
  let properties ← settingsBehind ["TBLPROPERTIES"]
  return name.parts ++ columns.parts ++ partitions ++ storage ++ properties

/-! ## Indexes and views -/

/-- How a table is changed: the words that choose the way, and what to expect where none stands. -/
def changeMethods : List (Keyword × List Keyword × String) :=
  [("ALGORITHM", ["DEFAULT", "INSTANT", "INPLACE", "COPY"],
      "DEFAULT, INSTANT, INPLACE, or COPY after ALGORITHM [=]"),
    ("LOCK", ["DEFAULT", "EXCLUSIVE", "NONE", "SHARED"],
      "DEFAULT, SHARED, NONE, or EXCLUSIVE after LOCK [=]")]

/-- How a table is changed, if that stands here. -/
def changeMethod? : Parser Bool := do
  match changeMethods.lookup (← peekKeyword) with
  | none => return false
  | some (words, complaint) =>
    skip 1
    let _ ← symbol? "="
    if (← oneOf? words).isNone then expected complaint
    return true

/-- CREATE INDEX behind its keywords. -/
def createIndex : Parser (List Node) := do
  let _ ← keyword? "CONCURRENTLY"
  let guarded ← keywords? ["IF", "NOT", "EXISTS"]
  let index ←
    if ← given (!guarded) (keyword? "ON") then pure []
    else do
      let inside ← nameInside
      let _ ← indexMethod?
      keyword "ON"
      pure inside
  let name ← objectName
  let _ ← indexMethod?
  let columns ← indexColumns
  if ← keyword? "INCLUDE" then
    let _ ← inParens (separated ident)
  nullsDistinct
  let settings : List Expr ←
    if ← given (← rule (·.indexSettings)) (keyword? "WITH") then inParens (separated expr)
    else pure []
  let filter ← exprClause "WHERE"
  indexOptions
  let _ ← many do if ← changeMethod? then return some () else return none
  return index ++ name.parts ++ columns ++ (settings ++ filter.toList).map .expr

/-- A column of a view. -/
def viewColumn : Parser (List Node) := do
  let _ ← ident
  columnOptions

/-- CREATE VIEW behind the words that may stand in front of VIEW, given the parts of these. -/
def createView (parameters : List Node) : Parser Statement := do
  let rules ← rules
  let special := rules.definitionOptions
  let _ ← keyword? "SECURE"
  let _ ← keyword? "MATERIALIZED"
  keyword "VIEW"
  let guardedFirst ← keywords? ["IF", "NOT", "EXISTS"]
  let name ← objectName
  let _ ← given (!guardedFirst) (keywords? ["IF", "NOT", "EXISTS"])
  let _ ← keywords? ["COPY", "GRANTS"]
  let columns ← if ← atSymbol "(" then inParens (separatedUntil ")" viewColumn) else pure []
  let settings ← settingsBehind ["WITH"]
  if ← keyword? "CLUSTER" then
    keyword "BY"
    let _ ← identList?
  let options ← if special then settingsBehind ["OPTIONS"] else pure []
  let target ← if ← given special (keyword? "TO") then nameInside else pure []
  if ← given rules.viewComment (keyword? "COMMENT") then
    symbol "="
    commentText
  keyword "AS"
  let content ← query
  if special then
    let _ ← keywords? ["WITH", "NO", "SCHEMA", "BINDING"]
  return .other .createView
    (name.parts ++ columns.flatten ++ .query content :: settings ++ options ++ target ++ parameters)

end ColumnLineage.Sql.Parser
