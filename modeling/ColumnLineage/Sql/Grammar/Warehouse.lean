import ColumnLineage.Sql.Grammar.Definition

/-!
# Warehouses

The tables of a warehouse are defined by clauses that stand in any order.  Exactly one of the
clauses says which columns a table has: a list of columns, a query, or another table.

## Main definitions

* `TableClauses`: what the clauses of a table say.
* `Parser.looseTable`: a table whose clauses stand in any order.
* `Parser.warehouseObject?`: a table, a stage or a database of a warehouse.
-/

namespace ColumnLineage.Sql.Parser

/-- What the clauses of a table say. -/
structure TableClauses where
  /-- The columns and constraints it lists. -/
  listed : TableContent
  /-- The query that fills it. -/
  content : Option Query
  /-- What is visited in the name of the table it is like. -/
  model : Option (List Node)
  /-- What is visited in the name of the table it is a copy of. -/
  clone : Option (List Node)
  /-- The expressions in the other clauses. -/
  others : List Node
  /-- Its files have a place. -/
  located : Bool

namespace TableClauses

/-- A table without clauses. -/
def empty : TableClauses :=
  ⟨.empty, none, none, none, [], false⟩

/-- Exactly one clause says which columns the table has. -/
def isComplete (c : TableClauses) : Bool :=
  [c.listed.columnCount != 0, c.content.isSome, c.model.isSome, c.clone.isSome].count true == 1

/-- The clauses with the parts of one more that says nothing of the columns. -/
def addOthers (c : TableClauses) (parts : List Node) : TableClauses :=
  { c with others := c.others ++ parts }

/-- The parts of the table in visiting order. -/
def parts (c : TableClauses) : List Node :=
  c.listed.parts ++ c.content.toList.map .query ++ c.model.getD [] ++ c.clone.getD [] ++ c.others

end TableClauses

/-- The clauses whose value is a text. -/
def textClauses : List Keyword :=
  ["DEFAULT_DDL_COLLATION", "EXTERNAL_VOLUME", "CATALOG", "CATALOG_SYNC", "TARGET_LAG"]

/-- The clauses whose value is one of some words, with what to expect where none stands. -/
def chosenClauses : List (Keyword × List Keyword × String) :=
  [("STORAGE_SERIALIZATION_POLICY", ["COMPATIBLE", "OPTIMIZED"], "storage_serialization_policy"),
    ("REFRESH_MODE", ["AUTO", "FULL", "INCREMENTAL"], "AUTO, FULL or INCREMENTAL"),
    ("INITIALIZE", ["ON_CREATE", "ON_SCHEDULE"], "ON_CREATE or ON_SCHEDULE"),
    ("ENABLE_SCHEMA_EVOLUTION", ["TRUE", "FALSE"], "TRUE or FALSE"),
    ("CHANGE_TRACKING", ["TRUE", "FALSE"], "TRUE or FALSE")]

/-- The clauses whose value is a number of days. -/
def dayClauses : List Keyword :=
  ["DATA_RETENTION_TIME_IN_DAYS", "MAX_DATA_EXTENSION_TIME_IN_DAYS"]

/-- A clause of a table that says nothing of its columns, behind the word that starts it, which is
`found`; `clauses` holds what the clauses in front of it say. -/
def looseClause (clauses : TableClauses) (found : Lexeme) : Parser TableClauses := do
  let word := found.keyword
  match word with
  | "COPY" => keyword "GRANTS"
  | "COMMENT" =>
    let _ ← symbol? "="
    commentText
  | "CLUSTER" =>
    keyword "BY"
    return clauses.addOthers ((← inParens (separated expr)).map .expr)
  | "BASE_LOCATION" =>
    symbol "="
    let _ ← stringContent
    return { clauses with located := true }
  | "WITH" =>
    if !(["AGGREGATION", "TAG", "ROW"].contains (← peekKeyword)) then
      expected "one of AGGREGATION or TAG or ROW"
  | "AGGREGATION" =>
    keyword "POLICY"
    return clauses.addOthers (← nameInside)
  | "ROW" =>
    keywords ["ACCESS", "POLICY"]
    let policy ← nameInside
    keyword "ON"
    let _ ← inParens (separated ident)
    return clauses.addOthers policy
  | "TAG" => return clauses.addOthers (← inParens (separated objectTag)).flatten
  | "WAREHOUSE" =>
    symbol "="
    let _ ← ident
  | _ =>
    if ← given (word == "ON") (keyword? "COMMIT") then commitAction
    else if ← given (word == "IF") (keywords? ["NOT", "EXISTS"]) then pure ()
    else if ← given (word == "REQUIRE") (keyword? "USER") then pure ()
    else if textClauses.contains word then
      symbol "="
      let _ ← stringContent
    else if dayClauses.contains word then
      symbol "="
      let _ ← wholeNumber
    else match chosenClauses.lookup word with
      | some (words, complaint) =>
        symbol "="
        if (← oneOf? words).isNone then expected complaint
      | none => fail (.expected "end of statement" found)
  return clauses

/-- One more clause of a table, if one stands here. -/
def looseClause? (clauses : TableClauses) : Parser (Option TableClauses) := do
  if ← atSymbol "(" then return some { clauses with listed := ← columnDefinitions }
  if ← either (return (← peekToken) == .eof) (atSymbol ";") then return none
  if ← keyword? "AS" then return some { clauses with content := some (← query) }
  if ← keyword? "LIKE" then return some { clauses with model := some (← nameInside) }
  if ← keyword? "CLONE" then return some { clauses with clone := ← clonedTable }
  if ["AT", "BEFORE"].contains (← peekKeyword) then return some (clauses.addOthers (← tableVersion?))
  return some (← looseClause clauses (← next))

/-- CREATE TABLE behind its keywords, where its clauses stand in any order; `inFiles` tells that
the table keeps its rows in files of its own. -/
def looseTable (inFiles : Bool) : Parser Statement := do
  let name ← guarded ["IF", "NOT", "EXISTS"]
  let clauses ← iterate looseClause? .empty
  if !clauses.isComplete then refuse "unexpected end of input"
  if inFiles && !clauses.located then refuse "BASE_LOCATION is required for ICEBERG tables"
  return .other .createTable (name.parts ++ clauses.parts)

/-- A stage or a database of a warehouse, behind the word that names its kind. -/
def warehouseName : Parser Statement := do
  let name ← guarded ["IF", "NOT", "EXISTS"]
  restOfStatement
  return .other .other name.inside

/-- A table, a stage or a database of a warehouse, if one is defined here, behind CREATE.  Of the
words in front of its kind only OR REPLACE, TEMP and TEMPORARY may stand in front of another
object. -/
def warehouseObject? : Parser (Option Statement) := do
  if !(← rule (·.looseTables)) then return none
  let start ← get
  let _ ← keywords? ["OR", "REPLACE"]
  let place := (← oneOf? ["LOCAL", "GLOBAL"]).isSome
  let dynamic ← keyword? "DYNAMIC"
  let modifier ← oneOf? ["TEMP", "TEMPORARY", "VOLATILE", "TRANSIENT", "ICEBERG"]
  match ← oneOf? ["TABLE", "STAGE", "DATABASE"] with
  | some "TABLE" => return some (← looseTable (modifier == some "ICEBERG"))
  | some _ => return some (← warehouseName)
  | none =>
    let kept := [none, some "TEMP", some "TEMPORARY"].contains modifier
    let bound := [place, dynamic, !kept].count true
    set start
    if bound == 0 then return none
    let l := start.getD (bound - 1) .ending
    if l.keyword == "REPLACE" then
      refuseAt "Unsupported statement REPLACE" (start.getD bound .ending)
    fail (.expected "an SQL statement" l)

end ColumnLineage.Sql.Parser
