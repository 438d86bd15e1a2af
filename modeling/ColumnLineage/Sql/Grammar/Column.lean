import ColumnLineage.Sql.Grammar.Block

/-!
# Columns and constraints

What the definition of a table lists between its parentheses: columns with what is said of them,
and constraints.  They are read for the expressions in them.

## Main definitions

* `Parser.columnOption?`: one thing that is said of a column.
* `Parser.columnDefinition`: a column.
* `Parser.tableConstraint?`: a constraint.
* `Parser.columnDefinitions`: the columns and constraints of a table.
-/

namespace ColumnLineage.Sql.Parser

/-! ## Common clauses -/

/-- A name behind keywords that may guard it, such as IF EXISTS. -/
def guarded (ks : List Keyword) : Parser ParsedName := do
  let _ ← keywords? ks
  objectName

/-- Takes a keyword if it stands here, also where it has no meaning; tells whether it has. -/
def passed (k : Keyword) (meaningful : Bool) : Parser Bool := do
  return (← keyword? k) && meaningful

/-- Clauses in any order, each of a kind that occurs at most once: `clause seen` reads a clause of
a kind that is not among `seen`, and gives its kind. -/
def eachOnce (clause : List String → Parser (Option String)) : Parser Unit := do
  let _ ← iterate (fun seen => do return (← clause seen).map (· :: seen)) []

/-- A number with an optional sign in front. -/
def amount : Parser Unit := do
  if !(← symbol? "+") then
    let _ ← symbol? "-"
  let _ ← numberValue

/-- The text of a comment. -/
def commentText : Parser Unit := do
  match ← peekToken with
  | .literal .single _ | .literal (.dollar _) _ => skip 1
  | _ => expected "string literal"

/-- The columns of a clustered index, or how a table keeps its columns. -/
def clusteredSetting : Parser Unit := do
  if ← keywords? ["COLUMNSTORE", "INDEX"] then
    if ← keyword? "ORDER" then
      let _ ← identList
  else if ← keyword? "INDEX" then
    let column : Parser Unit := do
      let _ ← ident
      let _ ← oneOf? ["ASC", "DESC"]
    let _ ← inParens (separated column)
  else refuse "invalid CLUSTERED sequence"

/-- The ranges a table is divided into. -/
def partitionSetting : Parser (List Expr) :=
  inParens do
    let _ ← ident
    keyword "RANGE"
    let _ ← oneOf? ["LEFT", "RIGHT"]
    keywords ["FOR", "VALUES"]
    inParens (separated expr)

/-- An option with its value. -/
def setting : Parser Node := do
  let special ← if ← rule (·.definitionOptions) then peekKeyword else pure ""
  match special with
  | "HEAP" =>
    skip 1
    return .words "HEAP"
  | "PARTITION" =>
    skip 1
    return .list ", " ((← partitionSetting).map .expr)
  | "CLUSTERED" =>
    skip 1
    clusteredSetting
    return .words "CLUSTERED"
  | _ =>
    let _ ← ident
    symbol "="
    return .expr (← expr)

/-- Options behind some keywords, if they stand here. -/
def settingsBehind (ks : List Keyword) : Parser (List Node) := do
  if ← keywords? ks then inParens (separatedUntil ")" setting) else return []

/-- A tag of an object with its value. -/
def objectTag : Parser (List Node) := do
  let inside ← nameInside
  symbol "="
  let _ ← stringContent
  return inside

/-- How a sequence counts. -/
def sequenceOptions : Parser Unit := do
  if ← keyword? "INCREMENT" then
    let _ ← keyword? "BY"
    amount
  if ← keyword? "MINVALUE" then amount
  else
    let _ ← keywords? ["NO", "MINVALUE"]
  if ← keyword? "MAXVALUE" then amount
  else
    let _ ← keywords? ["NO", "MAXVALUE"]
  if ← keyword? "START" then
    let _ ← keyword? "WITH"
    amount
  if ← keyword? "CACHE" then amount
  let _ ← anyOf? [["NO", "CYCLE"], ["CYCLE"]]

/-! ## Constraints -/

/-- What happens to a reference when its row changes. -/
def referenceAction : Parser Unit := do
  let forms : List (List Keyword) :=
    [["RESTRICT"], ["CASCADE"], ["SET", "NULL"], ["NO", "ACTION"], ["SET", "DEFAULT"]]
  if !(← anyOf? forms) then
    expected "one of RESTRICT, CASCADE, SET NULL, NO ACTION or SET DEFAULT"

/-- A constraint is enforced or not, if that is said. -/
def enforcement? : Parser Bool :=
  anyOf? [["ENFORCED"], ["NOT", "ENFORCED"]]

/-- When a constraint is checked. -/
def characteristics : Parser Unit :=
  eachOnce fun seen => do
    if ← given (!seen.contains "DEFERRABLE") (anyOf? [["NOT", "DEFERRABLE"], ["DEFERRABLE"]]) then
      return some "DEFERRABLE"
    if ← given (!seen.contains "INITIALLY") (keyword? "INITIALLY") then
      if (← oneOf? ["DEFERRED", "IMMEDIATE"]).isNone then
        expected "one of DEFERRED or IMMEDIATE"
      return some "INITIALLY"
    if ← given (!seen.contains "ENFORCED") enforcement? then return some "ENFORCED"
    return none

/-- The table a column refers to, behind REFERENCES. -/
def reference : Parser (List Node) := do
  let table ← nameInside
  let _ ← identList?
  eachOnce fun seen => do
    if ← given (!seen.contains "MATCH") (keyword? "MATCH") then
      if (← oneOf? ["FULL", "PARTIAL", "SIMPLE"]).isNone then
        expected "one of FULL, PARTIAL or SIMPLE"
      return some "MATCH"
    if ← given (!seen.contains "DELETE") (keywords? ["ON", "DELETE"]) then
      referenceAction
      return some "DELETE"
    if ← given (!seen.contains "UPDATE") (keywords? ["ON", "UPDATE"]) then
      referenceAction
      return some "UPDATE"
    return none
  characteristics
  return table

/-- A condition that rows meet, behind CHECK. -/
def checked : Parser Node := do
  let condition ← inMode .anywhere (inParens expr)
  let _ ← enforcement?
  return .expr condition

/-- A column of an index, with the class of operators it is compared by. -/
def indexColumn : Parser Node := do
  let e ← expr
  let operators ←
    if ["ASC", "DESC", "NULLS", "WITH"].contains (← peekKeyword) then pure []
    else do pure ((← attempt nameInside).getD [])
  return .written (Segment.node (.expr e) :: (← orderTail) ++ operators.map .node)

/-- The columns of an index. -/
def indexColumns : Parser (List Node) := do
  if ← atSymbol "(" then inParens (separated indexColumn)
  else expected "a list of columns in parentheses"

/-- How an index is built, if that stands here. -/
def indexMethod? : Parser Bool := do
  if !(← keyword? "USING") then return false
  let _ ← ident
  return true

/-- What is said of an index behind its columns. -/
def indexOptions : Parser Unit := do
  let _ ← many (α := Unit) do
    if ← indexMethod? then return some ()
    if ← keyword? "COMMENT" then
      let _ ← stringContent
      return some ()
    return none

/-- The columns of the index that a constraint is, with how it is built. -/
def constraintIndex : Parser (List Node) := do
  let _ ← indexMethod?
  let columns ← indexColumns
  indexOptions
  return columns

/-- A key, behind the words that name its kind; any word is its name. -/
def keyIndex : Parser (List Node) := do
  let _ ← attempt ident
  let columns ← constraintIndex
  characteristics
  return columns

/-- Whether nulls differ, if that is said. -/
def nullsDistinct : Parser Unit := do
  if ← keyword? "NULLS" then
    let _ ← keyword? "NOT"
    keyword "DISTINCT"

/-- The name of a constraint, if it has one, behind an optional CONSTRAINT. -/
def constraintName? : Parser (Option Ident) := do
  if !(← keyword? "CONSTRAINT") then return none
  let nameless := ["CHECK", "PRIMARY", "UNIQUE", "FOREIGN"].contains (← peekKeyword)
  if nameless && (← rule (·.indexConstraints)) then return none
  return some (← ident)

/-- A constraint on a table, if one stands here, with the expressions in it. -/
def tableConstraint? : Parser (Option (List Node)) := do
  let indexes ← rule (·.indexConstraints)
  let name ← constraintName?
  let place ← peek
  if ← keyword? "UNIQUE" then
    let kind ← oneOf? ["KEY", "INDEX"]
    if kind.isSome && !indexes then expected "`index_name` or `(column_name [, ...])`"
    nullsDistinct
    return some (← keyIndex)
  if ← keyword? "PRIMARY" then
    keyword "KEY"
    return some (← keyIndex)
  if ← keyword? "FOREIGN" then
    keyword "KEY"
    let _ ← attempt ident
    let _ ← identList
    keyword "REFERENCES"
    return some (← reference)
  if ← keyword? "CHECK" then return some [← checked]
  if ← given (indexes && name.isNone) (return (← oneOf? ["INDEX", "KEY"]).isSome) then
    if !(← atKeyword "USING") then
      let _ ← attempt ident
    return some (← constraintIndex)
  if ← given indexes (return (← oneOf? ["FULLTEXT", "SPATIAL"]).isSome) then
    match name with
    | some name =>
      fail (.expected "FULLTEXT or SPATIAL option without constraint name"
        { place with token := .word name.text none })
    | none => pure ()
    let _ ← oneOf? ["INDEX", "KEY"]
    let _ ← attempt ident
    return some (← indexColumns)
  if name.isSome then expected "PRIMARY, UNIQUE, FOREIGN, or CHECK"
  return none

/-! ## Columns -/

/-- A value that a column takes by itself, which NOT NULL ends. -/
def columnValue : Parser (List Node) := do
  return [.expr (← inMode .columnDefault expr)]

/-- How the value of a generated column is made, behind GENERATED, if that is said. -/
def generation? : Parser (Option (List Node)) := do
  if ← anyOf? [["ALWAYS", "AS", "IDENTITY"], ["BY", "DEFAULT", "AS", "IDENTITY"]] then
    if ← atSymbol "(" then inParens sequenceOptions
    return some []
  if ← keywords? ["ALWAYS", "AS"] then
    if !(← atSymbol "(") then return none
    let e ← inMode .anywhere (inParens expr)
    if !(← keyword? "STORED") then
      if ← rule (·.storedGeneration) then expected "STORED"
      let _ ← keyword? "VIRTUAL"
    return some [.expr e]
  return none

/-- The first number and the step of a column that counts itself up, if they stand here. -/
def identityBounds? : Parser Bool := do
  if !(← symbol? "(") then return false
  amount
  symbol ","
  amount
  symbol ")"
  return true

/-- What a warehouse says of a column, if it stands here. -/
def warehouseColumnOption? : Parser (Option (List Node)) := do
  let kind : Parser Keyword := do
    let _ ← keyword? "WITH"
    if (← oneOf? ["IDENTITY", "AUTOINCREMENT"]).isSome then return "IDENTITY"
    if ← anyOf? [["MASKING", "POLICY"], ["PROJECTION", "POLICY"]] then return "POLICY"
    keyword "TAG"
    return "TAG"
  match ← attempt kind with
  | none => return none
  | some "IDENTITY" =>
    if ← given (!(← identityBounds?)) (keyword? "START") then
      amount
      keyword "INCREMENT"
      amount
    let _ ← oneOf? ["ORDER", "NOORDER"]
    return some []
  | some "POLICY" =>
    let policy ← nameInside
    if ← keyword? "USING" then
      let _ ← inParens (separated ident)
    return some policy
  | some _ => return some (← inParens (separated objectTag)).flatten

/-- What a column definition says behind the type, with the expressions in it.  A keyword that has
no meaning here is passed over. -/
def columnOption? : Parser (Option (List Node)) := do
  let rules ← rules
  let special := rules.definitionOptions
  match ← if rules.looseTables then warehouseColumnOption? else pure none with
  | some parts => return some parts
  | none => pure ()
  if ← either (keywords? ["CHARACTER", "SET"]) (keyword? "COLLATE") then
    return some (← nameInside)
  if ← keywords? ["NOT", "NULL"] then return some []
  if ← keyword? "COMMENT" then
    commentText
    return some []
  if ← keyword? "NULL" then return some []
  if ← keyword? "DEFAULT" then return some (← columnValue)
  if ← given special (return (← oneOf? ["MATERIALIZED", "ALIAS"]).isSome) then
    return some (← columnValue)
  if ← given special (keyword? "EPHEMERAL") then
    if ← either (atSymbol ",") (atSymbol ")") then return some []
    return some (← columnValue)
  if ← keywords? ["PRIMARY", "KEY"] then
    characteristics
    return some []
  if ← keyword? "UNIQUE" then
    let _ ← given rules.indexConstraints (keyword? "KEY")
    characteristics
    return some []
  if ← given rules.indexConstraints (keyword? "KEY") then
    characteristics
    return some []
  if ← keyword? "REFERENCES" then return some (← reference)
  if ← keyword? "CHECK" then return some [← checked]
  if ← passed "AUTO_INCREMENT" rules.indexConstraints then return some []
  if ← passed "AUTOINCREMENT" special then return some []
  if ← passed "ASC" special then return some []
  if ← passed "DESC" special then return some []
  if (← keywords? ["ON", "UPDATE"]) && rules.indexConstraints then
    return some (← columnValue)
  if ← keyword? "GENERATED" then return ← generation?
  if ← given special (atKeyword "OPTIONS") then return some (← settingsBehind ["OPTIONS"])
  if ← passed "AS" rules.computedColumns then
    let e ← inMode .columnDefault (inParens expr)
    let _ ← oneOf? ["STORED", "VIRTUAL"]
    return some [.expr e]
  if ← passed "SRID" rules.indexConstraints then return some (← columnValue)
  if ← passed "IDENTITY" special then
    let _ ← identityBounds?
    return some []
  if ← given special (keywords? ["ON", "CONFLICT"]) then
    let _ ← oneOf ["ROLLBACK", "ABORT", "FAIL", "IGNORE", "REPLACE"]
    return some []
  if ← keyword? "INVISIBLE" then return some []
  return none

/-- What is said of a column behind its type. -/
def columnOptions : Parser (List Node) := do
  return (← many columnOption?).flatten

/-- The definition of a column. -/
def columnDefinition : Parser (List Node) := do
  let _ ← ident
  let type ← typeInside
  let options ← many do
    if ← keyword? "CONSTRAINT" then
      let _ ← ident
      match ← columnOption? with
      | some parts => return some parts
      | none => expected "constraint details after CONSTRAINT <name>"
    columnOption?
  return type ++ options.flatten

/-! ## Tables -/

/-- What the definition of a table lists. -/
structure TableContent where
  /-- The number of columns. -/
  columnCount : Nat
  /-- The expressions in the definitions of the columns. -/
  columns : List Node
  /-- The expressions in the constraints. -/
  constraints : List Node

namespace TableContent

/-- No columns and no constraints. -/
def empty : TableContent :=
  ⟨0, [], []⟩

/-- The content with one more column. -/
def addColumn (c : TableContent) (parts : List Node) : TableContent :=
  { c with columnCount := c.columnCount + 1, columns := c.columns ++ parts }

/-- The content with one more constraint. -/
def addConstraint (c : TableContent) (parts : List Node) : TableContent :=
  { c with constraints := c.constraints ++ parts }

/-- All expressions, those of the columns first. -/
def parts (c : TableContent) : List Node :=
  c.columns ++ c.constraints

end TableContent

/-- The columns and constraints of a table, if they stand here. -/
def columnDefinitions : Parser TableContent := do
  if !(← symbol? "(") then return .empty
  if ← symbol? ")" then return .empty
  let step (state : TableContent × Bool) : Parser (Option (TableContent × Bool)) := do
    if state.2 then return none
    let content ←
      match ← tableConstraint? with
      | some parts => pure (state.1.addConstraint parts)
      | none =>
        match ← peekToken with
        | .word .. => do pure (state.1.addColumn (← columnDefinition))
        | _ => expected "column name or constraint definition"
    let comma ← symbol? ","
    let closing ← atSymbol ")"
    if !comma && !closing then expected "',' or ')' after column definition"
    let done := closing && (!comma || (← rule (·.trailingComma)))
    if done then skip 1
    return some (content, done)
  return (← iterate step (.empty, false)).1

end ColumnLineage.Sql.Parser
