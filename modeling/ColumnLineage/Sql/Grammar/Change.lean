import ColumnLineage.Sql.Grammar.Select

/-!
# Statements that change rows

INSERT, UPDATE, DELETE and MERGE, as statements and as bodies of queries.  Only their parts in
visiting order are kept.

## Main definitions

* `Parser.insert`, `Parser.update`, `Parser.delete`, `Parser.merge`: the statements behind their
  keywords.
-/

namespace ColumnLineage.Sql.Parser

/-- The parts of a source and what is joined to it. -/
def treeParts : FromTree → List Node
  | ⟨relation, joins⟩ => .source relation :: joins.flatMap joinParts
where
  /-- The parts of a joined source. -/
  joinParts : Join → List Node
    | ⟨relation, _, _, matching, constraint⟩ =>
      .source relation :: matching.toList.map .expr ++ match constraint with
        | .on predicate => [.expr predicate]
        | .using _ inside => inside
        | .natural | .none => []

/-- The expressions of an item of a select list as parts. -/
def itemParts : SelectItem → List Node
  | .star options | .qualifiedStar _ options => options
  | .exprStar e options => .expr e :: options
  | .expr e | .aliased e _ => [.expr e]

/-- An item of a select list as segments. -/
def itemSegments (item : SelectItem) : List Segment :=
  let spaced (options : List Node) : List Segment :=
    options.flatMap fun o => [.text " ", .node o]
  match item with
  | .star options => Segment.behind "*" (spaced options)
  | .qualifiedStar name options => Segment.behind (name.text ++ ".*") (spaced options)
  | .exprStar e options => .node (.expr e) :: Segment.behind ".*" (spaced options)
  | .expr e => [.node (.expr e)]
  | .aliased e label => [.node (.expr e), .text (" AS " ++ label.text)]

/-- A column or a list of columns with its new value. -/
def assignment : Parser Node := do
  let target : List Segment ←
    if ← atSymbol "(" then do
      let columns ← inParens (separated objectName)
      pure (Segment.between "(" (Segment.commas (columns.map fun c => c.segments "" "")) ")")
    else do pure ((← objectName).segments "" "")
  symbol "="
  return .written (target ++ Segment.behind " = " [← expr])

/-- The rows a change returns, if it returns any. -/
def returning : Parser (List Node) := do
  if ← keyword? "RETURNING" then return (← separated selectItem).flatMap itemParts
  return []

/-- A filter, if one stands here. -/
def filterParts : Parser (List Node) := do
  return (← exprClause "WHERE").toList.map .expr

/-- What happens when a row exists already. -/
def conflictClause : Parser (List Node) := do
  if !(← keyword? "ON") then return []
  if ← keyword? "CONFLICT" then
    let target ←
      if ← keywords? ["ON", "CONSTRAINT"] then nameInside
      else do
        let _ ← identList?
        pure []
    keyword "DO"
    if ← keyword? "NOTHING" then return target
    keywords ["UPDATE", "SET"]
    let changes ← separated assignment
    return target ++ changes ++ (← filterParts)
  keywords ["DUPLICATE", "KEY", "UPDATE"]
  separated assignment

/-- The partition an INSERT fills, if it names one. -/
def insertPartition : Parser (List Node) := do
  if ← keyword? "PARTITION" then return (← inParens (separated expr)).map .expr
  return []

/-- The name of the table an INSERT fills. -/
def insertTarget : Parser ParsedName := do
  let rules ← rules
  let _ ← keyword? "TABLE"
  let name ← objectName
  if rules.insertAlias then
    let free := !(← queryAhead) && !(["DEFAULT", "VALUES"].contains (← peekKeyword))
    if free then
      if ← keyword? "AS" then
        let _ ← ident
      else
        let _ ← attempt ident
  return name

/-- The rows an INSERT adds, with the partition it fills. -/
def insertRows : Parser (List Node) := do
  let rules ← rules
  if ← keywords? ["DEFAULT", "VALUES"] then return []
  let subquery := (← peekToken) == .symbol "(" && (← peekAt 1).keyword == "SELECT"
  let partition ←
    if subquery then pure []
    else do
      if rules.aliasRule == .indexHints && (← ahead (symbols? ["(", ")"])) then skip 2
      else
        let _ ← identList?
      let partition ← insertPartition
      if rules.columnsAfterPartition then
        let _ ← identList?
      pure partition
  if ["FORMAT", "SETTINGS"].contains (← peekKeyword) then return partition
  if ← given rules.insertSet (keyword? "SET") then
    return (← separated assignment) ++ partition
  return .query (← query) :: partition

/-- The formats of the files of a table. -/
def fileFormats : List Keyword :=
  ["AVRO", "JSONFILE", "ORC", "PARQUET", "RCFILE", "SEQUENCEFILE", "TEXTFILE"]

/-- The format of a file. -/
def fileFormat : Parser Unit := do
  if (← oneOf? fileFormats).isNone then expected "fileformat"

/-- What a change does when it breaks a constraint, if that stands here. -/
def conflictWord? : Parser Bool :=
  anyOf? [["OR", "REPLACE"], ["OR", "ROLLBACK"], ["OR", "ABORT"], ["OR", "FAIL"], ["OR", "IGNORE"]]

/-- INSERT behind its keyword. -/
def insert : Parser (List Node) := do
  let rules ← rules
  let _ ← conflictWord?
  if rules.insertModifiers then
    let _ ← oneOf? ["LOW_PRIORITY", "DELAYED", "HIGH_PRIORITY"]
    let _ ← keyword? "IGNORE"
  let _ ← keyword? "OVERWRITE"
  let _ ← keyword? "INTO"
  let _ ← keyword? "LOCAL"
  if ← keyword? "DIRECTORY" then
    let _ ← stringContent
    if ← keywords? ["STORED", "AS"] then fileFormat
    return [.query (← query)]
  let name ← insertTarget
  let rows ← insertRows
  let settings ← settings?
  let format : List Node ←
    if ← given rules.settings (keyword? "FORMAT") then do
      let _ ← ident
      pure (((← attempt (separated expr)).getD []).map .expr)
    else pure []
  let row ←
    if ← given rules.insertModifiers (keyword? "AS") then do
      let inside ← nameInside
      let _ ← identList?
      pure inside
    else pure []
  let conflict ← conflictClause
  let returned ← returning
  return name.parts ++ rows ++ conflict ++ returned ++ row ++ settings ++ format

/-- UPDATE behind its keyword. -/
def update : Parser (List Node) := do
  let _ ← conflictWord?
  let table ← fromTree
  let early ← if ← keyword? "FROM" then do pure (some (← fromList)) else pure none
  keyword "SET"
  let changes ← separated assignment
  let sources ← match early with
    | some sources => pure sources
    | none => if ← keyword? "FROM" then fromList else pure []
  let filter ← filterParts
  let returned ← returning
  let limit := (← exprClause "LIMIT").toList.map Node.expr
  return treeParts table ++ changes ++ sources.flatMap treeParts ++ filter ++ returned ++ limit

/-- DELETE behind its keyword. -/
def delete : Parser (List Node) := do
  let tables ←
    if ← keyword? "FROM" then pure []
    else if ← rule (·.deleteWithoutFrom) then pure []
    else do
      let tables ← separated nameInside
      keyword "FROM"
      pure tables
  let sources ← separated fromTree
  let others ← if ← keyword? "USING" then separated fromTree else pure []
  let filter ← filterParts
  let returned ← returning
  let order : List Node ←
    if ← keywords? ["ORDER", "BY"] then do pure [.written (← orderItems)] else pure []
  let limit := (← exprClause "LIMIT").toList.map Node.expr
  return tables.flatten ++ sources.flatMap treeParts ++ others.flatMap treeParts ++ filter ++
    returned ++ order ++ limit

/-- Which rows a clause of MERGE is for. -/
inductive MergeRows where
  | matched
  | absent
  | absentFromTarget
  | absentFromSource
deriving DecidableEq

/-- The words for the rows a clause of MERGE is for. -/
def MergeRows.text : MergeRows → String
  | matched => "MATCHED"
  | absent => "NOT MATCHED"
  | absentFromTarget => "NOT MATCHED BY TARGET"
  | absentFromSource => "NOT MATCHED BY SOURCE"

/-- The rows are in the target, so that they can be changed there. -/
def MergeRows.inTarget : MergeRows → Bool
  | matched | absentFromSource => true
  | absent | absentFromTarget => false

/-- The rows a clause of MERGE is for, behind WHEN. -/
def mergeRows : Parser MergeRows := do
  let absent ← keyword? "NOT"
  keyword "MATCHED"
  if !absent then return .matched
  if ← keywords? ["BY", "SOURCE"] then return .absentFromSource
  if ← keywords? ["BY", "TARGET"] then return .absentFromTarget
  return .absent

/-- What a clause of MERGE does. -/
def mergeAction (rows : MergeRows) : Parser (List Node) := do
  let rules ← rules
  let place ← peek
  let allow (k : Keyword) (allowed : Bool) : Parser Unit :=
    if allowed then return
    else refuseAt s!"{k} is not allowed in a {rows.text} merge clause" place
  match ← oneOf? ["UPDATE", "INSERT", "DELETE"] with
  | some "UPDATE" =>
    allow "UPDATE" rows.inTarget
    keyword "SET"
    let changes ← separated assignment
    let filter ← filterParts
    let deleted ←
      if ← keyword? "DELETE" then do
        keyword "WHERE"
        pure [Node.expr (← expr)]
      else pure []
    return changes ++ filter ++ deleted
  | some "DELETE" =>
    allow "DELETE" rows.inTarget
    return []
  | some _ =>
    allow "INSERT" !rows.inTarget
    let allowEmpty := rules.aliasRule == .indexHints
    let columns ←
      if ← given allowEmpty (ahead (symbols? ["(", ")"])) then do
        skip 2
        pure []
      else if ← atSymbol "(" then inParens (separated nameInside)
      else pure []
    let values ←
      if ← given rules.wholeRowInsert (keyword? "ROW") then pure []
      else do
        keyword "VALUES"
        match ← valueRows "VALUES" allowEmpty with
        | .other _ parts => pure parts
        | _ => pure []
    return columns.flatten ++ values ++ (← filterParts)
  | none => refuseAt "expected UPDATE, DELETE or INSERT in merge clause" place

/-- MERGE behind its keyword. -/
def merge : Parser (List Node) := do
  let _ ← keyword? "INTO"
  let target ← source
  keyword "USING"
  let origin ← source
  keyword "ON"
  let condition ← expr
  let clauses ← many do
    if !(← keyword? "WHEN") then return none
    let rows ← mergeRows
    let predicate := (← exprClause "AND").toList.map Node.expr
    keyword "THEN"
    return some (predicate ++ (← mergeAction rows))
  let returned ←
    match ← oneOf? ["OUTPUT", "RETURNING"] with
    | some k => do
      let items ← selectList
      let target ← if k == "OUTPUT" then into? else pure []
      pure (items.flatMap itemParts ++ target)
    | none => pure []
  return .source target :: .source origin :: .expr condition :: clauses.flatten ++ returned

end ColumnLineage.Sql.Parser
