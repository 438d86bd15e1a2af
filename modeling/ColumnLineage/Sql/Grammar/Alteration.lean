import ColumnLineage.Sql.Grammar.Creation

/-!
# Alterations

ALTER changes objects and DROP removes them.  They are read for the expressions in them; what an
object other than a table or a view becomes is read over.

## Main definitions

* `Parser.alter`, `Parser.drop`: the commands behind their keywords.
-/

namespace ColumnLineage.Sql.Parser

/-- The rest of a command without queries. -/
def wordsOnly : Parser (List Node) := do
  restOfStatement
  return []

/-! ## Changes of columns and constraints -/

/-- What becomes of the objects that depend on a dropped one. -/
def dependents : Parser Unit := do
  let _ ← oneOf? ["CASCADE", "RESTRICT"]

/-- Expressions in parentheses. -/
def exprsInParens : Parser (List Node) := do
  return (← inParens (separated expr)).map .expr

/-- The place of a column among the others, if it is chosen. -/
def columnPosition : Parser Unit := do
  if !(← rule (·.indexConstraints)) then return
  if !(← keyword? "FIRST") then namedBy "AFTER"

/-- A projection that is kept beside a table, behind PROJECTION. -/
def projection : Parser (List Node) := do
  unlessExists
  let _ ← ident
  inParens do
    keyword "SELECT"
    let items ← selectList
    let (keys, modifiers) ← grouping
    return items.flatMap itemParts ++ keys.map .expr ++ modifiers ++ (← orderClause)

/-- What is added to a table, behind ADD: a constraint, a projection, partitions, or a column. -/
def addition : Parser (List Node) := do
  match ← tableConstraint? with
  | some parts =>
    let _ ← keywords? ["NOT", "VALID"]
    return parts
  | none => pure ()
  if ← given (← rule (·.definitionOptions)) (keyword? "PROJECTION") then return ← projection
  unlessExists
  let partitions ← many do
    if ← keyword? "PARTITION" then return some (← exprsInParens) else return none
  if !partitions.isEmpty then return partitions.flatten
  let _ ← keyword? "COLUMN"
  if ← rule (·.guardedColumns) then unlessExists
  let column ← columnDefinition
  columnPosition
  return column

/-- A new name of a table, a constraint or a column, behind RENAME. -/
def newName : Parser (List Node) := do
  let pair : Parser Unit := do
    let _ ← ident
    keyword "TO"
    let _ ← ident
  if ← given (← rule (·.columnConversions)) (keyword? "CONSTRAINT") then pair
  else if (← oneOf? ["TO", "AS"]).isSome then return ← nameInside
  else
    let _ ← keyword? "COLUMN"
    pair
  return []

/-- What is removed from a table, behind DROP. -/
def removal : Parser (List Node) := do
  let rules ← rules
  if ← anyOf? [["IF", "EXISTS", "PARTITION"], ["PARTITION"]] then return ← exprsInParens
  let ifExists : Parser Unit := do
    let _ ← keywords? ["IF", "EXISTS"]
  if ← keyword? "CONSTRAINT" then
    ifExists
    let _ ← ident
    dependents
  else if ← keywords? ["PRIMARY", "KEY"] then dependents
  else if ← keywords? ["FOREIGN", "KEY"] then
    let _ ← ident
    dependents
  else if ← keyword? "INDEX" then
    let _ ← ident
  else if ← passed "PROJECTION" rules.definitionOptions then
    ifExists
    let _ ← ident
  else if ← keywords? ["CLUSTERING", "KEY"] then pure ()
  else
    let _ ← keyword? "COLUMN"
    ifExists
    if rules.looseTables then
      let _ ← separated ident
    else
      let _ ← ident
    dependents
  return []

/-- A new type of a column, and how its values are converted. -/
def newType : Parser (List Node) := do
  let type ← typeInside
  if ← given (← rule (·.columnConversions)) (keyword? "USING") then return type ++ [.expr (← expr)]
  return type

/-- A change of a column, behind ALTER. -/
def columnChange : Parser (List Node) := do
  let _ ← keyword? "COLUMN"
  let _ ← ident
  if ← anyOf? [["SET", "NOT", "NULL"], ["DROP", "NOT", "NULL"]] then return []
  if ← keywords? ["SET", "DEFAULT"] then return [.expr (← expr)]
  if ← keywords? ["DROP", "DEFAULT"] then return []
  if ← anyOf? [["SET", "DATA", "TYPE"], ["TYPE"]] then return ← newType
  if ← keywords? ["ADD", "GENERATED"] then
    let _ ← anyOf? [["ALWAYS"], ["BY", "DEFAULT"]]
    keywords ["AS", "IDENTITY"]
    if ← atSymbol "(" then inParens sequenceOptions
    return []
  if ← rule (·.columnConversions) then
    expected <| "SET/DROP NOT NULL, SET DEFAULT, SET DATA TYPE, or ADD GENERATED after ALTER " ++
      "COLUMN"
  expected "SET/DROP NOT NULL, SET DEFAULT, or SET DATA TYPE after ALTER COLUMN"

/-- A new definition of a column, behind CHANGE or MODIFY; CHANGE also gives it a name. -/
def redefinition (renamed : Bool) : Parser (List Node) := do
  let _ ← keyword? "COLUMN"
  let _ ← ident
  if renamed then
    let _ ← ident
  let type ← typeInside
  let options ← columnOptions
  columnPosition
  return type ++ options

/-! ## Changes of tables -/

/-- What DISABLE and ENABLE switch, each form telling whether a name follows. -/
def switches : List (List Keyword × Bool) :=
  [(["ROW", "LEVEL", "SECURITY"], false), (["RULE"], true), (["TRIGGER"], true)]

/-- What only ENABLE switches. -/
def enabledSwitches : List (List Keyword × Bool) :=
  [(["ALWAYS", "RULE"], true), (["ALWAYS", "TRIGGER"], true), (["REPLICA", "RULE"], true),
    (["REPLICA", "TRIGGER"], true)]

/-- Takes one of some switches with its name, or fails with a complaint. -/
def switched (complaint : String) : List (List Keyword × Bool) → Parser (List Node)
  | [] => expected complaint
  | (form, isNamed) :: more => do
    if ← keywords? form then
      if isNamed then
        let _ ← ident
      return []
    switched complaint more

/-- A part of a table that is moved as a whole. -/
def movedPart : Parser (List Node) := do
  let _ ← oneOf ["PART", "PARTITION"]
  return [.expr (← expr)]

/-- A part of a table that is kept apart, with the name it is kept under. -/
def frozenPart : Parser (List Node) := do
  let part ← movedPart
  if ← keyword? "WITH" then
    keyword "NAME"
    let _ ← ident
  return part

/-- The rows of a projection that are made or removed. -/
def projectionRows : Parser (List Node) := do
  let _ ← keywords? ["IF", "EXISTS"]
  let _ ← ident
  if ← keywords? ["IN", "PARTITION"] then
    let _ ← ident
  return []

/-- New values of partitions, behind PARTITION. -/
def partitionChange : Parser (List Node) := do
  let old ← exprsInParens
  keywords ["RENAME", "TO", "PARTITION"]
  return old ++ (← exprsInParens)

/-- The owner of an object. -/
def owner : Parser Unit := do
  let _ ← ident

/-- How a table tells its rows apart for others that follow it, behind REPLICA IDENTITY. -/
def replicaIdentity : Parser (List Node) := do
  if (← oneOf? ["NOTHING", "FULL", "DEFAULT"]).isSome then return []
  if !(← keywords? ["USING", "INDEX"]) then
    expected "NOTHING, FULL, DEFAULT, or USING INDEX index_name after REPLICA IDENTITY"
  let _ ← ident
  return []

/-- A change of a table that sets options, or no change at all. -/
def optionChange : Parser (List Node) := do
  let properties ← settingsBehind ["SET", "TBLPROPERTIES"]
  if !properties.isEmpty then return properties
  let options ← settingsBehind ["SET"]
  if !options.isEmpty then return options
  expected <| "ADD, RENAME, PARTITION, SWAP, DROP, REPLICA IDENTITY, SET, or SET TBLPROPERTIES " ++
    "after ALTER TABLE"

/-- A change of a table. -/
def tableChange : Parser (List Node) := do
  let rules ← rules
  let special := rules.definitionOptions
  if ← keyword? "ADD" then return ← addition
  if ← keyword? "RENAME" then return ← newName
  if ← keyword? "DISABLE" then
    return ← switched "ROW LEVEL SECURITY, RULE, or TRIGGER after DISABLE" switches
  if ← keyword? "ENABLE" then
    return ← switched "ALWAYS, REPLICA, ROW LEVEL SECURITY, RULE, or TRIGGER after ENABLE"
      (enabledSwitches ++ switches)
  if (← anyOf? [["CLEAR", "PROJECTION"], ["MATERIALIZE", "PROJECTION"]]) && special then
    return ← projectionRows
  if ← keyword? "DROP" then return ← removal
  if ← keyword? "PARTITION" then return ← partitionChange
  if ← keyword? "CHANGE" then return ← redefinition true
  if ← keyword? "MODIFY" then return ← redefinition false
  if ← keyword? "ALTER" then return ← columnChange
  if ← keyword? "SWAP" then
    keyword "WITH"
    return ← nameInside
  if ← given rules.tableOwners (keywords? ["OWNER", "TO"]) then
    owner
    return []
  if ← given special (return (← oneOf? ["ATTACH", "DETACH"]).isSome) then return ← movedPart
  if ← given special (return (← oneOf? ["FREEZE", "UNFREEZE"]).isSome) then return ← frozenPart
  if ← keywords? ["CLUSTER", "BY"] then return ← exprsInParens
  if ← anyOf? [["SUSPEND", "RECLUSTER"], ["RESUME", "RECLUSTER"]] then return []
  if ← changeMethod? then return []
  if ← keyword? "AUTO_INCREMENT" then
    let _ ← symbol? "="
    let _ ← numberValue
    return []
  if ← keywords? ["REPLICA", "IDENTITY"] then return ← replicaIdentity
  if ← keywords? ["VALIDATE", "CONSTRAINT"] then
    let _ ← ident
    return []
  optionChange

/-- ALTER TABLE behind its keywords. -/
def alterTable : Parser (List Node) := do
  let _ ← keywords? ["IF", "EXISTS"]
  let _ ← keyword? "ONLY"
  let name ← objectName
  onCluster
  let changes ← separated tableChange
  if ← anyOf? [["LOCATION"], ["SET", "LOCATION"]] then
    let _ ← ident
  return name.parts ++ changes.flatten

/-! ## Changes of other objects -/

/-- ALTER VIEW behind its keywords. -/
def alterView : Parser (List Node) := do
  let name ← objectName
  let _ ← identList?
  let options ← settingsBehind ["WITH"]
  keyword "AS"
  let content ← query
  return name.parts ++ .query content :: options

/-- ALTER INDEX behind its keywords. -/
def alterIndex : Parser (List Node) := do
  let old ← nameInside
  if !(← keyword? "RENAME") then expected "RENAME after ALTER INDEX"
  if !(← keyword? "TO") then expected "TO after RENAME"
  return old ++ (← nameInside)

/-- ALTER behind its keyword. -/
def alter : Parser (List Node) := do
  if ← rule (·.looseTables) then
    if ← keyword? "SESSION" then
      if (← oneOf? ["SET", "UNSET"]).isNone then expected "SET or UNSET"
      return ← wordsOnly
    if ← anyOf? [["DYNAMIC", "TABLE"], ["EXTERNAL", "TABLE"]] then return ← wordsOnly
  match ← oneOf ["VIEW", "TYPE", "TABLE", "INDEX", "ROLE", "POLICY", "CONNECTOR", "ICEBERG",
      "SCHEMA", "USER", "OPERATOR"] with
  | "TABLE" => alterTable
  | "ICEBERG" =>
    keyword "TABLE"
    alterTable
  | "VIEW" => alterView
  | "INDEX" => alterIndex
  | _ => wordsOnly

/-! ## Removed objects -/

/-- The objects that DROP may remove, whose names are written alike. -/
def droppedObjects : List (List Keyword) :=
  [["TABLE"], ["VIEW"], ["MATERIALIZED", "VIEW"], ["INDEX"], ["ROLE"], ["SCHEMA"], ["DATABASE"],
    ["SEQUENCE"], ["STAGE"], ["TYPE"], ["USER"], ["STREAM"]]

/-- A removed object whose name is written in a way of its own, behind the word for its kind; the
rest of the statement belongs to an operator. -/
def droppedDefinition (found : Lexeme) : Parser (List Node) := do
  let ifExists : Parser Unit := do
    let _ ← keywords? ["IF", "EXISTS"]
  match found.keyword with
  | "FUNCTION" | "PROCEDURE" =>
    ifExists
    let parts ← separated functionSignature
    dependents
    return parts.flatten
  | "POLICY" =>
    ifExists
    let _ ← ident
    keyword "ON"
    let table ← nameInside
    dependents
    return table
  | "CONNECTOR" =>
    ifExists
    let _ ← ident
  | "DOMAIN" =>
    ifExists
    let name ← nameInside
    dependents
    return name
  | "SECRET" =>
    ifExists
    let _ ← ident
    namedBy "FROM"
  | "TRIGGER" =>
    if !(← rule (·.triggers)) then fail (.expected "an object type after DROP" found)
    ifExists
    let name ← nameInside
    let table ← if ← keyword? "ON" then nameInside else pure []
    dependents
    return name ++ table
  | "EXTENSION" =>
    ifExists
    let _ ← separated ident
    dependents
  | _ => restOfStatement
  return []

/-- The kinds of objects that `droppedDefinition` knows. -/
def droppedDefinitions : List Keyword :=
  ["FUNCTION", "POLICY", "CONNECTOR", "DOMAIN", "PROCEDURE", "SECRET", "TRIGGER", "EXTENSION",
    "OPERATOR"]

/-- DROP behind its keyword. -/
def drop : Parser (List Node) := do
  let rules ← rules
  let _ ← given rules.temporaryDrops (keyword? "TEMPORARY")
  let _ ← given rules.attachesFiles (keyword? "PERSISTENT")
  let found ← peek
  if droppedDefinitions.contains found.keyword then
    skip 1
    return ← droppedDefinition found
  if !(← anyOf? droppedObjects) then
    expected <| "CONNECTOR, DATABASE, EXTENSION, FUNCTION, INDEX, OPERATOR, POLICY, PROCEDURE, " ++
      "ROLE, SCHEMA, SECRET, SEQUENCE, STAGE, TABLE, TRIGGER, TYPE, VIEW, MATERIALIZED VIEW or " ++
      "USER after DROP"
  let _ ← keywords? ["IF", "EXISTS"]
  let names ← separated objectName
  let place ← peek
  let cascade ← keyword? "CASCADE"
  let restrict ← keyword? "RESTRICT"
  let purge ← keyword? "PURGE"
  if cascade && restrict then
    refuseAt "Cannot specify both CASCADE and RESTRICT in DROP" place
  if found.keyword == "ROLE" && (cascade || restrict || purge) then
    refuseAt "Cannot specify CASCADE, RESTRICT, or PURGE in DROP ROLE" place
  let table ← if ← keyword? "ON" then nameInside else pure []
  return names.flatMap ParsedName.parts ++ table

end ColumnLineage.Sql.Parser
