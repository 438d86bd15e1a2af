import ColumnLineage.Sql.Grammar.Alteration

/-!
# Administration

Commands that list objects, give and take privileges, and look after sessions and files.

## Main definitions

* `Parser.listing`: SHOW behind its keyword.
* `Parser.grant`, `Parser.deny`, `Parser.revoke`: privileges.
* `Parser.comment`, `Parser.use`, `Parser.kill`, `Parser.discard`, `Parser.flush`,
  `Parser.attach`, `Parser.detach`: the other commands behind their keywords.
-/

namespace ColumnLineage.Sql.Parser

/-! ## Lists of objects -/

/-- What listed objects must match, if that is said. -/
def listFilter : Parser (List Node) := do
  if (← oneOf? ["LIKE", "ILIKE"]).isSome then
    let _ ← stringContent
    return []
  if ← keyword? "WHERE" then return [.expr (← expr)]
  let _ ← attempt stringContent
  return []

/-- Where listed objects are, if that is said. -/
def listPlace : Parser (List Node) := do
  if (← oneOf? ["FROM", "IN"]).isNone then return []
  match ← oneOf? ["ACCOUNT", "DATABASE", "SCHEMA", "TABLE", "VIEW"] with
  | some k =>
    let nameless ← given (["DATABASE", "SCHEMA"].contains k)
      (either (atKeywords ["STARTS", "WITH"]) (atKeyword "LIMIT"))
    if nameless then return []
    return (← attempt nameInside).getD []
  | none =>
    let place ← nameInside
    if (← oneOf? ["FROM", "IN"]).isSome then
      let _ ← ident
    return place

/-- Which objects are listed, and how many. -/
def listOptions : Parser (List Node) := do
  let filterFirst ← rule (·.looseTables)
  let early ← if filterFirst then listFilter else pure []
  let place ← listPlace
  let late ← if filterFirst then pure [] else listFilter
  if ← keywords? ["STARTS", "WITH"] then
    let _ ← value
  let limit : List Node ←
    if ← keyword? "LIMIT" then
      if ← keyword? "ALL" then pure [] else do pure [.expr (← expr)]
    else pure []
  if ← keyword? "FROM" then
    let _ ← value
  return early ++ place ++ late ++ limit

/-- The words of a variable, up to the end of the statement or an equals sign. -/
def variableWords : Parser Unit := fun _ lexemes =>
  .ok ((), lexemes.dropWhile fun l =>
    !(l.token == .eof || [";", "=", "|>"].any fun s => l.token == .symbol s))

/-- SHOW behind its keyword. -/
def listing : Parser (List Node) := do
  let rules ← rules
  let _ ← keyword? "TERSE"
  let extended ← keyword? "EXTENDED"
  let full ← keyword? "FULL"
  let _ ← keyword? "SESSION"
  let _ ← keyword? "GLOBAL"
  let _ ← keyword? "EXTERNAL"
  if ← anyOf? [["COLUMNS"], ["FIELDS"], ["TABLES"], ["MATERIALIZED", "VIEWS"], ["VIEWS"]] then
    return ← listOptions
  if ← keyword? "FUNCTIONS" then return ← listFilter
  if ← keyword? "PROCESSLIST" then return []
  if extended || full then refuse "EXTENDED/FULL are not supported with this type of SHOW query"
  if ← keyword? "CREATE" then
    let _ ← oneOf ["TABLE", "TRIGGER", "FUNCTION", "PROCEDURE", "EVENT", "VIEW"]
    return ← nameInside
  if ← anyOf? [["COLLATION"], ["CHARACTER", "SET"], ["CHARSET"]] then return ← listFilter
  if ← given rules.flushes (anyOf? [["VARIABLES"], ["STATUS"]]) then return ← listFilter
  if ← anyOf? [["CATALOGS"], ["DATABASES"], ["SCHEMAS"]] then
    let _ ← keyword? "HISTORY"
    return ← listOptions
  variableWords
  return []

/-! ## Privileges -/

/-- The privileges that are single words or fixed phrases. -/
def plainPrivileges : List (List Keyword) :=
  [["IMPORTED", "PRIVILEGES"], ["ADD", "SEARCH", "OPTIMIZATION"], ["ATTACH", "LISTING"],
    ["ATTACH", "POLICY"], ["BIND", "SERVICE", "ENDPOINT"], ["EVOLVE", "SCHEMA"],
    ["IMPORT", "SHARE"], ["AUDIT"], ["CONNECT"], ["DELETE"], ["FAILOVER"], ["OPERATE"], ["READ"],
    ["REPLICATE"], ["TEMPORARY"], ["TEMP"], ["TRIGGER"], ["TRUNCATE"], ["USAGE"], ["OWNERSHIP"],
    ["DROP"]]

/-- The privileges that a kind of object may follow. -/
def objectPrivileges : List Keyword :=
  ["APPLY", "CREATE", "EXEC", "EXECUTE", "MANAGE", "MODIFY", "MONITOR"]

/-- The lexemes in front of a comma, of one of some keywords, or of the end. -/
def wordsBefore (ends : List Keyword) (comma : Bool) : Parser Unit := fun _ lexemes =>
  .ok ((), lexemes.dropWhile fun l =>
    !(ends.contains l.keyword || l.token == .eof || l.token == .symbol ";" ||
      (comma && l.token == .symbol ",")))

/-- A privilege. -/
def privilege : Parser (List Node) := do
  if ← keywords? ["DATABASE", "ROLE"] then return ← nameInside
  if ← anyOf? plainPrivileges then return []
  if (← oneOf? ["INSERT", "REFERENCES", "SELECT", "UPDATE"]).isSome then
    let _ ← identList?
    return []
  if (← oneOf? objectPrivileges).isSome then
    wordsBefore ["ON", "TO", "FROM"] true
    return []
  if ← keyword? "ROLE" then return ← nameInside
  expected "a privilege keyword"

/-- Privileges and whether they are for objects, in front of `side`. -/
def privileges (side : Keyword) : Parser (List Node × Bool) := do
  let parts ←
    if ← keyword? "ALL" then do
      let _ ← keyword? "PRIVILEGES"
      pure []
    else separated privilege
  let onObjects ← keyword? "ON"
  if onObjects then
    if identOf (← peekToken) == none && !(← atSymbol "*") then expected "identifier"
    wordsBefore [side] false
  return (parts.flatten, onObjects)

/-- The kinds of those who may have privileges. -/
def granteeKinds : List (List Keyword) :=
  [["ROLE"], ["USER"], ["SHARE"], ["GROUP"], ["DATABASE", "ROLE"], ["APPLICATION", "ROLE"],
    ["APPLICATION"]]

/-- Whom privileges are given to or taken from.  A kind holds until another one stands here, and
PUBLIC has no name. -/
def grantees : Parser (List Node) := do
  let step (state : List Node × Bool × Bool) : Parser (Option (List Node × Bool × Bool)) := do
    let (parts, everybodyBefore, done) := state
    if done then return none
    let everybody ←
      if ← keyword? "PUBLIC" then pure true
      else if ← anyOf? granteeKinds then pure false
      else pure everybodyBefore
    let inside ←
      if everybody then pure []
      else do
        let inside ← grantee
        if ← symbol? ":" then
          let _ ← ident
        pure inside
    return some (parts ++ inside, everybody, !(← symbol? ","))
  return (← iterate step ([], false, false)).1

/-- GRANT behind its keyword. -/
def grant : Parser (List Node) := do
  let (granted, _) ← privileges "TO"
  keyword "TO"
  let receivers ← grantees
  let _ ← keywords? ["WITH", "GRANT", "OPTION"]
  let _ ← anyOf? [["COPY", "CURRENT", "GRANTS"], ["REVOKE", "CURRENT", "GRANTS"]]
  if ← keyword? "AS" then
    let _ ← ident
  if ← keywords? ["GRANTED", "BY"] then
    let _ ← ident
  return granted ++ receivers

/-- DENY behind its keyword. -/
def deny : Parser (List Node) := do
  let (denied, onObjects) ← privileges "TO"
  if !onObjects then refuseAt "DENY statements must specify an object" (← peek)
  keyword "TO"
  let receivers ← grantees
  let _ ← keyword? "CASCADE"
  if ← keyword? "AS" then
    let _ ← ident
  return denied ++ receivers

/-- REVOKE behind its keyword. -/
def revoke : Parser (List Node) := do
  let (taken, _) ← privileges "FROM"
  keyword "FROM"
  let holders ← grantees
  if ← keywords? ["GRANTED", "BY"] then
    let _ ← ident
  dependents
  return taken ++ holders

/-! ## Sessions and files -/

/-- The objects that may have a comment. -/
def commentedObjects : List (List Keyword) :=
  [["COLUMN"], ["DATABASE"], ["DOMAIN"], ["EXTENSION"], ["FUNCTION"], ["INDEX"],
    ["MATERIALIZED", "VIEW"], ["PROCEDURE"], ["ROLE"], ["SCHEMA"], ["SEQUENCE"], ["TABLE"],
    ["TYPE"], ["USER"], ["VIEW"]]

/-- COMMENT behind its keyword. -/
def comment : Parser (List Node) := do
  let _ ← keywords? ["IF", "EXISTS"]
  keyword "ON"
  if !(← anyOf? commentedObjects) then expected "comment object_type"
  let name ← nameInside
  keyword "IS"
  if !(← keyword? "NULL") then
    let _ ← stringContent
  return name

/-- USE behind its keyword. -/
def use : Parser (List Node) := do
  let rules ← rules
  if (← oneOf? rules.usedObjects) == some "SECONDARY" then
    let _ ← oneOf ["ROLES", "ROLE"]
    if !(← keyword? "NONE") && !(← keyword? "ALL") then
      let _ ← separated ident
    return []
  nameInside

/-- KILL behind its keyword. -/
def kill : Parser (List Node) := do
  let k ← oneOf? ["CONNECTION", "QUERY", "MUTATION"]
  let _ ← wholeNumber
  if k == some "MUTATION" && !(← rule (·.definitionOptions)) then
    expected "Unsupported type for KILL, allowed: CONNECTION | QUERY"
  return []

/-- DISCARD behind its keyword. -/
def discard : Parser (List Node) := do
  match ← oneOf? ["ALL", "PLANS", "SEQUENCES", "TEMP", "TEMPORARY"] with
  | some _ => return []
  | none => expected "ALL, PLANS, SEQUENCES, TEMP or TEMPORARY after DISCARD"

/-- What FLUSH may empty. -/
def flushedObjects : List (List Keyword) :=
  [["BINARY", "LOGS"], ["ENGINE", "LOGS"], ["ERROR", "LOGS"], ["GENERAL", "LOGS"], ["HOSTS"],
    ["PRIVILEGES"], ["OPTIMIZER_COSTS"], ["SLOW", "LOGS"], ["STATUS"], ["USER_RESOURCES"],
    ["LOGS"]]

/-- The tables that are flushed: names and words up to a lexeme that is no word, which is taken
too. -/
def flushedTables : Parser (List Node) := do
  let names ← many do
    let l ← peek
    if !l.token.isWord then return none
    if vocabulary.contains l.keyword then
      skip 1
      return some []
    return some (← separated nameInside)
  skip 1
  return names.flatten.flatten

/-- FLUSH behind its keyword. -/
def flush : Parser (List Node) := do
  if !(← rule (·.flushes)) then refuseAt "Unsupported statement FLUSH" (← peek)
  let _ ← oneOf? ["NO_WRITE_TO_BINLOG", "LOCAL"]
  if ← keyword? "TABLES" then return ← flushedTables
  if ← keywords? ["RELAY", "LOGS"] then
    if ← keywords? ["FOR", "CHANNEL"] then return ← nameInside
    return []
  if !(← anyOf? flushedObjects) then
    expected <| "BINARY LOGS, ENGINE LOGS, ERROR LOGS, GENERAL LOGS, HOSTS, LOGS, PRIVILEGES, " ++
      "OPTIMIZER_COSTS, RELAY LOGS [FOR CHANNEL channel], SLOW LOGS, STATUS, USER_RESOURCES"
  return []

/-- The options of an attached file. -/
def fileOptions : Parser Unit := do
  let one : Parser Unit := do
    if ← keyword? "READ_ONLY" then
      let _ ← oneOf? ["TRUE", "FALSE"]
    else if ← keyword? "TYPE" then
      let _ ← ident
    else expected "expected one of: ), READ_ONLY, TYPE"
  if ← atSymbol "(" then
    let _ ← inParens (separated one)

/-- ATTACH behind its keyword. -/
def attach : Parser (List Node) := do
  let _ ← keyword? "DATABASE"
  if ← rule (·.attachesFiles) then
    let _ ← keywords? ["IF", "NOT", "EXISTS"]
    let _ ← ident
    if ← keyword? "AS" then
      let _ ← ident
    fileOptions
    return []
  let file ← expr
  keyword "AS"
  let _ ← ident
  return [.expr file]

/-- DETACH behind its keyword. -/
def detach : Parser (List Node) := do
  let _ ← keyword? "DATABASE"
  let _ ← keywords? ["IF", "EXISTS"]
  let _ ← ident
  return []

end ColumnLineage.Sql.Parser
