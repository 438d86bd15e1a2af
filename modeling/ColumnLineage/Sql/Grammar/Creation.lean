import ColumnLineage.Sql.Grammar.Catalog
import ColumnLineage.Sql.Grammar.Routine
import ColumnLineage.Sql.Grammar.Warehouse

/-!
# Creation

CREATE defines tables and views, which have lineage, and other objects, which are read for the
queries in them or up to their end.

## Main definitions

* `Parser.create`: any definition, behind its keyword.
-/

namespace ColumnLineage.Sql.Parser

/-- A definition behind the word that names its kind, given the lexeme of that word. -/
abbrev ObjectForm := Lexeme → Parser (List Node)

/-- The objects that CREATE OR REPLACE may define, besides tables and views. -/
def replaceableObjects : List (Keyword × ObjectForm) :=
  [("POLICY", fun _ => createPolicy), ("EXTERNAL", fun _ => createExternalTable),
    ("FUNCTION", createFunction), ("DOMAIN", fun _ => createDomain),
    ("TRIGGER", fun found => do
      if ← rule (·.triggers) then createTrigger else notCreated found),
    ("MACRO", fun found => do if ← rule (·.macros) then createMacro else notCreated found),
    ("SECRET", fun _ => createSecret), ("USER", fun _ => createUser)]

/-- An operator, which is read up to the end of the statement. -/
def createOperator : Parser (List Node) := do
  let _ ← oneOf? ["FAMILY", "CLASS"]
  restOfStatement
  return []

/-- The other objects that CREATE may define. -/
def otherObjects : List (Keyword × ObjectForm) :=
  [("EXTENSION", fun _ => createExtension), ("INDEX", fun _ => createIndex),
    ("VIRTUAL", fun _ => createVirtualTable), ("SCHEMA", fun _ => createSchema),
    ("DATABASE", fun _ => createDatabase), ("ROLE", fun _ => createRole),
    ("SEQUENCE", fun _ => createSequence), ("TYPE", fun _ => createType),
    ("PROCEDURE", fun _ => createProcedure), ("CONNECTOR", fun _ => createConnector),
    ("OPERATOR", fun _ => createOperator), ("SERVER", fun _ => createServer)]

/-- The words of one database in front of VIEW. -/
def viewParameters : Parser (List Node) := do
  if ← keyword? "ALGORITHM" then
    symbol "="
    let _ ← oneOf ["UNDEFINED", "MERGE", "TEMPTABLE"]
  let definer ←
    if ← keyword? "DEFINER" then do
      symbol "="
      grantee
    else pure []
  if ← keywords? ["SQL", "SECURITY"] then
    let _ ← oneOf ["DEFINER", "INVOKER"]
  return definer

/-- CREATE behind its keyword. -/
def create : Parser Statement := do
  match ← warehouseObject? with
  | some s => return s
  | none => pure ()
  let replacing ← keywords? ["OR", "REPLACE"]
  let _ ← keywords? ["OR", "ALTER"]
  let _ ← keyword? "LOCAL"
  let _ ← keyword? "GLOBAL"
  let _ ← keyword? "TRANSIENT"
  let _ ← oneOf? ["TEMP", "TEMPORARY"]
  let _ ← given (← rule (·.attachesFiles)) (keyword? "PERSISTENT")
  let parameters ← viewParameters
  if ← keyword? "TABLE" then return ← createTable
  let l ← peek
  let second := (← peekAt 1).keyword
  if ["MATERIALIZED", "VIEW"].contains l.keyword ||
      (l.keyword == "SECURE" && (second == "VIEW" ||
        (second == "MATERIALIZED" && (← peekAt 2).keyword == "VIEW"))) then
    return ← createView parameters
  let made (parts : Parser (List Node)) : Parser Statement := do
    return .other .other (← parts)
  match replaceableObjects.lookup l.keyword with
  | some form =>
    skip 1
    return ← made (form l)
  | none => pure ()
  let behind ← peekAt 1
  if ← keywords? ["CONSTRAINT", "TRIGGER"] then
    return ← made do if ← rule (·.triggers) then createTrigger else notCreated behind
  if replacing then
    expected "[EXTERNAL] TABLE or [MATERIALIZED] VIEW or FUNCTION after CREATE OR REPLACE"
  if ← keywords? ["UNIQUE", "INDEX"] then return ← made createIndex
  match otherObjects.lookup l.keyword with
  | some form =>
    skip 1
    made (form l)
  | none => expected "an object type after CREATE"

end ColumnLineage.Sql.Parser
