import ColumnLineage.Sql.Grammar.Administration
import ColumnLineage.Sql.Grammar.Alteration

/-!
# Commands

Statements that neither ask for rows nor change or define them.  They are read for the queries and
expressions inside them, which a command returns as its parts in visiting order.

## Main definitions

* `Parser.command?`: the rest of a command behind the word that starts it.
-/

namespace ColumnLineage.Sql.Parser

/-! ## Transactions -/

/-- How far transactions are kept apart. -/
def isolationLevels : List (List Keyword) :=
  [["READ", "UNCOMMITTED"], ["READ", "COMMITTED"], ["REPEATABLE", "READ"], ["SERIALIZABLE"],
    ["SNAPSHOT"]]

/-- The modes of a transaction. -/
def transactionModes : Parser Unit := do
  let step (required : Bool) : Parser (Option Bool) := do
    let found ←
      if ← keywords? ["ISOLATION", "LEVEL"] then do
        if !(← anyOf? isolationLevels) then expected "isolation level"
        pure true
      else anyOf? [["READ", "ONLY"], ["READ", "WRITE"]]
    if found then return some (← symbol? ",")
    if required then expected "transaction mode"
    return none
  let _ ← iterate step false

/-- START behind its keyword. -/
def startTransaction : Parser (List Node) := do
  keyword "TRANSACTION"
  transactionModes
  return []

/-- A handler of exceptions: the names of the exceptions, and the statements that run then. -/
def handler : Parser (List Node) := do
  keyword "WHEN"
  let _ ← many do
    if ← keyword? "THEN" then return none
    let _ ← ident
    let _ ← keyword? "OR"
    return some ()
  sequence ["WHEN", "END"]

/-- Statements with handlers of their exceptions, up to END. -/
def guardedStatements : Parser (List Node) := do
  let parts ← sequence ["EXCEPTION", "END"]
  let handlers ←
    if ← keyword? "EXCEPTION" then
      many do if ← atKeyword "END" then return none else return some (← handler)
    else pure []
  keyword "END"
  return parts ++ handlers.flatten

/-- BEGIN behind its keyword: a transaction, or where that is allowed a block. -/
def begin : Parser (List Node) := do
  let rules ← rules
  let l ← peek
  let plain := l.token == .eof || l.token == .symbol ";" ||
    ["TRANSACTION", "WORK", "NAME"].contains l.keyword
  if rules.beginBlocks && !plain then return ← guardedStatements
  if rules.transactionModifiers then
    let _ ← oneOf? ["DEFERRED", "IMMEDIATE", "EXCLUSIVE", "TRY", "CATCH"]
  let _ ← oneOf? ["TRANSACTION", "WORK", "TRAN"]
  transactionModes
  return []

/-- What ends a transaction, behind COMMIT and its like. -/
def transactionEnd : Parser (List Node) := do
  let _ ← oneOf? ["TRANSACTION", "WORK", "TRAN"]
  if ← keyword? "AND" then
    let _ ← keyword? "NO"
    keyword "CHAIN"
  return []

/-- ROLLBACK behind its keyword. -/
def rollback : Parser (List Node) := do
  let _ ← transactionEnd
  if ← keyword? "TO" then
    let _ ← keyword? "SAVEPOINT"
    let _ ← ident
  return []

/-! ## Variables and cursors -/

/-- The value a variable is set to. -/
def variableValue : Parser Node := do
  if ← queryAhead then return .query (← query)
  match ← attempt expr with
  | some e => return .expr e
  | none => expected "variable value"

/-- Values of variables with commas between them. -/
def variableValues : Parser (List Node) :=
  separatedWith false (fun _ _ => false) variableValue

/-- A variable is set to what follows. -/
def assigns : Parser Bool :=
  either (symbol? "=") (keyword? "TO")

/-- The words that say how long a variable keeps its value. -/
def variableScopes : List Keyword :=
  ["SESSION", "LOCAL", "GLOBAL"]

/-- A variable with a scope of its own, and its value. -/
def scopedAssignment : Parser (List Node) := do
  let _ ← oneOf? variableScopes
  if ← given (← rule (·.setLists)) (atSymbol "(") then expected "Unparenthesized assignment"
  let target ← nameInside
  if !(← assigns) then expected "assignment operator"
  return target ++ [.expr (← expr)]

/-- Variables and their values, behind the words that have a meaning behind SET. -/
def variableAssignment : Parser (List Node) := do
  let isList ← given (← rule (·.setLists)) (atSymbol "(")
  let target ←
    if isList then do
      let _ ← inParens (separated ident)
      pure []
    else nameInside
  if !(← assigns) then expected "equals sign or TO"
  return target ++ (← if isList then inParens variableValues else variableValues)

/-- The user of a session, behind AUTHORIZATION. -/
def sessionUser : Parser (List Node) := do
  if !(← keyword? "DEFAULT") then
    let _ ← ident
  return []

/-- SET behind its keyword. -/
def setVariable : Parser (List Node) := do
  let scope ←
    if ← keyword? "HIVEVAR" then do
      symbol ":"
      pure none
    else if variableScopes.contains (← peekKeyword) then do pure (some (← next))
    else pure none
  let role : Parser Unit := do
    keyword "ROLE"
    let _ ← ident
  if (← attempt role).isSome then return []
  if ← anyOf? [["TIME", "ZONE"], ["TIMEZONE"]] then
    if ← assigns then return ← variableValues
    return [.expr (← expr)]
  if ← given (← rule (·.setNames)) (keyword? "NAMES") then
    if ← keyword? "DEFAULT" then return []
    let _ ← ident
    if ← keyword? "COLLATE" then
      let _ ← stringContent
    return []
  if ← keyword? "CHARACTERISTICS" then
    keywords ["AS", "TRANSACTION"]
    transactionModes
    return []
  if ← keyword? "TRANSACTION" then
    if ← keyword? "SNAPSHOT" then
      let _ ← value
      return []
    transactionModes
    return []
  let place ← peek
  if ← keyword? "AUTHORIZATION" then
    if scope.isSome then return ← sessionUser
    fail (.expected "SESSION, LOCAL, or other scope modifier before AUTHORIZATION" place)
  if ← rule (·.assignmentLists) then
    modify (scope.toList ++ ·)
    match ← attempt (separated scopedAssignment) with
    | some parts => return parts.flatten
    | none => pure ()
  variableAssignment

/-- The value of a variable in its declaration, if it has one. -/
def declaredValue? : Parser (Option (List Node)) := do
  if ← either (keyword? "DEFAULT") (symbol? ":=") then return some [.expr (← expr)]
  return none

/-- What a declaration says behind the name. -/
def declaration : Parser (List Node) := do
  if ← keyword? "CURSOR" then
    keyword "FOR"
    if ← atKeyword "SELECT" then return [.query (← query)]
    return [.expr (← expr)]
  if ← keyword? "RESULTSET" then
    if ← atSymbol ";" then return []
    return (← declaredValue?).getD []
  if ← keyword? "EXCEPTION" then
    if ← atSymbol "(" then return [.expr (← expr)]
    return []
  match ← declaredValue? with
  | some parts => return parts
  | none =>
    if !(← peekToken).isWord then return []
    let type ← typeInside
    return type ++ (← declaredValue?).getD []

/-- Declarations with semicolons between them; behind a semicolon a name that is no word of the
vocabulary starts another one. -/
def declarations : Parser (List Node) := do
  let step (state : List Node × Bool) : Parser (Option (List Node × Bool)) := do
    if state.2 then return none
    let _ ← ident
    let parts ← declaration
    let more := match (← peekAt 1).token with
      | .word value _ => !vocabulary.contains (Text.upper value)
      | _ => false
    let goesOn ← given more (symbol? ";")
    return some (state.1 ++ parts, !goesOn)
  return (← iterate step ([], false)).1

/-- A cursor's query behind DECLARE; elsewhere DECLARE may also declare variables. -/
def declare : Parser (List Node) := do
  if ← rule (·.declaresVariables) then return ← declarations
  let _ ← ident
  let _ ← keyword? "BINARY"
  let _ ← oneOf? ["INSENSITIVE", "ASENSITIVE"]
  let _ ← anyOf? [["SCROLL"], ["NO", "SCROLL"]]
  keyword "CURSOR"
  if (← oneOf? ["WITH", "WITHOUT"]).isSome then keyword "HOLD"
  keyword "FOR"
  return [.query (← query)]

/-- How many rows FETCH takes and from where. -/
def fetchDirection : Parser Unit := do
  match ← oneOf? ["NEXT", "PRIOR", "FIRST", "LAST", "ALL", "ABSOLUTE", "RELATIVE", "FORWARD",
      "BACKWARD"] with
  | some "ABSOLUTE" | some "RELATIVE" =>
    let _ ← numberValue
  | some "FORWARD" | some "BACKWARD" =>
    if !(← keyword? "ALL") then
      let _ ← numberValue
  | some _ => pure ()
  | none =>
    let _ ← numberValue

/-- FETCH behind its keyword. -/
def fetch : Parser (List Node) := do
  fetchDirection
  let place ← peek
  if (← oneOf? ["FROM", "IN"]).isNone then refuseAt "Expected FROM or IN" place
  let _ ← ident
  if ← keyword? "INTO" then return ← nameInside
  return []

/-- EXECUTE behind its keyword. -/
def execute : Parser (List Node) := do
  let immediate ← given (← rule (·.executesTexts)) (keyword? "IMMEDIATE")
  let name ← if immediate || (← atSymbol "(") then pure [] else nameInside
  let l ← peek
  let arguments ←
    if ← symbol? "(" then do
      let arguments ← separatedUntil ")" expr
      symbol ")"
      pure arguments
    else if l.token == .eof || l.token == .symbol ";" ||
        ["USING", "OUTPUT", "DEFAULT"].contains l.keyword then pure []
    else separated expr
  if ← keyword? "INTO" then
    let _ ← separated ident
  let used : List Expr ←
    if ← keyword? "USING" then
      separated do
        let e ← expr
        if ← keyword? "AS" then
          let _ ← ident
        return e
    else pure []
  let _ ← keyword? "OUTPUT"
  let _ ← keyword? "DEFAULT"
  return name ++ (arguments ++ used).map .expr

/-- PREPARE behind its keyword. -/
def prepare : Parser (List Node) := do
  let _ ← ident
  let types ← if ← atSymbol "(" then inParens (separated typeInside) else pure []
  keyword "AS"
  return types.flatten ++ statementParts (← statement)

/-- CALL behind its keyword. -/
def callCommand : Parser (List Node) := do
  let name ← objectName
  if ← atSymbol "(" then return [.expr (← callOf name)]
  return name.inside

/-- RETURN behind its keyword. -/
def returnValue : Parser (List Node) := do
  return (← attempt expr).toList.map .expr

/-- ASSERT behind its keyword. -/
def assertion : Parser (List Node) := do
  let condition ← expr
  if ← keyword? "AS" then return [.expr condition, .expr (← expr)]
  return [.expr condition]

/-- RAISE behind its keyword. -/
def raise : Parser (List Node) := do
  if ← keywords? ["USING", "MESSAGE"] then
    symbol "="
    return [.expr (← expr)]
  return (← attempt expr).toList.map .expr

/-! ## Tables -/

/-- The partitions of a table, if they stand here. -/
def tablePartition : Parser (List Node) := do
  if ← keyword? "PARTITION" then return (← inParens (separated expr)).map .expr
  return []

/-- ANALYZE behind its keyword. -/
def analyze : Parser (List Node) := do
  let _ ← keyword? "TABLE"
  let name ← attempt objectName
  if name.isSome then
    let _ ← identList?
  let clauses ← many do
    match ← oneOf? ["PARTITION", "FOR", "CACHE", "NOSCAN", "COMPUTE"] with
    | some "PARTITION" => return some ((← inParens (separated expr)).map Node.expr)
    | some "FOR" =>
      keyword "COLUMNS"
      let _ ← attempt (separated ident)
      return some []
    | some "CACHE" =>
      keyword "METADATA"
      return some []
    | some "COMPUTE" =>
      keyword "STATISTICS"
      return some []
    | some _ => return some []
    | none => return none
  return name.toList.flatMap ParsedName.parts ++ clauses.flatten

/-- TRUNCATE behind its keyword. -/
def truncate : Parser (List Node) := do
  let _ ← keyword? "TABLE"
  let _ ← keywords? ["IF", "EXISTS"]
  let table : Parser ParsedName := do
    let _ ← keyword? "ONLY"
    let name ← objectName
    let _ ← symbol? "*"
    return name
  let names ← separated table
  let partition ← tablePartition
  if ← rule (·.truncateOptions) then
    let _ ← anyOf? [["RESTART", "IDENTITY"], ["CONTINUE", "IDENTITY"]]
    dependents
  onCluster
  return names.flatMap ParsedName.parts ++ partition

/-- MSCK behind its keyword. -/
def repair : Parser (List Node) := do
  let _ ← keyword? "REPAIR"
  keyword "TABLE"
  let name ← objectName
  let _ ← anyOf? [["PARTITIONS"], ["ADD", "PARTITIONS"], ["DROP", "PARTITIONS"],
    ["SYNC", "PARTITIONS"]]
  return name.parts

/-- OPTIMIZE behind its keyword. -/
def optimize : Parser (List Node) := do
  keyword "TABLE"
  let name ← objectName
  onCluster
  let partition : List Expr ←
    if ← keyword? "PARTITION" then
      if ← keyword? "ID" then do
        let _ ← ident
        pure []
      else do pure [← expr]
    else pure []
  let _ ← keyword? "FINAL"
  let duplicates : List Expr ←
    if ← keyword? "DEDUPLICATE" then
      if ← keyword? "BY" then do pure [← expr] else pure []
    else pure []
  return name.parts ++ (partition ++ duplicates).map .expr

/-- CACHE behind its keyword.  Without a query the statement is the last of its text. -/
def cache : Parser (List Node) := do
  let flag ← if ← atKeyword "TABLE" then pure [] else nameInside
  if !(← keyword? "TABLE") then expected "a `TABLE` keyword"
  let name ← objectName
  let options ← settingsBehind ["OPTIONS"]
  if (← peekToken) == .eof then return flag ++ name.parts ++ options
  if !(← peekToken).isWord then expected "a QUERY statement"
  let _ ← keyword? "AS"
  return flag ++ name.parts ++ options ++ [.query (← query)]

/-- UNCACHE behind its keyword. -/
def uncache : Parser (List Node) := do
  if !(← keyword? "TABLE") then expected "a `TABLE` keyword"
  return (← guarded ["IF", "EXISTS"]).parts

/-- VACUUM behind its keyword. -/
def vacuum : Parser (List Node) := do
  let _ ← keyword? "FULL"
  let _ ← keywords? ["SORT", "ONLY"]
  let _ ← keywords? ["DELETE", "ONLY"]
  let _ ← keyword? "REINDEX"
  let _ ← keyword? "RECLUSTER"
  match ← attempt objectName with
  | none => return []
  | some name =>
    if ← keyword? "TO" then
      let _ ← value
      keyword "PERCENT"
    let _ ← keyword? "BOOST"
    return name.parts

/-- RENAME behind its keyword. -/
def rename : Parser (List Node) := do
  if !(← keyword? "TABLE") then expected "KEYWORD `TABLE` after RENAME"
  let pair : Parser (List Node) := do
    let old ← objectName
    keyword "TO"
    return old.parts ++ (← objectName).parts
  return (← separated pair).flatten

/-! ## Data in files -/

/-- Takes the rows that stand behind the semicolon of a statement, up to `\.` or the end of the
text. -/
def givenRows : Parser Unit := fun _ lexemes =>
  let rec behindRows : List Lexeme → List Lexeme
    | a :: b :: more =>
      if a.token == .symbol "\\" && b.token == .symbol "." then more else behindRows (b :: more)
    | _ => []
  match lexemes with
  | l :: more => if l.token == .symbol ";" then .ok ((), behindRows more) else .ok ((), lexemes)
  | [] => .ok ((), [])

/-- COPY behind its keyword. -/
def copy : Parser (List Node) := do
  if ← given (← rule (·.looseTables)) (keyword? "INTO") then return ← wordsOnly
  let origin : List Node ←
    if ← symbol? "(" then do
      let q ← query
      symbol ")"
      pure [.query q]
    else do
      let name ← objectName
      let _ ← identList?
      pure name.parts
  let reading ←
    if ← keyword? "FROM" then pure true
    else if ← keyword? "TO" then pure false
    else expected "FROM or TO"
  match origin with
  | [.query _] =>
    if reading then refuse "COPY ... FROM does not support query as a source"
  | _ => pure ()
  if ← keyword? "STDIN" then
    restOfStatement
    givenRows
  else
    if !(← keyword? "STDOUT") then
      let _ ← keyword? "PROGRAM"
      let _ ← stringContent
    restOfStatement
  return origin

/-- UNLOAD behind its keyword. -/
def unload : Parser (List Node) := do
  symbol "("
  let origin : List Node ← match ← peekToken with
    | .literal .single _ =>
      skip 1
      pure []
    | _ => do pure [.query (← query)]
  symbol ")"
  keyword "TO"
  let _ ← ident
  restOfStatement
  return origin

/-- EXPORT behind its keyword. -/
def exportData : Parser (List Node) := do
  keyword "DATA"
  let connection ← if ← keywords? ["WITH", "CONNECTION"] then nameInside else pure []
  keyword "OPTIONS"
  let options ← inParens (separated setting)
  keyword "AS"
  return options ++ [.query (← query)] ++ connection

/-- LOAD behind its keyword. -/
def load : Parser (List Node) := do
  let rules ← rules
  if rules.loadsExtensions then
    let _ ← ident
    return []
  if !((← keyword? "DATA") && rules.loadsData) then
    expected "`DATA` or an extension name after `LOAD`"
  let _ ← keyword? "LOCAL"
  keyword "INPATH"
  let _ ← stringContent
  let _ ← keyword? "OVERWRITE"
  keywords ["INTO", "TABLE"]
  let name ← objectName
  let partition ← tablePartition
  if ← keyword? "INPUTFORMAT" then
    let _ ← expr
    keyword "SERDE"
    let _ ← expr
  return name.parts ++ partition

/-! ## Names -/

/-- The value of a pragma. -/
def pragmaValue : Parser Unit := do
  let l ← peek
  let _ ← value
  match l.token with
  | .number .. | .placeholder _ | .literal .single _ | .literal .double _ | .word _ (some '"')
  | .symbol ":" | .symbol "@" => return
  | _ => fail (.expected "number or string or ? placeholder" l)

/-- PRAGMA behind its keyword. -/
def pragma : Parser (List Node) := do
  let name ← nameInside
  if ← atSymbol "(" then inParens pragmaValue
  else if ← symbol? "=" then pragmaValue
  return name

/-- RAISERROR behind its keyword. -/
def raiseError : Parser (List Node) := do
  let arguments ← inParens do
    let message ← expr
    symbol ","
    let severity ← expr
    symbol ","
    let state ← expr
    let more ← if ← symbol? "," then separated expr else pure []
    return message :: severity :: state :: more
  if ← keyword? "WITH" then
    let _ ← separated (oneOf ["LOG", "NOWAIT", "SETERROR"])
  return arguments.map .expr

/-- An optional word in front of a name. -/
def nameBehind (k : Keyword) : Parser (List Node) := do
  let _ ← keyword? k
  let _ ← ident
  return []

/-- One name. -/
def oneName : Parser (List Node) := do
  let _ ← ident
  return []

/-- NOTIFY behind its keyword. -/
def notification : Parser (List Node) := do
  let _ ← ident
  if ← symbol? "," then
    let _ ← stringContent
  return []

/-- UNLISTEN behind its keyword. -/
def unlisten : Parser (List Node) := do
  if ← symbol? "*" then return []
  if (identOf (← peekToken)).isNone then expected "wildcard or identifier"
  oneName

/-- A table that is locked, and for what. -/
def lockedTable : Parser Unit := do
  let kinds := ["READ", "WRITE", "LOW_PRIORITY"]
  let _ ← ident
  if ← keyword? "AS" then
    let _ ← ident
  else if !(kinds.contains (← peekKeyword)) then
    let _ ← attempt ident
  match ← oneOf? kinds with
  | some "READ" =>
    let _ ← keyword? "LOCAL"
  | some "LOW_PRIORITY" => keyword "WRITE"
  | some _ => pure ()
  | none => expected "an lock type in LOCK TABLES"

/-- LOCK and UNLOCK behind their keyword, which is `found`. -/
def tableLocks (found : Lexeme) : Parser (List Node) := do
  if !(← keyword? "TABLES") then fail (.expected "an SQL statement" found)
  if found.keyword == "LOCK" then
    let _ ← separated lockedTable
  return []

/-- The rest of a command behind the word that starts it, which is `found`, if it is one. -/
def command? (rules : Rules) (found : Lexeme) : Option (Parser (List Node)) :=
  let word := found.keyword
  match word with
  | "ALTER" => some alter
  | "ANALYZE" => some analyze
  | "ASSERT" => some assertion
  | "ATTACH" => some attach
  | "BEGIN" => some begin
  | "CACHE" => some cache
  | "CALL" => some callCommand
  | "CASE" => some selection
  | "CLOSE" => some oneName
  | "COMMIT" | "END" => some transactionEnd
  | "COPY" => some copy
  | "DEALLOCATE" => some (nameBehind "PREPARE")
  | "DECLARE" => some declare
  | "DENY" => some deny
  | "DISCARD" => some discard
  | "DROP" => some drop
  | "EXECUTE" | "EXEC" => some execute
  | "EXPORT" => some exportData
  | "FETCH" => some fetch
  | "FLUSH" => some flush
  | "GRANT" => some grant
  | "IF" => some conditional
  | "KILL" => some kill
  | "LOAD" => some load
  | "MSCK" => some repair
  | "OPEN" => some oneName
  | "PRAGMA" => some pragma
  | "PREPARE" => some prepare
  | "PRINT" => some do return [.expr (← expr)]
  | "RAISE" => some raise
  | "RAISERROR" => some raiseError
  | "RELEASE" => some (nameBehind "SAVEPOINT")
  | "RENAME" => some rename
  | "RESET" => some nameInside
  | "RETURN" => some returnValue
  | "REVOKE" => some revoke
  | "ROLLBACK" => some rollback
  | "SAVEPOINT" => some oneName
  | "SET" => some setVariable
  | "SHOW" => some listing
  | "START" => some startTransaction
  | "TRUNCATE" => some truncate
  | "UNCACHE" => some uncache
  | "UNLOAD" => some unload
  | "USE" => some use
  | "VACUUM" => some vacuum
  | "WHILE" => some repetition
  | _ =>
    if !rules.ownCommands.contains word then none
    else match word with
      | "COMMENT" => some comment
      | "DETACH" => some detach
      | "INSTALL" | "LISTEN" => some oneName
      | "LOCK" | "UNLOCK" => some (tableLocks found)
      | "NOTIFY" => some notification
      | "OPTIMIZE" => some optimize
      | "UNLISTEN" => some unlisten
      | _ => some wordsOnly

end ColumnLineage.Sql.Parser
