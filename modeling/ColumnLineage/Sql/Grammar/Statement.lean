import ColumnLineage.Sql.Grammar.Command

/-!
# Statements

A text is a list of statements with semicolons between them.  A statement is a query, a change of
rows, a definition, or a command; commands are read for the queries and statements inside them.

## Main definitions

* `Parser.wholeStatement`: a statement.
* `Parser.statements`: all statements of a text.
-/

namespace ColumnLineage.Sql.Parser

/-- What stands in front of a statement that is explained; only behind EXPLAIN may these be options
in parentheses. -/
def explainOptions (parenthesized : Bool) : Parser (List Node) := do
  let rules ← rules
  if ← given (parenthesized && rules.explainOptions) (atSymbol "(") then
    let option : Parser (List Node) := do
      let _ ← ident
      if ← either (atSymbol ",") (atSymbol ")") then return []
      return [.expr (← expr)]
    return (← inParens (separated option)).flatten
  if ← anyOf? [["QUERY", "PLAN"], ["ESTIMATE"]] then return []
  let _ ← keyword? "ANALYZE"
  let _ ← keyword? "VERBOSE"
  if ← keyword? "FORMAT" then
    let _ ← symbol? "="
    if (← oneOf? ["TEXT", "GRAPHVIZ", "JSON", "TRADITIONAL", "TREE"]).isNone then
      expected "fileformat"
  return []

/-- A statement or a table that is explained, behind its keyword. -/
def explain (parenthesized : Bool) : Parser Statement := do
  let options ← explainOptions parenthesized
  match ← attempt statement with
  | some (.other .explain _) => refuse "Explain must be root of the plan"
  | some s => return .other .explain (statementParts s ++ options)
  | none =>
    let _ ← oneOf? ["EXTENDED", "FORMATTED"]
    if ← rule (·.describeNeedsTable) then
      let _ ← keyword? "TABLE"
    return .other .explain (← objectName).parts

/-- A change of rows behind its keyword. -/
def change (kind : StatementKind) (parts : Parser (List Node)) : Parser Statement := do
  return .other kind (← parts)

/-- A statement. -/
def wholeStatement : Parser Statement := do
  let l ← peek
  if l.token == .symbol "(" then return .query (← query)
  match l.keyword with
  | "SELECT" | "WITH" | "VALUES" | "FROM" => return .query (← query)
  | "INSERT" => skip 1; change .insert insert
  | "REPLACE" =>
    skip 1
    if !(← rule (·.replaceStatement)) then
      refuseAt "Unsupported statement REPLACE" (← peek)
    change .insert insert
  | "UPDATE" => skip 1; change .other update
  | "DELETE" => skip 1; change .other delete
  | "MERGE" => skip 1; change .other merge
  | "CREATE" => skip 1; create
  | "EXPLAIN" => skip 1; explain true
  | "DESCRIBE" | "DESC" => skip 1; explain false
  | _ =>
    match command? (← rules) l with
    | some rest =>
      skip 1
      return .other .other (← rest)
    | none => expected "an SQL statement"

/-- Takes semicolons, and tells whether one stood here. -/
def semicolons : Parser Bool := fun _ lexemes =>
  match lexemes with
  | l :: _ => .ok (l.token == .symbol ";", lexemes.dropWhile fun l => l.token == .symbol ";")
  | [] => .ok (false, [])

/-- All statements of a text.  A word END directly behind a statement ends the text. -/
def statements : Parser (List Statement) := do
  let step (found : List Statement) : Parser (Option (List Statement)) := do
    let undelimited := !(← semicolons) && !found.isEmpty
    if (← peekToken) == .eof || (undelimited && (← atKeyword "END")) then return none
    if undelimited then expected "end of statement"
    return some ((← statement) :: found)
  return (← iterate step []).reverse

end ColumnLineage.Sql.Parser
