import ColumnLineage.Sql.Grammar.Definition

/-!
# Routines

Definitions of functions, procedures, macros, triggers and policies.  What is kept are the queries
and expressions in their parameters and bodies.

## Main definitions

* `Parser.createFunction`, `Parser.createProcedure`, `Parser.createMacro`, `Parser.createTrigger`,
  `Parser.createPolicy`: the definitions behind their keywords.
-/

namespace ColumnLineage.Sql.Parser

/-! ## Functions and macros -/

/-- What a parser finds, with the last lexeme it takes. -/
def withLast {α : Type} (p : Parser α) : Parser (α × Lexeme) := fun setting lexemes =>
  (p setting lexemes).map fun (a, more) =>
    ((a, lexemes.getD (lexemes.length - more.length - 1) .ending), more)

/-- A parameter of a function: a type with an optional name in front and an optional default. -/
def functionParameter : Parser (List Node) := do
  let _ ← oneOf? ["IN", "OUT", "INOUT"]
  let (first, last) ← withLast typeInside
  let second ← if ← atKeyword "DEFAULT" then pure none else attempt typeInside
  if second.isSome && !last.token.isWord then fail (.expected "a name or type" last)
  let type := second.getD first
  if ← either (keyword? "DEFAULT") (symbol? "=") then return type ++ [.expr (← expr)]
  return type

/-- The text of a function behind AS, with the symbol it is linked to. -/
def functionText : Parser Unit := do
  let one : Parser Unit := do
    match ← peekToken with
    | .literal (.dollar _) _ => skip 1
    | _ =>
      let _ ← stringContent
  one
  if ← symbol? "," then one

/-- What a function may be said to do, each form with the property it is a value of. -/
def functionTraits : List (List Keyword × String) :=
  [(["IMMUTABLE"], "IMMUTABLE | STABLE | VOLATILE"), (["STABLE"], "IMMUTABLE | STABLE | VOLATILE"),
    (["VOLATILE"], "IMMUTABLE | STABLE | VOLATILE"),
    (["CALLED", "ON", "NULL", "INPUT"],
      "CALLED ON NULL INPUT | RETURNS NULL ON NULL INPUT | STRICT"),
    (["RETURNS", "NULL", "ON", "NULL", "INPUT"],
      "CALLED ON NULL INPUT | RETURNS NULL ON NULL INPUT | STRICT"),
    (["STRICT"], "CALLED ON NULL INPUT | RETURNS NULL ON NULL INPUT | STRICT")]

/-- The first of some forms that stands here, with its property; its words are taken. -/
def traitOf? : List (List Keyword × String) → Parser (Option String)
  | [] => return none
  | (form, property) :: more => do
    if ← keywords? form then return some property else traitOf? more

/-- The value a parameter of the session has while a function runs, behind SET. -/
def functionSetting : Parser (List Node) := do
  let parameter ← nameInside
  if ← keywords? ["FROM", "CURRENT"] then return parameter
  if !(← either (symbol? "=") (keyword? "TO")) then expected "= or TO"
  return parameter ++ (← separated expr).map .expr

/-- A clause behind the parameters of a function, if one stands here: the property it is about, and
the expressions in it. -/
def functionClause? : Parser (Option (String × List Node)) := do
  if ← keyword? "AS" then
    functionText
    return some ("AS", [])
  if ← keyword? "LANGUAGE" then
    let _ ← ident
    return some ("LANGUAGE", [])
  match ← traitOf? functionTraits with
  | some property => return some (property, [])
  | none => pure ()
  if ← keyword? "PARALLEL" then
    if (← oneOf? ["UNSAFE", "RESTRICTED", "SAFE"]).isNone then
      expected "one of UNSAFE | RESTRICTED | SAFE"
    return some ("PARALLEL \x7b UNSAFE | RESTRICTED | SAFE \x7d", [])
  if ← keyword? "SECURITY" then
    if (← oneOf? ["DEFINER", "INVOKER"]).isNone then expected "DEFINER or INVOKER"
    return some ("SECURITY \x7b DEFINER | INVOKER \x7d", [])
  if ← keyword? "SET" then return some ("", ← functionSetting)
  if ← keyword? "RETURN" then return some ("RETURN", [.expr (← expr)])
  return none

/-- The clauses behind the parameters of a function; none but SET stands twice, and a body behind
AS excludes one behind RETURN. -/
def functionClauses : Parser (List Node) := do
  let step (state : List String × List Node) : Parser (Option (List String × List Node)) := do
    match ← functionClause? with
    | none => return none
    | some (property, parts) =>
      let kind := if property == "RETURN" then "AS" else property
      if !kind.isEmpty && state.1.contains kind then
        refuse (property ++ " specified more than once")
      return some (kind :: state.1, state.2 ++ parts)
  return (← iterate step ([], [])).2

/-- What a function gives, behind RETURNS: a value of some type, a set of such values, or a table
whose columns are defined as those of a stored table. -/
def functionResult : Parser (List Node) := do
  let isSet ← keyword? "SETOF"
  if !isSet && (← atKeyword "TABLE") && (← peekAt 1).token == .symbol "(" then
    skip 1
    return (← inParens (separated columnDefinition)).flatten
  typeInside

/-- CREATE FUNCTION behind its keywords, where functions have parameters and bodies. -/
def functionWithBody : Parser (List Node) := do
  let name ← nameInside
  let parameters ← inParens (separatedUntil ")" functionParameter)
  let result ← if ← keyword? "RETURNS" then functionResult else pure []
  return name ++ parameters.flatten ++ result ++ (← functionClauses)

/-- CREATE FUNCTION behind its keywords, where functions are classes in files. -/
def functionOfClass : Parser (List Node) := do
  let name ← nameInside
  keyword "AS"
  functionText
  if ← keyword? "USING" then
    let _ ← oneOf ["JAR", "FILE", "ARCHIVE"]
    let _ ← stringContent
  return name

/-- A definition of a macro behind its keywords. -/
def createMacro : Parser (List Node) := do
  let name ← nameInside
  let parameter : Parser (List Node) := do
    let _ ← ident
    if ← either (symbol? ":=") (symbol? "=>") then return [.expr (← expr)]
    return []
  let parameters ← inParens do
    if ← atSymbol ")" then return []
    return (← separated parameter).flatten
  keyword "AS"
  if ← keyword? "TABLE" then return name ++ parameters ++ [.query (← query)]
  return name ++ parameters ++ [.expr (← expr)]

/-- No such object can be defined. -/
def notCreated (found : Lexeme) : Parser (List Node) :=
  fail (.expected "an object type after CREATE" found)

/-- CREATE FUNCTION behind the keyword that is `found`. -/
def createFunction (found : Lexeme) : Parser (List Node) := do
  match (← rules).functionForm with
  | .absent => notCreated found
  | .body => functionWithBody
  | .ofClass => functionOfClass
  | .asMacro => createMacro

/-! ## Procedures and triggers -/

/-- A parameter of a procedure. -/
def procedureParameter : Parser (List Node) := do
  let _ ← oneOf? ["IN", "OUT", "INOUT"]
  let _ ← ident
  let type ← typeInside
  if ← symbol? "=" then return type ++ [.expr (← expr)]
  return type

/-- The parameters of a procedure, if they stand here; a comma may stand behind the last. -/
def procedureParameters : Parser (List Node) := do
  if !(← symbol? "(") then return []
  if ← symbol? ")" then return []
  let step (state : List Node × Bool) : Parser (Option (List Node × Bool)) := do
    if state.2 then return none
    let parts ← if (← peekToken).isWord then procedureParameter else pure []
    let comma ← symbol? ","
    let done ← symbol? ")"
    if !done && !comma then expected "',' or ')' after parameter definition"
    return some (state.1 ++ parts, done)
  return (← iterate step ([], false)).1

/-- CREATE PROCEDURE behind its keywords. -/
def createProcedure : Parser (List Node) := do
  let name ← nameInside
  let parameters ← procedureParameters
  if ← keyword? "LANGUAGE" then
    let _ ← ident
  keyword "AS"
  return name ++ parameters ++ (← block ["END"])

/-- The changes that a trigger waits for. -/
def triggerEvent : Parser Unit := do
  let k ← oneOf ["INSERT", "UPDATE", "DELETE", "TRUNCATE"]
  if ← given (k == "UPDATE") (keyword? "OF") then
    let _ ← separated ident

/-- When a trigger runs. -/
def triggerPeriod : Parser Unit := do
  let k ← oneOf ["FOR", "BEFORE", "AFTER", "INSTEAD"]
  if k == "INSTEAD" then keyword "OF"

/-- The name that a trigger gives to the rows of a change, if it stands here. -/
def transitionTable? : Parser (Option (List Node)) := do
  if (← oneOf? ["OLD", "NEW"]).isNone then return none
  if !(← keyword? "TABLE") then return none
  let _ ← keyword? "AS"
  return some (← nameInside)

/-- A function with its parameters, if they stand here. -/
def functionSignature : Parser (List Node) := do
  let name ← nameInside
  if !(← atSymbol "(") then return name
  let parameters ← inParens do
    if ← atSymbol ")" then return [] else separated functionParameter
  return name ++ parameters.flatten

/-- CREATE TRIGGER behind its keywords. -/
def createTrigger : Parser (List Node) := do
  let name ← nameInside
  let _ ← attempt triggerPeriod
  triggerEvent
  let _ ← many do
    if ← keyword? "OR" then return some (← triggerEvent) else return none
  keyword "ON"
  let table ← nameInside
  let referenced ← if ← keyword? "FROM" then clonedTable else pure none
  characteristics
  let transitions ← if ← keyword? "REFERENCING" then many transitionTable? else pure []
  if ← keyword? "FOR" then
    let _ ← keyword? "EACH"
    let _ ← oneOf ["ROW", "STATEMENT"]
  let condition := (← exprClause "WHEN").toList.map Node.expr
  let head := name ++ table ++ referenced.getD [] ++ transitions.flatten ++ condition
  if ← keyword? "EXECUTE" then
    let _ ← oneOf ["FUNCTION", "PROCEDURE"]
    return head ++ (← functionSignature)
  return head ++ (← block ["END"])

/-! ## Policies -/

/-- CREATE POLICY behind its keywords. -/
def createPolicy : Parser (List Node) := do
  let _ ← ident
  keyword "ON"
  let name ← objectName
  if ← keyword? "AS" then
    let _ ← oneOf ["PERMISSIVE", "RESTRICTIVE"]
  if ← keyword? "FOR" then
    let _ ← oneOf ["ALL", "SELECT", "INSERT", "UPDATE", "DELETE"]
  if ← keyword? "TO" then
    let _ ← separated ident
  let condition (ks : List Keyword) : Parser (List Node) := do
    if ← keywords? ks then return [.expr (← inParens expr)] else return []
  let used ← condition ["USING"]
  return name.parts ++ used ++ (← condition ["WITH", "CHECK"])

end ColumnLineage.Sql.Parser
