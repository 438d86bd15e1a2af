import ColumnLineage.Sql.Grammar.Change

/-!
# Queries

A query is a body with definitions in front of it and clauses behind it.  A body is a SELECT, a
query in parentheses, rows, or two bodies with a set operator between them; INTERSECT binds more
strongly than the other set operators.

## Main definitions

* `Parser.cte`: a definition of a WITH list.
* `Parser.bodyAbove`: a body.
* `Parser.queryTail`: the clauses behind a body.
* `Parser.wholeQuery`: a query.
-/

namespace ColumnLineage.Sql.Parser

/-- What follows the name of a definition in front of its query: the names of its columns, and
whether it is materialized. -/
def cteHead : Parser (List String × String) := do
  let columns ←
    if ← keyword? "AS" then pure []
    else do
      let columns ← if ← atSymbol "(" then inParens (separated aliasColumn) else pure []
      keyword "AS"
      pure columns
  if ← rule (·.materializedCtes) then
    if ← keyword? "MATERIALIZED" then return (columns, "MATERIALIZED ")
    if ← keywords? ["NOT", "MATERIALIZED"] then return (columns, "NOT MATERIALIZED ")
  return (columns, "")

/-- A definition of a WITH list. -/
def cte : Parser Cte := do
  let name ← ident
  let (columns, materialized) ← cteHead
  let query ← inParens query
  let origin ← if ← keyword? "FROM" then do pure (some (← ident)) else pure none
  return ⟨⟨false, name, columns⟩, materialized, query, origin⟩

/-- The set operator that stands here, with how strongly it binds. -/
def setOperator : Parser (Option (Keyword × Nat)) := do
  let k ← peekKeyword
  match k with
  | "UNION" | "EXCEPT" | "MINUS" => return some (k, 10)
  | "INTERSECT" => return some (k, 20)
  | _ => return none

/-- What a set operator does with rows that occur more than once. -/
def setQuantifier : Parser String := do
  let forms : List (List Keyword) :=
    [["DISTINCT", "BY", "NAME"], ["BY", "NAME"], ["ALL", "BY", "NAME"], ["ALL"], ["DISTINCT"]]
  let step (state : List (List Keyword) × String) :
      Parser (Option (List (List Keyword) × String)) := do
    match state with
    | (form :: more, "") =>
      if ← keywords? form then return some ([], " " ++ " ".intercalate form)
      else return some (more, "")
    | _ => return none
  return (← iterateWithin step (forms.length + 1) (forms, "")).2

/-- A table as a body, behind its keyword.  Three lexemes are read in any case. -/
def tableBody : Parser Body := do
  let first ← next
  let second ← next
  let third ← next
  match first.token, second.token, third.token with
  | .word schema _, .symbol ".", .word table _ =>
    return .other [.text ("TABLE " ++ schema ++ "." ++ table)] []
  | .word .., .symbol ".", _ => fail (.expected "Table name" third)
  | _, .symbol ".", _ => fail (.expected "Schema name" first)
  | .word table _, _, _ => return .other [.text ("TABLE " ++ table)] []
  | _, _, _ => fail (.expected "Table name" first)

/-- A body without set operators. -/
def plainBody : Parser Body := do
  let rules ← rules
  let l ← peek
  if l.keyword == "SELECT" || (l.keyword == "FROM" && rules.fromFirst) then
    return .select (← select)
  if ← atSymbol "(" then return .query (← inParens query)
  let allowEmpty := rules.aliasRule == .indexHints
  if ← keyword? "VALUES" then return ← valueRows "VALUES" allowEmpty
  if ← keyword? "VALUE" then return ← valueRows "VALUE" allowEmpty
  if ← keyword? "TABLE" then return ← tableBody
  expected "SELECT, VALUES, or a subquery in the query body"

/-- A body whose set operators bind more strongly than a bound, given the parser of the bodies on
their right. -/
def combinedBody (right : Nat → Parser Body) (bound : Nat) : Parser Body := do
  let step (left : Body) : Parser (Option Body) := do
    match ← setOperator with
    | none => return none
    | some (k, binding) =>
      if bound ≥ binding then return none
      skip 1
      let quantifier ← setQuantifier
      return some (.combined left (k ++ quantifier) (← right binding))
  iterate step (← plainBody)

/-- A body.  The body on the right of an INTERSECT has no set operators of its own, that on the
right of another one only INTERSECT. -/
def body : Parser Body :=
  let third (_ : Nat) : Parser Body := plainBody
  let second (bound : Nat) : Parser Body := combinedBody third bound
  combinedBody second 0

/-- ORDER BY, if it stands here. -/
def orderClause : Parser (List Node) := do
  if !(← keywords? ["ORDER", "BY"]) then return []
  if ← given (← rule (·.orderByAll)) (keyword? "ALL") then
    return [.words ("ORDER BY ALL" ++ (← orderDirection))]
  let items ← orderItems
  let interpolation : List Segment ←
    if ← given (← rule (·.withFill)) (keyword? "INTERPOLATE") then
      if ← symbol? "(" then do
        let column : Parser (List Segment) := do
          let name ← ident
          if ← keyword? "AS" then return [.text (name.text ++ " AS "), .node (.expr (← expr))]
          return [.text name.text]
        let columns ← separatedUntil ")" column
        symbol ")"
        pure (Segment.between " INTERPOLATE (" (Segment.commas columns) ")")
      else pure [" INTERPOLATE"]
    else pure []
  return [.written (Segment.behind "ORDER BY " (items ++ interpolation))]

/-- An offset behind its keyword. -/
def offset : Parser Node := do
  let e ← expr
  match ← oneOf? ["ROW", "ROWS"] with
  | some unit => return .written ["OFFSET ", e, " " ++ unit]
  | none => return .written ["OFFSET ", e]

/-- LIMIT and OFFSET in either order, if they stand here; the limit is visited first. -/
def limitClause : Parser (List Node) := do
  let rules ← rules
  let early : List Node ← if ← keyword? "OFFSET" then do pure [← offset] else pure []
  if !(← keyword? "LIMIT") then return early
  let amount ← if ← keyword? "ALL" then pure none else do pure (some (← expr))
  match amount with
  | some skipped =>
    if ← given (rules.limitComma && early.isEmpty) (symbol? ",") then
      return [.written ["LIMIT ", skipped, ", ", ← expr]]
  | none => pure ()
  let groups : List Node ←
    if ← given rules.limitBy (keyword? "BY") then do
      let keys ← separated expr
      pure [.written (Segment.behind "BY "
        (Segment.commas (keys.map fun e => [.node (.expr e)])))]
    else pure []
  let late : List Node ←
    if ← given early.isEmpty (keyword? "OFFSET") then do pure [← offset] else pure []
  let limit := amount.toList.map fun e : Expr => Node.written [.text "LIMIT ", .node (.expr e)]
  return limit ++ early ++ late ++ groups

/-- FETCH, if it stands here. -/
def fetchClause : Parser (List Node) := do
  if !(← keyword? "FETCH") then return []
  let _ ← oneOf? ["FIRST", "NEXT"]
  let amount ←
    match ← oneOf? ["ROW", "ROWS"] with
    | some _ => pure ""
    | none => do
      let amount ← value
      let percent := if ← keyword? "PERCENT" then " PERCENT" else ""
      let _ ← oneOf? ["ROW", "ROWS"]
      pure (" " ++ amount ++ percent)
  let ending ←
    if ← keyword? "ONLY" then pure "ONLY"
    else if ← keywords? ["WITH", "TIES"] then pure "WITH TIES"
    else pure "ONLY"
  return [.words ("FETCH FIRST" ++ amount ++ " ROWS " ++ ending)]

/-- The options behind FOR XML and FOR JSON, each with its written form.  A comma may stand without
an option behind it; `parse` takes an option if one stands there. -/
def documentOptions (parse : Parser (Option (Keyword × String))) :
    Parser (List (Keyword × String)) := do
  let found ← many do
    if ← symbol? "," then return some (← parse) else return none
  return (found.filterMap id).reverse

/-- The written forms of the options among `order`, in this order; of several of one kind the last
counts. -/
def optionTexts (order : List Keyword) (options : List (Keyword × String)) : String :=
  String.join (order.filterMap fun k => (options.lookup k).map (", " ++ ·))

/-- A name in parentheses, as the options of a document have it. -/
def documentName : Parser String := do
  return "('" ++ (← inParens stringContent) ++ "')"

/-- The option behind FOR XML that stands here, if one does. -/
def xmlOption? : Parser (Option (Keyword × String)) := do
  match ← oneOf? ["ELEMENTS", "BINARY", "ROOT", "TYPE"] with
  | some "BINARY" =>
    keyword "BASE64"
    return some ("BINARY", "BINARY BASE64")
  | some "ROOT" => return some ("ROOT", "ROOT" ++ (← documentName))
  | some k => return some (k, k)
  | none => return none

/-- The option behind FOR JSON that stands here, if one does. -/
def jsonOption? : Parser (Option (Keyword × String)) := do
  match ← oneOf? ["ROOT", "INCLUDE_NULL_VALUES", "WITHOUT_ARRAY_WRAPPER"] with
  | some "ROOT" => return some ("ROOT", "ROOT" ++ (← documentName))
  | some k => return some (k, k)
  | none => return none

/-- A FOR clause that gives rows another form, behind its keyword, if it is one. -/
def formClause? : Parser (Option Node) := do
  if ← keyword? "XML" then
    match ← oneOf? ["RAW", "AUTO", "EXPLICIT", "PATH"] with
    | none => refuse "Expected FOR XML [RAW | AUTO | EXPLICIT | PATH ]"
    | some mode =>
      let name ←
        if (mode == "RAW" || mode == "PATH") && (← atSymbol "(") then documentName else pure ""
      let options ← documentOptions xmlOption?
      let order := ["BINARY", "TYPE", "ROOT", "ELEMENTS"]
      return some (.words ("FOR XML " ++ mode ++ name ++ optionTexts order options))
  if ← keyword? "JSON" then
    match ← oneOf? ["AUTO", "PATH"] with
    | none => refuse "Expected FOR JSON [AUTO | PATH ]"
    | some mode =>
      let options ← documentOptions jsonOption?
      let order := ["ROOT", "INCLUDE_NULL_VALUES", "WITHOUT_ARRAY_WRAPPER"]
      return some (.words ("FOR JSON " ++ mode ++ optionTexts order options))
  if ← keyword? "BROWSE" then return some (.words "FOR BROWSE")
  return none

/-- A lock behind FOR. -/
def lock : Parser Node := do
  let kind ← oneOf ["UPDATE", "SHARE"]
  let target : List Segment ←
    if ← keyword? "OF" then do pure ((← objectName).segments " OF " "") else pure []
  let waiting ←
    if ← keyword? "NOWAIT" then pure " NOWAIT"
    else if ← keywords? ["SKIP", "LOCKED"] then pure " SKIP LOCKED"
    else pure ""
  return .written (Segment.between ("FOR " ++ kind) target waiting)

/-- FOR clauses, if they stand here; one that gives rows another form is the last. -/
def forClauses : Parser (List Node) := do
  let step (state : List Node × Bool) : Parser (Option (List Node × Bool)) := do
    if state.2 then return none
    if !(← keyword? "FOR") then return none
    match ← formClause? with
    | some form => return some (form :: state.1, true)
    | none => return some ((← lock) :: state.1, false)
  return (← iterate step ([], false)).1.reverse

/-- FORMAT, if it stands here. -/
def formatClause : Parser (List Node) := do
  if ← given (← rule (·.settings)) (keyword? "FORMAT") then
    if ← keyword? "NULL" then return [.words "FORMAT NULL"]
    return [.words ("FORMAT " ++ (← ident).text)]
  return []

/-- An expression with its alias, and a direction of ordering behind it. -/
def aggregateItem : Parser (List Segment) := do
  let e ← expr
  let label ← aliasName? fun k _ => !(["ASC", "DESC", "GROUP"].contains k)
  let name := match label with
    | some label => " AS " ++ label.text
    | none => ""
  let direction := match ← oneOf? ["ASC", "DESC"] with
    | some k => " " ++ k
    | none => ""
  return [.node (.expr e), .text (name ++ direction)]

/-- The queries a pipe operator combines its rows with. -/
def pipeQueries : Parser (List Segment) := do
  let one : Parser (List Segment) := do
    return ["(", .node (.query (← inParens query)), ")"]
  return Segment.commas (← separated one)

/-- The name behind a pipe operator, with or without AS; any word is one. -/
def pipeAlias : Parser String := do
  if ← keyword? "AS" then return " AS " ++ (← ident).text
  match ← attempt ident with
  | some name => return " AS " ++ name.text
  | none => return ""

/-- The names among the lexemes up to the end of a pipe operator; what stands between them has no
meaning. -/
def looseNames : Parser (List Ident) := do
  let found ← many do
    match ← peekToken with
    | .eof | .symbol "=" | .symbol ";" | .symbol "|>" => return none
    | .word value quote =>
      skip 1
      return some [Ident.mk value quote]
    | _ =>
      skip 1
      return some []
  return found.flatten

/-- A pipe operator behind its keyword. -/
def pipeOperator (k : Keyword) : Parser (List Segment) := do
  let items (p : Parser (List Segment)) : Parser (List Segment) := do
    return Segment.behind (k ++ " ") (Segment.commas (← separated p))
  match k with
  | "SELECT" | "EXTEND" => items do return itemSegments (← selectItem)
  | "SET" => items do return [.node (← assignment)]
  | "DROP" => return [.text ("DROP " ++ identTexts (← looseNames))]
  | "AS" => return [.text ("AS " ++ (← ident).text)]
  | "WHERE" => return ["WHERE ", .node (.expr (← expr))]
  | "LIMIT" =>
    let e ← expr
    if ← keyword? "OFFSET" then return ["LIMIT ", e, " OFFSET ", ← expr]
    return ["LIMIT ", e]
  | "AGGREGATE" =>
    let all ←
      if ← atKeyword "GROUP" then pure []
      else do pure (Segment.behind " " (Segment.commas (← separated aggregateItem)))
    let keys ←
      if ← keywords? ["GROUP", "BY"] then do
        pure (Segment.behind " GROUP BY " (Segment.commas (← separated aggregateItem)))
      else pure []
    return Segment.behind "AGGREGATE" (all ++ keys)
  | "ORDER" =>
    let _ ← oneOf ["BY"]
    return Segment.behind "ORDER BY " (← orderItems)
  | "TABLESAMPLE" => return [.node (← sample k)]
  | "RENAME" =>
    items do
      let name ← ident
      let _ ← keyword? "AS"
      return [.text (name.text ++ " AS " ++ (← ident).text)]
  | "CALL" => return ["CALL ", ← namedCall, ← pipeAlias]
  | "PIVOT" =>
    symbol "("
    let aggregates ← separated pivotAggregate
    keyword "FOR"
    let first ← ident
    let more ← many do if ← symbol? "." then return some (← ident) else return none
    keyword "IN"
    let values ← inParens pivotValues
    symbol ")"
    let column := (ObjectName.ofIdents (first :: more)).text
    return Segment.between "PIVOT(" (Segment.commas aggregates) (" FOR " ++ column) ++
      Segment.between " IN (" values ("))" ++ (← pipeAlias))
  | "UNPIVOT" =>
    symbol "("
    let value ← ident
    keyword "FOR"
    let name ← ident
    keyword "IN"
    let columns ← inParens (separated ident)
    symbol ")"
    return [.text ("UNPIVOT(" ++ value.text ++ " FOR " ++ name.text ++ " IN (" ++
      identTexts columns ++ "))" ++ (← pipeAlias))]
  | _ =>
    let quantifier ← setQuantifier
    if k != "UNION" && !quantifier.startsWith " DISTINCT" then
      refuse (k ++ " pipe operator requires DISTINCT modifier")
    return Segment.behind (k ++ quantifier ++ " ") (← pipeQueries)

/-- A pipe operator that joins. -/
def pipeJoin : Parser Node := do
  match ← joins with
  | [join] => return .phrase [.text ("|>" ++ join.text)] (treeParts.joinParts join)
  | _ => refuse "Join pipe operator must have a single join"

/-- Pipe operators, if they stand here. -/
def pipeOperators : Parser (List Node) := do
  let joining := ["JOIN", "INNER", "LEFT", "RIGHT", "FULL", "CROSS"]
  let plain := ["SELECT", "EXTEND", "SET", "DROP", "AS", "WHERE", "LIMIT", "AGGREGATE", "ORDER",
    "TABLESAMPLE", "RENAME", "UNION", "INTERSECT", "EXCEPT", "CALL", "PIVOT", "UNPIVOT"]
  many do
    if !(← symbol? "|>") then return none
    if joining.contains (← peekKeyword) then return some (← pipeJoin)
    let k ← oneOf (plain ++ joining)
    return some (.written (Segment.behind "|> " (← pipeOperator k)))

/-- The clauses behind a body. -/
def queryTail : Parser (List Node) := do
  let order ← orderClause
  let limit ← limitClause
  let settings ← settings?
  let fetch ← fetchClause
  let forms ← forClauses
  let format ← formatClause
  let pipes ← pipeOperators
  return order ++ limit ++ settings ++ fetch ++ forms ++ format ++ pipes

/-- A query. -/
def wholeQuery : Parser Query := do
  let (isRecursive, ctes) ←
    if ← keyword? "WITH" then do
      let isRecursive ← keyword? "RECURSIVE"
      pure (isRecursive, ← separated cte)
    else pure (false, [])
  let change (parts : List Node) : Query := ⟨isRecursive, ctes, .other [] parts, []⟩
  match ← oneOf? ["INSERT", "UPDATE", "DELETE", "MERGE"] with
  | some "INSERT" => return change (← insert)
  | some "UPDATE" => return change (← update)
  | some "DELETE" => return change (← delete)
  | some _ => return change (← merge)
  | none =>
    let body ← body
    return ⟨isRecursive, ctes, body, ← queryTail⟩

end ColumnLineage.Sql.Parser
