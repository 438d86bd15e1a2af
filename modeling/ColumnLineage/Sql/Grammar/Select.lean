import ColumnLineage.Sql.Grammar.Source

/-!
# SELECT

A SELECT clause by clause, in the order in which the clauses are written.

## Main definitions

* `Parser.selectItem`: an item of a select list.
* `Parser.select`: a SELECT.
-/

namespace ColumnLineage.Sql.Parser

/-- An item that is an expression, behind an optional operator in front of it. -/
def expressionItem (root : Bool) : Parser SelectItem := do
  let e ← expr
  match e with
  | .column ⟨name, none⟩ =>
    if Text.lower name == "from" then
      refuseAt s!"Expected an expression, found: {name}" (← peek)
  | _ => pure ()
  if ← given (← rule (·.expressionStar)) (symbols? [".", "*"]) then
    return .exprStar e (← starOptions)
  let label ← columnAlias?
  let e := if root then Expr.plain ["CONNECT_BY_ROOT ", e] else e
  match label with
  | some name => return .aliased e name
  | none => return .expr e

/-- An item of a select list. -/
def selectItem : Parser SelectItem := do
  let root ← given (← rule (·.rootOperator)) (keyword? "CONNECT_BY_ROOT")
  match ← starAhead with
  | some .plain => return .star (← starOptions)
  | some (.qualified name) => return .qualifiedStar name (← starOptions)
  | none => expressionItem root

/-- A select list. -/
def selectList : Parser (List SelectItem) := do
  let rules ← rules
  separatedWith (rules.trailingComma || rules.projectionTrailingComma)
    (fun k l => !columnAliasWord rules.aliasRule k l) selectItem

/-- DISTINCT or ALL, if it stands here. -/
def distinct? : Parser (List Node) := do
  let place ← peek
  match ← oneOf? ["ALL", "DISTINCT"] with
  | none => return []
  | some "ALL" =>
    if ← atKeyword "DISTINCT" then refuseAt "Cannot specify ALL then DISTINCT" place
    return [.words "ALL"]
  | some _ =>
    if ← atKeyword "ALL" then refuseAt "Cannot specify DISTINCT then ALL" place
    if !(← keyword? "ON") then return [.words "DISTINCT"]
    symbol "("
    let keys ← if ← atSymbol ")" then pure [] else separated expr
    symbol ")"
    return [.written (Segment.between "DISTINCT ON ("
      (Segment.commas (keys.map fun e => [.node (.expr e)])) ")")]

/-- The words that change how a SELECT runs, in the order in which they are written. -/
def runModifiers : List Keyword :=
  ["HIGH_PRIORITY", "STRAIGHT_JOIN", "SQL_SMALL_RESULT", "SQL_BIG_RESULT", "SQL_BUFFER_RESULT",
    "SQL_NO_CACHE", "SQL_CALC_FOUND_ROWS"]

/-- The words that change how a SELECT runs, in any order, with at most one of ALL, DISTINCT and
DISTINCTROW among them. -/
def selectModifiers : Parser (List Node) := do
  let step (state : List Keyword × List Node) : Parser (Option (List Keyword × List Node)) := do
    match ← oneOf? runModifiers with
    | some k => return some (k :: state.1, state.2)
    | none =>
      if !(["ALL", "DISTINCT", "DISTINCTROW"].contains (← peekKeyword)) then return none
      if !state.2.isEmpty then
        expected "HIGH_PRIORITY, STRAIGHT_JOIN, or other MySQL select modifier"
      if ← keyword? "DISTINCTROW" then return some (state.1, [.words "DISTINCT"])
      return some (state.1, ← distinct?)
  let (found, distinct) ← iterate step ([], [])
  return (runModifiers.filter found.contains).map Node.words ++ distinct

/-- TOP, if it stands here. -/
def top? : Parser (List Node) := do
  if !(← keyword? "TOP") then return []
  let amount : List Segment ←
    if ← atSymbol "(" then do pure [.text "(", .node (.expr (← inParens expr)), .text ")"]
    else do pure [.text s!"{← wholeNumber}"]
  let percent := if ← keyword? "PERCENT" then " PERCENT" else ""
  let ties := if ← keywords? ["WITH", "TIES"] then " WITH TIES" else ""
  return [.written (Segment.between "TOP " amount (percent ++ ties))]

/-- INTO, if it stands here. -/
def into? : Parser (List Node) := do
  if !(← keyword? "INTO") then return []
  let temporary := match ← oneOf? ["TEMP", "TEMPORARY"] with
    | some _ => "TEMPORARY "
    | none => ""
  let unlogged := if ← keyword? "UNLOGGED" then "UNLOGGED " else ""
  let table := if ← keyword? "TABLE" then "TABLE " else ""
  return [.written ((← objectName).segments ("INTO " ++ temporary ++ unlogged ++ table) "")]

/-- A lateral view behind its keywords. -/
def lateralView : Parser Node := do
  let outer := if ← keyword? "OUTER" then " OUTER " else " "
  let e ← expr
  let name ← objectName
  let reserved := ["WHERE", "GROUP", "CLUSTER", "HAVING", "LATERAL"]
  let names ← separated (aliasName? fun k _ => !reserved.contains k)
  let names := names.filterMap id
  let columns := if names.isEmpty then "" else " AS " ++ identTexts names
  let head : List Segment := ["LATERAL VIEW" ++ outer, e]
  return .written (head ++ name.segments " " columns)

/-- The walk through a hierarchy, if it stands here. -/
def hierarchy : Parser (List Node) := do
  if !(← rule (·.connectBy)) then return []
  many do
    if ← keywords? ["START", "WITH"] then return some (.written ["START WITH ", ← expr])
    if ← keywords? ["CONNECT", "BY"] then
      let head := if ← keyword? "NOCYCLE" then "CONNECT BY NOCYCLE " else "CONNECT BY "
      let items ← inMode .hierarchy (separated expr)
      return some (.written
        (Segment.behind head (Segment.commas (items.map fun e => [.node (.expr e)]))))
    return none

/-- Grouping keys in parentheses. -/
def keysInParens : Parser (List Expr) :=
  inParens do if ← atSymbol ")" then return [] else separated expr

/-- Grouping keys in parentheses, or one that does without. -/
def keysOrKey : Parser (List Expr) := do
  if ← atSymbol "(" then keysInParens else return [← expr]

/-- Some keys of a grouping between parentheses. -/
def keysText (keys : List Expr) : List Segment :=
  Segment.between "(" (Segment.commas (keys.map fun e => [.node (.expr e)])) ")"

/-- Sets of grouping keys in parentheses. -/
def groupingSetList (one : Parser (List Expr)) : Parser Expr := do
  let sets ← inParens (separated one)
  return .plain (Segment.between "GROUPING SETS (" (Segment.commas (sets.map keysText)) ")")

/-- The keys a CUBE or ROLLUP combines, in parentheses. -/
def groupingCombination (name : String) : Parser Expr := do
  let sets ← inParens (separated keysOrKey)
  let segments := sets.map fun
    | [e] => [Segment.node (.expr e)]
    | keys => keysText keys
  return .plain (Segment.between (name ++ " (") (Segment.commas segments) ")")

/-- A grouping key, or sets of them. -/
def groupingKey : Parser Expr := do
  if ← rule (·.groupingSets) then
    if ← keywords? ["GROUPING", "SETS"] then return ← groupingSetList keysInParens
    if ← keyword? "CUBE" then return ← groupingCombination "CUBE"
    if ← keyword? "ROLLUP" then return ← groupingCombination "ROLLUP"
    if ← symbols? ["(", ")"] then return .words "()"
  expr

/-- A grouping: its keys, and the clauses that stand behind them. -/
def grouping : Parser (List Expr × List Node) := do
  if !(← keywords? ["GROUP", "BY"]) then return ([], [])
  let (keys, all) ←
    if ← keyword? "ALL" then pure ([], [Node.words "GROUP BY ALL"])
    else do pure (← separated groupingKey, [])
  let modifiers : List Node ←
    if ← rule (·.groupingModifiers) then
      many do
        if ← keyword? "WITH" then
          return some (.words ("WITH " ++ (← oneOf ["ROLLUP", "CUBE", "TOTALS"])))
        return none
    else pure []
  let sets : List Node ←
    if ← keywords? ["GROUPING", "SETS"] then do pure [.expr (← groupingSetList keysOrKey)]
    else pure []
  return (keys, all ++ modifiers ++ sets)

/-- A clause that lists expressions behind its keywords, if it stands here. -/
def listClause (ks : List Keyword) : Parser (List Node) := do
  if !(← keywords? ks) then return []
  let items ← separated expr
  return [.written (Segment.behind (" ".intercalate ks ++ " ")
    (Segment.commas (items.map fun e => [.node (.expr e)])))]

/-- SORT BY, if it stands here. -/
def sortClause : Parser (List Node) := do
  if !(← keywords? ["SORT", "BY"]) then return []
  return [.written (Segment.behind "SORT BY " (← orderItems))]

/-- A clause of one expression behind its keyword, if it stands here. -/
def exprClause (k : Keyword) : Parser (Option Expr) := do
  if ← keyword? k then return some (← expr) else return none

/-- A named window. -/
def namedWindow : Parser (List Segment) := do
  let name ← ident
  keyword "AS"
  if ← symbol? "(" then return Segment.between (name.text ++ " AS (") (← windowSpec) ")"
  if ← rule (·.windowReferences) then return [.text (name.text ++ " AS " ++ (← ident).text)]
  expected "("

/-- Named windows behind their keyword. -/
def windowClause : Parser Node := do
  return .written (Segment.behind "WINDOW " (Segment.commas (← separated namedWindow)))

/-- Named windows and QUALIFY, in either order; the windows are visited first. -/
def windowsAndQualify : Parser (List Node) := do
  let qualify : Parser Node := do return .written ["QUALIFY ", ← expr]
  if ← keyword? "WINDOW" then
    let windows ← windowClause
    if ← keyword? "QUALIFY" then return [windows, ← qualify]
    return [windows]
  if ← keyword? "QUALIFY" then
    let condition ← qualify
    if ← keyword? "WINDOW" then
      return [.phrase [.part 1, .text " ", .part 0] [← windowClause, condition]]
    return [condition]
  return []

/-- The optimizer hint that stands behind SELECT, where there are such hints. -/
def optimizerHint? : Parser (List Node) := do
  if ← rule (·.optimizerHints) then return (← peek).hint.toList.map Node.words else return []

/-- A SELECT whose sources may stand in front. -/
def select : Parser Select := do
  let rules ← rules
  let early ←
    if ← given rules.fromFirst (keyword? "FROM") then do pure (some (← fromList)) else pure none
  match early, ← atKeyword "SELECT" with
  | some sources, false =>
    return ⟨.fromOnly, [], [], [], sources, [], none, [], [], [], [], none, []⟩
  | _, _ =>
    keyword "SELECT"
    let hint ← optimizerHint?
    let modifiers ← if rules.selectModifiers then selectModifiers else distinct?
    let top ← top?
    let items ←
      if rules.emptySelectList then
        if ← atKeyword "FROM" then pure [] else selectList
      else selectList
    let target ← into?
    let (form, sources) ← match early with
      | some sources => pure (SelectForm.fromFirst, sources)
      | none => do
        let sources ← if ← keyword? "FROM" then fromList else pure []
        pure (SelectForm.plain, sources)
    let views ← many do
      if ← keywords? ["LATERAL", "VIEW"] then return some (← lateralView) else return none
    let early : List Node ←
      if ← given rules.prewhere (keyword? "PREWHERE") then do
        pure [.written ["PREWHERE ", ← expr]]
      else pure []
    let filter ← exprClause "WHERE"
    let hierarchy ← hierarchy
    let (keys, groupingTail) ← grouping
    let cluster ← listClause ["CLUSTER", "BY"]
    let distribute ← listClause ["DISTRIBUTE", "BY"]
    let sort ← sortClause
    let having ← exprClause "HAVING"
    let tail ← windowsAndQualify
    return ⟨form, hint ++ modifiers ++ top, items, target, sources, views ++ early, filter,
      hierarchy, keys, groupingTail, cluster ++ distribute ++ sort, having, tail⟩

end ColumnLineage.Sql.Parser
