import ColumnLineage.Sql.Grammar.DataType

/-!
# Calls

The arguments of a function, and the clauses behind them: orderings, filters and windows.

## Main definitions

* `Parser.orderItem`: an item of an ordering.
* `Parser.call`: a call behind the name of its function.
* `Parser.namedCall`: a call with the name of its function.

## Design notes

A call's filter and window are visited before its WITHIN GROUP clause, but written behind it.
-/

namespace ColumnLineage.Sql

namespace Parser

/-- What fills the gaps of an ordering. -/
def withFill : Parser (List Segment) := do
  let bound (k : Keyword) : Parser (List Segment) := do
    if ← keyword? k then return [" " ++ k ++ " ", ← expr] else return []
  let start ← bound "FROM"
  let stop ← bound "TO"
  let step ← bound "STEP"
  return Segment.behind " WITH FILL" (start ++ stop ++ step)

/-- The direction of an ordering, and the place of its nulls. -/
def orderDirection : Parser String := do
  let direction ← match ← oneOf? ["ASC", "DESC"] with
    | some k => pure (" " ++ k)
    | none => pure ""
  if ← keywords? ["NULLS", "FIRST"] then return direction ++ " NULLS FIRST"
  if ← keywords? ["NULLS", "LAST"] then return direction ++ " NULLS LAST"
  return direction

/-- What an item of an ordering says behind its expression. -/
def orderTail : Parser (List Segment) := do
  let direction ← orderDirection
  let fill ←
    if ← given (← rule (·.withFill)) (keywords? ["WITH", "FILL"]) then withFill else pure []
  return .text direction :: fill

/-- An item of an ordering. -/
def orderItem : Parser (List Segment) := do
  let e ← expr
  return e :: (← orderTail)

/-- The items of an ordering. -/
def orderItems : Parser (List Segment) := do
  return Segment.commas (← separated orderItem)

/-- The treatment of nulls, if it stands here. -/
def nullTreatment? : Parser (Option String) := do
  match ← oneOf? ["RESPECT", "IGNORE"] with
  | some k =>
    keyword "NULLS"
    return some (k ++ " NULLS")
  | none => return none

/-- The units of an interval that follow its amount. -/
def timeUnits : List Keyword :=
  ["YEAR", "YEARS", "MONTH", "MONTHS", "WEEK", "WEEKS", "DAY", "DAYS", "HOUR", "HOURS", "MINUTE",
    "MINUTES", "SECOND", "SECONDS", "CENTURY", "DECADE", "DOW", "DOY", "EPOCH", "ISODOW",
    "ISOYEAR", "JULIAN", "MICROSECOND", "MICROSECONDS", "MILLENIUM", "MILLENNIUM",
    "MILLISECOND", "MILLISECONDS", "NANOSECOND", "NANOSECONDS", "QUARTER", "TIMEZONE",
    "TIMEZONE_HOUR", "TIMEZONE_MINUTE"]

/-- The fields of a date besides the units of an interval. -/
def dateFields : List Keyword :=
  ["DAYOFWEEK", "DAYOFYEAR", "DATE", "DATETIME", "ISOWEEK", "TIME", "TIMEZONE_ABBR",
    "TIMEZONE_REGION"]

/-- A field of a date. -/
def dateField : Parser String := do
  let rules ← rules
  let l ← peek
  match l.token with
  | .word .. =>
    if l.keyword == "WEEK" then
      skip 1
      if rules.weekDays && (← atSymbol "(") then
        return "WEEK(" ++ (← inParens ident).text ++ ")"
      return "WEEK"
    if timeUnits.contains l.keyword || dateFields.contains l.keyword then
      skip 1
      return l.keyword
    if rules.customDateFields then return (← ident).text
    expected "date/time field"
  | .literal .single _ =>
    if rules.quotedDateFields then return (← ident).text
    expected "date/time field"
  | _ => expected "date/time field"

/-- An interval behind its keyword, whose amount is parsed by `amount`. -/
def interval (amount : Parser Expr) : Parser Expr := do
  let needsUnit ← rule (·.intervalNeedsUnit)
  let e ← amount
  let unit? ←
    if timeUnits.contains (← peekKeyword) then pure (some (← dateField))
    else if needsUnit then
      refuseAt "INTERVAL requires a unit after the literal value" (← peek)
    else pure none
  let precision : Parser String := do
    let p ← precision?
    return if p.isEmpty then "" else " " ++ p
  if unit? == some "SECOND" then
    if ← symbol? "(" then
      let leading ← wholeNumber
      let fraction ← if ← symbol? "," then pure s!", {← wholeNumber}" else pure ""
      symbol ")"
      return .plain ["INTERVAL ", e, s!" SECOND ({leading}{fraction})"]
    return .plain ["INTERVAL ", e, " SECOND"]
  let unit := match unit? with
    | some unit => " " ++ unit
    | none => ""
  let leading ← precision
  if ← keyword? "TO" then
    let last ← dateField
    let fraction ← if last == "SECOND" then precision else pure ""
    return .plain ["INTERVAL ", e, unit ++ leading ++ " TO " ++ last ++ fraction]
  return .plain ["INTERVAL ", e, unit ++ leading]

/-- A bound of a window's frame. -/
def frameBound : Parser (List Segment) := do
  if ← keywords? ["CURRENT", "ROW"] then return ["CURRENT ROW"]
  let amount ←
    if ← keyword? "UNBOUNDED" then pure none
    else match ← peekToken with
      | .literal .single _ => do
        let amount ←
          if ← rule (·.intervalNeedsUnit) then interval expr
          else interval (do return .literal (← value))
        pure (some amount)
      | _ => pure (some (← expr))
  match ← oneOf? ["PRECEDING", "FOLLOWING"] with
  | none => expected "PRECEDING or FOLLOWING"
  | some direction =>
    match amount with
    | none => return ["UNBOUNDED " ++ direction]
    | some e => return [e, " " ++ direction]

/-- The frame of a window. -/
def windowFrame : Parser (List Segment) := do
  match ← oneOf? ["ROWS", "RANGE", "GROUPS"] with
  | none => expected "ROWS, RANGE, GROUPS"
  | some units =>
    if ← keyword? "BETWEEN" then
      let start ← frameBound
      keyword "AND"
      let stop ← frameBound
      return Segment.behind (units ++ " BETWEEN ") (start ++ Segment.behind " AND " stop)
    return Segment.behind (units ++ " ") (← frameBound)

/-- A window behind its opening parenthesis, its closing parenthesis included.  It may start with
the name of another window, which is no word of the vocabulary unless it stands in quotes. -/
def windowSpec : Parser (List Segment) := do
  let l ← peek
  let named := l.token.isWord && !(vocabulary.contains l.keyword)
  let name : List (List Segment) ← if named then do pure [[.text (← ident).text]] else pure []
  let partition : List (List Segment) ←
    if ← keywords? ["PARTITION", "BY"] then do
      let keys ← separated expr
      pure [Segment.behind "PARTITION BY " (Segment.commas (keys.map fun e => [.node (.expr e)]))]
    else pure []
  let order : List (List Segment) ←
    if ← keywords? ["ORDER", "BY"] then do pure [Segment.behind "ORDER BY " (← orderItems)]
    else pure []
  let frame : List (List Segment) ←
    if ← symbol? ")" then pure []
    else do
      let frame ← windowFrame
      symbol ")"
      pure [frame]
  return Segment.spaced (name ++ partition ++ order ++ frame)

/-- What a document function does with nulls, and the type it returns, if they stand here. -/
def documentClauses : Parser (List (List Segment)) := do
  let nulls : List (List Segment) ←
    if ← keywords? ["ABSENT", "ON", "NULL"] then pure [["ABSENT ON NULL"]]
    else if ← keywords? ["NULL", "ON", "NULL"] then pure [["NULL ON NULL"]]
    else pure []
  let returning : List (List Segment) ←
    if ← keyword? "RETURNING" then do pure [(← dataType).segments "RETURNING " ""] else pure []
  return nulls ++ returning

/-- What an aggregate of strings does when it grows too long, if it stands here. -/
def onOverflow : Parser (List (List Segment)) := do
  if !(← keywords? ["ON", "OVERFLOW"]) then return []
  if ← keyword? "ERROR" then return [["ON OVERFLOW ERROR"]]
  keyword "TRUNCATE"
  let l ← peek
  let filler : List Segment ← match l.token with
    | .literal .single _ | .literal .escaped _ | .literal .unicode _ | .literal .national _
    | .literal (.delimited ..) _ | .literal .hex _ => do pure [.text " ", .node (.expr (← expr))]
    | _ =>
      if ["WITH", "WITHOUT"].contains l.keyword then pure []
      else expected "either filler, WITH, or WITHOUT in LISTAGG"
  match ← oneOf? ["WITH", "WITHOUT"] with
  | none => expected "either WITH or WITHOUT in LISTAGG"
  | some k =>
    keyword "COUNT"
    return [Segment.between "ON OVERFLOW TRUNCATE" filler (" " ++ k ++ " COUNT")]

/-- The arguments of a call. -/
structure Arguments where
  segments : List Segment
  /-- The treatment of nulls stands among them. -/
  treatsNulls : Bool

/-- The arguments of a call behind the opening parenthesis, the closing one included. -/
def arguments : Parser Arguments := do
  let rules ← rules
  let leading ← documentClauses
  if ← symbol? ")" then return ⟨Segment.spaced leading, false⟩
  let start ← peek
  let all ← keyword? "ALL"
  let distinct ← keyword? "DISTINCT"
  if all && distinct then refuseAt "Cannot specify both ALL and DISTINCT" start
  let duplicates := if all then "ALL " else if distinct then "DISTINCT " else ""
  let items ← separated argument
  let nulls : List (List Segment) ←
    if rules.nullTreatmentArgument then do
      pure ((← nullTreatment?).toList.map fun t => [Segment.text t])
    else pure []
  let order : List (List Segment) ←
    if ← keywords? ["ORDER", "BY"] then do pure [Segment.behind "ORDER BY " (← orderItems)] else pure []
  let limit : List (List Segment) ← if ← keyword? "LIMIT" then do pure [["LIMIT ", .node (.expr (← expr))]] else pure []
  let having : List (List Segment) ←
    if ← given rules.havingArgument (keyword? "HAVING") then do
      let kind ← oneOf ["MIN", "MAX"]
      pure [[.text ("HAVING " ++ kind ++ " "), .node (.expr (← expr))]]
    else pure []
  let separator : List (List Segment) ←
    if ← given rules.separatorArgument (keyword? "SEPARATOR") then do
      pure [[Segment.text ("SEPARATOR " ++ (← value))]]
    else pure []
  let overflow ← onOverflow
  let trailing ← documentClauses
  symbol ")"
  let clauses := leading ++ nulls ++ order ++ limit ++ having ++ separator ++ overflow ++ trailing
  let tail := if clauses.isEmpty then [] else Segment.behind " " (Segment.spaced clauses)
  return ⟨Segment.behind duplicates (Segment.commas items) ++ tail, !nulls.isEmpty⟩

/-- A query stands here. -/
def queryAhead : Parser Bool := do
  return ["SELECT", "WITH"].contains (← peekKeyword)

/-- The segments of a call behind its name, group by group in the order in which they are
visited. -/
structure CallParts where
  parameters : List Segment
  arguments : List Segment
  filter : List Segment
  nulls : String
  window : List Segment
  within : List Segment

namespace CallParts

/-- The parts of a call in visiting order. -/
def parts (c : CallParts) : List Node :=
  Segment.parts (c.parameters ++ c.arguments ++ c.filter ++ c.window ++ c.within)

/-- The layout of a call, in which the WITHIN GROUP clause stands in front of the filter. -/
def layout (c : CallParts) : Layout :=
  let count (segments : List Segment) : Nat := (Segment.parts segments).length
  let filterStart := count c.parameters + count c.arguments
  let windowStart := filterStart + count c.filter
  let withinStart := windowStart + count c.window
  Segment.layoutFrom 0 (c.parameters ++ c.arguments) ++
    Segment.layoutFrom withinStart c.within ++ Segment.layoutFrom filterStart c.filter ++
    [.text c.nulls] ++ Segment.layoutFrom windowStart c.window

end CallParts

/-- A call behind the name of its function. -/
def call (name : ObjectName) : Parser Expr := do
  let rules ← rules
  symbol "("
  if rules.subqueryArgument && (← queryAhead) then
    let q ← query
    symbol ")"
    return .call name [.text "(", .part 0, .text ")"] [.query q]
  let parens (segments : List Segment) : List Segment := Segment.between "(" segments ")"
  let first ← arguments
  let (parameters, args) ←
    if ← given rules.callParameters (symbol? "(") then do pure (parens first.segments, ← arguments)
    else pure ([], first)
  let within : List Segment ←
    if ← keywords? ["WITHIN", "GROUP"] then do
      symbol "("
      keywords ["ORDER", "BY"]
      let items ← orderItems
      symbol ")"
      pure (Segment.between " WITHIN GROUP (ORDER BY " items ")")
    else pure []
  let filter : List Segment ←
    if rules.filterClause then do
      if ← keyword? "FILTER" then
        if ← symbol? "(" then
          if ← keyword? "WHERE" then
            let e ← expr
            symbol ")"
            pure [.text " FILTER (WHERE ", .node (.expr e), .text ")"]
          else pure []
        else pure []
      else pure []
    else pure []
  let nulls ←
    if args.treatsNulls then pure ""
    else match ← nullTreatment? with
      | some treatment => pure (" " ++ treatment)
      | none => pure ""
  let window : List Segment ←
    if ← keyword? "OVER" then do
      if ← symbol? "(" then pure (Segment.between " OVER (" (← windowSpec) ")")
      else pure [.text (" OVER " ++ (← ident).text)]
    else pure []
  let parts : CallParts := ⟨parameters, parens args.segments, filter, nulls, window, within⟩
  return .call name parts.layout parts.parts

/-- The pieces of a layout behind some more parts in front of its own. -/
def shifted (count : Nat) : Piece → Piece
  | .text t => .text t
  | .part position => .part (position + count)
  | .parts start separator => .parts (start + count) separator

/-- A call behind the name of its function, in which parts are visited in front of the arguments. -/
def callOf : ParsedName → Parser Expr
  | ⟨name, inside⟩ => do
    match ← call name with
    | .call name layout parts =>
      return .call name (layout.map (shifted inside.length)) (inside ++ parts)
    | e => return e

/-- A call with the name of its function. -/
def namedCall : Parser Expr := do
  callOf (← objectName)

end Parser

end ColumnLineage.Sql
