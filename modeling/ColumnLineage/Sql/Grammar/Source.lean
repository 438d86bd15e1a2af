import ColumnLineage.Sql.Grammar.Expr

/-!
# Sources

What a FROM clause names: tables, queries, table functions, and what is joined to them.

## Main definitions

* `Parser.sourceFactor`: one source.
* `Parser.joins`: what is joined to a source.
* `Parser.fromTree`, `Parser.fromList`: a source with its joins, and a list of them.
-/

namespace ColumnLineage.Sql

namespace Source

/-- The alias of a source. -/
def alias? : Source → Option Alias
  | .table _ _ label _ | .derived _ _ label _ | .joined _ label | .other _ _ label => label

/-- A source under an alias. -/
def withAlias (label : Alias) : Source → Source
  | .table name arguments _ extras => .table name arguments (some label) extras
  | .derived lateral query _ extras => .derived lateral query (some label) extras
  | .joined tree _ => .joined tree (some label)
  | .other layout parts _ => .other layout parts (some label)

/-- The source that consists of some segments. -/
def written (segments : List Segment) (label : Option Alias) : Source :=
  .other (Segment.layout segments) (Segment.parts segments) label

end Source

namespace Parser

/-- A number in parentheses that makes a sample repeatable. -/
def sampleSeed : Parser String := do
  match ← oneOf? ["REPEATABLE", "SEED"] with
  | some k => return " " ++ k ++ " (" ++ (← inParens numberValue) ++ ")"
  | none => return ""

/-- The size of a sample: some buckets, rows, or a share. -/
def sampleSize (parenthesized : Bool) : Parser (List Segment) := do
  if ← given parenthesized (keyword? "BUCKET") then
    let bucket ← numberValue
    keywords ["OUT", "OF"]
    let total ← numberValue
    let head := "BUCKET " ++ bucket ++ " OUT OF " ++ total
    if ← keyword? "ON" then return [.text (head ++ " ON "), .node (.expr (← expr))]
    return [.text head]
  let amount : Expr ← match ← attempt expr with
    | some e => pure e
    | none =>
      let l ← next
      match l.token with
      | .word value _ => pure (Expr.literal value)
      | _ => refuseAt "Expecting number or byte length e.g. 100M" (← peek)
  match ← oneOf? ["ROWS", "PERCENT"] with
  | some unit => return [.node (.expr amount), .text (" " ++ unit)]
  | none => return [.node (.expr amount)]

/-- A sample of a table, behind its keyword. -/
def sample (k : Keyword) : Parser Node := do
  let method := match ← oneOf? ["BERNOULLI", "ROW", "SYSTEM", "BLOCK"] with
    | some method => " " ++ method
    | none => ""
  let parenthesized ← symbol? "("
  let size ← sampleSize parenthesized
  if parenthesized then symbol ")"
  let seed ← sampleSeed
  let offset : List Segment ←
    if ← keyword? "OFFSET" then do pure [" OFFSET ", .node (.expr (← expr))] else pure []
  let opening := k ++ method ++ (if parenthesized then " (" else " ")
  let closing := (if parenthesized then ")" else "") ++ seed
  return .written (Segment.between opening size closing ++ offset)

/-- A sample of a table, if one stands here. -/
def sample? : Parser (List Node) := do
  match ← oneOf? ["TABLESAMPLE", "SAMPLE"] with
  | some k => return [← sample k]
  | none => return []

/-- An expression with an alias behind AS, if it has one. -/
def namedExpr : Parser (List Segment) := do
  let e ← expr
  if ← keyword? "AS" then return [e, " AS " ++ (← ident).text] else return [e]

/-- An aggregate of a pivot. -/
def pivotAggregate : Parser (List Segment) := do
  match (← next).token with
  | .word value _ =>
    let e ← call (.ofIdents [⟨value, none⟩])
    let rules ← rules
    let allowed (k : Keyword) (l : Lexeme) : Bool :=
      k != "FOR" && columnAliasWord rules.aliasRule k l
    if (← atKeywords ["AS", "FOR"]) then
      skip 1
      expected "an identifier after AS"
    match ← aliasName? allowed with
    | some label => return [e, " AS " ++ label.text]
    | none => return [e]
  | _ => expected "a function identifier"

/-- The values a pivot makes columns of. -/
def pivotValues : Parser (List Segment) := do
  if ← keyword? "ANY" then
    if ← keywords? ["ORDER", "BY"] then return Segment.behind "ANY ORDER BY " (← orderItems)
    return ["ANY"]
  if ← queryAhead then return [.node (.query (← query))]
  return Segment.commas (← separated namedExpr)

/-- PIVOT behind its keyword. -/
def pivot (table : Source) : Parser Source := do
  let b := (← rules).binding
  symbol "("
  let aggregates ← separated pivotAggregate
  keyword "FOR"
  let columns : List Segment ←
    if ← atSymbol "(" then do
      let columns ← inParens (separated (exprAbove b.between))
      pure (Segment.between "(" (Segment.commas (columns.map fun e => [.node (.expr e)])) ")")
    else pure [.node (.expr (← exprAbove b.between))]
  keyword "IN"
  let values ← inParens pivotValues
  let absent : List Segment ←
    if ← keywords? ["DEFAULT", "ON", "NULL"] then do
      pure [" DEFAULT ON NULL (", .node (.expr (← inParens expr)), ")"]
    else pure []
  symbol ")"
  let segments : List Segment := .node (.source table) ::
    (Segment.between " PIVOT(" (Segment.commas aggregates) " FOR " ++ columns ++
      Segment.between " IN (" values ")" ++ absent ++ [.text ")"])
  return .written segments (← alias?)

/-- UNPIVOT behind its keyword. -/
def unpivot (table : Source) : Parser Source := do
  let nulls ← match ← oneOf? ["INCLUDE", "EXCLUDE"] with
    | some k =>
      keyword "NULLS"
      pure (" " ++ k ++ " NULLS")
    | none => pure ""
  symbol "("
  let e ← expr
  keyword "FOR"
  let name ← ident
  keyword "IN"
  let columns ←
    if ← atSymbol "(" then inParens (separated namedExpr)
    else expected "a list of columns in parentheses"
  symbol ")"
  let head : List Segment := [.node (.source table), .text (" UNPIVOT" ++ nulls ++ "("),
    .node (.expr e), .text (" FOR " ++ name.text)]
  return .written (head ++ Segment.between " IN (" (Segment.commas columns) "))") (← alias?)

/-- A number of a repetition. -/
def repetitionCount : Parser String := do
  let l ← next
  match l.token with
  | .number digits _ =>
    match wholeNumberFault 32 digits with
    | none => return toString (digitsValue digits)
    | some fault => refuseAt s!"Could not parse '{digits}' as u32: {fault}" l
  | _ => fail (.expected "literal number" l)

/-- How often a row pattern repeats, behind the opening brace. -/
def repetitionRange : Parser String := do
  let l ← peek
  match l.token with
  | .symbol "," =>
    skip 1
    let most ← repetitionCount
    symbol "\x7d"
    return "\x7b," ++ most ++ "\x7d"
  | .number .. =>
    let least ← repetitionCount
    if ← symbol? "," then
      if ← symbol? "\x7d" then return "\x7b" ++ least ++ ",\x7d"
      match ← peekToken with
      | .number .. =>
        let most ← repetitionCount
        symbol "\x7d"
        return "\x7b" ++ least ++ "," ++ most ++ "\x7d"
      | _ => expected "\x7d or upper bound"
    symbol "\x7d"
    return "\x7b" ++ least ++ "\x7d"
  | _ => expected "quantifier range"

/-- How often a row pattern repeats, if that stands here. -/
def repetition? : Parser (Option String) := do
  match ← peekToken with
  | .symbol "*" | .symbol "+" | .placeholder "?" => return some (← next).token.text
  | .symbol "\x7b" =>
    skip 1
    return some (← repetitionRange)
  | _ => return none

/-- A row pattern without repetition, whose inner pattern is parsed by `inner`. -/
def plainRowPattern (inner : Parser String) : Parser String := do
  match ← peekToken with
  | .symbol "^" | .placeholder "$" => return (← next).token.text
  | .symbol "\x7b" =>
    skip 1
    symbol "-"
    let name ← ident
    symbol "-"
    symbol "\x7d"
    return "\x7b- " ++ name.text ++ " -\x7d"
  | .word "PERMUTE" none =>
    skip 1
    return "PERMUTE(" ++ identTexts (← inParens (separated ident)) ++ ")"
  | .symbol "(" => return "( " ++ (← inParens inner) ++ " )"
  | _ => return (← ident).text

/-- A row pattern that may repeat. -/
def repeatedRowPattern (inner : Parser String) : Parser String := do
  let first ← plainRowPattern inner
  iterate (fun text => do return (← repetition?).map (text ++ ·)) first

/-- Row patterns one behind the other, up to a closing parenthesis or a bar. -/
def rowPatternSequence (inner : Parser String) : Parser String := do
  let first ← repeatedRowPattern inner
  let more ← many do
    if ← either (atSymbol ")") (atSymbol "|") then return none
    return some (" " ++ (← repeatedRowPattern inner))
  return String.join (first :: more)

/-- A row pattern, nested at most `fuel` patterns deep. -/
def rowPatternWithin : Nat → Parser String
  | 0 => fail .budget
  | fuel + 1 => do
    let first ← rowPatternSequence (rowPatternWithin fuel)
    let more ← many do
      if ← symbol? "|" then return some (" | " ++ (← rowPatternSequence (rowPatternWithin fuel)))
      return none
    return String.join (first :: more)

/-- A row pattern. -/
def rowPattern : Parser String := do
  rowPatternWithin ((← get).length + 1)

/-- Which rows MATCH_RECOGNIZE returns for each match. -/
def rowsPerMatch : Parser String := do
  if ← keywords? ["ONE", "ROW", "PER", "MATCH"] then return "ONE ROW PER MATCH "
  if ← keywords? ["ALL", "ROWS", "PER", "MATCH"] then
    if ← keywords? ["SHOW", "EMPTY", "MATCHES"] then
      return "ALL ROWS PER MATCH SHOW EMPTY MATCHES "
    if ← keywords? ["OMIT", "EMPTY", "MATCHES"] then
      return "ALL ROWS PER MATCH OMIT EMPTY MATCHES "
    if ← keywords? ["WITH", "UNMATCHED", "ROWS"] then
      return "ALL ROWS PER MATCH WITH UNMATCHED ROWS "
    return "ALL ROWS PER MATCH "
  return ""

/-- Where MATCH_RECOGNIZE goes on after a match. -/
def afterMatch : Parser String := do
  if !(← keywords? ["AFTER", "MATCH", "SKIP"]) then return ""
  if ← keywords? ["PAST", "LAST", "ROW"] then return "AFTER MATCH SKIP PAST LAST ROW "
  if ← keywords? ["TO", "NEXT", "ROW"] then return "AFTER MATCH SKIP TO NEXT ROW "
  if ← keywords? ["TO", "FIRST"] then
    return "AFTER MATCH SKIP TO FIRST " ++ (← ident).text ++ " "
  if ← keywords? ["TO", "LAST"] then
    return "AFTER MATCH SKIP TO LAST " ++ (← ident).text ++ " "
  expected "after match skip option"

/-- MATCH_RECOGNIZE behind its keyword. -/
def matchRecognize (table : Source) : Parser Source := do
  symbol "("
  let partition : List Segment ←
    if ← keywords? ["PARTITION", "BY"] then do
      let keys ← separated expr
      pure (Segment.between "PARTITION BY "
        (Segment.commas (keys.map fun e => [.node (.expr e)])) " ")
    else pure []
  let order : List Segment ←
    if ← keywords? ["ORDER", "BY"] then do pure (Segment.between "ORDER BY " (← orderItems) " ")
    else pure []
  let measure : Parser (List Segment) := do
    let e ← expr
    let _ ← keyword? "AS"
    return [e, " AS " ++ (← ident).text]
  let measures : List Segment ←
    if ← keyword? "MEASURES" then do
      pure (Segment.between "MEASURES " (Segment.commas (← separated measure)) " ")
    else pure []
  let rows ← rowsPerMatch
  let skipping ← afterMatch
  keyword "PATTERN"
  let pattern ← inParens rowPattern
  keyword "DEFINE"
  let definition : Parser (List Segment) := do
    let name ← ident
    keyword "AS"
    return [.text (name.text ++ " AS "), .node (.expr (← expr))]
  let definitions ← separated definition
  symbol ")"
  let middle := rows ++ skipping ++ "PATTERN (" ++ pattern ++ ") DEFINE "
  let segments : List Segment := [.node (.source table), .text " MATCH_RECOGNIZE("] ++ partition ++
    order ++ measures ++ Segment.between middle (Segment.commas definitions) ")"
  return .written segments (← alias?)

/-- What happens when a column of a document table is empty or faulty; of several clauses of one
kind the last counts. -/
def documentHandling : Parser String := do
  let clauses ← many do
    let handling ← match ← oneOf? ["NULL", "ERROR", "DEFAULT"] with
      | none => return none
      | some "DEFAULT" => do pure ("DEFAULT " ++ (← value))
      | some k => pure k
    keyword "ON"
    if ← keyword? "EMPTY" then return some ("EMPTY", " " ++ handling ++ " ON EMPTY")
    keyword "ERROR"
    return some ("ERROR", " " ++ handling ++ " ON ERROR")
  return String.join (["EMPTY", "ERROR"].filterMap (clauses.reverse.lookup ·))

/-- A column of a document table, nested at most `fuel` tables deep. -/
def documentColumn : Nat → Parser (List Segment)
  | 0 => fail .budget
  | fuel + 1 => do
    if ← keyword? "NESTED" then
      let _ ← keyword? "PATH"
      let path ← value
      keyword "COLUMNS"
      let columns ← inParens (separated (documentColumn fuel))
      return Segment.between ("NESTED PATH " ++ path ++ " COLUMNS (") (Segment.commas columns) ")"
    let name ← ident
    if ← keyword? "FOR" then
      keyword "ORDINALITY"
      return [.text (name.text ++ " FOR ORDINALITY")]
    let type ← dataType
    let test := if ← keyword? "EXISTS" then " EXISTS" else ""
    keyword "PATH"
    let path ← value
    return type.segments (name.text ++ " ") (test ++ " PATH " ++ path ++ (← documentHandling))

/-- JSON_TABLE behind its opening parenthesis. -/
def documentTable : Parser Source := do
  let document ← expr
  symbol ","
  let path ← value
  keyword "COLUMNS"
  let columns ← inParens (separated (documentColumn ((← get).length + 1)))
  symbol ")"
  let head : List Segment := ["JSON_TABLE(", document]
  return .written
    (head ++ Segment.between (", " ++ path ++ " COLUMNS(") (Segment.commas columns) "))") (← alias?)

/-- OPENJSON behind its opening parenthesis. -/
def openDocument : Parser Source := do
  let document ← expr
  let path ← if ← symbol? "," then do pure (", " ++ (← value)) else pure ""
  symbol ")"
  let column : Parser (List Segment) := do
    let name ← ident
    let type ← dataType
    let path ← match ← peekToken with
      | .literal .single s =>
        skip 1
        pure (" " ++ literalText .single s)
      | _ => pure ""
    let document ←
      if ← keyword? "AS" then do
        keyword "JSON"
        pure " AS JSON"
      else pure ""
    return type.segments (name.text ++ " ") (path ++ document)
  let columns : List Segment ←
    if ← keyword? "WITH" then do
      pure (Segment.between " WITH (" (Segment.commas (← inParens (separated column))) ")")
    else pure []
  let head : List Segment := ["OPENJSON(", document, path ++ ")"]
  return .written (head ++ columns) (← alias?)

/-- A column of an XML table. -/
def markupColumn : Parser (List Segment) := do
  let name ← ident
  if ← keyword? "FOR" then
    keyword "ORDINALITY"
    return [.text (name.text ++ " FOR ORDINALITY")]
  let type ← dataType
  let clause (k : Keyword) : Parser (List Segment) := do
    if ← keyword? k then return [.text (" " ++ k ++ " "), .node (.expr (← expr))] else return []
  let path ← clause "PATH"
  let absent ← clause "DEFAULT"
  let nulls ←
    if ← keywords? ["NOT", "NULL"] then pure " NOT NULL"
    else do
      let _ ← keyword? "NULL"
      pure ""
  return type.segments (name.text ++ " ") "" ++ path ++ absent ++ [.text nulls]

/-- XMLTABLE behind its opening parenthesis. -/
def markupTable : Parser Source := do
  let namespaces : List Segment ←
    if ← keyword? "XMLNAMESPACES" then do
      let one : Parser (List Segment) := do
        let e ← expr
        keyword "AS"
        return [e, " AS " ++ (← ident).text]
      let all ← inParens (separated one)
      symbol ","
      pure (Segment.between "XMLNAMESPACES(" (Segment.commas all) "), ")
    else pure []
  let row ← expr
  let passed : Parser (List Segment) := do
    let byValue ← given (← keyword? "BY") (keyword? "VALUE")
    return Segment.behind (if byValue then "BY VALUE " else "") (← namedExpr)
  let passing : List Segment ←
    if ← keyword? "PASSING" then do
      let all ← separatedWith false (fun _ _ => false) passed
      pure (Segment.behind " PASSING " (Segment.commas all))
    else pure []
  keyword "COLUMNS"
  let columns ← separated markupColumn
  symbol ")"
  let segments := Segment.behind "XMLTABLE(" namespaces ++ .node (.expr row) ::
    (passing ++ Segment.between " COLUMNS " (Segment.commas columns) ")")
  return .written segments (← alias?)

/-- A clause of SEMANTIC_VIEW. -/
structure SemanticClause where
  word : Keyword
  items : List (List Segment)

/-- SEMANTIC_VIEW behind its opening parenthesis.  Its clauses may stand in any order, each once. -/
def semanticView : Parser Source := do
  let name ← objectName
  let step (found : List SemanticClause) : Parser (Option (List SemanticClause)) := do
    if ← atSymbol ")" then return none
    let l ← peek
    match ← oneOf? ["DIMENSIONS", "METRICS", "FACTS", "WHERE"] with
    | some word =>
      if found.any (·.word == word) then refuse (word ++ " clause can only be specified once")
      let items ← if word == "WHERE" then do pure [[.node (.expr (← expr))]]
        else separated starOrExpr
      return some (⟨word, items⟩ :: found)
    | none =>
      refuseAt ("Expected one of DIMENSIONS, METRICS, FACTS or WHERE, got " ++ l.token.text) l
  let found ← iterate step []
  symbol ")"
  let clause (word : Keyword) : List Segment :=
    (found.filter (·.word == word)).flatMap fun c =>
      Segment.behind (" " ++ word ++ " ") (Segment.commas c.items)
  let segments := name.segments "SEMANTIC_VIEW(" "" ++
    ["DIMENSIONS", "METRICS", "FACTS", "WHERE"].flatMap clause ++ [.text ")"]
  return .written segments (← alias?)

/-- Settings of a query, if they stand here. -/
def settings? : Parser (List Node) := do
  if ← given (← rule (·.settings)) (keyword? "SETTINGS") then
    let setting : Parser (List Segment) := do
      let k ← ident
      symbol "="
      return [.text (k.text ++ " = "), .node (.expr (← expr))]
    return [.written (Segment.behind "SETTINGS " (Segment.commas (← separated setting)))]
  return []

/-- The arguments of a table function behind the opening parenthesis. -/
def tableArguments : Parser (List Segment) := do
  if ← symbol? ")" then return ["(", ")"]
  let one : Parser (List Segment) := do
    match ← settings? with
    | [] => argument
    | settings => return settings.map .node
  let items ← separated one
  symbol ")"
  return Segment.between "(" (Segment.commas items) ")"

/-- The time or version a table is read as of, if it stands here. -/
def tableVersion? : Parser (List Node) := do
  if !(← rule (·.tableVersions)) then return []
  if ← keywords? ["FOR", "SYSTEM_TIME", "AS", "OF"] then
    return [.written ["FOR SYSTEM_TIME AS OF ", ← expr]]
  if ["AT", "BEFORE"].contains (← peekKeyword) then
    return [.expr (← namedCall)]
  if ← keywords? ["TIMESTAMP", "AS", "OF"] then
    return [.written ["TIMESTAMP AS OF ", ← expr]]
  if ← keywords? ["VERSION", "AS", "OF"] then
    return [.words ("VERSION AS OF " ++ (← numberValue))]
  return []

/-- An index hint. -/
def indexHint (k : Keyword) : Parser String := do
  let kind ← match ← oneOf? ["INDEX", "KEY"] with
    | some kind => pure kind
    | none => expected "expected to match INDEX/KEY keyword"
  let purpose ←
    if ← keyword? "FOR" then
      if ← keyword? "JOIN" then pure " FOR JOIN"
      else if ← keywords? ["ORDER", "BY"] then pure " FOR ORDER BY"
      else if ← keywords? ["GROUP", "BY"] then pure " FOR GROUP BY"
      else expected "expected to match FOR/ORDER BY/GROUP BY table hint in for clause"
    else pure ""
  symbol "("
  let names ← if ← atSymbol ")" then pure [] else separated ident
  symbol ")"
  return k ++ " " ++ kind ++ purpose ++ " (" ++ identTexts names ++ ")"

/-- Index hints, if they stand here. -/
def indexHints? : Parser (List Node) := do
  if !(← rule (·.indexHints)) then return []
  let hints ← attempt <| many do
    match ← oneOf? ["USE", "IGNORE", "FORCE"] with
    | some k => return some (← indexHint k)
    | none => return none
  return (hints.getD []).map Node.words

/-- Hints in parentheses behind WITH, if they stand here. -/
def tableHints? : Parser (List Node) := do
  let l ← peek
  if l.keyword == "WITH" && (← peekAt 1).token == .symbol "(" then
    skip 1
    let hints ← inParens (separated expr)
    return [.written
      (Segment.between "WITH (" (Segment.commas (hints.map fun e => [.node (.expr e)])) ")")]
  return []

/-- Pivots of a source. -/
def pivots (table : Source) : Parser Source := do
  let step (table : Source) : Parser (Option Source) := do
    match ← oneOf? ["PIVOT", "UNPIVOT"] with
    | some "PIVOT" => return some (← pivot table)
    | some _ => return some (← unpivot table)
    | none => return none
  iterate step table

/-- A table by its name. -/
def namedTable : Parser Source := do
  let rules ← rules
  let ⟨name, inside⟩ ← objectName
  let path : List Node ←
    if rules.bracketPaths then
      if ← atSymbol "[" then do pure [.expr (← valuePath (.words ""))] else pure []
    else pure []
  let partition : List Node ←
    if ← given rules.partitionSelection (keyword? "PARTITION") then do
      pure [.words (" PARTITION (" ++ identTexts (← inParens (separated ident)) ++ ")")]
    else pure []
  let version ← tableVersion?
  let arguments : List Node ←
    if ← symbol? "(" then do pure [.written (← tableArguments)] else pure []
  let ordinality : List Node ←
    if ← keywords? ["WITH", "ORDINALITY"] then pure [.words " WITH ORDINALITY"] else pure []
  let early ← if rules.sampleBeforeAlias then sample? else pure []
  let label ← alias?
  let hints ← indexHints?
  let tableHints ← tableHints?
  let late ← if rules.sampleBeforeAlias then pure [] else sample?
  let arguments := inside ++ path ++ partition ++ arguments ++ ordinality ++
    early.map fun s => .phrase [.text " ", .part 0] [s]
  let table := Source.table name arguments label (hints ++ tableHints ++ version ++ late)
  let table ← pivots table
  if ← given rules.matchRecognize (keyword? "MATCH_RECOGNIZE") then matchRecognize table
  else return table

/-- A query behind its opening parenthesis. -/
def derivedTable (lateral : Bool) : Parser Source := do
  let q ← query
  symbol ")"
  let label ← alias?
  return .derived lateral q label (← sample?)

/-- The rows of VALUES behind its keyword. -/
def valueRows (head : String) (allowEmpty : Bool) : Parser Body := do
  let row : Parser (Bool × List Segment) := do
    let explicit ← keyword? "ROW"
    symbol "("
    if allowEmpty then
      if ← symbol? ")" then return (explicit, [.text "()"])
    let items ← separated expr
    symbol ")"
    return (explicit,
      Segment.between "(" (Segment.commas (items.map fun e => [.node (.expr e)])) ")")
  let rows ← separated row
  let mark := if rows.any (·.1) then "ROW" else ""
  let segments := Segment.behind (head ++ " ")
    (Segment.commas (rows.map fun row => Segment.behind mark row.2))
  return .other (Segment.layout segments) (Segment.parts segments)

/-- An unnested array behind its keyword.  WITH behind the alias has no meaning on its own. -/
def unnested : Parser Source := do
  let arrays ← inParens (separated expr)
  let ordinality := if ← keywords? ["WITH", "ORDINALITY"] then " WITH ORDINALITY" else ""
  let label ← alias?
  if ← given (← keyword? "WITH") (keyword? "OFFSET") then
    let _ ← aliasName? fun k _ => !columnReserved.contains k
  let segments := Segment.between "UNNEST("
    (Segment.commas (arrays.map fun e => [.node (.expr e)])) (")" ++ ordinality)
  return .written segments label

/-- What restricts a join. -/
def joinConstraint (natural : Bool) : Parser JoinConstraint := do
  if natural then return .natural
  if ← keyword? "ON" then return .on (← expr)
  if ← keyword? "USING" then
    if ← atSymbol "(" then
      let columns ← inParens (separated objectName)
      return .using (columns.map (·.name)) (columns.flatMap (·.inside))
    expected "a list of columns in parentheses"
  return .none

/-- The operator of a join that may be natural, if one stands here. -/
def joinOperator? (natural : Bool) : Parser (Option JoinOperator) := do
  let l ← peek
  match l.keyword with
  | "INNER" | "JOIN" =>
    let inner ← keyword? "INNER"
    keyword "JOIN"
    return some (if inner then .inner else .join)
  | "LEFT" | "RIGHT" =>
    skip 1
    let left := l.keyword == "LEFT"
    match ← oneOf? ["OUTER", "SEMI", "ANTI", "JOIN"] with
    | some "OUTER" =>
      keyword "JOIN"
      return some (if left then .leftOuter else .rightOuter)
    | some "SEMI" =>
      keyword "JOIN"
      return some (if left then .leftSemi else .rightSemi)
    | some "ANTI" =>
      keyword "JOIN"
      return some (if left then .leftAnti else .rightAnti)
    | some _ => return some (if left then .left else .right)
    | none => refuse s!"expected OUTER, SEMI, ANTI or JOIN after {l.keyword}"
  | "ANTI" =>
    skip 1
    keyword "JOIN"
    return some .anti
  | "SEMI" =>
    skip 1
    keyword "JOIN"
    return some .semi
  | "FULL" =>
    skip 1
    let _ ← keyword? "OUTER"
    keyword "JOIN"
    return some .full
  | "OUTER" => expected "LEFT, RIGHT, or FULL"
  | "STRAIGHT_JOIN" =>
    skip 1
    return some .straight
  | _ => if natural then expected "a join type after NATURAL" else return none

/-- What is joined to a source, nested at most `fuel` joins deep. -/
def joinsWithin : Nat → Parser (List Join)
  | 0 => fail .budget
  | fuel + 1 => many do
    let rules ← rules
    let isGlobal ← keyword? "GLOBAL"
    if ← keyword? "CROSS" then
      let operator : JoinOperator ← match ← oneOf? ["JOIN", "APPLY"] with
        | some "JOIN" => pure .cross
        | some _ => pure .crossApply
        | none => expected "JOIN or APPLY after CROSS"
      let relation ← source
      let constraint ←
        if operator == .cross && rules.crossJoinCondition then joinConstraint false
        else pure .none
      return some ⟨relation, isGlobal, operator, none, constraint⟩
    if ← keyword? "OUTER" then
      keyword "APPLY"
      return some ⟨← source, isGlobal, .outerApply, none, .none⟩
    if ← keyword? "ASOF" then
      keyword "JOIN"
      let relation ← source
      keyword "MATCH_CONDITION"
      let condition ← inParens expr
      return some ⟨relation, isGlobal, .asOf, some condition, ← joinConstraint false⟩
    let natural ← keyword? "NATURAL"
    match ← joinOperator? natural with
    | none => return none
    | some operator =>
      let relation ← source
      let nests := rules.rightNestedJoins &&
        ["JOIN", "INNER", "LEFT", "RIGHT", "FULL"].contains (← peekKeyword)
      let relation ←
        if nests then do pure (.joined ⟨relation, ← joinsWithin fuel⟩ none) else pure relation
      return some ⟨relation, isGlobal, operator, none, ← joinConstraint natural⟩

/-- What is joined to a source. -/
def joins : Parser (List Join) := do
  joinsWithin ((← get).length + 1)

/-- A source with what is joined to it. -/
def fromTree : Parser FromTree := do
  let relation ← source
  return ⟨relation, ← joins⟩

/-- The list of a FROM clause. -/
def fromList : Parser (List FromTree) := do
  let rules ← rules
  separatedWith rules.fromTrailingComma (sourceListEnds rules.aliasRule) fromTree

/-- What an opening parenthesis starts: a query, joined sources, or a source on its own where that
is allowed. -/
def parenthesized : Parser Source := do
  match ← attempt (derivedTable false) with
  | some table => pivots table
  | none =>
    let tree ← fromTree
    match tree with
    | ⟨relation, joins⟩ =>
      let nested := match relation with
        | .joined .. => true
        | _ => !joins.isEmpty
      if nested then
        symbol ")"
        return .joined ⟨relation, joins⟩ (← alias?)
      else if ← rule (·.tableInParens) then
        symbol ")"
        match ← alias? with
        | none => return relation
        | some outer =>
          match relation.alias? with
          | some inner => refuse ("duplicate alias" ++ inner.text)
          | none => return relation.withAlias outer
      else expected "joined table"

/-- One source. -/
def sourceFactor : Parser Source := do
  let rules ← rules
  let calls (k : Keyword) : Parser Bool := do
    return (← peekKeyword) == k && (← peekAt 1).token == .symbol "("
  if ← keyword? "LATERAL" then
    if ← symbol? "(" then derivedTable true
    else do
      let name ← objectName
      symbol "("
      let items ← if ← atSymbol ")" then pure [] else separated argument
      symbol ")"
      let segments := name.segments "LATERAL " "(" ++ Segment.commas items ++ [.text ")"]
      return .written segments (← alias?)
  else if ← keyword? "TABLE" then do
    let e ← inParens expr
    return .written ["TABLE(", e, ")"] (← alias?)
  else if ← symbol? "(" then parenthesized
  else if ← given rules.valuesSource (calls "VALUES") then do
    skip 1
    let body ← valueRows "VALUES" false
    return .derived false ⟨false, [], body, []⟩ (← alias?) []
  else if ← given rules.unnestSource (keyword? "UNNEST") then unnested
  else if ← calls "JSON_TABLE" then do
    skip 2
    documentTable
  else if ← calls "OPENJSON" then do
    skip 2
    openDocument
  else if ← calls "XMLTABLE" then do
    skip 2
    markupTable
  else if ← given rules.semanticViews (calls "SEMANTIC_VIEW") then do
    skip 2
    semanticView
  else namedTable

end Parser

end ColumnLineage.Sql
