import ColumnLineage.Sql.Grammar.Call

/-!
# Expressions

An expression is an operand, followed by operators that bind more strongly than a bound.  An
operand starts with a literal, a sign, a parenthesis, or a word; a word with a meaning of its own
may be a name all the same, where its meaning does not fit what follows.

## Main definitions

* `Parser.operandWithin`: an operand without the fields and elements behind it.
* `Parser.fields`: the fields and elements behind an operand.
* `Parser.nextBinding`: how strongly the next operator binds.
* `Parser.operation`: an operator and what it applies to.
* `Parser.subexpr`: an expression.
-/

namespace ColumnLineage.Sql.Parser

/-- A query in parentheses. -/
def nestedQuery (q : Query) : Expr :=
  .plain ["(", .node (.query q), ")"]

/-- Expressions between two texts, with commas between them. -/
def exprList (opening : String) (items : List Expr) (closing : String) : Expr :=
  .plain (Segment.between opening (Segment.commas (items.map fun e => [.node (.expr e)])) closing)

/-- EXISTS behind its keyword. -/
def existsQuery (negated : Bool) : Parser Expr := do
  symbol "("
  let q ← query
  symbol ")"
  return .plain [(if negated then "NOT EXISTS (" else "EXISTS ("), .node (.query q), ")"]

/-- CASE behind its keyword. -/
def caseExpr : Parser Expr := do
  let operand : List Segment ←
    if ← keyword? "WHEN" then pure []
    else do
      let e ← expr
      keyword "WHEN"
      pure [.text " ", .node (.expr e)]
  let branch : Parser (List Segment) := do
    let condition ← expr
    keyword "THEN"
    let result ← expr
    return [" WHEN ", condition, " THEN ", result]
  let first ← branch
  let others ← many (do if ← keyword? "WHEN" then return some (← branch) else return none)
  let otherwise : List Segment ←
    if ← keyword? "ELSE" then do pure [" ELSE ", .node (.expr (← expr))] else pure []
  keyword "END"
  return .written .case (Segment.behind "CASE" (operand ++ (first :: others).flatten ++
    otherwise ++ [.text " END"]))

/-- CAST and its like behind their keyword. -/
def castExpr (name : String) : Parser Expr := do
  symbol "("
  let e ← expr
  keyword "AS"
  let type ← dataType
  let array ← keyword? "ARRAY"
  let format ←
    if ← keyword? "FORMAT" then do
      let format ← value
      let zone ← if ← keywords? ["AT", "TIME", "ZONE"] then do pure (" AT TIME ZONE " ++ (← value))
        else pure ""
      pure (" FORMAT " ++ format ++ zone)
    else pure ""
  symbol ")"
  let ending := (if array then " ARRAY" else "") ++ format ++ ")"
  let head : List Segment := [name ++ "(", e]
  return .written .functionLike (head ++ type.segments " AS " ending)

/-- CONVERT and its like behind their keyword. -/
def convertExpr (name : String) : Parser Expr := do
  symbol "("
  let e ← expr
  let head : List Segment := [name ++ "(", e]
  if ← keyword? "USING" then
    let charset ← objectName
    symbol ")"
    return .plain (head ++ charset.segments " USING " ")")
  symbol ","
  let type ← dataType
  let charset : List Segment ←
    if ← keywords? ["CHARACTER", "SET"] then do
      pure ((← objectName).segments " CHARACTER SET " "")
    else pure []
  symbol ")"
  return .plain (head ++ type.segments ", " "" ++ charset ++ [.text ")"])

/-- EXTRACT behind its keyword. -/
def extractExpr : Parser Expr := do
  symbol "("
  let field ← dateField
  let joint ←
    if ← keyword? "FROM" then pure " FROM "
    else if ← given (← rule (·.extractComma)) (symbol? ",") then pure ", "
    else refuse "Expected 'FROM' or ','"
  let e ← expr
  symbol ")"
  return .written .functionLike ["EXTRACT(" ++ field ++ joint, e, ")"]

/-- CEIL or FLOOR behind its keyword. -/
def roundExpr (name : String) : Parser Expr := do
  symbol "("
  let e ← expr
  let suffix ←
    if ← keyword? "TO" then do pure (" TO " ++ (← dateField))
    else if ← symbol? "," then
      match ← peekToken with
      | .number .. => do pure (", " ++ (← value))
      | _ => do
        let _ ← value
        refuse "Scale field can only be of number type"
    else pure ""
  symbol ")"
  return .written .functionLike [name ++ "(", e, suffix ++ ")"]

/-- POSITION behind its name. -/
def positionExpr (name : Ident) : Parser Expr := do
  let bound := (← rules).binding.between
  let search : Parser Expr := do
    symbol "("
    let e ← exprAbove bound
    keyword "IN"
    let container ← expr
    symbol ")"
    return .plain ["POSITION(", e, " IN ", container, ")"]
  match ← attempt search with
  | some e => return e
  | none => call (.ofIdents [name])

/-- SUBSTRING or SUBSTR behind its keyword. -/
def substringExpr (name : String) : Parser Expr := do
  symbol "("
  let e ← expr
  let comma ← symbol? ","
  let start : List Segment ←
    if comma then do pure [", ", .node (.expr (← expr))]
    else if ← keyword? "FROM" then do pure [" FROM ", .node (.expr (← expr))]
    else pure []
  let length : List Segment ←
    if ← either (keyword? "FOR") (symbol? ",") then do
      pure [if comma then ", " else " FOR ", .node (.expr (← expr))]
    else pure []
  symbol ")"
  return .written .functionLike
    (Segment.between (name ++ "(") (.node (.expr e) :: (start ++ length)) ")")

/-- OVERLAY behind its keyword. -/
def overlayExpr : Parser Expr := do
  symbol "("
  let e ← expr
  keyword "PLACING"
  let what ← expr
  keyword "FROM"
  let start ← expr
  let length : List Segment ←
    if ← keyword? "FOR" then do pure [" FOR ", .node (.expr (← expr))] else pure []
  symbol ")"
  let head : List Segment := ["OVERLAY(", e, " PLACING ", what, " FROM ", start]
  return .plain (head ++ length ++ [.text ")"])

/-- TRIM behind its keyword.  The trimmed expression is visited before the characters.  Where no
characters can follow it, a comma behind it has no meaning. -/
def trimExpr : Parser Expr := do
  symbol "("
  let side ← match ← oneOf? ["BOTH", "LEADING", "TRAILING"] with
    | some side => pure (side ++ " ")
    | none => pure ""
  let e ← expr
  if ← keyword? "FROM" then
    let whole ← expr
    symbol ")"
    return .phrase .functionLike
      [.text ("TRIM(" ++ side), .part 1, .text " FROM ", .part 0, .text ")"]
      [.expr whole, .expr e]
  if ← given (← symbol? ",") (rule (·.trimCharacters)) then
    let characters ← separated expr
    symbol ")"
    return .phrase .functionLike
      [.text "TRIM(", .part 0, .text ", ", .parts 1 ", ", .text ")"]
      (.expr e :: characters.map .expr)
  symbol ")"
  return .written .functionLike ["TRIM(" ++ side, e, ")"]

/-- The elements of an array behind the opening bracket. -/
def arrayExpr (opening : String) : Parser Expr := do
  let items ← separatedUntil "]" expr
  symbol "]"
  return exprList opening items "]"

/-- MATCH behind its keyword. -/
def matchExpr : Parser Expr := do
  let columns ←
    if ← atSymbol "(" then inParens (separated objectName)
    else expected "a list of columns in parentheses"
  keyword "AGAINST"
  symbol "("
  let sought ← value
  let mode ←
    if ← keywords? ["IN", "NATURAL", "LANGUAGE", "MODE"] then
      if ← keywords? ["WITH", "QUERY", "EXPANSION"] then
        pure " IN NATURAL LANGUAGE MODE WITH QUERY EXPANSION"
      else pure " IN NATURAL LANGUAGE MODE"
    else if ← keywords? ["IN", "BOOLEAN", "MODE"] then pure " IN BOOLEAN MODE"
    else if ← keywords? ["WITH", "QUERY", "EXPANSION"] then pure " WITH QUERY EXPANSION"
    else pure ""
  symbol ")"
  return .plain (Segment.between "MATCH ("
    (Segment.commas (columns.map fun column => column.segments "" ""))
    (") AGAINST (" ++ sought ++ mode ++ ")"))

/-- A record behind STRUCT. -/
def structExpr : Parser Expr := do
  let place ← get
  let inner := typeWithin (place.length + 1)
  let (type, closed) ← structFields inner
  if closed then refuseAt "unmatched > in STRUCT literal" (← peek)
  let typed := type.text != "STRUCT"
  let item : Parser (List Segment) := do
    let e ← expr
    let place ← peek
    if ← keyword? "AS" then
      if typed then refuseAt "Typed syntax does not allow AS" place
      return [e, " AS " ++ (← ident).text]
    return [e]
  let items ← inParens (separated item)
  return .plain
    (Segment.between (type.text ++ "(") (Segment.commas items) ")" ++ type.inside.map .node)

/-- The entries of a map behind MAP.  A key ends at the colon behind it. -/
def mapExpr : Parser Expr := do
  let rules ← rules
  symbol "\x7b"
  let entry : Parser (List Segment) := do
    let k ← exprAbove rules.binding.colon
    symbol ":"
    return [k, ": ", ← expr]
  let entries ← separatedUntil "\x7d" entry
  symbol "\x7d"
  return .plain (Segment.between "MAP \x7b" (Segment.commas entries) "\x7d")

/-- A record between braces. -/
def dictionaryExpr : Parser Expr := do
  let entry : Parser (List Segment) := do
    let k ← ident
    symbol ":"
    return [.text (k.text ++ ": "), .node (.expr (← expr))]
  let entries ← separatedUntil "\x7d" entry
  symbol "\x7d"
  return .plain (Segment.between "\x7b" (Segment.commas entries) "\x7d")

/-- A date, a time or a call between braces. -/
def escapeSequence : Parser Expr := do
  match ← peekToken with
  | .word "t" none | .word "d" none | .word "ts" none =>
    let mark := (← next).token.text
    return .words ("\x7b" ++ mark ++ " " ++ (← value) ++ "\x7d")
  | _ =>
    keyword "FN"
    match ← namedCall with
    | .call name layout parts =>
      let head : Piece := .text ("\x7bfn " ++ name.text)
      return .phrase .functionLike (head :: layout ++ [.text "\x7d"]) parts
    | e => return e

/-- What an opening brace starts. -/
def braceExpr : Parser Expr := do
  let place ← next
  match ← attempt escapeSequence with
  | some e =>
    symbol "\x7d"
    return e
  | none =>
    if ← rule (·.dictionaries) then dictionaryExpr
    else fail (.expected "an expression" place)

/-- A function of some parameters behind its arrow. -/
def lambda (parameters : String) : Parser Expr := do
  symbol "->"
  return .plain [parameters ++ " -> ", ← expr]

/-- A function behind LAMBDA: its parameters, a colon, and its result. -/
def lambdaExpr : Parser Expr := do
  let names ← if ← atSymbol "(" then inParens (separated ident) else separated ident
  symbol ":"
  return .plain ["lambda " ++ identTexts names ++ " : ", ← expr]

/-- A function of several parameters behind the opening parenthesis. -/
def lambda? : Parser (Option Expr) := do
  if !(← rule (·.lambdas)) then return none
  attempt do
    let names ← separated ident
    symbol ")"
    lambda ("(" ++ identTexts names ++ ")")

/-- A call without parentheses. -/
def bareCall (name : Ident) : Expr :=
  .call (.ofIdents [name]) [] []

/-- The words that are no names, even where their meaning does not fit. -/
def neverNames (rules : Rules) (keyword : Keyword) : Bool :=
  (["EXISTS", "STRUCT", "TRIM"].contains keyword) ||
    (keyword == "INTERVAL" && !rules.intervalName)

/-- An operand that starts with a word of a meaning of its own, behind the word.  An interval's
amount is parsed by `inner`, where it is an operand. -/
def meaningfulWord (inner : Parser Expr) (name : Ident) (keyword : Keyword) :
    Parser (Option Expr) := do
  let rules ← rules
  let found (p : Parser Expr) : Parser (Option Expr) := do return some (← p)
  match keyword with
  | "TRUE" => return some (.literal "true")
  | "FALSE" => return some (.literal "false")
  | "NULL" => return some (.literal "NULL")
  | "CURRENT_CATALOG" | "CURRENT_USER" | "SESSION_USER" | "USER" =>
    if rules.userFunctions then return some (bareCall name) else return none
  | "CURRENT_TIMESTAMP" | "CURRENT_TIME" | "CURRENT_DATE" | "LOCALTIME" | "LOCALTIMESTAMP" =>
    if ← symbol? "(" then
      let args ← arguments
      let segments := Segment.between "(" args.segments ")"
      return some (.call (.ofIdents [name]) (Segment.layout segments) (Segment.parts segments))
    return some (bareCall name)
  | "CASE" => found caseExpr
  | "CONVERT" => found (convertExpr "CONVERT")
  | "TRY_CONVERT" => if rules.tryConvert then found (convertExpr "TRY_CONVERT") else return none
  | "CAST" | "TRY_CAST" | "SAFE_CAST" => found (castExpr keyword)
  | "EXISTS" =>
    if rules.existsFunction && !(["SELECT", "WITH"].contains (← peekAt 1).keyword) then return none
    else found (existsQuery false)
  | "EXTRACT" => found extractExpr
  | "CEIL" | "FLOOR" => found (roundExpr keyword)
  | "POSITION" => if ← atSymbol "(" then found (positionExpr name) else return none
  | "SUBSTR" | "SUBSTRING" => found (substringExpr keyword)
  | "OVERLAY" => found overlayExpr
  | "TRIM" => found trimExpr
  | "INTERVAL" =>
    if rules.intervalNeedsUnit then found (interval expr) else found (interval inner)
  | "ARRAY" =>
    if ← symbol? "[" then found (arrayExpr "ARRAY[")
    else if ← given rules.arraySubqueries (symbol? "(") then do
      let q ← query
      symbol ")"
      return some (.call (.ofIdents [name]) [.text "(", .part 0, .text ")"] [.query q])
    else return none
  | "NOT" =>
    if ← keyword? "EXISTS" then found (existsQuery true)
    else found do return .plain ["NOT ", ← exprAbove rules.binding.not]
  | "MATCH" => if rules.matchAgainst then found matchExpr else return none
  | "STRUCT" => if rules.structLiterals then found structExpr else return none
  | "PRIOR" =>
    if (← read).mode == .hierarchy then
      found do return .plain ["PRIOR ", ← exprAbove rules.binding.sum]
    else return none
  | "MAP" => if rules.mapLiterals && (← atSymbol "\x7b") then found mapExpr else return none
  | "LAMBDA" => if rules.lambdas then found lambdaExpr else return none
  | "CIRCLE" | "BOX" | "PATH" | "LINE" | "LSEG" | "POINT" | "POLYGON" =>
    if rules.lexis.geometry then found do return .words (Text.lower keyword ++ " " ++ (← value))
    else return none
  | _ => return none

/-- The mark of the optional side of a join stands here. -/
def outerMarkAhead : Parser Bool := do
  if ← rule (·.outerJoinMark) then ahead (symbols? ["(", "+", ")"]) else return false

/-- An operand that starts with a name, behind the name: a call, a literal the name introduces, a
function of one parameter, or the name itself. -/
def namedOperand (name : Ident) : Parser Expr := do
  let introduced (form : StringForm) (content : String) : Parser Expr := do
    if name.value.startsWith "_" then
      skip 1
      return .plain [name.text ++ " ", Expr.literal (literalText form content)]
    return .column name
  match ← peekToken with
  | .symbol "(" => if ← outerMarkAhead then return .column name else call (.ofIdents [name])
  | .literal .single content => introduced .single content
  | .literal .double content => introduced .double content
  | .literal .hex content => introduced .hex content
  | .symbol "->" =>
    if ← rule (·.lambdas) then lambda name.text else return .column name
  | _ => return .column name

/-- An operand that starts with a word, behind the word.  Where the meaning of the word does not
fit, it is a name, unless it never is; the complaint is about its meaning. -/
def wordOperand (inner : Parser Expr) (name : Ident) (keyword : Keyword) : Parser Expr :=
  fun setting lexemes =>
    match meaningfulWord inner name keyword setting lexemes with
    | .ok (some e, more) => .ok (e, more)
    | .ok (none, _) => namedOperand name setting lexemes
    | .error failure =>
      if neverNames setting.rules keyword then .error failure
      else match namedOperand name setting lexemes with
        | .ok result => .ok result
        | .error _ => .error failure

/-- A literal of a type, or an interval, or a conversion to bytes. -/
def typedOperand (inner : Parser Expr) : Parser Expr := do
  let rules ← rules
  let type ← dataType
  match type.kind with
  | .interval => if rules.intervalNeedsUnit then interval expr else interval inner
  | .custom => expected "a data type name"
  | .binary =>
    if rules.binaryCast then return .written .functionLike ["CAST(", ← expr, " AS BINARY)"]
    return .words (type.text ++ " " ++ (← value))
  | .other => return .plain (type.segments "" (" " ++ (← value)))

/-- An operand that starts with a symbol. -/
def symbolOperand (s : String) (place : Lexeme) : Parser Expr := do
  let rules ← rules
  let sign (mark : String) (bound : Nat) : Parser Expr := do
    return .plain [mark, ← exprAbove bound]
  let refused : Parser Expr := fail (.expected "an expression" place)
  match s with
  | "[" =>
    skip 1
    arrayExpr "["
  | "-" | "+" =>
    skip 1
    sign s rules.binding.product
  | "!" =>
    if rules.bangNot then do
      skip 1
      sign "!" rules.binding.not
    else refused
  | "!!" | "|/" | "||/" =>
    if rules.mathOperators then do
      skip 1
      sign s rules.binding.sum
    else refused
  | "~" =>
    skip 1
    sign s rules.binding.sum
  | "#" | "@-@" | "@@" | "?-" | "?|" =>
    if rules.lexis.geometry then do
      skip 1
      sign (s ++ " ") rules.binding.sum
    else refused
  | "(" =>
    skip 1
    if ← queryAhead then
      let q ← query
      symbol ")"
      return nestedQuery q
    else
      match ← lambda? with
      | some e => return e
      | none =>
        let items ← inMode .anywhere (separated expr)
        symbol ")"
        match items with
        | [e] => return .nested e
        | _ => return exprList "(" items ")"
  | "@" =>
    if rules.mathOperators then do
      skip 1
      sign s rules.binding.sum
    else return .literal (← value)
  | ":" => return .literal (← value)
  | "\x7b" => braceExpr
  | _ => refused

/-- An operand without the fields and elements behind it, nested at most `fuel` operands deep. -/
def operandWithin : Nat → Parser Expr
  | 0 => fail .budget
  | fuel + 1 => do
    match ← attempt (typedOperand (operandWithin fuel)) with
    | some e => return e
    | none =>
      let l ← peek
      match l.token with
      | .word value quote =>
        skip 1
        wordOperand (operandWithin fuel) ⟨value, quote⟩ l.keyword
      | .number .. | .literal .. | .placeholder _ => return .literal (← value)
      | .symbol s => symbolOperand s l
      | _ => fail (.expected "an expression" l)

/-- An operand. -/
def operand : Parser Expr := do
  operandWithin ((← get).length + 1)

/-- What may stand behind a period. -/
def fieldLike : Expr → Bool
  | .column _ | .path _ | .access .. | .call .. | .phrase .value .. => true
  | _ => false

/-- What stands behind a period, link by link: an expression that ends in front of any operator,
or any word as a name. -/
def field : Parser (List Node) := do
  match ← peekToken with
  | .literal .single s =>
    skip 1
    return [.expr (.column ⟨s, some '\''⟩)]
  | _ =>
    let bound := (← rules).binding.period
    let candidate ← attempt do
      let e ← exprAbove bound
      if fieldLike e then return e else expected "an identifier or value"
    match candidate with
    | some (.access root chain) => return .expr root :: chain
    | some (.path names) => return names.map fun name => .expr (.column name)
    | some e => return [.expr e]
    | none => return [.expr (.column (← ident))]

/-- An element or a slice behind the opening bracket. -/
def element : Parser Node := do
  let bound := (← rules).binding.colon
  let lower ← if ← symbol? ":" then pure none else pure (some (← exprAbove bound))
  let lowerPart : List Segment := lower.toList.map fun e => .node (.expr e)
  if ← symbol? "]" then
    match lower with
    | some _ => return .written (Segment.between "[" lowerPart "]")
    | none => return .words "[:]"
  if lower.isSome then symbol ":"
  if ← symbol? "]" then return .written (Segment.between "[" lowerPart ":]")
  let upper ← exprAbove bound
  let range : List Segment := lowerPart ++ [.text ":", .node (.expr upper)]
  if ← symbol? "]" then return .written (Segment.between "[" range "]")
  symbol ":"
  if ← symbol? "]" then return .written (Segment.between "[" range "]")
  let stride ← expr
  symbol "]"
  return .written (Segment.between "[" (range ++ [.text ":", .node (.expr stride)]) "]")

/-- The name a link is, if it is one. -/
def linkName? : Node → Option Ident
  | .expr (.column name) => some name
  | _ => none

/-- The names of a root and its links, if all of them are names. -/
def names? (root : Expr) (chain : List Node) : Option (List Ident) :=
  match root with
  | .column name => (chain.mapM linkName?).map (name :: ·)
  | _ => none

/-- A root with its links: names make up a path, and a call behind names is a call of a dotted
name. -/
def linked (root : Expr) (chain : List Node) : Expr :=
  if chain.isEmpty then root
  else match names? root chain with
    | some names => .path names
    | none =>
      match chain.getLast?, names? root chain.dropLast with
      | some (.expr (.call name layout parts)), some names =>
        .call ⟨names.map NamePart.ident ++ name.parts⟩ layout parts
      | _, _ => .access root chain

/-- The fields and elements behind an operand, whose first lexeme stands at the front of `start`. -/
def fields (start : List Lexeme) (root : Expr) : Parser Expr := do
  let rules ← rules
  let step (state : List Node × Bool) : Parser (Option (List Node × Bool)) := do
    if state.2 then return none
    if ← atSymbol "." then
      if (← peekAt 1).token == .symbol "*" then
        if rules.compositeStar then
          skip 2
          return some (state.1, true)
        return none
      skip 1
      return some ((← field).reverse ++ state.1, false)
    if ← given (!rules.bracketPaths) (symbol? "[") then return some ((← element) :: state.1, false)
    return none
  let (chain, starred) ← iterate step ([], false)
  let chain := chain.reverse
  if starred then
    match names? root chain with
    | some names => return .words ((ObjectName.ofIdents names).text ++ ".*")
    | none => expected "an identifier or a '*' after '.'"
  if ← outerMarkAhead then
    match names? root chain with
    | some [name] =>
      skip 3
      return .plain [.node (.expr (.column name)), " (+)"]
    | some names =>
      skip 3
      return .plain [.node (.expr (.path names)), " (+)"]
    | none =>
      let last := start.getD (start.length - (← get).length - 1) .ending
      fail (.expected "column identifier before (+)" last)
  return linked root chain

/-- How strongly an operator binds that is a symbol. -/
def symbolBinding (b : Binding) (s : String) : Nat :=
  match s with
  | "." => b.period
  | ":=" | "=" | "<" | "<=" | "<>" | ">" | ">=" | "==" | "~" | "~*" | "!~" | "!~*" | "~~" | "~~*"
  | "!~~" | "!~~*" | "<=>" => b.equality
  | "|" | "?-" | "##" | "&<" | "&>" | "?-|" | "&<|" | "|&>" | "<->" | "<^" | ">^" | "?#" | "?||"
  | "~=" | "@" | "<<|" | "|>>" => b.pipe
  | "^" => b.caret
  | "#" | "<<" | ">>" => b.shift
  | "&" => b.ampersand
  | "+" | "-" => b.sum
  | "*" | "/" | "//" | "%" => b.product
  | "||" => b.concat
  | "::" => b.cast
  | "[" => b.bracket
  | "!" | "&&" | "^@" => b.mark
  | "->" | "->>" | "#>" | "#>>" | "@>" | "<@" | "#-" | "@?" | "@@" | "?" | "?&" | "?|" =>
    b.document
  | _ => 0

/-- How strongly an operator binds that is a word. -/
def wordBinding (rules : Rules) (mode : Mode) (k second third : Keyword) : Nat :=
  let b := rules.binding
  match k with
  | "OR" => b.or
  | "AND" => b.and
  | "XOR" => b.xor
  | "AT" => if second == "TIME" && third == "ZONE" then b.timeZone else 0
  | "NOT" =>
    match second with
    | "IN" | "BETWEEN" => b.between
    | "LIKE" | "ILIKE" | "RLIKE" | "REGEXP" | "MATCH" | "SIMILAR" | "MEMBER" => b.like
    | "NULL" => if mode == .columnDefault then 0 else b.test
    | _ => 0
  | "NOTNULL" => if rules.notNull then b.test else 0
  | "IS" => b.test
  | "IN" | "BETWEEN" | "OVERLAPS" | "OPERATOR" => b.between
  | "LIKE" | "ILIKE" | "RLIKE" | "REGEXP" | "MATCH" | "SIMILAR" | "MEMBER" => b.like
  | "DIV" => b.product
  | "COLLATE" => if mode == .columnDefault then 0 else b.collation
  | _ => 0

/-- How strongly the next operator binds; zero where there is none. -/
def nextBinding : Parser Nat := do
  let rules ← rules
  let l ← peek
  match l.token with
  | .word .. =>
    return wordBinding rules (← read).mode l.keyword (← peekAt 1).keyword (← peekAt 2).keyword
  | .symbol ":" =>
    if !rules.colonPaths then return 0
    match (← peekAt 1).token with
    | .literal .single _ | .number .. =>
      return if rules.bracketPaths then rules.binding.colon else 0
    | _ => return rules.binding.colon
  | .symbol s => return symbolBinding rules.binding s
  | .customOperator _ => return rules.binding.document
  | _ => return 0

/-- The operator of two operands that a symbol is, if it is one. -/
def binarySymbol? (rules : Rules) (s : String) : Option BinaryOperator :=
  match s with
  | "=" | "==" => some .eq
  | "<=>" | ":=" | "<>" | ">" | ">=" | "<" | "<=" | "+" | "-" | "*" | "%" | "||" | "|" | "^" | "&"
  | "/" | "~" | "~*" | "!~" | "!~*" | "~~" | "~~*" | "!~~" | "!~~*" | "->" | "->>" | "#>" | "#>>"
  | "@>" | "<@" | "#-" | "@?" | "@@" | "?" | "?&" | "?|" | "//" => some (.other s)
  | "<<" | ">>" => if rules.shifts then some (.other s) else none
  | "#" => if rules.powerCaret then some (.other s) else none
  | "&&" =>
    if rules.rangeOperators then some (.other s)
    else if rules.doubleAmpersandAnd then some .and else none
  | "^@" => if rules.rangeOperators then some (.other s) else none
  | "##" | "&<" | "&>" | "?-|" | "&<|" | "|&>" | "<->" | "<^" | ">^" | "?#" | "?||" | "?-" | "~="
  | "@" | "<<|" | "|>>" => if rules.lexis.geometry then some (.other s) else none
  | _ => none

/-- Comparisons may be made with any or all of several values. -/
def comparesMany (op : BinaryOperator) : Bool :=
  match op with
  | .eq => true
  | .other s =>
    [">", "<", ">=", "<=", "<>", "~", "~*", "!~", "!~*", "~~", "~~*", "!~~", "!~~*"].contains s
  | _ => false

/-- An operator of two operands behind the operator itself. -/
def binaryOperation (left : Expr) (op : BinaryOperator) (place : Lexeme) (binding : Nat) :
    Parser Expr := do
  match ← oneOf? ["ANY", "ALL", "SOME"] with
  | none => return .binary left op (← exprAbove binding)
  | some k =>
    if !(← atSymbol "(") then expected "("
    let next := (← peekAt 1).keyword
    let isQuery := next == "SELECT" || next == "WITH"
    let right ←
      if isQuery then exprAbove binding
      else do inParens (exprAbove binding)
    if !comparesMany op then
      let operators := "[=, >, <, =>, =<, !=, ~, ~*, !~, !~*, ~~, ~~*, !~~, !~~*]"
      refuseAt ("Expected one of " ++ operators ++ " as comparison operator, found: " ++ op.text)
        place
    let bare := match right with
      | .phrase .other [.text "(", .part 0, .text ")"] [.query _] => true
      | _ => false
    let head := " " ++ op.text ++ " " ++ k
    if bare then return .plain [left, head, right]
    return .plain [left, head ++ "(", right, ")"]

/-- A test behind IS.  Where none stands there, the complaint is about what follows the words that
could have started one. -/
def isTest (e : Expr) : Parser Expr := do
  let forms : List (List Keyword) :=
    [["NULL"], ["NOT", "NULL"], ["TRUE"], ["NOT", "TRUE"], ["FALSE"], ["NOT", "FALSE"],
      ["UNKNOWN"], ["NOT", "UNKNOWN"]]
  let step (state : List (List Keyword) × Option String) :
      Parser (Option (List (List Keyword) × Option String)) := do
    match state with
    | (form :: more, none) =>
      if ← keywords? form then return some ([], some (" ".intercalate form))
      else return some (more, none)
    | _ => return none
  let (_, form) ← iterateWithin step (forms.length + 1) (forms, none)
  match form with
  | some form => return .plain [e, " IS " ++ form]
  | none =>
    if ← keywords? ["DISTINCT", "FROM"] then
      return .plain [e, " IS DISTINCT FROM ", ← expr]
    if ← keywords? ["NOT", "DISTINCT", "FROM"] then
      return .plain [e, " IS NOT DISTINCT FROM ", ← expr]
    let negated := if ← keyword? "NOT" then "NOT " else ""
    let form := match ← oneOf? ["NFC", "NFD", "NFKC", "NFKD"] with
      | some k => k ++ " "
      | none => ""
    if ← keyword? "NORMALIZED" then
      return .plain [e, " IS " ++ negated ++ form ++ "NORMALIZED"]
    expected "[NOT] NULL | TRUE | FALSE | DISTINCT | [form] NORMALIZED FROM after IS"

/-- What an expression is compared with behind IN. -/
def inTest (e : Expr) (head : String) : Parser Expr := do
  if ← keyword? "UNNEST" then
    symbol "("
    let array ← expr
    symbol ")"
    return .plain [e, head ++ "IN UNNEST(", array, ")"]
  symbol "("
  match ← attempt query with
  | some q =>
    symbol ")"
    return .plain [e, head ++ "IN (", .node (.query q), ")"]
  | none =>
    let items ← separated expr
    symbol ")"
    return .phrase .other [.part 0, .text (head ++ "IN ("), .parts 1 ", ", .text ")"]
      (.expr e :: items.map .expr)

/-- The character that escapes wildcards, if it is named. -/
def escapeClause : Parser String := do
  if ← keyword? "ESCAPE" then return " ESCAPE " ++ (← value) else return ""

/-- A test that may be negated: membership, a range, or a pattern.  NULL in front of a pattern
behind REGEXP or RLIKE has no meaning. -/
def patternTest (e : Expr) : Parser Expr := do
  let b := (← rules).binding
  let negated ← keyword? "NOT"
  let head := if negated then " NOT " else " "
  let like (name : String) : Parser Expr := do
    let any := if ← keyword? "ANY" then "ANY " else ""
    let pattern ← exprAbove b.like
    return .plain [e, head ++ name ++ " " ++ any, pattern, ← escapeClause]
  let regexp ← keyword? "REGEXP"
  let rlike ← keyword? "RLIKE"
  let null ← given ((← read).mode != .columnDefault) (keyword? "NULL")
  if regexp || rlike then
    return .plain [e, head ++ (if regexp then "REGEXP " else "RLIKE "), ← exprAbove b.like]
  if negated && null then return .plain [e, " IS NOT NULL"]
  if ← keyword? "IN" then inTest e head
  else if ← keyword? "BETWEEN" then do
    let low ← exprAbove b.between
    keyword "AND"
    let high ← exprAbove b.between
    return .plain [e, head ++ "BETWEEN ", low, " AND ", high]
  else if ← keyword? "LIKE" then like "LIKE"
  else if ← keyword? "ILIKE" then like "ILIKE"
  else if ← keywords? ["SIMILAR", "TO"] then do
    let pattern ← exprAbove b.like
    return .plain [e, head ++ "SIMILAR TO ", pattern, ← escapeClause]
  else expected "IN or BETWEEN after NOT"

/-- A path into a value, from its colon or bracket on. -/
def valuePath (e : Expr) : Parser Expr := do
  let key : Parser String := do
    match ← peekToken with
    | .word value none =>
      skip 1
      return value
    | .word value (some '"') | .literal .double value =>
      skip 1
      return quotedText '"' value
    | _ => expected "variant object key name"
  let step (path : List Segment) : Parser (Option (List Segment)) := do
    if path.isEmpty && (← atSymbol ":") then
      skip 1
      return some [.text (":" ++ (← key))]
    if !path.isEmpty && (← atSymbol ".") then
      skip 1
      return some (path ++ [.text ("." ++ (← key))])
    if ← symbol? "[" then
      let e ← expr
      symbol "]"
      return some (path ++ [.text "[", .node (.expr e), .text "]"])
    return none
  let path ← iterate step []
  return .plain (.node (.expr e) :: path)

/-- A complaint about an operator that has no meaning here. -/
def noOperation (place : Lexeme) : Parser Expr :=
  refuseAt ("No infix parser for token " ++ place.token.shape) place

/-- An operator and what it applies to, given the operand in front of it. -/
def operation (left : Expr) (binding : Nat) : Parser Expr := do
  let rules ← rules
  let l ← peek
  match l.token with
  | .word .. =>
    match l.keyword with
    | "AND" => skip 1; binaryOperation left .and l binding
    | "OR" => skip 1; binaryOperation left .or l binding
    | "XOR" | "OVERLAPS" => skip 1; binaryOperation left (.other l.keyword) l binding
    | "DIV" =>
      skip 1
      if rules.divOperator then return .binary left (.other "DIV") (← expr)
      noOperation l
    | "OPERATOR" =>
      skip 1
      if !rules.rangeOperators then noOperation l
      else do
        symbol "("
        let first := (← next).token.text
        let others ← many do
          if ← symbol? "." then return some (← next).token.text else return none
        symbol ")"
        let spelling := "OPERATOR(" ++ ".".intercalate (first :: others) ++ ")"
        binaryOperation left (.other spelling) l binding
    | "IS" => skip 1; isTest left
    | "AT" =>
      skip 1
      keywords ["TIME", "ZONE"]
      return .plain [left, " AT TIME ZONE ", ← exprAbove binding]
    | "NOT" | "IN" | "BETWEEN" | "LIKE" | "ILIKE" | "SIMILAR" | "REGEXP" | "RLIKE" =>
      patternTest left
    | "NOTNULL" => skip 1; return .plain [left, " IS NOT NULL"]
    | "MEMBER" =>
      skip 1
      if ← keyword? "OF" then
        symbol "("
        let array ← expr
        symbol ")"
        return .plain [left, " MEMBER OF(", array, ")"]
      expected "OF after MEMBER"
    | _ => skip 1; noOperation l
  | .customOperator s => skip 1; binaryOperation left (.other s) l binding
  | .symbol "::" =>
    skip 1
    return .written .functionLike (left :: (← dataType).segments "::" "")
  | .symbol "!" =>
    skip 1
    if rules.mathOperators then return .plain [left, "!"] else noOperation l
  | .symbol ":" => valuePath left
  | .symbol "[" => if rules.bracketPaths then valuePath left else do skip 1; noOperation l
  | .symbol s =>
    skip 1
    match binarySymbol? rules s with
    | some op => binaryOperation left op l binding
    | none => noOperation l
  | _ => noOperation l

/-- A collation behind an expression, where it does not end a column's default. -/
def collated (e : Expr) : Parser Expr := do
  if (← read).mode == .columnDefault then return e
  if ← keyword? "COLLATE" then return .plain (e :: (← objectName).segments " COLLATE " "")
  return e

/-- An expression whose operators bind more strongly than a bound. -/
def subexpr (bound : Nat) : Parser Expr := do
  let start ← get
  let first ← collated (← fields start (← operand))
  let step (left : Expr) : Parser (Option Expr) := do
    let binding ← nextBinding
    if bound ≥ binding then return none
    if ← atSymbol "." then return none
    return some (← operation left binding)
  iterate step first

end ColumnLineage.Sql.Parser
