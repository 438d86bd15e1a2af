import ColumnLineage.Sql.Lexer
import ColumnLineage.Sql.Rules
import ColumnLineage.Sql.Tree

/-!
# Parsers

A parser takes lexemes from the front of those that remain.  It may enter the four constructs that
nest (statements, queries, sources, expressions) only through the budget it was given: entering one
uses a unit, and a parser without units fails.

## Main definitions

* `ParseFailure`: why a text is not a query, with `ParseFailure.message`.
* `Goal`: a construct that can be entered, with the type of its tree.
* `Parser`: a parser, with the dialect's rules and the budget as its setting.
* `Parser.attempt`, `Parser.iterate`, `Parser.separated`: alternatives, repetition and lists.

## Design notes

The budget is a function from goals to parsers rather than a number, so that grammar rules are
plain definitions, and the recursion through them is structural in the number of units.
-/

namespace ColumnLineage.Sql

/-- Why a text is not a query. -/
inductive ParseFailure where
  | lexical (failure : LexFailure)
  /-- Something else should stand where a lexeme was found. -/
  | expected (what : String) (found : Lexeme)
  /-- A construct is refused. -/
  | refused (complaint : String)
  /-- A construct is refused at the place of a lexeme. -/
  | refusedAt (complaint : String) (place : Lexeme)
  /-- The text is nested too deeply. -/
  | budget
deriving DecidableEq, Repr

namespace ParseFailure

/-- The complaint about a text that is not a query. -/
def message (failure : ParseFailure) : String :=
  "sql parser error: " ++ match failure with
    | lexical f => f.fault.message ++ Lexeme.placeText f.line f.column
    | expected what found => s!"Expected: {what}, found: {found.token.text}{found.place}"
    | refused complaint => complaint
    | refusedAt complaint place => complaint ++ place.place
    | budget => "recursion limit exceeded"

end ParseFailure

/-- A construct that can be entered. -/
inductive Goal where
  | statement
  | query
  | source
  /-- An expression whose operators bind more strongly than a bound. -/
  | expr (bound : Nat)

/-- The tree of a construct. -/
def Goal.Tree : Goal → Type
  | statement => Statement
  | query => Query
  | source => Source
  | expr _ => Expr

/-- The place of an expression, where it decides about the meaning of a word. -/
inductive Mode where
  | anywhere
  /-- The default of a column in a definition, where NOT NULL ends the expression. -/
  | columnDefault
  /-- A hierarchy, where PRIOR is an operator. -/
  | hierarchy
deriving DecidableEq, Repr

/-- What a parse leaves behind: a tree and the lexemes that remain. -/
abbrev Outcome (α : Type) := Except ParseFailure (α × List Lexeme)

/-- What a parser is given besides lexemes. -/
structure Setting where
  rules : Rules
  mode : Mode
  /-- Enters a construct with one unit less. -/
  enter : (g : Goal) → Mode → List Lexeme → Outcome g.Tree

/-- A parser of `α`. -/
abbrev Parser := ReaderT Setting (StateT (List Lexeme) (Except ParseFailure))

namespace Parser

variable {α β : Type}

/-- The rules of the dialect. -/
def rules : Parser Rules := do
  return (← read).rules

/-- A decision of the dialect. -/
def rule (decision : Rules → Bool) : Parser Bool := do
  return decision (← read).rules

/-- Enters a construct. -/
def enter (g : Goal) : Parser g.Tree := fun setting lexemes =>
  setting.enter g setting.mode lexemes

/-- A statement inside another. -/
def statement : Parser Statement := enter .statement

/-- A query inside a statement. -/
def query : Parser Query := enter .query

/-- A source. -/
def source : Parser Source := enter .source

/-- An expression whose operators bind more strongly than a bound. -/
def exprAbove (bound : Nat) : Parser Expr := enter (.expr bound)

/-- An expression. -/
def expr : Parser Expr := exprAbove 0

/-- Parses in another mode. -/
def inMode (mode : Mode) (p : Parser α) : Parser α := fun setting lexemes =>
  p { setting with mode } lexemes

/-- Fails. -/
def fail (failure : ParseFailure) : Parser α := fun _ _ =>
  .error failure

/-- The lexeme that stands `n` lexemes behind the next one. -/
def peekAt (n : Nat) : Parser Lexeme := fun _ lexemes =>
  .ok (lexemes.getD n .ending, lexemes)

/-- The next lexeme. -/
def peek : Parser Lexeme := fun _ lexemes =>
  .ok (lexemes.headD .ending, lexemes)

/-- The next token. -/
def peekToken : Parser Token := do
  return (← peek).token

/-- The keyword of the next lexeme. -/
def peekKeyword : Parser Keyword := do
  return (← peek).keyword

/-- Takes the next lexeme. -/
def next : Parser Lexeme := fun _ lexemes =>
  .ok (lexemes.headD .ending, lexemes.tail)

/-- Drops the next `n` lexemes. -/
def skip (n : Nat) : Parser Unit := fun _ lexemes =>
  .ok ((), lexemes.drop n)

/-- Fails, as something else should stand here. -/
def expected (what : String) : Parser α := do
  fail (.expected what (← peek))

/-- The next lexeme is a keyword. -/
def atKeyword (keyword : Keyword) : Parser Bool := do
  return (← peekKeyword) == keyword

/-- The next lexemes are some keywords. -/
def atKeywords (keywords : List Keyword) : Parser Bool := fun _ lexemes =>
  .ok (keywords.isPrefixOf (lexemes.map (·.keyword)), lexemes)

/-- Takes a keyword if it stands here. -/
def keyword? (keyword : Keyword) : Parser Bool := fun _ lexemes =>
  match lexemes with
  | l :: more => if l.keyword == keyword then .ok (true, more) else .ok (false, lexemes)
  | [] => .ok (false, [])

/-- The lexemes behind some keywords, if they stand in front. -/
def behind : List Keyword → List Lexeme → Option (List Lexeme)
  | [], lexemes => some lexemes
  | k :: keywords, l :: lexemes => if l.keyword == k then behind keywords lexemes else none
  | _ :: _, [] => none

/-- Takes some keywords if all of them stand here. -/
def keywords? (keywords : List Keyword) : Parser Bool := fun _ lexemes =>
  match behind keywords lexemes with
  | some more => .ok (true, more)
  | none => .ok (false, lexemes)

/-- Takes the first of some forms that stands here, if one does. -/
def anyOf? : List (List Keyword) → Parser Bool
  | [] => return false
  | form :: forms => do
    if ← keywords? form then return true else anyOf? forms

/-- Takes one of some keywords if one stands here. -/
def oneOf? (keywords : List Keyword) : Parser (Option Keyword) := fun _ lexemes =>
  match lexemes with
  | l :: more =>
    if keywords.contains l.keyword then .ok (some l.keyword, more) else .ok (none, lexemes)
  | [] => .ok (none, [])

/-- Takes a keyword. -/
def keyword (k : Keyword) : Parser Unit := do
  unless ← keyword? k do expected k

/-- Takes some keywords. -/
def keywords (ks : List Keyword) : Parser Unit :=
  ks.forM keyword

/-- Takes one of some keywords. -/
def oneOf (ks : List Keyword) : Parser Keyword := do
  match ← oneOf? ks with
  | some k => return k
  | none => expected ("one of " ++ " or ".intercalate ks)

/-- The next lexeme is a symbol. -/
def atSymbol (symbol : String) : Parser Bool := do
  return (← peekToken) == .symbol symbol

/-- Takes a symbol if it stands here. -/
def symbol? (symbol : String) : Parser Bool := fun _ lexemes =>
  match lexemes with
  | l :: more => if l.token == .symbol symbol then .ok (true, more) else .ok (false, lexemes)
  | [] => .ok (false, [])

/-- Takes some symbols if all of them stand here. -/
def symbols? (symbols : List String) : Parser Bool := fun _ lexemes =>
  if symbols.map Token.symbol == (lexemes.take symbols.length).map (·.token) then
    .ok (true, lexemes.drop symbols.length)
  else .ok (false, lexemes)

/-- Takes a symbol. -/
def symbol (s : String) : Parser Unit := do
  unless ← symbol? s do expected s

/-- Tries a parser: where it fails, nothing is taken.  A text that is nested too deeply fails all
the same. -/
def attempt (p : Parser α) : Parser (Option α) := fun setting lexemes =>
  match p setting lexemes with
  | .ok (a, more) => .ok (some a, more)
  | .error .budget => .error .budget
  | .error _ => .ok (none, lexemes)

/-- What a parser finds, with nothing taken. -/
def ahead (p : Parser α) : Parser α := fun setting lexemes =>
  (p setting lexemes).map fun (a, _) => (a, lexemes)

/-- Repeats a step until it gives nothing, at most `fuel` times. -/
def iterateWithin (step : α → Parser (Option α)) : Nat → α → Parser α
  | 0, a => return a
  | fuel + 1, a => do
    match ← step a with
    | some b => iterateWithin step fuel b
    | none => return a

/-- Repeats a step until it gives nothing.  A step that gives something takes a lexeme. -/
def iterate (step : α → Parser (Option α)) (a : α) : Parser α := fun setting lexemes =>
  iterateWithin step (lexemes.length + 1) a setting lexemes

/-- What a parser finds again and again, until it finds nothing. -/
def many (p : Parser (Option α)) : Parser (List α) := do
  let found ← iterate (fun found => do return (← p).map (· :: found)) []
  return found.reverse

/-- Tries a parser only under a condition. -/
def given (condition : Bool) (p : Parser Bool) : Parser Bool :=
  if condition then p else pure false

/-- Tries a parser, and another where the first finds nothing. -/
def either (p q : Parser Bool) : Parser Bool := do
  if ← p then return true else q

/-- The words no alias of a column may be. -/
def columnReserved : List Keyword :=
  ["WITH", "EXPLAIN", "ANALYZE", "SELECT", "WHERE", "GROUP", "SORT", "HAVING", "ORDER", "TOP",
    "LATERAL", "VIEW", "LIMIT", "OFFSET", "FETCH", "UNION", "EXCEPT", "EXCLUDE", "INTERSECT",
    "MINUS", "CLUSTER", "DISTRIBUTE", "RETURNING", "VALUES", "FROM", "INTO", "END"]

/-- The words no alias of a source may be. -/
def sourceReserved : List Keyword :=
  ["WITH", "EXPLAIN", "ANALYZE", "SELECT", "WHERE", "GROUP", "SORT", "HAVING", "ORDER", "PIVOT",
    "UNPIVOT", "TOP", "LATERAL", "VIEW", "LIMIT", "OFFSET", "FETCH", "UNION", "EXCEPT",
    "INTERSECT", "MINUS", "ON", "JOIN", "INNER", "CROSS", "FULL", "LEFT", "RIGHT", "NATURAL",
    "USING", "CLUSTER", "DISTRIBUTE", "GLOBAL", "ANTI", "SEMI", "RETURNING", "ASOF",
    "MATCH_CONDITION", "OUTER", "SET", "QUALIFY", "WINDOW", "END", "FOR", "PARTITION", "PREWHERE",
    "SETTINGS", "FORMAT", "START", "CONNECT", "MATCH_RECOGNIZE", "SAMPLE", "TABLESAMPLE", "FROM",
    "OPEN"]

/-- The lexeme behind a word gives LIMIT, OFFSET or FETCH its meaning. -/
def startsLimit (after : Lexeme) : Bool :=
  match after.token with
  | .number .. | .placeholder _ => true
  | .literal .single value | .literal (.dollar _) value => value.isEmpty
  | _ => after.keyword == "NULL"

/-- Where words are aliases by context, whether a keyword is the alias of a column, given the
lexeme behind it. -/
def contextualColumnAlias (keyword : Keyword) (after : Lexeme) : Bool :=
  match keyword with
  | "EXCEPT" | "RETURNING" => after.token == .symbol "," || after.token == .eof
  | "LIMIT" | "OFFSET" => !startsLimit after
  | "FETCH" => !(["FIRST", "NEXT"].contains after.keyword || startsLimit after)
  | "FROM" | "GROUP" | "HAVING" | "INTERSECT" | "INTO" | "MINUS" | "ORDER" | "SELECT" | "UNION"
  | "WHERE" | "WITH" => false
  | _ => true

/-- Where words are aliases by context, whether a keyword is the alias of a source, given the
lexeme behind it. -/
def contextualSourceAlias (keyword : Keyword) (after : Lexeme) : Bool :=
  let ends := after.token == .symbol ";" || after.token == .eof
  match keyword with
  | "RETURNING" | "PIVOT" | "UNPIVOT" | "EXCEPT" | "MATCH_RECOGNIZE" => ends
  | "LIMIT" | "OFFSET" => !startsLimit after
  | "FETCH" => !(["FIRST", "NEXT"].contains after.keyword || startsLimit after)
  | "SEMI" | "ANTI" => !(["JOIN", "OUTER"].contains after.keyword)
  | "GLOBAL" => after.keyword != "FULL"
  | "WITH" | "ORDER" | "SELECT" | "WHERE" | "GROUP" | "HAVING" | "LATERAL" | "UNION"
  | "INTERSECT" | "MINUS" | "ON" | "JOIN" | "INNER" | "CROSS" | "FULL" | "LEFT" | "RIGHT"
  | "NATURAL" | "USING" | "ASOF" | "MATCH_CONDITION" | "SET" | "QUALIFY" | "FOR" | "START"
  | "CONNECT" | "SAMPLE" | "TABLESAMPLE" | "FROM" => false
  | _ => true

/-- A keyword may be the alias of a column without AS, given the lexeme behind it. -/
def columnAliasWord (rule : AliasRule) (keyword : Keyword) (after : Lexeme) : Bool :=
  match rule with
  | .standard | .indexHints => !columnReserved.contains keyword
  | .contextual => contextualColumnAlias keyword after

/-- A keyword may be the alias of a source without AS, given the lexeme behind it. -/
def sourceAliasWord (rule : AliasRule) (keyword : Keyword) (after : Lexeme) : Bool :=
  match rule with
  | .standard => !sourceReserved.contains keyword
  | .indexHints =>
    !(sourceReserved ++ ["USE", "IGNORE", "FORCE", "STRAIGHT_JOIN"]).contains keyword
  | .contextual => contextualSourceAlias keyword after

/-- The words that end a FROM clause behind a comma. -/
def sourceListEnds (rule : AliasRule) (keyword : Keyword) (after : Lexeme) : Bool :=
  match rule with
  | .standard | .indexHints => ["INTO", "LIMIT", "HAVING", "WHERE"].contains keyword
  | .contextual =>
    match keyword with
    | "LIMIT" => startsLimit after
    | "TABLE" => after.token != .symbol "("
    | _ =>
      ["ALL", "ALTER", "AND", "ANY", "AS", "BETWEEN", "BY", "CHECK", "COLUMN", "CONNECT",
        "CREATE", "CROSS", "CURRENT", "DELETE", "DISTINCT", "DROP", "ELSE", "EXISTS",
        "FOLLOWING", "FOR", "FROM", "FULL", "GRANT", "GROUP", "HAVING", "ILIKE", "IN",
        "INCREMENT", "INNER", "INSERT", "INTERSECT", "INTO", "IS", "JOIN", "LEFT", "LIKE",
        "MINUS", "NATURAL", "NOT", "NULL", "OF", "ON", "OR", "ORDER", "QUALIFY", "REGEXP",
        "RIGHT", "RLIKE", "ROW", "ROWS", "SAMPLE", "SELECT", "SET", "SOME", "START", "TABLE",
        "TABLESAMPLE", "THEN", "TO", "TRIGGER", "UNION", "UNIQUE", "UPDATE", "USING", "VALUES",
        "WHEN", "WHENEVER", "WHERE", "WINDOW", "WITH"].contains keyword

/-- A list ends behind a comma, if what follows cannot be an element of it; `ends` tells of the
words that cannot. -/
def endsBehindComma (ends : Keyword → Lexeme → Bool) : Parser Bool := do
  let l ← peek
  match l.token with
  | .word .. => return ends l.keyword (← peekAt 1)
  | .symbol s => return [")", ";", "]", "\x7d"].contains s
  | .eof => return true
  | _ => return false

/-- A list with commas between its elements.  Where `trailing` holds, a comma may stand at its end
too. -/
def separatedWith (trailing : Bool) (ends : Keyword → Lexeme → Bool) (p : Parser α) :
    Parser (List α) := do
  let first ← p
  let step (found : List α × Bool) : Parser (Option (List α × Bool)) := do
    if found.2 then return none
    if !(← symbol? ",") then return none
    if trailing && (← endsBehindComma ends) then return some (found.1, true)
    return some ((← p) :: found.1, false)
  let found ← iterate step ([first], false)
  return found.1.reverse

/-- A list with commas between its elements. -/
def separated (p : Parser α) : Parser (List α) := do
  let rules ← rules
  separatedWith rules.trailingComma (fun k l => !columnAliasWord rules.aliasRule k l) p

/-- A list that may be empty, in front of a closing symbol. -/
def separatedUntil (closing : String) (p : Parser α) : Parser (List α) := do
  if ← atSymbol closing then return []
  if (← rule (·.trailingComma)) && (← ahead (symbols? [",", closing])) then
    skip 1
    return []
  separated p

/-- Something in parentheses. -/
def inParens (p : Parser α) : Parser α := do
  symbol "("
  let a ← p
  symbol ")"
  return a

/-- A failure at the place of a lexeme. -/
def refuseAt (complaint : String) (place : Lexeme) : Parser α :=
  fail (.refusedAt complaint place)

/-- A failure without a place. -/
def refuse (complaint : String) : Parser α :=
  fail (.refused complaint)

end Parser

end ColumnLineage.Sql
