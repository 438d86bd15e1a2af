import ColumnLineage.Sql.Grammar.Name

/-!
# Arguments and dotted names

The arguments of a call, of which a star may be one.  A dotted name may have a part that a call
computes, so that names come behind arguments here.

## Main definitions

* `Parser.starAhead`, `Parser.starOptions`: a star, and what leaves out or replaces its columns.
* `Parser.argument`: an argument of a call.
* `Parser.objectName`: a dotted name, with what is visited in it.
-/

namespace ColumnLineage.Sql

/-- A star in front of an expression's place. -/
inductive Star where
  /-- `*`. -/
  | plain
  /-- `a.b.*`. -/
  | qualified (name : ObjectName)

/-- A dotted name as it is parsed.  The arguments of the call that computes a part of it are visited,
though the name is known by its text alone. -/
structure ParsedName where
  name : ObjectName
  inside : List Node

namespace ParsedName

/-- The parts of a statement that names a table. -/
def parts (n : ParsedName) : List Node :=
  .relation n.name :: n.inside

/-- The segments that write a name between two texts. -/
def segments (opening : String) (n : ParsedName) (closing : String) : List Segment :=
  .text (opening ++ n.name.text ++ closing) :: n.inside.map .node

end ParsedName

namespace Parser

/-- A star, if one stands here; else nothing is taken.  A name whose last period is followed by
neither a name nor a star is refused. -/
def starAhead : Parser (Option Star) := do
  let lexemes ← get
  let l ← peek
  match l.token with
  | .symbol "*" =>
    skip 1
    return some .plain
  | .symbol "(" =>
    if ← symbols? ["(", "*", ")"] then return some .plain
    return none
  | .word .. | .literal .single _ =>
    let some first := identOf l.token | return none
    skip 1
    let step (state : List Ident × Bool) : Parser (Option (List Ident × Bool)) := do
      if state.2 then return none
      if !(← symbol? ".") then return none
      match ← peekToken with
      | .word value quote =>
        skip 1
        return some (⟨value, quote⟩ :: state.1, false)
      | .literal .single value =>
        skip 1
        return some (⟨value, some '\''⟩ :: state.1, false)
      | .symbol "*" =>
        skip 1
        return some (state.1, true)
      | _ => expected "an identifier or a '*' after '.'"
    let (names, starred) ← iterate step ([first], false)
    if starred then return some (.qualified (.ofIdents names.reverse))
    set lexemes
    return none
  | _ => return none

/-- The columns a star leaves out behind EXCLUDE. -/
def starExclude : Parser Node := do
  if ← atSymbol "(" then
    return .words ("EXCLUDE (" ++ identTexts (← inParens (separated ident)) ++ ")")
  return .words ("EXCLUDE " ++ (← ident).text)

/-- The columns a star leaves out behind EXCEPT. -/
def starExcept : Parser Node := do
  let names ← if ← atSymbol "(" then identList else pure [← ident]
  return .words ("EXCEPT (" ++ identTexts names ++ ")")

/-- The columns a star replaces. -/
def starReplace : Parser Node := do
  if !(← atSymbol "(") then
    expected "( after REPLACE but"
  let item : Parser (List Segment) := do
    let e ← expr
    let joint := if ← keyword? "AS" then " AS " else " "
    return [e, joint ++ (← ident).text]
  let items ← inParens (separated item)
  return .written (Segment.between "REPLACE (" (Segment.commas items) ")")

/-- The columns a star renames. -/
def starRename : Parser Node := do
  let item : Parser String := do
    let name ← ident
    keyword "AS"
    return name.text ++ " AS " ++ (← ident).text
  if ← atSymbol "(" then
    return .words ("RENAME (" ++ commas (← inParens (separated item)) ++ ")")
  return .words ("RENAME " ++ (← item))

/-- What leaves out, replaces or renames columns of a star. -/
def starOptions : Parser (List Node) := do
  let rules ← rules
  let option (allowed : Bool) (k : Keyword) (p : Parser Node) : Parser (List Node) := do
    if ← given allowed (keyword? k) then return [← p] else return []
  let pattern : Parser Node := do
    match ← peekToken with
    | .literal .single pattern =>
      skip 1
      return .words ("ILIKE " ++ literalText .single pattern)
    | _ => expected "ilike pattern"
  let ilike ← option rules.starIlike "ILIKE" pattern
  let exclude ← option (rules.starExclude && ilike.isEmpty) "EXCLUDE" starExclude
  let except ← option rules.starExcept "EXCEPT" starExcept
  let replace ← option rules.starReplace "REPLACE" starReplace
  let rename ← option rules.starRename "RENAME" starRename
  return ilike ++ exclude ++ except ++ replace ++ rename

/-- What stands between the name and the value of a named argument. -/
def argumentOperator : Parser String := do
  if ← keyword? "VALUE" then return "VALUE"
  if ← symbol? "=>" then return "=>"
  let rules ← rules
  if ← given rules.assignedArgument (symbol? ":=") then return ":="
  if ← given rules.equatedArgument (symbol? "=") then return "="
  if ← given rules.colonArgument (symbol? ":") then return ":"
  expected "argument operator"

/-- A star or an expression. -/
def starOrExpr : Parser (List Segment) := do
  match ← starAhead with
  | some .plain => return ["*"]
  | some (.qualified name) => return [.text (name.text ++ ".*")]
  | none => return [← expr]

/-- An argument without a name. -/
def plainArgument : Parser (List Segment) := do
  match ← starAhead with
  | some .plain =>
    if ← rule (·.starExclude) then
      let options ← starOptions
      return Segment.behind "*" (options.flatMap fun o => [.text " ", .node o])
    return ["*"]
  | some (.qualified name) => return [.text (name.text ++ ".*")]
  | none => return [← expr]

/-- An argument of a call. -/
def argument : Parser (List Segment) := do
  let named (name : List Segment) : Parser (List Segment) := do
    let operator ← argumentOperator
    return name ++ Segment.behind (" " ++ operator ++ " ") (← starOrExpr)
  if ← rule (·.namedArgumentExpr) then
    let lexemes ← get
    match ← attempt expr with
    | none => plainArgument
    | some e =>
      match ← attempt (named [e]) with
      | some segments => return segments
      | none =>
        let behind ← get
        set lexemes
        match ← starAhead with
        | none =>
          set behind
          return [e]
        | some .plain => return ["*"]
        | some (.qualified name) => return [.text (name.text ++ ".*")]
  else
    match ← attempt (do named [.text (← ident).text]) with
    | some segments => return segments
    | none => plainArgument

/-- A name is a call that computes a part of a dotted name, the first such call in it. -/
def computesName (rules : Rules) (name : Ident) (parts : List NamePart) : Bool :=
  rules.identifierCalls && name.quote.isNone && Text.lower name.value == "identifier" &&
    parts.all fun
      | .ident _ => true
      | .computed _ => false

/-- One part of a dotted name, behind the parts in front of it in reverse order. -/
def namePart (parts : List NamePart) : Parser (NamePart × List Node) := do
  let rules ← rules
  if rules.doublePeriodNames && parts.length == 1 && (← atSymbol ".") then
    return (.ident ⟨"", none⟩, [])
  let name ← ident
  if computesName rules name parts then
    let arguments ← inParens (separatedUntil ")" argument)
    let call := Node.written
      (Segment.between (name.text ++ "(") (Segment.commas arguments) ")")
    return (.computed call.text, [call.hidden])
  return (.ident name, [])

/-- A dotted name. -/
def objectName : Parser ParsedName := do
  let (first, inside) ← namePart []
  let step (state : List NamePart × List Node) :
      Parser (Option (List NamePart × List Node)) := do
    if !(← symbol? ".") then return none
    let (part, inside) ← namePart state.1
    return some (part :: state.1, state.2 ++ inside)
  let (parts, inside) ← iterate step ([first], inside)
  return ⟨⟨parts.reverse⟩, inside⟩

/-- What is visited in a dotted name that is not kept. -/
def nameInside : Parser (List Node) := do
  return (← objectName).inside

end Parser

end ColumnLineage.Sql
