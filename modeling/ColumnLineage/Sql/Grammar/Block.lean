import ColumnLineage.Sql.Grammar.Query

/-!
# Blocks

Statements that hold other statements: IF, CASE and WHILE, and the blocks between BEGIN and END.
Only the parts of the inner statements are kept, in visiting order.

## Main definitions

* `Parser.block`: statements up to a word that ends them.
* `Parser.conditional`, `Parser.selection`, `Parser.repetition`: IF, CASE and WHILE behind their
  keywords.
-/

namespace ColumnLineage.Sql.Parser

/-- The parts of a statement inside another. -/
def statementParts : Statement → List Node
  | .query q => [.query q]
  | .other _ parts => parts

/-- Statements up to a word that ends them, each with a semicolon behind it. -/
def sequence (ends : List Keyword) : Parser (List Node) := do
  let parts ← many do
    let l ← peek
    if l.token == .eof || ends.contains l.keyword then return none
    let s ← statement
    symbol ";"
    return some (statementParts s)
  return parts.flatten

/-- Statements up to a word that ends them, or between BEGIN and END. -/
def block (ends : List Keyword) : Parser (List Node) := do
  if ← keyword? "BEGIN" then
    let parts ← sequence ends
    keyword "END"
    return parts
  sequence ends

/-- A condition and the statements it guards. -/
def guardedBlock (ends : List Keyword) : Parser (List Node) := do
  let condition ← expr
  keyword "THEN"
  return .expr condition :: (← block ends)

/-- Guarded blocks, each behind a word, and the block behind ELSE. -/
def moreBlocks (word : Keyword) (ends : List Keyword) : Parser (List Node) := do
  let parts ← many do
    if ← keyword? word then return some (← guardedBlock (word :: ends)) else return none
  let rest ← if ← keyword? "ELSE" then block ["END"] else pure []
  return parts.flatten ++ rest

/-- IF behind its keyword. -/
def conditional : Parser (List Node) := do
  let first ← guardedBlock ["ELSE", "ELSEIF", "END"]
  let more ← moreBlocks "ELSEIF" ["ELSE", "END"]
  keywords ["END", "IF"]
  return first ++ more

/-- CASE behind its keyword, as a statement. -/
def selection : Parser (List Node) := do
  let subject ← if ← atKeyword "WHEN" then pure [] else do pure [Node.expr (← expr)]
  keyword "WHEN"
  let first ← guardedBlock ["WHEN", "ELSE", "END"]
  let more ← moreBlocks "WHEN" ["ELSE", "END"]
  keyword "END"
  let _ ← keyword? "CASE"
  return subject ++ first ++ more

/-- WHILE behind its keyword. -/
def repetition : Parser (List Node) := do
  let condition ← expr
  return .expr condition :: (← block ["END"])

end ColumnLineage.Sql.Parser
