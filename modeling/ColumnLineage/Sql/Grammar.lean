import ColumnLineage.Sql.Grammar.Statement

/-!
# The grammar as a whole

The grammar rules of the four constructs that nest are joined here: a construct is entered with a
budget of units, and what stands inside it is entered with one unit less.

## Main definitions

* `construct`: the grammar rule of a construct.
* `parseWithin`: enters a construct with a budget.
* `parseStatements`: all statements of a list of lexemes.
-/

namespace ColumnLineage.Sql

/-- The grammar rule of a construct. -/
def construct : (g : Goal) → Parser g.Tree
  | .statement => Parser.wholeStatement
  | .query => Parser.wholeQuery
  | .source => Parser.sourceFactor
  | .expr bound => Parser.subexpr bound

/-- Enters a construct with a budget of units; without units it is refused. -/
def parseWithin (rules : Rules) : Nat → (g : Goal) → Mode → List Lexeme → Outcome g.Tree
  | 0, _, _, _ => .error .budget
  | units + 1, g, mode, lexemes =>
    construct g ⟨rules, mode, fun g mode lexemes => parseWithin rules units g mode lexemes⟩ lexemes

/-- All statements of a list of lexemes, each with a budget of units. -/
def parseStatements (rules : Rules) (units : Nat) (lexemes : List Lexeme) :
    Except ParseFailure (List Statement) :=
  (Parser.statements ⟨rules, .anywhere, parseWithin rules units⟩ lexemes).map (·.1)

end ColumnLineage.Sql
