import ColumnLineage.Sql.Dialect
import ColumnLineage.Sql.Grammar
import ColumnLineage.Text.Blank
import ColumnLineage.Text.Label

/-!
# Readers

A reader turns a text into statements, with a dialect and a bound on nesting.  A second reader may
stand by for texts that the first one refuses.

## Main definitions

* `ReadFailure`: why a text has no statements, with `ReadFailure.message`.
* `numberAfter`: the number behind the last occurrence of a label, such as a position in a complaint.
* `Reader.read`, `Reader.readOr`: reading, alone and with a second reader.
-/

namespace ColumnLineage.Sql

/-- The number that decimal digits denote, if there are digits and it is below 2^64. -/
def wordOfDigits (digits : List Char) : Option Nat :=
  let n := Nat.ofDigitChars 10 digits 0
  if digits.isEmpty || n ≥ Nat.pow 2 64 then none else some n

/-- The number behind the last occurrence of a label. -/
def numberAfter (message label : String) : Option Nat :=
  match Text.behindLast? label message with
  | none => none
  | some start => wordOfDigits ((message.sliceFrom start).copy.toList.takeWhile Char.isDigit)

/-- Why a text has no statements. -/
inductive ReadFailure where
  /-- Nothing but blanks. -/
  | empty
  /-- The text is refused, at the position its complaint names. -/
  | refused (dialect : Dialect) (complaint : String)
deriving DecidableEq, Repr

namespace ReadFailure

/-- The line a complaint names, or zero. -/
def line (complaint : String) : Nat :=
  (numberAfter complaint "Line: ").getD 0

/-- The column a complaint names, or zero. -/
def column (complaint : String) : Nat :=
  (numberAfter complaint "Column: ").getD 0

/-- The complaint about a text without statements. -/
def message : ReadFailure → String
  | empty => "[S002] SQL is empty"
  | refused dialect complaint =>
    let place := s!"line {line complaint}, column {column complaint}"
    s!"[S001] {dialect.name} parse error at {place}: {complaint}"

end ReadFailure

/-- A dialect with a bound on nesting. -/
structure Reader where
  dialect : Dialect
  /-- The units that nested constructs may use. -/
  limit : Nat
deriving DecidableEq, Repr

namespace Reader

/-- The bound on nesting where none is given. -/
def defaultLimit : Nat := 26

/-- A reader with the usual bound. -/
def ofDialect (dialect : Dialect) : Reader :=
  ⟨dialect, defaultLimit⟩

/-- The statements of a text that is not blank. -/
def parse (r : Reader) (text : String) : Except ParseFailure (List Statement) :=
  match Lexeme.ofText r.dialect.rules.lexis text with
  | .error failure => .error (.lexical failure)
  | .ok lexemes => parseStatements r.dialect.rules r.limit lexemes

/-- The statements of a text, with the blanks around it left out. -/
def read (r : Reader) (text : String) : Except ReadFailure (List Statement) :=
  let text := Text.trim text
  if text.isEmpty then .error .empty
  else match r.parse text with
    | .ok statements => .ok statements
    | .error failure => .error (.refused r.dialect failure.message)

/-- The statements of a text; where the reader refuses it, a second reader tries.  A blank text is
not tried again. -/
def readOr (r : Reader) (second : Option Reader) (text : String) :
    Except ReadFailure (List Statement) :=
  match r.read text, second with
  | .error (.refused ..), some second => second.read text
  | result, _ => result

end Reader

end ColumnLineage.Sql
