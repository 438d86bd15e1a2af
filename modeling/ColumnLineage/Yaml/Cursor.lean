import ColumnLineage.Yaml.Fault

/-!
# Places in YAML

A text is read from its front, and every place knows its line and its column, for the indentation
of a line says which block it belongs to.

## Main definitions

* `Cursor`: what remains of a text, and where.
* `Scan`: readers.
* `Scan.iterate`: a step until it gives nothing.
* `Scan.lineBreak`: a line break as it is kept.
-/

namespace ColumnLineage.Yaml

/-- A blank within a line. -/
def isBlank (c : Char) : Bool := c == ' ' || c == '\t'

/-- A line break; a carriage return with a line feed is one. -/
def isBreak (c : Char) : Bool :=
  c == '\n' || c == '\r' || c.toNat == 0x85 || c.toNat == 0x2028 || c.toNat == 0x2029

/-- A blank, a line break or the end stands at the front. -/
def blankOrEnd : List Char → Bool
  | [] => true
  | c :: _ => isBlank c || isBreak c

/-- A character of a name. -/
def isNameChar (c : Char) : Bool := c.isAlphanum || c == '-' || c == '_'

/-- Three marks, with a blank or the end behind them. -/
def marksDocument (mark : Char) : List Char → Bool
  | a :: b :: c :: rest => a == mark && b == mark && c == mark && blankOrEnd rest
  | _ => false

/-- What remains of a text, and where. -/
structure Cursor where
  rest : List Char
  line : Nat
  column : Nat
  /-- The characters in front. -/
  index : Nat
deriving Repr

namespace Cursor

/-- The start of a text. -/
def ofChars (cs : List Char) : Cursor := ⟨cs, 0, 0, 0⟩

/-- A document starts or ends at the start of this line. -/
def atDocumentMark (c : Cursor) : Bool :=
  c.column == 0 && (marksDocument '-' c.rest || marksDocument '.' c.rest)

end Cursor

/-- A reader of `α`. -/
abbrev Scan := StateT Cursor (Except Fault)

namespace Scan

/-- Fails. -/
def fail {α : Type} (fault : Fault) : Scan α := throw fault

/-- Fails unless a condition holds. -/
def ensure (condition : Bool) (fault : Fault) : Scan Unit :=
  if condition then pure () else fail fault

/-- The next character. -/
def peek : Scan (Option Char) := fun c => .ok (c.rest.head?, c)

/-- The characters that remain. -/
def rest : Scan (List Char) := fun c => .ok (c.rest, c)

/-- The column of this place. -/
def column : Scan Nat := fun c => .ok (c.column, c)

/-- Takes a character that is no line break. -/
def skip : Scan Unit := fun c =>
  .ok ((), { c with rest := c.rest.tail, column := c.column + 1, index := c.index + 1 })

/-- A place behind a line break of some characters. -/
def newLine (rest : List Char) (characters : Nat) : Scan Unit := fun c =>
  .ok ((), ⟨rest, c.line + 1, 0, c.index + characters⟩)

/-- Takes a line break.  The separators of lines and paragraphs are kept, all others count as line
feeds. -/
def lineBreak : Scan Char := do
  match ← rest with
  | '\r' :: '\n' :: more =>
    newLine more 2
    return '\n'
  | c :: more =>
    newLine more 1
    return if c.toNat == 0x2028 || c.toNat == 0x2029 then c else '\n'
  | [] => return '\n'

/-- Repeats a step until it gives nothing. -/
def iterateWithin {σ : Type} (step : σ → Scan (Option σ)) : Nat → σ → Scan σ
  | 0, s => return s
  | fuel + 1, s => do
    match ← step s with
    | some s => iterateWithin step fuel s
    | none => return s

/-- Repeats a step until it gives nothing.  A step that gives something takes a character, but for
one that gives nothing the next time. -/
def iterate {σ : Type} (start : σ) (step : σ → Scan (Option σ)) : Scan σ := fun c =>
  iterateWithin step (c.rest.length + 2) start c

/-- Takes the characters for which a test holds; line breaks are none of them. -/
def takeWhile (test : Char → Bool) : Scan (List Char) := fun c =>
  let taken := c.rest.takeWhile test
  .ok (taken, { c with
    rest := c.rest.drop taken.length
    column := c.column + taken.length
    index := c.index + taken.length })

/-- Takes the blanks that stand here. -/
def blanks : Scan Unit := do
  let _ ← takeWhile isBlank

/-- Takes a comment, if one stands here. -/
def comment : Scan Unit := do
  if (← peek) == some '#' then
    let _ ← takeWhile fun c => !isBreak c

/-- Takes blanks, a comment and the end of the line. -/
def restOfLine : Scan Unit := do
  blanks
  comment
  match ← peek with
  | none => return ()
  | some c =>
    ensure (isBreak c) .noLineEnd
    let _ ← lineBreak

/-- The value of a hexadecimal digit. -/
def hexValue (c : Char) : Option Nat :=
  if c.isDigit then some (c.toNat - '0'.toNat)
  else if 'a' ≤ c && c ≤ 'f' then some (c.toNat - 'a'.toNat + 10)
  else if 'A' ≤ c && c ≤ 'F' then some (c.toNat - 'A'.toNat + 10)
  else none

/-- A number of some hexadecimal digits. -/
def hexNumber (fault : Fault) : Nat → Nat → Scan Nat
  | 0, n => return n
  | digits + 1, n => do
    match (← peek).bind hexValue with
    | some digit =>
      skip
      hexNumber fault digits (n * 16 + digit)
    | none => fail fault

end Scan

end ColumnLineage.Yaml
