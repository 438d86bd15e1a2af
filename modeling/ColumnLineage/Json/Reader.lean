import ColumnLineage.Json.Value

/-!
# Reading JSON

A text is read from its front.  A complaint names the place where reading stopped, with columns
counted in bytes.

## Main definitions

* `Fault`: what is wrong with a text.
* `SyntaxFailure`: a fault with its place.
* `Reader.document`: the value of a text.
* `parse`: the value of a text that holds nothing else.

## Design notes

Values that nobody asks for are read with less care: their depth has no bound, their numbers no
range, and their escapes need not form characters.  `Care` tells the two ways apart.
-/

namespace ColumnLineage.Json

/-- What is wrong with a text. -/
inductive Fault where
  | unfinishedList
  | unfinishedObject
  | unfinishedString
  | unfinishedValue
  | noColon
  | noCommaInList
  | noCommaInObject
  | noIdent
  | noValue
  | badEscape
  | badNumber
  | numberOutOfRange
  | controlCharacter
  | keyNotString
  | loneSurrogate
  | trailingComma
  | trailingCharacters
  | unfinishedHexEscape
  | tooDeep
deriving DecidableEq, Repr

namespace Fault

/-- What is wrong, in words. -/
def text : Fault → String
  | unfinishedList => "EOF while parsing a list"
  | unfinishedObject => "EOF while parsing an object"
  | unfinishedString => "EOF while parsing a string"
  | unfinishedValue => "EOF while parsing a value"
  | noColon => "expected `:`"
  | noCommaInList => "expected `,` or `]`"
  | noCommaInObject => "expected `,` or `\x7d`"
  | noIdent => "expected ident"
  | noValue => "expected value"
  | badEscape => "invalid escape"
  | badNumber => "invalid number"
  | numberOutOfRange => "number out of range"
  | controlCharacter => "control character (\\u0000-\\u001F) found while parsing a string"
  | keyNotString => "key must be a string"
  | loneSurrogate => "lone leading surrogate in hex escape"
  | trailingComma => "trailing comma"
  | trailingCharacters => "trailing characters"
  | unfinishedHexEscape => "unexpected end of hex escape"
  | tooDeep => "recursion limit exceeded"

end Fault

/-- A fault with its place. -/
structure SyntaxFailure where
  fault : Fault
  line : Nat
  column : Nat
deriving DecidableEq, Repr

/-- The complaint about a text that is not JSON. -/
def SyntaxFailure.message (e : SyntaxFailure) : String :=
  s!"{e.fault.text} at line {e.line} column {e.column}"

/-- What remains of a text, and the place where it starts. -/
structure Cursor where
  rest : List Char
  line : Nat
  /-- The bytes of the line in front. -/
  column : Nat
deriving Repr

namespace Cursor

/-- The start of a text. -/
def ofText (text : String) : Cursor :=
  ⟨text.toList, 1, 0⟩

/-- The place behind a character. -/
def advance (c : Cursor) (char : Char) (rest : List Char) : Cursor :=
  if char == '\n' then ⟨rest, c.line + 1, 0⟩ else ⟨rest, c.line, c.column + char.utf8Size⟩

/-- The place one byte further, where a character that is looked at stands. -/
def ahead (c : Cursor) : Nat × Nat :=
  match c.rest with
  | [] => (c.line, c.column)
  | '\n' :: _ => (c.line + 1, 0)
  | _ :: _ => (c.line, c.column + 1)

end Cursor

/-- How a value is read. -/
inductive Care where
  /-- The value is kept. -/
  | kept
  /-- The value is skipped. -/
  | skipped
deriving DecidableEq, Repr

/-- A reader of `α`. -/
abbrev Reader := StateT Cursor (Except SyntaxFailure)

namespace Reader

variable {α : Type}

/-- Fails at the place reached. -/
def fail (fault : Fault) : Reader α := fun c =>
  .error ⟨fault, c.line, c.column⟩

/-- Fails at the character looked at. -/
def failAhead (fault : Fault) : Reader α := fun c =>
  .error ⟨fault, c.ahead.1, c.ahead.2⟩

/-- The next character. -/
def peek : Reader (Option Char) := fun c =>
  .ok (c.rest.head?, c)

/-- Takes the next character. -/
def next : Reader (Option Char) := fun c =>
  match c.rest with
  | [] => .ok (none, c)
  | char :: rest => .ok (some char, c.advance char rest)

/-- Drops the next character. -/
def skip : Reader Unit := do
  let _ ← next

/-- Repeats a step until it gives nothing.  A step that gives something takes a character. -/
def iterateWithin {σ : Type} (step : σ → Reader (Option σ)) : Nat → σ → Reader σ
  | 0, s => return s
  | fuel + 1, s => do
    match ← step s with
    | some s => iterateWithin step fuel s
    | none => return s

/-- Repeats a step until it gives nothing. -/
def iterate {σ : Type} (step : σ → Reader (Option σ)) (s : σ) : Reader σ := fun c =>
  iterateWithin step (c.rest.length + 1) s c

/-- Takes a blank, if one stands here. -/
def blank? : Reader (Option Unit) := do
  match ← peek with
  | some ' ' | some '\n' | some '\t' | some '\r' =>
    skip
    return some ()
  | _ => return none

/-- Takes the blanks that stand here. -/
def blanks : Reader Unit :=
  iterate (fun _ => blank?) ()

/-- The next character behind blanks. -/
def peekBehindBlanks : Reader (Option Char) := do
  blanks
  peek

/-- Takes the digits that stand here. -/
def digits : Reader (List Char) := do
  let found ← iterate (σ := List Char) (s := []) fun found => do
    match ← peek with
    | some c =>
      if c.isDigit then
        skip
        return some (c :: found)
      return none
    | none => return none
  return found.reverse

/-- Takes a letter of a word. -/
def wordLetter (letter : Char) : Reader Unit := do
  match ← peek with
  | none => failAhead .unfinishedValue
  | some c => if c == letter then skip else failAhead .noIdent

/-- The rest of a word. -/
def word (letters : List Char) : Reader Unit :=
  letters.forM wordLetter

/-- The value of a digit. -/
def digitValue (c : Char) : Nat := c.toNat - '0'.toNat

/-- The largest number of digits that are kept. -/
def maxSignificand : Nat := Nat.pow 2 64 - 1

/-- Digits in front of the point: those that no longer fit only raise the exponent. -/
def wholeDigits (digits : List Char) : Nat × Nat :=
  digits.foldl (fun (significand, dropped) c =>
    let more := significand * 10 + digitValue c
    if dropped > 0 || more > maxSignificand then (significand, dropped + 1) else (more, 0)) (0, 0)

/-- Digits behind the point, put behind those in front of it, with their number; those from the first
that no longer fits on are dropped. -/
def fractionDigits : Nat → List Char → Nat × Nat
  | significand, [] => (significand, 0)
  | significand, c :: more =>
    let longer := significand * 10 + digitValue c
    if longer > maxSignificand then (significand, 0)
    else
      let (all, count) := fractionDigits longer more
      (all, count + 1)

/-- The digits of an exponent, behind the first.  Where the exponent of a number that is not zero
grows beyond all bounds, the number is out of range at once. -/
def exponentDigits (care : Care) (outOfRange : Bool) (first : Nat) : Reader Nat :=
  iterate (s := first) fun exponent => do
    match ← peek with
    | some c =>
      if c.isDigit then
        skip
        let longer := exponent * 10 + digitValue c
        if longer ≥ Nat.pow 2 31 then
          if outOfRange && care == .kept && exponent < Nat.pow 2 31 then fail .numberOutOfRange
          return some (Nat.pow 2 31)
        return some longer
      return none
    | none => return none

/-- An exponent, if one stands here. -/
def exponent? (care : Care) (isZero : Bool) : Reader (Option Int) := do
  match ← peek with
  | some 'e' | some 'E' =>
    skip
    let negative ← match ← peek with
      | some '+' => do skip; pure false
      | some '-' => do skip; pure true
      | _ => pure false
    match ← peek with
    | none => failAhead .unfinishedValue
    | some c =>
      if !c.isDigit then failAhead .badNumber
      skip
      let size ← exponentDigits care (!isZero && !negative) (digitValue c)
      return some (if negative then -(size : Int) else size)
  | _ => return none

/-- The digits behind a point, which is taken. -/
def fraction : Reader (List Char) := do
  skip
  match ← digits with
  | [] =>
    match ← peek with
    | none => failAhead .unfinishedValue
    | some _ => failAhead .badNumber
  | found => return found

/-- A number with a fraction or an exponent, which must be within range if it is kept. -/
def checked (care : Care) (d : Decimal) : Reader Value := do
  if care == .kept && d.toDouble?.isNone then fail .numberOutOfRange
  return .decimal d

/-- A number behind its sign. -/
def number (care : Care) (negative : Bool) : Reader Value := do
  let whole ← match ← peek with
    | none => failAhead .unfinishedValue
    | some '0' => do
      skip
      match ← peek with
      | some c => if c.isDigit then failAhead .badNumber else pure ['0']
      | none => pure ['0']
    | some c => if c.isDigit then digits else failAhead .badNumber
  let (significand, dropped) := wholeDigits whole
  let point := (← peek) == some '.'
  let (significand, places) ←
    if point then do pure (fractionDigits significand (← fraction)) else pure (significand, 0)
  let shift : Int := (dropped : Int) - places
  match ← exponent? care (significand == 0) with
  | some exponent => checked care ⟨negative, significand, shift + exponent⟩
  | none =>
    if point || dropped > 0 then checked care ⟨negative, significand, shift⟩
    else if !negative then return .integer significand
    else if significand == 0 || significand > Nat.pow 2 63 then return .decimal ⟨true, significand, 0⟩
    else return .integer (-(significand : Int))

/-- The value of a hexadecimal digit. -/
def hexValue (c : Char) : Option Nat :=
  if c.isDigit then some (digitValue c)
  else if 'a' ≤ c && c ≤ 'f' then some (c.toNat - 'a'.toNat + 10)
  else if 'A' ≤ c && c ≤ 'F' then some (c.toNat - 'A'.toNat + 10)
  else none

/-- The number of four hexadecimal digits. -/
def hexNumber (digits : List Char) : Option Nat :=
  digits.foldlM (fun n c => (hexValue c).map (n * 16 + ·)) 0

/-- The characters that make up four bytes, and whether there are four. -/
def fourBytes : Nat → List Char → List Char × Bool
  | 0, _ => ([], true)
  | _ + 1, [] => ([], false)
  | bytes + 1, c :: more =>
    let (taken, full) := fourBytes (bytes + 1 - c.utf8Size) more
    (c :: taken, full)

/-- The four hexadecimal digits of an escape.  A complaint about them stands four bytes behind their
start. -/
def hexEscape : Reader Nat := fun c =>
  let (taken, full) := fourBytes 4 c.rest
  let reached := taken.foldl (fun (c : Cursor) char => c.advance char c.rest.tail) c
  let excess := taken.foldl (fun n char => n + char.utf8Size) 0 - 4
  if !full then .error ⟨.unfinishedString, reached.line, reached.column⟩
  else match hexNumber taken with
    | some n => .ok (n, reached)
    | none => .error ⟨.badEscape, reached.line, reached.column - excess⟩

/-- Takes a character that an escape needs. -/
def needed (char : Char) : Reader Unit := do
  match ← peek with
  | none => failAhead .unfinishedString
  | some c => if c == char then skip else failAhead .unfinishedHexEscape

/-- A number is the first half of a pair of escapes. -/
def leadsPair (n : Nat) : Bool := 0xD800 ≤ n && n ≤ 0xDBFF

/-- A number is the second half of a pair of escapes. -/
def closesPair (n : Nat) : Bool := 0xDC00 ≤ n && n ≤ 0xDFFF

/-- The character of an escape by its number; two escapes may make up one character. -/
def numberedChar (care : Care) : Reader Char := do
  let first ← hexEscape
  if care == .skipped then return ' '
  if closesPair first then fail .loneSurrogate
  if !leadsPair first then return Char.ofNat first
  needed '\\'
  needed 'u'
  let second ← hexEscape
  if !closesPair second then fail .loneSurrogate
  return Char.ofNat ((first - 0xD800) * 0x400 + (second - 0xDC00) + 0x10000)

/-- The character of an escape that is one letter or mark. -/
def markedChar : Char → Option Char
  | '"' => some '"'
  | '\\' => some '\\'
  | '/' => some '/'
  | 'b' => some '\x08'
  | 'f' => some '\x0c'
  | 'n' => some '\n'
  | 'r' => some '\r'
  | 't' => some '\t'
  | _ => none

/-- The character of an escape behind its backslash. -/
def escapedChar (care : Care) : Reader Char := do
  match ← peek with
  | none => failAhead .unfinishedString
  | some 'u' =>
    skip
    numberedChar care
  | some mark =>
    match markedChar mark with
    | some c =>
      skip
      return c
    | none => failAhead .badEscape

/-- Goes on behind the characters found of a string, unless the string is closed. -/
def stringStep (care : Care) : List Char × Bool → Reader (Option (List Char × Bool))
  | (_, true) => return none
  | (found, false) => do
    match ← peek with
    | none => failAhead .unfinishedString
    | some '"' =>
      skip
      return some (found, true)
    | some '\\' =>
      skip
      return some ((← escapedChar care) :: found, false)
    | some c =>
      if c.toNat < 0x20 then failAhead .controlCharacter
      skip
      return some (c :: found, false)

/-- The content of a string behind its opening quote. -/
def stringContent (care : Care) : Reader String := do
  let (found, _) ← iterate (stringStep care) ([], false)
  return String.ofList found.reverse

/-- Goes on to the next element of a list, unless it ends here. -/
def moreElements (first : Bool) : Reader Bool := do
  match ← peekBehindBlanks with
  | none => failAhead .unfinishedList
  | some ']' => return false
  | some c =>
    if first then return true
    if c != ',' then failAhead .noCommaInList
    skip
    match ← peekBehindBlanks with
    | some ']' => failAhead .trailingComma
    | some _ => return true
    | none => failAhead .unfinishedValue

/-- Goes on to the next key of an object, unless the object ends here; the quote of the key is
taken. -/
def moreKeys (first : Bool) : Reader Bool := do
  match ← peekBehindBlanks with
  | none => failAhead .unfinishedObject
  | some '\x7d' => return false
  | some c =>
    if first then
      if c != '"' then failAhead .keyNotString
      skip
      return true
    if c != ',' then failAhead .noCommaInObject
    skip
    match ← peekBehindBlanks with
    | some '"' =>
      skip
      return true
    | some '\x7d' => failAhead .trailingComma
    | some _ => failAhead .keyNotString
    | none => failAhead .unfinishedValue

/-- The colon behind a key. -/
def colon : Reader Unit := do
  match ← peekBehindBlanks with
  | some ':' => skip
  | some _ => failAhead .noColon
  | none => failAhead .unfinishedObject

/-- Goes on behind the elements found of a list, unless it ends. -/
def elementStep (element : Reader α) (state : List α × Bool) :
    Reader (Option (List α × Bool)) := do
  if ← moreElements state.2 then return some ((← element) :: state.1, false)
  return none

/-- The elements of a list behind its bracket, each read by `element`. -/
def elements (element : Reader α) : Reader (List α) := do
  let (found, _) ← iterate (elementStep element) ([], true)
  skip
  return found.reverse

/-- Goes on behind the entries found of an object, unless it ends. -/
def entryStep (care : Care) (value : Reader Value) (state : List (String × Value) × Bool) :
    Reader (Option (List (String × Value) × Bool)) := do
  if ← moreKeys state.2 then
    let key ← stringContent care
    colon
    return some ((key, ← value) :: state.1, false)
  return none

/-- The entries of an object behind its brace. -/
def entries (care : Care) (value : Reader Value) : Reader (List (String × Value)) := do
  let (found, _) ← iterate (entryStep care value) ([], true)
  skip
  return found.reverse

/-- A value, with a number of levels of nesting it may have. -/
def valueWithin (care : Care) : Nat → Reader Value
  | 0 => failAhead .tooDeep
  | levels + 1 => do
    match ← peekBehindBlanks with
    | none => failAhead .unfinishedValue
    | some 'n' => skip; word ['u', 'l', 'l']; return .null
    | some 't' => skip; word ['r', 'u', 'e']; return .boolean true
    | some 'f' => skip; word ['a', 'l', 's', 'e']; return .boolean false
    | some '-' => skip; number care true
    | some '"' => skip; return .string (← stringContent care)
    | some '[' =>
      if levels == 0 then failAhead .tooDeep
      skip
      return .array (← elements (valueWithin care levels))
    | some '\x7b' =>
      if levels == 0 then failAhead .tooDeep
      skip
      return .object (distinctEntries (← entries care (valueWithin care levels)))
    | some c => if c.isDigit then number care false else failAhead .noValue

/-- The levels of nesting that a kept value may have, with one for what does not nest. -/
def maxLevels : Nat := 128

/-- A value that is kept. -/
def value : Reader Value :=
  valueWithin .kept maxLevels

/-- Skips a value of any depth. -/
def ignoredValue : Reader Unit := fun c =>
  (valueWithin .skipped (c.rest.length + 2) c).map fun (_, c) => ((), c)

/-- The end of a text. -/
def ending : Reader Unit := do
  match ← peekBehindBlanks with
  | some _ => failAhead .trailingCharacters
  | none => return ()

/-- The value of a text, with nothing behind it. -/
def document : Reader Value := do
  let v ← value
  ending
  return v

end Reader

/-- The value of a text. -/
def parse (text : String) : Except SyntaxFailure Value :=
  (Reader.document (.ofText text)).map (·.1)

end ColumnLineage.Json
