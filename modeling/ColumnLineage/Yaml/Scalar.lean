import ColumnLineage.Yaml.Cursor

/-!
# Scalars

A scalar is plain, stands between quotes, or is a block of lines.  Where a scalar goes over several
lines, a single line break is a blank, and of more line breaks the first is dropped.

## Main definitions

* `Gap`: what stands between two words.
* `quotedText`, `plainText`, `blockText`: the texts of scalars.
-/

namespace ColumnLineage.Yaml

open Scan

/-- What stands between two words: blanks on one line, or line breaks.  A line break that is escaped
is not the first one. -/
inductive Gap where
  | blanks (cs : List Char)
  | breaks (first : Option Char) (more : List Char)
deriving Repr

namespace Gap

/-- What a gap stands for. -/
def text : Gap → List Char
  | blanks cs => cs
  | breaks none more => more
  | breaks (some '\n') [] => [' ']
  | breaks (some '\n') more => more
  | breaks (some first) more => first :: more

/-- A gap has line breaks. -/
def hasBreaks : Gap → Bool
  | blanks _ => false
  | breaks .. => true

/-- Takes the blanks and line breaks that stand here.  Tabs must not indent a line that is to be
indented by some columns. -/
def scan (indent : Nat) (start : Gap) : Scan Gap :=
  iterate start fun gap => do
    match ← peek with
    | none => return none
    | some c =>
      if isBlank c then
        match gap with
        | blanks cs =>
          skip
          return some (blanks (cs ++ [c]))
        | breaks .. =>
          ensure (c != '\t' || indent ≤ (← column)) .tabAsIndentation
          skip
          return some gap
      else if isBreak c then
        let c ← lineBreak
        match gap with
        | blanks _ => return some (breaks (some c) [])
        | breaks first more => return some (breaks first (more ++ [c]))
      else return none

end Gap

/-- The character of a number, unless it has none. -/
def charOfNumber (n : Nat) : Scan Char := do
  ensure (n < 0x110000 && !(0xD800 ≤ n && n ≤ 0xDFFF)) .badEscape
  return Char.ofNat n

/-- The character of an escape that is a letter or a mark. -/
def markedChar : Char → Option Char
  | '0' => some (Char.ofNat 0)
  | 'a' => some '\x07'
  | 'b' => some '\x08'
  | 't' | '\t' => some '\t'
  | 'n' => some '\n'
  | 'v' => some '\x0b'
  | 'f' => some '\x0c'
  | 'r' => some '\r'
  | 'e' => some '\x1b'
  | ' ' => some ' '
  | '"' => some '"'
  | '/' => some '/'
  | '\\' => some '\\'
  | 'N' => some (Char.ofNat 0x85)
  | '_' => some (Char.ofNat 0xA0)
  | 'L' => some (Char.ofNat 0x2028)
  | 'P' => some (Char.ofNat 0x2029)
  | _ => none

/-- The number of digits of an escape by number. -/
def escapeDigits : Char → Option Nat
  | 'x' => some 2
  | 'u' => some 4
  | 'U' => some 8
  | _ => none

/-- The character of an escape behind its backslash. -/
def escapedChar : Scan Char := do
  match ← peek with
  | none => fail .badEscape
  | some mark =>
    match markedChar mark, escapeDigits mark with
    | some c, _ =>
      skip
      return c
    | none, some digits =>
      skip
      charOfNumber (← hexNumber .badEscape digits 0)
    | none, none => fail .badEscape

/-- A word between quotes, up to a blank or the quote, and whether an escaped line break ends it. -/
def quotedWord (quote : Char) : Scan (List Char × Bool) := do
  let (found, escaped) ← iterate (([] : List Char), false) fun (found, escaped) => do
    if escaped then return none
    match ← rest with
    | [] => return none
    | c :: more =>
      if isBlank c || isBreak c then return none
      if c == quote then
        if quote == '\'' && more.head? == some quote then
          skip
          skip
          return some (quote :: found, false)
        return none
      skip
      if quote == '"' && c == '\\' then
        if more.head?.any isBreak then
          let _ ← lineBreak
          return some (found, true)
        return some ((← escapedChar) :: found, false)
      return some (c :: found, false)
  return (found.reverse, escaped)

/-- The text of a scalar behind its opening quote. -/
def quotedText (quote : Char) : Scan (List Char) := do
  let (found, _) ← iterate (([] : List Char), false) fun (found, closed) => do
    if closed then return none
    ensure (!(← get).atDocumentMark) .documentMarkInQuote
    let (word, escaped) ← quotedWord quote
    if escaped then
      let gap ← Gap.scan 0 (.breaks none [])
      return some (found ++ word ++ gap.text, false)
    match ← peek with
    | none => fail .unfinishedQuote
    | some c =>
      if c == quote then
        skip
        return some (found ++ word, true)
      let gap ← Gap.scan 0 (.blanks [])
      return some (found ++ word ++ gap.text, false)
  return found

/-- The marks that end a plain scalar within brackets. -/
def isFlowMark (c : Char) : Bool :=
  c == ',' || c == '[' || c == ']' || c == '\x7b' || c == '\x7d'

/-- A plain word.  A colon with a blank behind it ends the word, and so do the marks of a flow. -/
def plainWord (inFlow : Bool) : Scan (List Char) := do
  let found ← iterate ([] : List Char) fun found => do
    match ← rest with
    | [] => return none
    | c :: more =>
      if blankOrEnd [c] then return none
      if c == ':' then
        ensure (!(inFlow && more.head?.any fun next => isFlowMark next || next == '?')) .colonInFlow
        if blankOrEnd more then return none
      if inFlow && isFlowMark c then return none
      skip
      return some (c :: found)
  return found.reverse

/-- What was read of a plain scalar, with the gap behind it. -/
structure PlainText where
  text : List Char
  gap : Gap
  ended : Bool

/-- The text of a plain scalar, whose lines are indented by some columns outside of brackets, and
whether a line break stands behind it. -/
def plainText (indent : Nat) (inFlow : Bool) : Scan (List Char × Bool) := do
  let done ← iterate (PlainText.mk [] (.blanks []) false) fun state => do
    if state.ended || (← get).atDocumentMark || (← peek) == some '#' then return none
    let word ← plainWord inFlow
    if word.isEmpty then return none
    let text := state.text ++ state.gap.text ++ word
    let gap ← Gap.scan indent (.blanks [])
    return some ⟨text, gap, !inFlow && (← column) < indent⟩
  return (done.text, done.gap.hasBreaks)

/-- What becomes of the line breaks at the end of a block. -/
inductive Chomping where
  /-- All are dropped. -/
  | strip
  /-- One is kept. -/
  | clip
  | keep
deriving DecidableEq, Repr

/-- The chomping of a mark. -/
def Chomping.ofMark : Char → Option Chomping
  | '-' => some .strip
  | '+' => some .keep
  | _ => none

/-- Takes the mark of a chomping, if one stands here. -/
def chompingHere : Scan (Option Chomping) := do
  match (← peek).bind Chomping.ofMark with
  | some chomping =>
    skip
    return some chomping
  | none => return none

/-- Takes an indentation, if one stands here. -/
def indentationHere : Scan (Option Nat) := do
  match ← peek with
  | some c =>
    if c.isDigit then
      ensure (c != '0') .zeroIndentation
      skip
      return some (c.toNat - '0'.toNat)
    return none
  | none => return none

/-- The chomping and the indentation of a block, in either order, and the end of the line. -/
def blockHeader : Scan (Chomping × Option Nat) := do
  let first ← chompingHere
  let indentation ← indentationHere
  let last ← if first.isNone && indentation.isSome then chompingHere else pure first
  restOfLine
  return (last.getD .clip, indentation)

/-- Takes spaces, up to a column. -/
def spaces (limit : Option Nat) : Scan Unit :=
  iterate () fun () => do
    let here ← column
    if (← peek) == some ' ' && limit.all (here < ·) then
      skip
      return some ()
    return none

/-- The empty lines of a block. -/
structure EmptyLines where
  breaks : List Char
  /-- The largest column that was reached. -/
  widest : Nat
  ended : Bool

/-- Takes the empty lines of a block, and the indentation of the line that follows them. -/
def emptyLines (indent : Option Nat) : Scan EmptyLines :=
  iterate (EmptyLines.mk [] 0 false) fun lines => do
    if lines.ended then return none
    spaces indent
    let reached ← column
    let widest := max lines.widest reached
    ensure ((← peek) != some '\t' || indent.any (· ≤ reached)) .tabAsIndentation
    if (← peek).any isBreak then
      let c ← lineBreak
      return some ⟨lines.breaks ++ [c], widest, false⟩
    return some ⟨lines.breaks, widest, true⟩

/-- What was read of a block. -/
structure BlockText where
  text : List Char
  /-- The line break behind the last line. -/
  lineEnd : Option Char
  /-- The empty lines behind it. -/
  breaks : List Char
  /-- The last line starts with a blank, so it is not folded. -/
  startsBlank : Bool

namespace BlockText

/-- The text up to a further line. -/
def joined (block : BlockText) (folded nextStartsBlank : Bool) : List Char :=
  let lineEnd :=
    if folded && block.lineEnd == some '\n' && !block.startsBlank && !nextStartsBlank then
      if block.breaks.isEmpty then [' '] else []
    else block.lineEnd.toList
  block.text ++ lineEnd ++ block.breaks

/-- The text with what is kept of the line breaks at its end. -/
def chomped (block : BlockText) : Chomping → List Char
  | .strip => block.text
  | .clip => block.text ++ block.lineEnd.toList
  | .keep => block.text ++ block.lineEnd.toList ++ block.breaks

end BlockText

/-- The text of a block behind its mark.  The block is indented more than what is around it, unless
that has no indentation. -/
def blockText (folded : Bool) (outer : Option Nat) : Scan (List Char) := do
  let (chomping, indentation) ← blockHeader
  let given := indentation.map (outer.getD 0 + ·)
  let lines ← emptyLines given
  let least := match outer with
    | some n => n + 1
    | none => 1
  let indent := given.getD (max lines.widest least)
  let block ← iterate (BlockText.mk [] none lines.breaks false) fun block => do
    let next ← peek
    if next.isNone || (← column) != indent then return none
    let startsBlank := next.any isBlank
    let line ← takeWhile fun c => !isBreak c
    let lineEnd ← if (← peek).isSome then some <$> lineBreak else pure none
    let lines ← emptyLines (some indent)
    return some ⟨block.joined folded startsBlank ++ line, lineEnd, lines.breaks, startsBlank⟩
  return block.chomped chomping

end ColumnLineage.Yaml
