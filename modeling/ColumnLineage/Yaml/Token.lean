import ColumnLineage.Yaml.Cursor

/-!
# Tokens of YAML

Names, tags and directives are read here; they are what does not depend on indentation.

## Main definitions

* `Style`: how a scalar is written.
* `Tag`: a tag as it is written.
* `Token`: a token, where blocks are tokens of their own.
* `anchorName`, `tag`, `directive`: readers of tokens.
-/

namespace ColumnLineage.Yaml

open Scan

/-- How a scalar is written. -/
inductive Style where
  | plain
  | quoted
  | literal
  | folded
deriving DecidableEq, Repr

/-- A tag as it is written: a handle that stands for the start of the tag, and what follows it. -/
structure Tag where
  handle : String
  suffix : String
deriving DecidableEq, Repr

/-- A token. -/
inductive Token where
  /-- The version that a document is written for. -/
  | version (major minor : Nat)
  /-- What a handle stands for. -/
  | handle (name start : String)
  | documentStart
  | documentEnd
  | blockSequenceStart
  | blockMappingStart
  | blockEnd
  | flowSequenceStart
  | flowSequenceEnd
  | flowMappingStart
  | flowMappingEnd
  | blockEntry
  | flowEntry
  | key
  | value
  | aliasOf (name : String)
  | anchor (name : String)
  | tag (tag : Tag)
  | scalar (style : Style) (text : String)
deriving DecidableEq, Repr

/-- The marks that may follow a name. -/
def marksBehindName : List Char := ['?', ':', ',', ']', '\x7d', '%', '@', '\x60']

/-- The name of an anchor or an alias behind its mark. -/
def anchorName : Scan String := do
  let name ← takeWhile isNameChar
  let rest ← rest
  ensure (!name.isEmpty && (blankOrEnd rest || rest.head?.any marksBehindName.contains)) .badAnchor
  return String.ofList name

/-- The marks of a tag. -/
def tagMarks : List Char :=
  [';', '/', '?', ':', '@', '&', '=', '+', '$', '.', '!', '~', '*', '\'', '(', ')']

/-- The marks of a tag that also occur between brackets. -/
def bracketMarks : List Char := [',', '[', ']']

/-- The number of bytes that a character has by its first byte, and what the byte says of it. -/
def leadingByte (byte : Nat) : Option (Nat × Nat) :=
  if byte < 0x80 then some (1, byte)
  else if byte / 0x20 == 6 then some (2, byte % 0x20)
  else if byte / 0x10 == 14 then some (3, byte % 0x10)
  else if byte / 0x08 == 30 then some (4, byte % 0x08)
  else none

/-- The further bytes of a character that is written byte by byte. -/
def furtherBytes : Nat → Nat → Scan Nat
  | 0, n => return n
  | bytes + 1, n => do
    ensure ((← peek) == some '%') .badTag
    skip
    let byte ← hexNumber .badTag 2 0
    ensure (byte / 0x40 == 2) .badTag
    furtherBytes bytes (n * 0x40 + byte % 0x40)

/-- A character that is written byte by byte, behind the percent sign. -/
def percentChar : Scan Char := do
  match leadingByte (← hexNumber .badTag 2 0) with
  | none => fail .badTag
  | some (bytes, n) => return Char.ofNat (← furtherBytes (bytes - 1) n)

/-- What stands in a tag. -/
def tagChars (brackets : Bool) : Scan String := do
  let found ← iterate ([] : List Char) fun found => do
    match ← peek with
    | none => return none
    | some '%' =>
      skip
      return some ((← percentChar) :: found)
    | some c =>
      if isNameChar c || tagMarks.contains c || (brackets && bracketMarks.contains c) then
        skip
        return some (c :: found)
      return none
  return String.ofList found.reverse

/-- A handle: an exclamation mark, a name, and another mark unless there is none. -/
def tagHandle : Scan (String × Bool) := do
  ensure ((← peek) == some '!') .badTag
  skip
  let name ← takeWhile isNameChar
  if (← peek) == some '!' then
    skip
    return (String.ofList ('!' :: (name ++ ['!'])), true)
  return (String.ofList ('!' :: name), false)

/-- A tag between angle brackets, behind the first of them. -/
def verbatimTag : Scan Tag := do
  let suffix ← tagChars true
  ensure (!suffix.isEmpty && (← peek) == some '>') .badTag
  skip
  return ⟨"", suffix⟩

/-- A tag that starts with a handle.  A lone mark is a tag of its own. -/
def handledTag : Scan Tag := do
  let (start, closed) ← tagHandle
  let suffix ← tagChars false
  if closed then
    ensure (!suffix.isEmpty) .badTag
    return ⟨start, suffix⟩
  let all := String.ofList (start.toList.tail) ++ suffix
  return if all.isEmpty then ⟨"", "!"⟩ else ⟨"!", all⟩

/-- A tag. -/
def tag (inFlow : Bool) : Scan Tag := do
  let found ← match ← rest with
    | _ :: '<' :: _ => do
      skip
      skip
      verbatimTag
    | _ => handledTag
  let rest ← rest
  ensure (blankOrEnd rest || (inFlow && rest.head? == some ',')) .badTag
  return found

/-- A part of a version: at most nine digits. -/
def versionNumber : Scan Nat := do
  let digits ← takeWhile Char.isDigit
  ensure (!digits.isEmpty && digits.length ≤ 9) .badVersion
  return digits.foldl (fun n c => n * 10 + (c.toNat - '0'.toNat)) 0

/-- The version that a directive names. -/
def versionDirective : Scan Token := do
  blanks
  let major ← versionNumber
  ensure ((← peek) == some '.') .badVersion
  skip
  return .version major (← versionNumber)

/-- The handle that a directive explains. -/
def handleDirective : Scan Token := do
  blanks
  let (name, closed) ← tagHandle
  ensure (closed || name == "!") .badTag
  ensure ((← peek).any isBlank) .badDirective
  blanks
  let start ← tagChars true
  ensure (!start.isEmpty && blankOrEnd (← rest)) .badTag
  return .handle name start

/-- A directive behind its mark, with the rest of its line. -/
def directive : Scan Token := do
  let name ← takeWhile isNameChar
  ensure (!name.isEmpty && blankOrEnd (← rest)) .badDirective
  let found ← match String.ofList name with
    | "YAML" => versionDirective
    | "TAG" => handleDirective
    | _ => fail .badDirective
  restOfLine
  return found

end ColumnLineage.Yaml
