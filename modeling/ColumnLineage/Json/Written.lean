import ColumnLineage.Json.Value

/-!
# Writing JSON

A value is written over several lines, each level indented by two more blanks.

## Main definitions

* `quotedString`: a string between quotes.
* `Value.pretty`: a value over several lines.
-/

namespace ColumnLineage.Json

/-- The two hexadecimal digits of a control character. -/
def controlDigits (n : Nat) : List Char :=
  let digits := Nat.toDigits 16 n
  if digits.length < 2 then '0' :: digits else digits

/-- A character of a string as it is written. -/
def writtenChar (c : Char) : List Char :=
  match c with
  | '"' => ['\\', '"']
  | '\\' => ['\\', '\\']
  | '\x08' => ['\\', 'b']
  | '\x0c' => ['\\', 'f']
  | '\n' => ['\\', 'n']
  | '\r' => ['\\', 'r']
  | '\t' => ['\\', 't']
  | c => if c.toNat < 0x20 then ['\\', 'u', '0', '0'] ++ controlDigits c.toNat else [c]

/-- A string between quotes. -/
def quotedString (s : String) : String :=
  String.ofList ('"' :: (s.toList.flatMap writtenChar ++ ['"']))

/-- The start of a line at a level. -/
def lineStart (level : Nat) : String :=
  "\n" ++ String.ofList (List.replicate (2 * level) ' ')

/-- Written elements between brackets, each on its own line. -/
def bracketed (level : Nat) (opening closing : String) (items : List String) : String :=
  if items.isEmpty then opening ++ closing
  else
    opening ++ lineStart (level + 1) ++ ("," ++ lineStart (level + 1)).intercalate items ++
      lineStart level ++ closing

mutual

/-- A value over several lines, which starts at a level. -/
def Value.prettyAt (level : Nat) : Value → String
  | .null => "null"
  | .boolean b => if b then "true" else "false"
  | .integer n => toString n
  | .decimal d => d.text
  | .string s => quotedString s
  | .array items => bracketed level "[" "]" (prettyItems (level + 1) items)
  | .object entries => bracketed level "\x7b" "\x7d" (prettyEntries (level + 1) entries)

/-- The elements of a list. -/
def prettyItems (level : Nat) : List Value → List String
  | [] => []
  | v :: more => v.prettyAt level :: prettyItems level more

/-- The entries of an object. -/
def prettyEntries (level : Nat) : List (String × Value) → List String
  | [] => []
  | (key, v) :: more =>
    (quotedString key ++ ": " ++ v.prettyAt level) :: prettyEntries level more

end

/-- A value over several lines. -/
def Value.pretty (v : Value) : String :=
  v.prettyAt 0

end ColumnLineage.Json
