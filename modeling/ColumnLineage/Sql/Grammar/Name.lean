import ColumnLineage.Sql.Parser
import ColumnLineage.Sql.Vocabulary
import ColumnLineage.Sql.Written

/-!
# Names and literals

The smallest constructs of a query: names, whole numbers and literals.

## Main definitions

* `Parser.ident`: a name.
* `Parser.wholeNumber`: a number that counts something.
* `Parser.value`: a literal, in its written form.
-/

namespace ColumnLineage.Sql.Parser

/-- Texts with commas between them. -/
def commas (texts : List String) : String :=
  ", ".intercalate texts

/-- The name a token is, if it is one. -/
def identOf : Token → Option Ident
  | .word value quote => some ⟨value, quote⟩
  | .literal .single value => some ⟨value, some '\''⟩
  | .literal .double value => some ⟨value, some '"'⟩
  | _ => none

/-- A name; a string literal is one too. -/
def ident : Parser Ident := do
  match identOf (← peekToken) with
  | some name =>
    skip 1
    return name
  | none => expected "identifier"

/-- A list of names in parentheses. -/
def identList : Parser (List Ident) := do
  if ← atSymbol "(" then inParens (separated ident)
  else expected "a list of columns in parentheses"

/-- A list of names in parentheses, if one stands here. -/
def identList? : Parser (List Ident) := do
  if ← atSymbol "(" then inParens (separated ident) else return []

/-- Names as they are written, with commas between them. -/
def identTexts (names : List Ident) : String :=
  commas (names.map Ident.text)

/-- The number that decimal digits denote. -/
def digitsValue (digits : String) : Nat :=
  digits.toList.foldl (fun n c => n * 10 + (c.toNat - '0'.toNat)) 0

/-- Why digits do not denote a whole number below a power of two. -/
def wholeNumberFault (bits : Nat) (digits : String) : Option String :=
  if digits.isEmpty then some "cannot parse integer from empty string"
  else if !digits.toList.all Char.isDigit then some "invalid digit found in string"
  else if digitsValue digits < Nat.pow 2 bits then none
  else some "number too large to fit in target type"

/-- A number that counts something. -/
def wholeNumber : Parser Nat := do
  match ← peek with
  | ⟨.number digits long, keyword, line, column, hint⟩ =>
    match wholeNumberFault 64 digits with
    | none =>
      skip 1
      return digitsValue digits
    | some fault =>
      refuseAt s!"Could not parse '{digits}' as u64: {fault}"
        ⟨.number digits long, keyword, line, column, hint⟩
  | _ => expected "literal int"

/-- A whole number with an optional sign in front. -/
def signedNumber : Parser Int := do
  if ← symbol? "-" then return -(← wholeNumber : Nat)
  let _ ← symbol? "+"
  return (← wholeNumber : Nat)

/-- The content of a string literal; a name that is no word of the vocabulary stands for its
value. -/
def stringContent : Parser String := do
  let l ← peek
  match l.token with
  | .word value _ =>
    if vocabulary.contains l.keyword then expected "literal string"
    skip 1
    return value
  | .literal .single value | .literal .double value | .literal .escaped value
  | .literal .unicode value =>
    skip 1
    return value
  | _ => expected "literal string"

/-- A character of an `E'…'` literal as it is written. -/
def escapedChar : Char → List Char
  | '\'' => ['\\', '\'']
  | '\\' => ['\\', '\\']
  | '\n' => ['\\', 'n']
  | '\t' => ['\\', 't']
  | '\r' => ['\\', 'r']
  | c => [c]

/-- The hexadecimal digits of a number in upper case, filled up with zeros. -/
def hexDigits (width n : Nat) : List Char :=
  let digits := (Nat.toDigits 16 n).map Char.toUpper
  List.replicate (width - digits.length) '0' ++ digits

/-- A character of a `U&'…'` literal as it is written. -/
def codePointChar : Char → List Char
  | '\'' => ['\'', '\'']
  | '\\' => ['\\', '\\']
  | c =>
    if c.toNat < 0x80 then [c]
    else if c.toNat ≤ 0xFFFF then '\\' :: hexDigits 4 c.toNat
    else '\\' :: '+' :: hexDigits 6 c.toNat

/-- A string literal as it is written. -/
def literalText (form : StringForm) (value : String) : String :=
  match form with
  | .single => quotedText '\'' value
  | .double => quotedText '"' value
  | .escaped => "E'" ++ String.ofList (value.toList.flatMap escapedChar) ++ "'"
  | .unicode => "U&'" ++ String.ofList (value.toList.flatMap codePointChar) ++ "'"
  | form => form.opening ++ value ++ form.closing

/-- The content of a string literal, with those behind it where they continue it. -/
def continuedString (content : String) : Parser String := do
  unless ← rule (·.joinsStrings) do return content
  let step (content : String) : Parser (Option String) := do
    match ← peekToken with
    | .literal .single more | .literal .double more =>
      skip 1
      return some (content ++ more)
    | _ => return none
  iterate step content

/-- A parameter named by a colon or an at sign and what follows it without a blank. -/
def namedParameter (mark : String) (start : Lexeme) : Parser String := do
  let l ← peek
  let adjacent := l.line == start.line && l.column == start.column + 1
  let blank : Lexeme := ⟨.stray ' ', "", start.line, start.column + 1, none⟩
  match l.token with
  | .eof => expected "placeholder"
  | .word value _ | .number value false =>
    if adjacent then
      skip 1
      return mark ++ value
    fail (.expected "placeholder" blank)
  | _ => if adjacent then expected "placeholder" else fail (.expected "placeholder" blank)

/-- A literal, in its written form. -/
def value : Parser String := do
  let l ← peek
  match l.token with
  | .word value quote =>
    match l.keyword, quote with
    | "TRUE", _ => skip 1; return "true"
    | "FALSE", _ => skip 1; return "false"
    | "NULL", _ => skip 1; return "NULL"
    | _, some '"' => skip 1; return quotedText '"' value
    | _, some _ => expected "A value?"
    | _, none => expected "a concrete value"
  | .number digits long => skip 1; return digits ++ (if long then "L" else "")
  | .literal .single content => skip 1; return literalText .single (← continuedString content)
  | .literal .double content => skip 1; return literalText .double (← continuedString content)
  | .literal form content => skip 1; return literalText form content
  | .placeholder text => skip 1; return text
  | .symbol ":" => skip 1; namedParameter ":" l
  | .symbol "@" => skip 1; namedParameter "@" l
  | _ => expected "a value"

/-- A number or a parameter, in its written form. -/
def numberValue : Parser String := do
  let l ← peek
  match l.token with
  | .number .. | .placeholder _ => value
  | .symbol ":" | .symbol "@" => value
  | _ => do
    let _ ← value
    fail (.expected "literal number" l)

end ColumnLineage.Sql.Parser
