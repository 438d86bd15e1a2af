import ColumnLineage.Sql.Lexis
import ColumnLineage.Sql.Token
import ColumnLineage.Text.Blank

/-!
# From text to tokens

A query text is read from left to right into lexemes.  Blanks and comments separate tokens and are
dropped, except for the comment form whose content counts as part of the query.

## Main definitions

* `Cursor`: the characters that remain, with the place of the first of them.
* `LexFault`: why a text has no tokens.
* `Scan.next`: one token, blank or comment from the front of a text.
* `Lexeme.ofText`: all lexemes of a text.

## Design notes

The cursor is a list of characters rather than an offset, so that what a scan leaves behind is a
list the next scan takes apart.
-/

namespace ColumnLineage.Sql

/-- The characters that remain of a text, with the place of the first of them. -/
structure Cursor where
  rest : List Char
  line : Nat
  column : Nat
deriving Repr

namespace Cursor

/-- The start of a text. -/
def start (text : List Char) : Cursor := ⟨text, 1, 1⟩

/-- The next character. -/
def peek? (c : Cursor) : Option Char := c.rest.head?

/-- The next character is this one. -/
def at? (c : Cursor) (x : Char) : Bool :=
  match c.rest with
  | y :: _ => x == y
  | [] => false

/-- The cursor behind the next character; a line feed starts a new line. -/
def advance (c : Cursor) : Cursor :=
  match c.rest with
  | [] => c
  | x :: rest => if x == '\n' then ⟨rest, c.line + 1, 1⟩ else ⟨rest, c.line, c.column + 1⟩

/-- The cursor behind the next `n` characters. -/
def skip (c : Cursor) : Nat → Cursor
  | 0 => c
  | n + 1 => c.advance.skip n

/-- The longest run of characters of which `p` holds, given the character behind each. -/
def spanNext (p : Char → Option Char → Bool) (rest : List Char) (line column : Nat) :
    List Char × Cursor :=
  match rest with
  | [] => ([], ⟨[], line, column⟩)
  | x :: more =>
    if p x more.head? then
      let (taken, after) :=
        if x == '\n' then spanNext p more (line + 1) 1 else spanNext p more line (column + 1)
      (x :: taken, after)
    else
      ([], ⟨x :: more, line, column⟩)

/-- The longest run of characters in a class. -/
def span (p : Char → Bool) (c : Cursor) : List Char × Cursor :=
  spanNext (fun x _ => p x) c.rest c.line c.column

end Cursor

/-- Why a text has no tokens. -/
inductive LexFault where
  | unterminatedString
  | unterminatedName (closing : Char)
  | unterminatedComment
  | unterminatedEscapes
  | unterminatedCodePoints
  | unterminatedDollar
  | unterminatedDollarTag
  | strayUnderscore
  | missingHexDigit
  | badHexDigit (c : Char)
  | badCodePoint (code : Nat)
  | badOperator (start : String)
  | badDelimiter (opening : String)
deriving DecidableEq, Repr

namespace LexFault

/-- The fault in words. -/
def message : LexFault → String
  | unterminatedString => "Unterminated string literal"
  | unterminatedName closing => s!"Expected close delimiter '{closing}' before EOF."
  | unterminatedComment => "Unexpected EOF while in a multi-line comment"
  | unterminatedEscapes => "Unterminated encoded string literal"
  | unterminatedCodePoints => "Unterminated unicode encoded string literal"
  | unterminatedDollar => "Unterminated dollar-quoted string"
  | unterminatedDollarTag => "Unterminated dollar-quoted, expected $"
  | strayUnderscore => "Unexpected character '_'"
  | missingHexDigit =>
    "Unexpected EOF while parsing hex digit in escaped unicode string."
  | badHexDigit c => s!"Invalid hex digit in escaped unicode string: {c}"
  | badCodePoint code =>
    "Invalid unicode character: " ++ String.ofList (Nat.toDigits 16 code)
  | badOperator start => s!"Expected a valid binary operator after '{start}'"
  | badDelimiter opening =>
    s!"Invalid space, tab, newline, or EOF after '{opening}''"

end LexFault

/-- A fault with the place it is reported at. -/
structure LexFailure where
  fault : LexFault
  line : Nat
  column : Nat
deriving DecidableEq, Repr

/-- A comment: its content between its marks. -/
structure Comment where
  opening : String
  content : List Char
  closing : String
deriving DecidableEq, Repr

/-- The comment as it is written, if it is an optimizer hint: its content starts with a plus. -/
def Comment.hint? (c : Comment) : Option String :=
  if c.content.head? == some '+' then some (c.opening ++ String.ofList c.content ++ c.closing)
  else none

/-- What the front of a text holds. -/
inductive Scanned where
  | token (token : Token)
  /-- White space. -/
  | blank
  | comment (comment : Comment)
  /-- The content of a comment that counts as part of the query. -/
  | included (content : List Char)

namespace Scan

/-- What a scan finds, with the cursor behind it. -/
abbrev Outcome := Except LexFailure (Scanned × Cursor)

/-- A fault at a cursor. -/
def fault {α : Type} (f : LexFault) (at_ : Cursor) : Except LexFailure α :=
  .error ⟨f, at_.line, at_.column⟩

/-- A token that ends at a cursor. -/
def found (token : Token) (after : Cursor) : Outcome :=
  .ok (.token token, after)

/-- A symbol that ends at a cursor. -/
def symbol (text : String) (after : Cursor) : Outcome :=
  found (.symbol text) after

/-- The unquoted word that starts with characters read already. -/
def word (lexis : Lexis) (read : List Char) (after : Cursor) : Outcome :=
  let (more, after) := after.span lexis.continuesName
  found (.word (String.ofList (read ++ more)) none) after

/-- The character a backslash and a letter stand for. -/
def unescape : Char → Char
  | '0' => '\x00'
  | 'a' => '\x07'
  | 'b' => '\x08'
  | 'f' => '\x0c'
  | 'n' => '\n'
  | 'r' => '\r'
  | 't' => '\t'
  | 'Z' => '\x1a'
  | c => c

/-- The content of a string literal up to its closing quote.  A doubled quote stands for one, and
a backslash escapes the next character where `escapes` says so. -/
def quoted (lexis : Lexis) (quote : Char) (escapes : Bool) (opening : Cursor) :
    Nat → Cursor → List Char → Except LexFailure (List Char × Cursor)
  | 0, _, _ => fault .unterminatedString opening
  | fuel + 1, c, read =>
    match c.rest with
    | [] => fault .unterminatedString opening
    | x :: more =>
      if x == quote then
        if more.head? == some quote then
          quoted lexis quote escapes opening fuel (c.skip 2) (quote :: read)
        else
          .ok (read.reverse, c.advance)
      else if escapes && x == '\\' then
        match more with
        | [] => fault .unterminatedString opening
        | y :: _ =>
          let read :=
            if lexis.keepsWildcardEscapes && (y == '%' || y == '_') then y :: x :: read
            else unescape y :: read
          quoted lexis quote escapes opening fuel (c.skip 2) read
      else
        quoted lexis quote escapes opening fuel c.advance (x :: read)

/-- A string literal whose opening quote is the next character. -/
def string (lexis : Lexis) (form : StringForm) (quote : Char) (escapes : Bool) (c : Cursor) :
    Outcome := do
  let (value, after) ← quoted lexis quote escapes c (c.rest.length + 1) c.advance []
  found (.literal form (String.ofList value)) after

/-- The number that hexadecimal digits denote. -/
def hexValue (digits : List Char) : Nat :=
  digits.foldl
    (fun n c =>
      let digit :=
        if c.isDigit then c.toNat - '0'.toNat
        else if 'a' ≤ c && c ≤ 'f' then c.toNat - 'a'.toNat + 10
        else c.toNat - 'A'.toNat + 10
      n * 16 + digit)
    0

/-- A hexadecimal digit. -/
def isHexDigit (c : Char) : Bool :=
  c.isDigit || ('a' ≤ c && c ≤ 'f') || ('A' ≤ c && c ≤ 'F')

/-- The character of a code point that is one. -/
def char? (code : Nat) : Option Char :=
  if h : code.isValidChar then some (Char.ofNatAux code h) else none

/-- The character an escape of hexadecimal digits stands for; NUL is none. -/
def escapedCodePoint (digits : List Char) : Option Char :=
  if digits.isEmpty then none
  else match char? (hexValue digits) with
    | some c => if c.toNat == 0 then none else some c
    | none => none

/-- An octal digit. -/
def isOctalDigit (c : Char) : Bool := '0' ≤ c && c ≤ '7'

/-- The digits in a class at the front of a cursor, at most `most` of them. -/
def digitsUpTo (p : Char → Bool) (most : Nat) (c : Cursor) : List Char × Cursor :=
  let taken := (c.rest.take most).takeWhile p
  (taken, c.skip taken.length)

/-- The character behind a backslash of an `e'…'` literal, with the cursor behind it. -/
def backslash (c : Cursor) : Option (Char × Cursor) :=
  match c.rest with
  | [] => none
  | 'b' :: _ => some ('\x08', c.advance)
  | 'f' :: _ => some ('\x0c', c.advance)
  | 'n' :: _ => some ('\n', c.advance)
  | 'r' :: _ => some ('\r', c.advance)
  | 't' :: _ => some ('\t', c.advance)
  | 'u' :: _ => exactly 4 c.advance
  | 'U' :: _ => exactly 8 c.advance
  | 'x' :: _ =>
    let (digits, after) := digitsUpTo isHexDigit 2 c.advance
    if digits.isEmpty then some ('x', after)
    else (byte (hexValue digits)).map (·, after)
  | x :: _ =>
    if isOctalDigit x then
      let (digits, after) := digitsUpTo isOctalDigit 3 c
      let code := digits.foldl (fun n d => n * 8 + (d.toNat - '0'.toNat)) 0
      (byte (code % 256)).map (·, after)
    else if x.toNat == 0 then none
    else some (x, c.advance)
where
  /-- A byte that is an ASCII character other than NUL. -/
  byte (code : Nat) : Option Char :=
    if 0 < code && code < 128 then some (Char.ofNat code) else none
  /-- The character that exactly `n` hexadecimal digits stand for. -/
  exactly (n : Nat) (c : Cursor) : Option (Char × Cursor) :=
    let digits := c.rest.take n
    if digits.length == n && digits.all isHexDigit then
      (escapedCodePoint digits).map (·, c.skip n)
    else none

/-- The content of an `e'…'` literal up to its closing quote. -/
def escaped : Nat → Cursor → List Char → Option (List Char × Cursor)
  | 0, _, _ => none
  | fuel + 1, c, read =>
    match c.rest with
    | [] => none
    | '\'' :: '\'' :: _ => escaped fuel (c.skip 2) ('\'' :: read)
    | '\'' :: _ => some (read.reverse, c.advance)
    | '\\' :: _ => do
      let (x, after) ← backslash c.advance
      escaped fuel after (x :: read)
    | x :: _ => escaped fuel c.advance (x :: read)

/-- The character that exactly `n` hexadecimal digits stand for in a `u&'…'` literal. -/
def codePoint : Nat → Nat → Cursor → Except LexFailure (Char × Cursor)
  | 0, code, c =>
    match char? code with
    | some x => .ok (x, c)
    | none => fault (.badCodePoint code) c
  | n + 1, code, c =>
    match c.rest with
    | [] => fault .missingHexDigit c
    | x :: _ =>
      if isHexDigit x then codePoint n (code * 16 + hexValue [x]) c.advance
      else fault (.badHexDigit x) c.advance

/-- The content of a `u&'…'` literal up to its closing quote. -/
def codePoints : Nat → Cursor → List Char → Except LexFailure (List Char × Cursor)
  | 0, c, _ => fault .unterminatedCodePoints c
  | fuel + 1, c, read =>
    match c.rest with
    | [] => fault .unterminatedCodePoints c
    | '\'' :: '\'' :: _ => codePoints fuel (c.skip 2) ('\'' :: read)
    | '\'' :: _ => .ok (read.reverse, c.advance)
    | '\\' :: '\\' :: _ => codePoints fuel (c.skip 2) ('\\' :: read)
    | '\\' :: '+' :: _ => do
      let (x, after) ← codePoint 6 0 (c.skip 2)
      codePoints fuel after (x :: read)
    | '\\' :: _ => do
      let (x, after) ← codePoint 4 0 c.advance
      codePoints fuel after (x :: read)
    | x :: _ => codePoints fuel c.advance (x :: read)

/-- The content of a quoted name up to its closing quote; a doubled quote stands for one. -/
def quotedName (closing : Char) (opening : Cursor) :
    Nat → Cursor → List Char → Except LexFailure (List Char × Cursor)
  | 0, _, _ => fault (.unterminatedName closing) opening
  | fuel + 1, c, read =>
    match c.rest with
    | [] => fault (.unterminatedName closing) opening
    | x :: more =>
      if x == closing then
        if more.head? == some closing then
          quotedName closing opening fuel (c.skip 2) (closing :: read)
        else .ok (read.reverse, c.advance)
      else quotedName closing opening fuel c.advance (x :: read)

/-- The content of a block comment up to its end, `depth` comments deep. -/
def blockComment (nested : Bool) :
    Nat → Nat → Cursor → List Char → Except LexFailure (List Char × Cursor)
  | 0, _, c, _ => fault .unterminatedComment c
  | fuel + 1, depth, c, read =>
    match c.rest with
    | [] => fault .unterminatedComment c
    | '*' :: '/' :: _ =>
      if depth ≤ 1 then .ok (read.reverse, c.skip 2)
      else blockComment nested fuel (depth - 1) (c.skip 2) ('/' :: '*' :: read)
    | '/' :: '*' :: _ =>
      if nested then blockComment nested fuel (depth + 1) (c.skip 2) ('*' :: '/' :: read)
      else blockComment nested fuel depth c.advance ('/' :: read)
    | x :: _ => blockComment nested fuel depth c.advance (x :: read)

/-- A block comment behind its opening mark. -/
def comment (lexis : Lexis) (c : Cursor) : Outcome := do
  let (content, after) ← blockComment lexis.nestedComments (c.rest.length + 1) 1 c []
  match lexis.includedComments, content with
  | true, '!' :: content => .ok (.included (content.dropWhile Char.isDigit), after)
  | _, _ => .ok (.comment ⟨"/*", content, "*/"⟩, after)

/-- A comment behind its opening mark up to the end of its line, the line's end included. -/
def lineComment (lexis : Lexis) (opening : String) (c : Cursor) : Outcome :=
  let (content, after) := c.span fun x => !(x == '\n' || (lexis.returnEndsComment && x == '\r'))
  .ok (.comment ⟨opening, content, String.ofList (after.rest.take 1)⟩, after.advance)

/-- The content of a `$tag$…$tag$` literal behind its opening tag, found when what was read ends
in the closing tag. -/
def dollarTagged (closing : List Char) : Nat → Cursor → List Char →
    Except LexFailure (List Char × Cursor)
  | 0, c, _ => fault .unterminatedDollarTag c
  | fuel + 1, c, read =>
    match c.rest with
    | [] => fault .unterminatedDollarTag c
    | x :: _ =>
      let read := x :: read
      if closing.reverse.isPrefixOf read then .ok ((read.drop closing.length).reverse, c.advance)
      else dollarTagged closing fuel c.advance read

/-- The content of a `$$…$$` literal behind its opening marks; `last` tells whether the character
read before was a dollar sign. -/
def dollarQuoted : Nat → Bool → Cursor → List Char → Except LexFailure (List Char × Cursor)
  | 0, _, c, _ => fault .unterminatedDollar c
  | fuel + 1, last, c, read =>
    match c.rest with
    | [] => fault .unterminatedDollar c
    | x :: _ =>
      if last then
        if x == '$' then .ok (read.reverse, c.advance)
        else dollarQuoted fuel false c.advance (x :: '$' :: read)
      else if x == '$' then dollarQuoted fuel true c.advance read
      else dollarQuoted fuel false c.advance (x :: read)

/-- What a dollar sign starts: a literal between tags, or a parameter. -/
def dollar (c : Cursor) : Outcome :=
  let fuel := c.rest.length + 1
  let c := c.advance
  if c.at? '$' then do
    let (value, after) ← dollarQuoted fuel false c.advance []
    found (.literal (.dollar none) (String.ofList value)) after
  else
    let (name, c) := c.span fun x => Text.isLetter x || Text.isNumeral x || x == '_'
    if c.at? '$' then do
      let (value, after) ← dollarTagged ('$' :: name ++ ['$']) fuel c.advance []
      let tag := if name.isEmpty then none else some (String.ofList name)
      found (.literal (.dollar tag) (String.ofList value)) after
    else
      found (.placeholder ("$" ++ String.ofList name)) c

/-- The mark that closes what a mark opens. -/
def closingMark : Char → Char
  | '[' => ']'
  | '\x7b' => '\x7d'
  | '<' => '>'
  | '(' => ')'
  | c => c

/-- The content of a `q'[…]'` literal up to its closing mark and quote. -/
def delimitedContent (closing : Char) (opening : Cursor) :
    Nat → Cursor → List Char → Except LexFailure (List Char × Cursor)
  | 0, _, _ => fault .unterminatedString opening
  | fuel + 1, c, read =>
    match c.rest with
    | [] => fault .unterminatedString opening
    | x :: more =>
      if x == closing && more.head? == some '\'' then .ok (read.reverse, c.skip 2)
      else delimitedContent closing opening fuel c.advance (x :: read)

/-- A `q'[…]'` literal whose quote is the next character. -/
def delimited (introducer : String) (national : Bool) (c : Cursor) : Outcome :=
  let inner := c.advance
  match inner.rest with
  | [] => fault (.badDelimiter introducer) inner
  | x :: _ =>
    if x == ' ' || x == '\t' || x == '\r' || x == '\n' then fault (.badDelimiter introducer) inner
    else do
      let closing := closingMark x
      let (value, after) ← delimitedContent closing c (c.rest.length + 1) inner.advance []
      found (.literal (.delimited x closing national) (String.ofList value)) after

/-- The exponent at a cursor, if digits follow its mark and sign. -/
def exponent (c : Cursor) : List Char × Cursor :=
  match c.rest with
  | mark :: more =>
    if mark == 'e' || mark == 'E' then
      let sign := match more with
        | s :: _ => if s == '+' || s == '-' then [s] else []
        | [] => []
      match more.drop sign.length with
      | d :: _ =>
        if d.isDigit then
          let (digits, after) := (c.skip (1 + sign.length)).span Char.isDigit
          (mark :: sign ++ digits, after)
        else ([], c)
      | [] => ([], c)
    else ([], c)
  | [] => ([], c)

/-- The suffix `L` of a number. -/
def numberSuffix (digits : List Char) (c : Cursor) : Outcome :=
  if c.at? 'L' then found (.number (String.ofList digits) true) c.advance
  else found (.number (String.ofList digits) false) c

/-- What a digit or a period starts: a number, a period, a hexadecimal literal, or, where names may
start with digits, a name. -/
def number (lexis : Lexis) (previous : Option Token) (c : Cursor) : Outcome :=
  let afterWord := match previous with
    | some t => t.isWord
    | none => false
  match c.rest with
  | '.' :: '_' :: _ => if afterWord then symbol "." c.advance else fault .strayUnderscore c
  | _ =>
    let separates (x : Char) (next : Option Char) : Bool :=
      lexis.digitSeparators && x == '_' && next.any isHexDigit
    let digits (c : Cursor) :=
      Cursor.spanNext (fun x next => x.isDigit || separates x next) c.rest c.line c.column
    let (whole, c) := digits c
    if whole == ['0'] && c.at? 'x' then
      let c := c.advance
      let (hex, after) :=
        Cursor.spanNext (fun x next => isHexDigit x || separates x next) c.rest c.line c.column
      found (.literal .hex (String.ofList hex)) after
    else
      let (point, c) := if c.at? '.' then (['.'], c.advance) else ([], c)
      let read := whole ++ point
      if read == ['.'] && lexis.numericNames && afterWord then symbol "." c
      else
        let (fraction, c) := digits c
        let read := read ++ fraction
        if read == ['.'] then symbol "." c
        else
          let (power, c) := exponent c
          let read := read ++ power
          if lexis.numericNames then
            if power.isEmpty then
              let (more, after) := c.span lexis.continuesName
              if more.isEmpty then numberSuffix read c
              else found (.word (String.ofList (read ++ more)) none) after
            else if previous == some (.symbol ".") then
              found (.word (String.ofList read) none) c
            else numberSuffix read c
          else numberSuffix read c

/-- An operator with the characters that extend it to one that only its database knows. -/
def operator (lexis : Lexis) (text : String) (c : Cursor) : Outcome :=
  let (more, after) := c.span lexis.extendsOperator
  if more.isEmpty then symbol text c
  else found (.customOperator (text ++ String.ofList more)) after

/-- The start of an operator that must be extended. -/
def partialOperator (lexis : Lexis) (text : String) (c : Cursor) : Outcome :=
  let (more, after) := c.span lexis.extendsOperator
  if more.isEmpty then fault (.badOperator text) c
  else found (.customOperator (text ++ String.ofList more)) after

/-- The operator that starts with a vertical bar, behind it. -/
def bar (lexis : Lexis) (c : Cursor) : Outcome :=
  match c.rest with
  | '/' :: _ => operator lexis "|/" c.advance
  | '|' :: '/' :: _ => operator lexis "||/" (c.skip 2)
  | '|' :: _ => operator lexis "||" c.advance
  | '&' :: '>' :: _ =>
    if lexis.geometry then operator lexis "|&>" (c.skip 2) else operator lexis "|" c
  | '&' :: _ =>
    if lexis.geometry then partialOperator lexis "|&" c.advance else operator lexis "|" c
  | '>' :: '>' :: _ =>
    if lexis.geometry then operator lexis "|>>" (c.skip 2)
    else if lexis.pipeArrow then operator lexis "|>" c.advance
    else operator lexis "|" c
  | '>' :: _ =>
    if lexis.geometry then partialOperator lexis "|>" c.advance
    else if lexis.pipeArrow then operator lexis "|>" c.advance
    else operator lexis "|" c
  | _ => operator lexis "|" c

/-- The operator that starts with an exclamation mark, behind it. -/
def exclamation (c : Cursor) : Outcome :=
  match c.rest with
  | '=' :: _ => symbol "<>" c.advance
  | '!' :: _ => symbol "!!" c.advance
  | '~' :: '~' :: '*' :: _ => symbol "!~~*" (c.skip 3)
  | '~' :: '~' :: _ => symbol "!~~" (c.skip 2)
  | '~' :: '*' :: _ => symbol "!~*" (c.skip 2)
  | '~' :: _ => symbol "!~" c.advance
  | _ => symbol "!" c

/-- The operator that starts with a less-than sign, behind it. -/
def lessThan (lexis : Lexis) (c : Cursor) : Outcome :=
  match c.rest with
  | '=' :: '>' :: _ => operator lexis "<=>" (c.skip 2)
  | '=' :: _ => operator lexis "<=" c.advance
  | '|' :: _ => if lexis.geometry then operator lexis "<<|" c.advance else operator lexis "<" c
  | '>' :: _ => operator lexis "<>" c.advance
  | '<' :: '|' :: _ =>
    if lexis.geometry then operator lexis "<<|" (c.skip 2) else operator lexis "<<" c.advance
  | '<' :: _ => operator lexis "<<" c.advance
  | '-' :: '>' :: _ =>
    if lexis.geometry then operator lexis "<->" (c.skip 2) else operator lexis "<" c
  | '-' :: _ =>
    if lexis.geometry then partialOperator lexis "<-" c.advance else operator lexis "<" c
  | '^' :: _ => if lexis.geometry then operator lexis "<^" c.advance else operator lexis "<" c
  | '@' :: _ => operator lexis "<@" c.advance
  | _ => operator lexis "<" c

/-- The operator that starts with a greater-than sign, behind it. -/
def greaterThan (lexis : Lexis) (c : Cursor) : Outcome :=
  match c.rest with
  | '=' :: _ => operator lexis ">=" c.advance
  | '>' :: _ => operator lexis ">>" c.advance
  | '^' :: _ => if lexis.geometry then operator lexis ">^" c.advance else operator lexis ">" c
  | _ => operator lexis ">" c

/-- The operator that starts with an ampersand, behind it. -/
def ampersand (lexis : Lexis) (c : Cursor) : Outcome :=
  match c.rest with
  | '>' :: _ => if lexis.geometry then symbol "&>" c.advance else operator lexis "&" c
  | '<' :: '|' :: _ =>
    if lexis.geometry then symbol "&<|" (c.skip 2) else operator lexis "&" c
  | '<' :: _ => if lexis.geometry then operator lexis "&<" c.advance else operator lexis "&" c
  | '&' :: _ => operator lexis "&&" c.advance
  | _ => operator lexis "&" c

/-- The operator that starts with a tilde, behind it. -/
def tilde (lexis : Lexis) (c : Cursor) : Outcome :=
  match c.rest with
  | '*' :: _ => operator lexis "~*" c.advance
  | '=' :: _ => if lexis.geometry then operator lexis "~=" c.advance else operator lexis "~" c
  | '~' :: '*' :: _ => operator lexis "~~*" (c.skip 2)
  | '~' :: _ => operator lexis "~~" c.advance
  | _ => operator lexis "~" c

/-- What a number sign starts, behind it. -/
def numberSign (lexis : Lexis) (c : Cursor) : Outcome :=
  match c.rest with
  | '-' :: _ => operator lexis "#-" c.advance
  | '>' :: '>' :: _ => operator lexis "#>>" (c.skip 2)
  | '>' :: _ => operator lexis "#>" c.advance
  | ' ' :: _ => symbol "#" c
  | x :: _ =>
    if x == '#' && lexis.geometry then operator lexis "##" c.advance
    else if lexis.startsName '#' then word lexis ['#', x] c.advance
    else operator lexis "#" c
  | [] => operator lexis "#" c

/-- What an at sign starts, behind it. -/
def atSign (lexis : Lexis) (c : Cursor) : Outcome :=
  match c.rest with
  | '@' :: more =>
    if lexis.geometry then symbol "@@" c.advance
    else
      match more with
      | ' ' :: _ => symbol "@@" c.advance
      | x :: _ =>
        if lexis.startsName '@' then word lexis ['@', '@', x] (c.skip 2)
        else operator lexis "@@" c.advance
      | [] => operator lexis "@@" c.advance
  | '-' :: more =>
    if lexis.geometry then
      if more.head? == some '@' then symbol "@-@" (c.skip 2)
      else partialOperator lexis "@-" c.advance
    else named '-'
  | '>' :: _ => symbol "@>" c.advance
  | '?' :: _ => symbol "@?" c.advance
  | x :: _ =>
    if x == ' ' || x == '\'' || x == '"' || x == '`' then symbol "@" c else named x
  | [] => operator lexis "@" c
where
  /-- A name that an at sign introduces, where there are such names. -/
  named (x : Char) : Outcome :=
    if lexis.startsName '@' then word lexis ['@', x] c.advance else operator lexis "@" c

/-- What a question mark starts, behind it: an operator, or a parameter. -/
def question (lexis : Lexis) (c : Cursor) : Outcome :=
  if lexis.geometry then
    match c.rest with
    | '|' :: '|' :: _ => symbol "?||" (c.skip 2)
    | '|' :: _ => symbol "?|" c.advance
    | '&' :: _ => symbol "?&" c.advance
    | '-' :: '|' :: _ => symbol "?-|" (c.skip 2)
    | '-' :: _ => symbol "?-" c.advance
    | '#' :: _ => symbol "?#" c.advance
    | _ => symbol "?" c
  else
    let (digits, after) := c.span Text.isNumeral
    found (.placeholder ("?" ++ String.ofList digits)) after

/-- What a minus sign starts, behind it. -/
def minus (lexis : Lexis) (c : Cursor) : Outcome :=
  match c.rest with
  | '-' :: more =>
    if !lexis.dashCommentNeedsBlank || more.head?.any Text.isBlank then
      lineComment lexis "--" c.advance
    else operator lexis "-" c
  | '>' :: '>' :: _ => operator lexis "->>" (c.skip 2)
  | '>' :: _ => operator lexis "->" c.advance
  | _ => operator lexis "-" c

/-- What a slash starts, behind it. -/
def slash (lexis : Lexis) (c : Cursor) : Outcome :=
  match c.rest with
  | '*' :: _ => comment lexis c.advance
  | '/' :: _ =>
    if lexis.slashComments then lineComment lexis "//" c.advance
    else if lexis.slashOperator then symbol "//" c.advance
    else symbol "/" c
  | _ => symbol "/" c

/-- A literal that a letter introduces, if the dialect has one and a quote follows the letter. -/
def introduced (lexis : Lexis) (x : Char) (start after : Cursor) : Option Outcome :=
  match x.toLower, after.rest with
  | 'b', '\'' :: _ =>
    if lexis.byteStrings then some (string lexis .singleBytes '\'' false after) else none
  | 'b', '"' :: _ =>
    if lexis.byteStrings then some (string lexis .doubleBytes '"' false after) else none
  | 'r', '\'' :: _ =>
    if lexis.rawStrings then some (string lexis .singleRaw '\'' false after) else none
  | 'r', '"' :: _ =>
    if lexis.rawStrings then some (string lexis .doubleRaw '"' false after) else none
  | 'n', '\'' :: _ => some (string lexis .national '\'' lexis.backslashEscapes after)
  | 'n', q :: '\'' :: _ =>
    if lexis.delimitedStrings && (q == 'q' || q == 'Q') then
      some (delimited (String.ofList [x, q]) true after.advance)
    else none
  | 'q', '\'' :: _ =>
    if lexis.delimitedStrings then some (delimited (String.singleton x) false after) else none
  | 'e', '\'' :: _ =>
    if lexis.escapeStrings then
      some (match escaped (after.rest.length + 1) after.advance [] with
        | some (value, after) => found (.literal .escaped (String.ofList value)) after
        | none => fault .unterminatedEscapes start)
    else none
  | 'u', '&' :: '\'' :: _ =>
    if lexis.unicodeStrings then
      some (do
        let (value, after) ← codePoints (after.rest.length + 1) (after.skip 2) []
        found (.literal .unicode (String.ofList value)) after)
    else none
  | 'x', '\'' :: _ => some (string lexis .hex '\'' true after)
  | _, _ => none

/-- A quoted name whose opening quote is the next character. -/
def nameInQuotes (quote : Char) (c : Cursor) : Outcome := do
  let (value, after) ← quotedName (closingQuote quote) c (c.rest.length + 1) c.advance []
  found (.word (String.ofList value) (some quote)) after

/-- What a character with no other meaning starts. -/
def remaining (lexis : Lexis) (x : Char) (c : Cursor) : Outcome :=
  if lexis.startsName x then word lexis [x] c.advance
  else if x == '$' then dollar c
  else if Text.isBlank x then .ok (.blank, c.advance)
  else found (.stray x) c.advance

/-- One token, blank or comment from the front of a text; `previous` is the token that stands
directly in front. -/
def next (lexis : Lexis) (previous : Option Token) (x : Char) (c : Cursor) : Outcome :=
  let after := c.advance
  match introduced lexis x c after with
  | some outcome => outcome
  | none =>
    match x with
    | ' ' | '\t' => .ok (.blank, after)
    | '\n' => .ok (.blank, after)
    | '\r' => .ok (.blank, if after.at? '\n' then after.advance else after)
    | '\'' => string lexis .single '\'' lexis.backslashEscapes c
    | '"' =>
      if lexis.quotesName '"' then nameInQuotes '"' c
      else if lexis.startsName '"' then remaining lexis x c
      else string lexis .double '"' lexis.backslashEscapes c
    | '(' | ')' | ',' | '+' | '*' | ';' | '\\' | '[' | ']' | '\x7b' | '\x7d' =>
      symbol (String.singleton x) after
    | '-' => minus lexis after
    | '/' => slash lexis after
    | '%' =>
      if after.peek?.any Text.isBlank then symbol "%" after else operator lexis "%" after
    | '|' => bar lexis after
    | '=' =>
      if after.at? '>' then symbol "=>" after.advance
      else if after.at? '=' then symbol "==" after.advance
      else symbol "=" after
    | '!' => exclamation after
    | '<' => lessThan lexis after
    | '>' => greaterThan lexis after
    | ':' =>
      if after.at? ':' then symbol "::" after.advance
      else if after.at? '=' then symbol ":=" after.advance
      else symbol ":" after
    | '&' => ampersand lexis after
    | '^' => if after.at? '@' then symbol "^@" after.advance else symbol "^" after
    | '~' => tilde lexis after
    | '#' => if lexis.hashComments then lineComment lexis "#" after else numberSign lexis after
    | '@' => atSign lexis after
    | '?' => question lexis after
    | '.' => number lexis previous c
    | _ =>
      if x.isDigit then number lexis previous c
      else if lexis.quotesName x then nameInQuotes x c
      else remaining lexis x c

/-- How far a text has been read. -/
structure Progress where
  /-- The lexemes read, in reverse order. -/
  lexemes : List Lexeme
  /-- The token that stands directly in front. -/
  previous : Option Token
  /-- The first comment behind the last token. -/
  comment : Option Comment

/-- Nothing has been read. -/
def Progress.start : Progress := ⟨[], none, none⟩

/-- The lexemes from a cursor on, added to those read already.  `inner` reads the content of a
comment that counts as part of the query. -/
def lexemesWith (lexis : Lexis) (inner : Cursor → Progress → Except LexFailure Progress) :
    Nat → Cursor → Progress → Except LexFailure Progress
  | 0, _, read => .ok read
  | fuel + 1, c, read =>
    match c.rest with
    | [] => .ok read
    | x :: _ => do
      match ← next lexis read.previous x c with
      | (.token t, after) =>
        let l := Lexeme.of t c.line c.column (read.comment.bind Comment.hint?)
        lexemesWith lexis inner fuel after ⟨l :: read.lexemes, some t, none⟩
      | (.blank, after) => lexemesWith lexis inner fuel after { read with previous := none }
      | (.comment comment, after) =>
        let comment := read.comment.or (some comment)
        lexemesWith lexis inner fuel after { read with previous := none, comment }
      | (.included content, after) =>
        lexemesWith lexis inner fuel after (← inner ⟨content, c.line, c.column⟩ read)

/-- The lexemes from a cursor on.  A comment inside the content of a comment is only that. -/
def lexemes (lexis : Lexis) (c : Cursor) : Except LexFailure (List Lexeme) := do
  let skipped (c : Cursor) (read : Progress) : Except LexFailure Progress :=
    let comment := read.comment.or (some ⟨"/*", '!' :: c.rest, "*/"⟩)
    .ok { read with previous := none, comment }
  let inner (c : Cursor) (read : Progress) :=
    lexemesWith lexis skipped (c.rest.length + 1) c read
  return (← lexemesWith lexis inner (c.rest.length + 1) c .start).lexemes.reverse

end Scan

/-- All lexemes of a text, or why it has none. -/
def Lexeme.ofText (lexis : Lexis) (text : String) : Except LexFailure (List Lexeme) :=
  Scan.lexemes lexis (Cursor.start text.toList)

end ColumnLineage.Sql
