import ColumnLineage.Text.LetterCase

/-!
# Tokens

The words, numbers, strings and symbols a query text consists of.  A token is kept with the place
where it starts, because every complaint about a query names a line and a column.

## Main definitions

* `Token`: one token.
* `Token.text`: the token as a complaint quotes it.
* `Token.shape`: the token spelled out field by field, as one kind of complaint quotes it.
* `Lexeme`: a token with its place and its keyword.
* `Keyword`: an unquoted word in upper case; the empty keyword belongs to no word.

## Design notes

Operators and punctuation are one constructor that carries the spelling of the token.  Two
spellings of one operator (`<>` and `!=`) are the same token.
-/

namespace ColumnLineage.Sql

/-- The ways a string literal can be written. -/
inductive StringForm where
  | single
  | double
  | national
  | escaped
  | unicode
  | hex
  | singleBytes
  | doubleBytes
  | singleRaw
  | doubleRaw
  /-- `$tag$…$tag$`. -/
  | dollar (tag : Option String)
  /-- `q'[…]'`, with the pair of marks that stand inside the quotes. -/
  | delimited (opening closing : Char) (national : Bool)
deriving DecidableEq, Repr

/-- One token of a query text. -/
inductive Token where
  /-- A name or keyword; a quoted one carries its opening quote. -/
  | word (value : String) (quote : Option Char)
  /-- A number as written, and whether the suffix `L` follows it. -/
  | number (digits : String) (long : Bool)
  /-- A string literal with its escapes resolved. -/
  | literal (form : StringForm) (value : String)
  /-- A parameter of a prepared statement, mark included. -/
  | placeholder (text : String)
  /-- An operator or a punctuation mark, by its spelling. -/
  | symbol (text : String)
  /-- An operator that only its database knows, by its spelling. -/
  | customOperator (text : String)
  /-- A character that starts no other token. -/
  | stray (c : Char)
  /-- What follows the last token. -/
  | eof
deriving DecidableEq, Repr

instance : Inhabited Token := ⟨.eof⟩

/-- An unquoted word in upper case.  The empty keyword belongs to no word. -/
abbrev Keyword := String

/-- The quote that closes what `quote` opens. -/
def closingQuote (quote : Char) : Char :=
  if quote == '[' then ']' else quote

namespace StringForm

/-- What stands in front of a literal of this form, its opening quote included. -/
def opening : StringForm → String
  | single => "'"
  | double => "\""
  | national => "N'"
  | escaped => "E'"
  | unicode => "U&'"
  | hex => "X'"
  | singleBytes => "B'"
  | doubleBytes => "B\""
  | singleRaw => "R'"
  | doubleRaw => "R\""
  | dollar tag => "$" ++ tag.getD "" ++ "$"
  | delimited opening _ isNational =>
    (if isNational then "NQ'" else "Q'") ++ String.singleton opening

/-- What closes a literal of this form. -/
def closing : StringForm → String
  | double | doubleBytes | doubleRaw => "\""
  | dollar tag => "$" ++ tag.getD "" ++ "$"
  | delimited _ closing _ => String.singleton closing ++ "'"
  | _ => "'"

end StringForm

namespace Token

/-- The token as a complaint quotes it. -/
def text : Token → String
  | word value none => value
  | word value (some quote) =>
    String.singleton quote ++ value ++ String.singleton (closingQuote quote)
  | number digits long => digits ++ (if long then "L" else "")
  | literal form value => form.opening ++ value ++ form.closing
  | placeholder text | symbol text | customOperator text => text
  | stray c => String.singleton c
  | eof => "EOF"

/-- The keyword of an unquoted word; the empty keyword for every other token. -/
def keyword : Token → Keyword
  | word value none => Text.upper value
  | _ => ""

/-- What the symbols that end an expression without being its operators are called. -/
def symbolName : String → Option String
  | "!" => some "ExclamationMark"
  | "&&" => some "Overlap"
  | "^@" => some "CaretAt"
  | "<<" => some "ShiftLeft"
  | ">>" => some "ShiftRight"
  | "#" => some "Sharp"
  | "[" => some "LBracket"
  | "@" => some "AtSign"
  | "//" => some "DuckIntDiv"
  | _ => none

/-- The token spelled out field by field, as one kind of complaint quotes it. -/
def shape (t : Token) : String :=
  match t with
  | word value none =>
    "Word(Word \x7b value: \"" ++ value ++ "\", quote_style: None, keyword: " ++ t.keyword ++ " \x7d)"
  | symbol text => (symbolName text).getD text
  | t => t.text

/-- A word, quoted or not. -/
def isWord : Token → Bool
  | word .. => true
  | _ => false

end Token

/-- A token with the place where it starts. -/
structure Lexeme where
  token : Token
  /-- The token's keyword, kept so that it is worked out once. -/
  keyword : Keyword
  line : Nat
  column : Nat
  /-- The optimizer hint that is the first comment in front of the token. -/
  hint : Option String
deriving DecidableEq, Repr

namespace Lexeme

/-- The lexeme of a token that starts at a place. -/
def of (token : Token) (line column : Nat) (hint : Option String) : Lexeme :=
  ⟨token, token.keyword, line, column, hint⟩

/-- What follows the last token has no place. -/
def ending : Lexeme := ⟨.eof, "", 0, 0, none⟩

instance : Inhabited Lexeme := ⟨ending⟩

/-- The place as a complaint writes it; what follows the last token has none. -/
def placeText (line column : Nat) : String :=
  if line == 0 then "" else s!" at Line: {line}, Column: {column}"

/-- The place of a lexeme as a complaint writes it. -/
def place (l : Lexeme) : String := placeText l.line l.column

end Lexeme

end ColumnLineage.Sql
