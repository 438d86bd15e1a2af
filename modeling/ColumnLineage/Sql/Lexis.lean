import ColumnLineage.Text.Letter

/-!
# Lexical rules

What a dialect decides about the spelling of its tokens: which characters make up a name, which
quotes delimit one, which comments and which string forms exist.

## Main definitions

* `Lexis`: the lexical decisions of one dialect.
* `Lexis.common`: the decisions most dialects share.
-/

namespace ColumnLineage.Sql

/-- The lexical decisions of one dialect. -/
structure Lexis where
  /-- The character may start an unquoted name. -/
  startsName : Char → Bool
  /-- The character may continue an unquoted name. -/
  continuesName : Char → Bool
  /-- The character opens a quoted name. -/
  quotesName : Char → Bool
  /-- The character extends an operator that only its database knows. -/
  extendsOperator : Char → Bool
  /-- `b'…'` is a literal. -/
  byteStrings : Bool
  /-- `r'…'` is a literal that keeps its backslashes. -/
  rawStrings : Bool
  /-- `e'…'` is a literal with backslash escapes. -/
  escapeStrings : Bool
  /-- `u&'…'` is a literal with code point escapes. -/
  unicodeStrings : Bool
  /-- `q'[…]'` is a literal that ends at the mark in front of its closing quote. -/
  delimitedStrings : Bool
  /-- A backslash escapes the next character of any string literal. -/
  backslashEscapes : Bool
  /-- A backslash before a wildcard of `LIKE` is kept. -/
  keepsWildcardEscapes : Bool
  /-- A block comment may hold block comments. -/
  nestedComments : Bool
  /-- What stands inside `/*! … */` is part of the query. -/
  includedComments : Bool
  /-- `--` opens a comment only in front of white space. -/
  dashCommentNeedsBlank : Bool
  /-- `#` opens a comment. -/
  hashComments : Bool
  /-- `//` opens a comment. -/
  slashComments : Bool
  /-- `//` is an operator. -/
  slashOperator : Bool
  /-- A line comment also ends at a carriage return. -/
  returnEndsComment : Bool
  /-- A name may start with digits. -/
  numericNames : Bool
  /-- Single underscores may separate the digits of a number. -/
  digitSeparators : Bool
  /-- The operators on geometric values exist, and `?` is an operator. -/
  geometry : Bool
  /-- `|>` chains query operators. -/
  pipeArrow : Bool

namespace Lexis

/-- An ASCII letter or an underscore. -/
def plainStart (c : Char) : Bool :=
  c.isAlpha || c == '_'

/-- An ASCII letter, an ASCII digit or an underscore. -/
def plainPart (c : Char) : Bool :=
  c.isAlphanum || c == '_'

/-- A double quote or a backtick. -/
def anyNameQuote (c : Char) : Bool :=
  c == '"' || c == '`'

/-- The decisions most dialects share: ASCII names, names in double quotes or backticks, and none
of the optional forms. -/
def common : Lexis where
  startsName := plainStart
  continuesName := plainPart
  quotesName := anyNameQuote
  extendsOperator := fun _ => false
  byteStrings := false
  rawStrings := false
  escapeStrings := false
  unicodeStrings := false
  delimitedStrings := false
  backslashEscapes := false
  keepsWildcardEscapes := false
  nestedComments := false
  includedComments := false
  dashCommentNeedsBlank := false
  hashComments := false
  slashComments := false
  slashOperator := false
  returnEndsComment := false
  numericNames := false
  digitSeparators := false
  geometry := false
  pipeArrow := false

/-- Names of any script, and the marks `@`, `#` and `$` inside them. -/
def generic : Lexis :=
  { common with
    startsName := fun c => Text.isLetter c || c == '_' || c == '#' || c == '@'
    continuesName := fun c =>
      Text.isLetter c || c.isDigit || c == '@' || c == '$' || c == '#' || c == '_'
    byteStrings := true
    rawStrings := true
    escapeStrings := true
    unicodeStrings := true
    delimitedStrings := true
    nestedComments := true
    includedComments := true
    slashOperator := true
    pipeArrow := true }

/-- Names in backticks only. -/
def spark : Lexis :=
  { common with
    quotesName := (· == '`')
    nestedComments := true }

/-- Names may start with a digit and hold braces. -/
def hive : Lexis :=
  { common with
    startsName := fun c => c.isAlphanum || c == '$'
    continuesName := fun c => plainPart c || c == '$' || c == '\x7b' || c == '\x7d'
    hashComments := true
    numericNames := true }

/-- Names of any script. -/
def duckdb : Lexis :=
  { common with
    startsName := fun c => Text.isLetter c || c == '_'
    continuesName := fun c => Text.isLetter c || c.isDigit || c == '$' || c == '_'
    slashOperator := true }

/-- Backslash escapes, and both `#` and `//` comments. -/
def snowflake : Lexis :=
  { common with
    continuesName := fun c => plainPart c || c == '$'
    backslashEscapes := true
    hashComments := true
    slashComments := true }

/-- An ASCII letter, a character beyond ASCII, or one of `_`, `$` and `@`. -/
def mysqlStart (c : Char) : Bool :=
  plainStart c || c == '$' || c == '@' || c.toNat ≥ 0x80

/-- Names in backticks only, and a comment form whose content counts. -/
def mysql : Lexis :=
  { common with
    startsName := mysqlStart
    continuesName := fun c => mysqlStart c || c.isDigit
    quotesName := (· == '`')
    byteStrings := true
    backslashEscapes := true
    keepsWildcardEscapes := true
    includedComments := true
    dashCommentNeedsBlank := true
    hashComments := true
    numericNames := true }

/-- Names in double quotes only, names of any script, and operators of one's own. -/
def postgres : Lexis :=
  { common with
    startsName := fun c => Text.isLetter c || c == '_' || c.toNat ≥ 0x80
    continuesName := fun c =>
      Text.isLetter c || c.isDigit || c == '$' || c == '_' || c.toNat ≥ 0x80
    quotesName := (· == '"')
    extendsOperator := fun c => "+-*/<>=~!@#%^&|`?".contains c
    byteStrings := true
    escapeStrings := true
    unicodeStrings := true
    nestedComments := true
    returnEndsComment := true
    digitSeparators := true
    geometry := true }

end Lexis

end ColumnLineage.Sql
