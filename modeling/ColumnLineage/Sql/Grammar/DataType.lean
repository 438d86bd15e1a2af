import ColumnLineage.Sql.Grammar.Argument

/-!
# Data types

A data type is known by its written form, apart from the expressions in it, which are visited.
Types nest in angle brackets and parentheses, and a shift operator may close two angle brackets at
once.

## Main definitions

* `DataType`: a type's written form, what is visited in it, and what an expression can do with it.
* `Parser.dataType`: a type.
* `Parser.alias?`: the alias of a source, whose columns may have types.
-/

namespace ColumnLineage.Sql

/-- What an expression that starts with a type can be. -/
inductive DataTypeKind where
  /-- An interval. -/
  | interval
  /-- A conversion to bytes. -/
  | binary
  /-- A name that is no built-in type. -/
  | custom
  | other
deriving DecidableEq, Repr

/-- A data type by its written form, with what is visited in it. -/
structure DataType where
  kind : DataTypeKind
  text : String
  inside : List Node

namespace DataType

/-- A type of no special kind in which nothing is visited. -/
def words (text : String) : DataType :=
  ⟨.other, text, []⟩

/-- A type inside two texts. -/
def between (opening : String) (type : DataType) (closing : String) : DataType :=
  ⟨.other, opening ++ type.text ++ closing, type.inside⟩

/-- Types inside two texts, with commas between them. -/
def listed (opening : String) (types : List DataType) (closing : String) : DataType :=
  ⟨.other, opening ++ ", ".intercalate (types.map text) ++ closing, types.flatMap inside⟩

/-- The segments that write a type between two texts. -/
def segments (opening : String) (type : DataType) (closing : String) : List Segment :=
  .text (opening ++ type.text ++ closing) :: type.inside.map .node

end DataType

namespace Parser

/-- A type, and whether its last lexeme also closed the bracket around it. -/
abbrev OpenType := DataType × Bool

/-- A type of no special kind. -/
def builtIn (text : String) : OpenType := (.words text, false)

/-- A precision in parentheses, if one stands here. -/
def precision? : Parser String := do
  if ← atSymbol "(" then return s!"({← inParens wholeNumber})" else return ""

/-- A precision with an optional scale in parentheses, if they stand here. -/
def scale? : Parser String := do
  if !(← symbol? "(") then return ""
  let precision ← wholeNumber
  let scale ← if ← symbol? "," then pure s!",{← signedNumber}" else pure ""
  symbol ")"
  return s!"({precision}{scale})"

/-- The length of a character type, if it stands here. -/
def characterLength? : Parser String := do
  if !(← symbol? "(") then return ""
  let length ←
    if ← keyword? "MAX" then pure "MAX"
    else
      let n ← wholeNumber
      match ← oneOf? ["CHARACTERS", "OCTETS"] with
      | some unit => pure s!"{n} {unit}"
      | none => pure s!"{n}"
  symbol ")"
  return s!"({length})"

/-- The length of a byte type, if it stands here. -/
def byteLength? : Parser String := do
  if !(← symbol? "(") then return ""
  let length ← if ← keyword? "MAX" then pure "MAX" else pure s!"{← wholeNumber}"
  symbol ")"
  return s!"({length})"

/-- A type with an optional part behind its name. -/
def withSuffix (name : String) (suffix : Parser String) : Parser OpenType := do
  return builtIn (name ++ (← suffix))

/-- A type that may be unsigned. -/
def unsignedType (name : String) (suffix : Parser String) : Parser OpenType := do
  let suffix ← suffix
  return builtIn (name ++ suffix ++ (if ← keyword? "UNSIGNED" then " UNSIGNED" else ""))

/-- An integer type that may be unsigned, or signed where that is allowed. -/
def integerType (name : String) (signed : Bool) : Parser OpenType := do
  let suffix ← precision?
  if ← keyword? "UNSIGNED" then return builtIn (name ++ suffix ++ " UNSIGNED")
  if signed && (← rule (·.signedSuffix)) then
    let _ ← keyword? "SIGNED"
  return builtIn (name ++ suffix)

/-- A time type with an optional precision and an optional time zone. -/
def zonedType (name : String) : Parser OpenType := do
  let precision ← precision?
  if ← keyword? "WITH" then
    keywords ["TIME", "ZONE"]
    return builtIn (name ++ precision ++ " WITH TIME ZONE")
  if ← keyword? "WITHOUT" then
    keywords ["TIME", "ZONE"]
    return builtIn (name ++ precision ++ " WITHOUT TIME ZONE")
  return builtIn (name ++ precision)

/-- A character type, which may vary or be a large object. -/
def characterType (name : String) : Parser OpenType := do
  if ← keyword? "VARYING" then return builtIn (name ++ " VARYING" ++ (← characterLength?))
  if ← keywords? ["LARGE", "OBJECT"] then
    return builtIn (name ++ " LARGE OBJECT" ++ (← precision?))
  return builtIn (name ++ (← characterLength?))

/-- The fields an interval type spans, if they stand here. -/
def intervalFields? : Parser String := do
  match ← oneOf? ["YEAR", "MONTH", "DAY", "HOUR", "MINUTE", "SECOND"] with
  | none => return ""
  | some field =>
    let ends := match field with
      | "YEAR" => ["MONTH"]
      | "DAY" => ["HOUR", "MINUTE", "SECOND"]
      | "HOUR" => ["MINUTE", "SECOND"]
      | "MINUTE" => ["SECOND"]
      | _ => []
    if ends.isEmpty then return " " ++ field
    if ← keyword? "TO" then return s!" {field} TO {← oneOf ends}"
    return " " ++ field

/-- The values of an enumeration type. -/
def enumValues : Parser String := do
  let member : Parser String := do
    match ← peekToken with
    | .literal .single name =>
      skip 1
      if ← symbol? "=" then return s!"{literalText .single name} = {← numberValue}"
      return literalText .single name
    | _ => expected "a string"
  return commas (← inParens (separated member))

/-- The values of a set type. -/
def setValues : Parser String := do
  let member : Parser String := do
    match ← peekToken with
    | .literal .single name =>
      skip 1
      return literalText .single name
    | _ => expected "a string"
  return commas (← inParens (separated member))

/-- What stands in parentheses behind the name of a type that is not built in. -/
def typeModifiers? : Parser String := do
  if !(← symbol? "(") then return ""
  let step (state : List String × Bool) : Parser (Option (List String × Bool)) := do
    if state.2 then return none
    match ← peekToken with
    | .word value quote =>
      skip 1
      return some ((Token.word value quote).text :: state.1, false)
    | .number value _ | .literal .single value =>
      skip 1
      return some (value :: state.1, false)
    | .symbol "," =>
      skip 1
      return some state
    | .symbol ")" =>
      skip 1
      return some (state.1, true)
    | _ => expected "type modifiers"
  let modifiers ← iterate step ([], false)
  if modifiers.1.isEmpty then return ""
  return ("(" ++ commas modifiers.1.reverse ++ ")")

/-- Closes an angle bracket, unless the type inside closed it already. -/
def closeAngle (closed : Bool) : Parser Bool := do
  if closed then return false
  if ← symbol? ">" then return false
  if ← symbol? ">>" then return true
  expected ">"

/-- The complaint about a bracket that closes more than the type inside, with what follows it. -/
def unmatchedAngle {α : Type} (type : DataType) : Parser α := do
  refuse s!"unmatched > after parsing data type {type.text}{(← peekToken).text}"

/-- The options of a field of a record type, if they stand here. -/
def fieldOptions? : Parser (List Node) := do
  if !(← keyword? "OPTIONS") then return []
  let option : Parser (List Segment) := do
    let name ← ident
    symbol "="
    return [.text (name.text ++ " = "), .node (.expr (← expr))]
  let options ← inParens (separatedUntil ")" option)
  return [.written (Segment.between " OPTIONS(" (Segment.commas options) ")")]

/-- The fields of a record type in angle brackets behind STRUCT, if they stand here.  A field may
have no name, and two words in a row are a name and a type. -/
def structFields (inner : Parser OpenType) : Parser OpenType := do
  if !(← symbol? "<") then return builtIn "STRUCT"
  let field : Parser OpenType := do
    let name ← match ← peekToken, (← peekAt 1).token with
      | .word .., .word .. => do pure ((← ident).text ++ " ")
      | _, _ => pure ""
    let (type, closed) ← inner
    let options ← fieldOptions?
    let text := name ++ type.text ++ String.join (options.map Node.text)
    return (⟨.other, text, type.inside ++ options.map Node.hidden⟩, closed)
  let first ← field
  let step (fields : List DataType × Bool) : Parser (Option (List DataType × Bool)) := do
    if fields.2 then return none
    if !(← symbol? ",") then return none
    let (type, closed) ← field
    return some (type :: fields.1, closed)
  let fields ← iterate step ([first.1], first.2)
  let closed ← closeAngle fields.2
  return (.listed "STRUCT<" fields.1.reverse ">", closed)

/-- A built-in type by its keyword, whose lexeme is taken already; types inside it are parsed by
`inner`. -/
def keywordType (inner : Parser OpenType) (keyword : Keyword) : Parser (Option OpenType) := do
  let rules ← rules
  let whole : Parser DataType := do
    let (type, closed) ← inner
    if closed then unmatchedAngle type
    return type
  let fieldIn : Parser DataType := do
    let name ← ident
    return .between (name.text ++ " ") (← whole) ""
  let fieldsIn (name : String) (field : Parser DataType) : Parser OpenType := do
    return (.listed (name ++ "(") (← inParens (separated field)) ")", false)
  match keyword with
  | "BOOLEAN" | "BOOL" | "FLOAT4" | "FLOAT8" | "FLOAT64" | "UUID" | "DATE" | "JSON" | "JSONB"
  | "REGCLASS" | "TEXT" | "TINYTEXT" | "MEDIUMTEXT" | "LONGTEXT" | "BYTEA" | "TRIGGER"
  | "TINYBLOB" | "MEDIUMBLOB" | "LONGBLOB" | "INT64" | "HUGEINT" | "UBIGINT" | "UHUGEINT"
  | "USMALLINT" | "UTINYINT" => return builtIn keyword
  | "FLOAT32" => return builtIn "Float32"
  | "DATE32" => return builtIn "Date32"
  | "INT16" => return builtIn "Int16"
  | "INT32" => return builtIn "Int32"
  | "INT128" => return builtIn "Int128"
  | "INT256" => return builtIn "Int256"
  | "UINT8" => return builtIn "UInt8"
  | "UINT16" => return builtIn "UInt16"
  | "UINT32" => return builtIn "UInt32"
  | "UINT64" => return builtIn "UInt64"
  | "UINT128" => return builtIn "UInt128"
  | "UINT256" => return builtIn "UInt256"
  | "REAL" => unsignedType keyword (pure "")
  | "FLOAT" | "DECIMAL" | "DEC" => unsignedType keyword scale?
  | "NUMERIC" | "BIGNUMERIC" | "BIGDECIMAL" => withSuffix keyword scale?
  | "DOUBLE" =>
    if ← keyword? "PRECISION" then unsignedType "DOUBLE PRECISION" (pure "")
    else unsignedType keyword scale?
  | "TINYINT" | "SMALLINT" | "MEDIUMINT" | "INT" | "INTEGER" | "BIGINT" =>
    integerType keyword true
  | "INT2" | "INT4" | "INT8" => integerType keyword false
  | "VARCHAR" | "NVARCHAR" => withSuffix keyword characterLength?
  | "CHARACTER" | "CHAR" => characterType keyword
  | "CLOB" | "BLOB" | "BYTES" | "DATETIME" | "TIMESTAMP_NTZ" | "STRING" | "VARBIT" =>
    withSuffix keyword precision?
  | "BINARY" => do
    let length ← precision?
    return some (⟨.binary, "BINARY" ++ length, []⟩, false)
  | "VARBINARY" => withSuffix keyword byteLength?
  | "BIT" => do
    if ← keyword? "VARYING" then withSuffix "BIT VARYING" precision?
    else withSuffix keyword precision?
  | "DATETIME64" => do
    symbol "("
    let precision ← wholeNumber
    let zone ← if ← symbol? "," then pure s!", '{← stringContent}'" else pure ""
    symbol ")"
    return builtIn s!"DateTime64({precision}{zone})"
  | "TIMESTAMP" | "TIME" => zonedType keyword
  | "TIMESTAMPTZ" | "TIMETZ" => withSuffix keyword precision?
  | "INTERVAL" => do
    let suffix ←
      if rules.intervalOptions then do
        let fields ← intervalFields?
        pure (fields ++ (← precision?))
      else pure ""
    return some (⟨.interval, "INTERVAL" ++ suffix, []⟩, false)
  | "FIXEDSTRING" => return builtIn s!"FixedString({← inParens wholeNumber})"
  | "ENUM" => return builtIn s!"ENUM({← enumValues})"
  | "ENUM8" => return builtIn s!"ENUM8({← enumValues})"
  | "ENUM16" => return builtIn s!"ENUM16({← enumValues})"
  | "SET" => return builtIn s!"SET({← setValues})"
  | "ARRAY" => do
    if rules.bareArrayType then return builtIn "ARRAY"
    symbol "<"
    let (element, closed) ← inner
    return some (.between "ARRAY<" element ">", ← closeAngle closed)
  | "STRUCT" => do
    if rules.structTypeParens then return some (← fieldsIn "STRUCT" fieldIn)
    if rules.structTypeBrackets then return some (← structFields inner) else return none
  | "UNION" =>
    if rules.unionType then return some (← fieldsIn "UNION" fieldIn) else return none
  | "NULLABLE" =>
    if rules.wrapperTypes then return some (.between "Nullable(" (← inParens whole) ")", false)
    else return none
  | "LOWCARDINALITY" =>
    if rules.wrapperTypes then
      return some (.between "LowCardinality(" (← inParens whole) ")", false)
    else return none
  | "MAP" =>
    if rules.wrapperTypes then do
      symbol "("
      let key ← whole
      symbol ","
      let element ← whole
      symbol ")"
      return some (.listed "Map(" [key, element] ")", false)
    else return none
  | "NESTED" =>
    if rules.wrapperTypes then return some (← fieldsIn "Nested" fieldIn) else return none
  | "TUPLE" =>
    if rules.wrapperTypes then do
      let field : Parser DataType := do
        match ← peekToken, (← peekAt 1).token with
        | .word .., .word .. => fieldIn
        | _, _ => whole
      return some (← fieldsIn "Tuple" field)
    else return none
  | "ANY" => if ← keyword? "TYPE" then return builtIn "ANY TYPE" else return none
  | "TABLE" =>
    if ← atSymbol "(" then return some (← fieldsIn "TABLE" fieldIn)
    else return builtIn "TABLE"
  | "SIGNED" | "UNSIGNED" =>
    return builtIn (keyword ++ (if ← keyword? "INTEGER" then " INTEGER" else ""))
  | "TSVECTOR" | "TSQUERY" =>
    if rules.rangeOperators then return builtIn keyword else return none
  | "POINT" | "LINE" | "LSEG" | "BOX" | "PATH" | "POLYGON" | "CIRCLE" =>
    if rules.lexis.geometry then return builtIn (Text.lower keyword) else return none
  | _ => return none

/-- A type of at most `fuel` levels, and whether it closed the bracket around it. -/
def typeWithin : Nat → Parser OpenType
  | 0 => fail .budget
  | fuel + 1 => do
    let l ← peek
    if !l.token.isWord then expected "a data type name"
    let lexemes ← get
    skip 1
    let (type, closed) ←
      match ← keywordType (typeWithin fuel) l.keyword with
      | some type => pure type
      | none => do
        set lexemes
        let name ← objectName
        pure (⟨.custom, name.name.text ++ (← typeModifiers?), name.inside⟩, false)
    if (← rule (·.arrayTypeBrackets)) then
      let step (type : DataType) : Parser (Option DataType) := do
        if !(← symbol? "[") then return none
        let size ← match ← attempt wholeNumber with
          | some n => pure s!"{n}"
          | none => pure ""
        symbol "]"
        return some (.between "" type s!"[{size}]")
      return (← iterate step type, closed)
    return (type, closed)

/-- A data type. -/
def dataType : Parser DataType := do
  let lexemes ← get
  let (type, closed) ← typeWithin (lexemes.length + 1)
  if closed then unmatchedAngle type
  return type

/-- What is visited in a type that is not kept. -/
def typeInside : Parser (List Node) := do
  return (← dataType).inside

/-- A column of an alias, with its type if it has one. -/
def aliasColumn : Parser String := do
  let name ← ident
  match ← attempt dataType with
  | some type => return s!"{name.text} {type.text}"
  | none => return name.text

/-- The name behind an optional AS, where `allowed` tells which keywords may do without AS, given
the lexeme behind them. -/
def aliasName? (allowed : Keyword → Lexeme → Bool) : Parser (Option Ident) := do
  let explicit ← keyword? "AS"
  let l ← peek
  match l.token with
  | .word value quote =>
    if explicit || allowed l.keyword (← peekAt 1) then
      skip 1
      return some ⟨value, quote⟩
    return none
  | .literal .single value =>
    skip 1
    return some ⟨value, some '\''⟩
  | .literal .double value =>
    skip 1
    return some ⟨value, some '"'⟩
  | _ => if explicit then expected "an identifier after AS" else return none

/-- The alias of an item of a select list, if it has one. -/
def columnAlias? : Parser (Option Ident) := do
  let rules ← rules
  aliasName? (columnAliasWord rules.aliasRule)

/-- The alias of a source, if it has one. -/
def alias? : Parser (Option Alias) := do
  let rules ← rules
  let explicit ← atKeyword "AS"
  match ← aliasName? (sourceAliasWord rules.aliasRule) with
  | none => return none
  | some name =>
    let columns ← if ← atSymbol "(" then inParens (separated aliasColumn) else pure []
    return some ⟨explicit, name, columns⟩

end Parser

end ColumnLineage.Sql
