import ColumnLineage.Sql.Grammar.Definition

/-!
# Objects of a catalog

Definitions of objects that hold no rows of their own: schemas, databases, sequences, types, roles
and the like.  They have no lineage, apart from the queries in their expressions.

## Main definitions

* `Parser.createSchema`, `Parser.createDatabase`, `Parser.createSequence`, `Parser.createType`,
  `Parser.createRole` and others: the definitions behind their keywords.
-/

namespace ColumnLineage.Sql.Parser

/-- Skips IF NOT EXISTS if it stands here. -/
def unlessExists : Parser Unit := do
  let _ ← keywords? ["IF", "NOT", "EXISTS"]

/-- A name behind a keyword, if that stands here. -/
def namedBy (k : Keyword) : Parser Unit := do
  if ← keyword? k then
    let _ ← ident

/-! ## Schemas and databases -/

/-- CREATE SCHEMA behind its keywords. -/
def createSchema : Parser (List Node) := do
  unlessExists
  let name ←
    if ← keyword? "AUTHORIZATION" then do
      let _ ← ident
      pure []
    else do
      let inside ← nameInside
      namedBy "AUTHORIZATION"
      pure inside
  let collation : List Node ←
    if ← keywords? ["DEFAULT", "COLLATE"] then do pure [.expr (← expr)] else pure []
  let settings ← settingsBehind ["WITH"]
  let options ← settingsBehind ["OPTIONS"]
  let origin ← if ← keyword? "CLONE" then nameInside else pure []
  return name ++ settings ++ options ++ collation ++ origin

/-- How a database compares texts, if that stands here.  Its character set is named once by
CHARACTER SET, and by CHARSET any number of times. -/
def databaseText? (named : Bool) : Parser (Option Bool) := do
  let start ← get
  let _ ← keyword? "DEFAULT"
  let charset ← either (given (!named) (keywords? ["CHARACTER", "SET"])) (keyword? "CHARSET")
  if ← either (pure charset) (keyword? "COLLATE") then
    let _ ← symbol? "="
    let _ ← ident
    return some (named || charset)
  set start
  return none

/-- CREATE DATABASE behind its keywords. -/
def createDatabase : Parser (List Node) := do
  unlessExists
  let name ← nameInside
  let _ ← many do
    match ← oneOf? ["LOCATION", "MANAGEDLOCATION"] with
    | some _ => return some (← stringContent)
    | none => return none
  let origin ← if ← keyword? "CLONE" then nameInside else pure []
  let _ ← iterate databaseText? false
  return name ++ origin

/-! ## Sequences and types -/

/-- CREATE SEQUENCE behind its keywords. -/
def createSequence : Parser (List Node) := do
  unlessExists
  let name ← nameInside
  let type ← if ← keyword? "AS" then typeInside else pure []
  sequenceOptions
  let owner ← if ← keywords? ["OWNED", "BY"] then nameInside else pure []
  return name ++ type ++ owner

/-- An attribute of a composite type. -/
def typeAttribute : Parser (List Node) := do
  let _ ← ident
  let type ← typeInside
  return type ++ (← if ← keyword? "COLLATE" then nameInside else pure [])

/-- An option of a range type. -/
def rangeOption : Parser (List Node) := do
  let k ← oneOf? ["SUBTYPE", "SUBTYPE_OPCLASS", "COLLATION", "CANONICAL", "SUBTYPE_DIFF",
    "MULTIRANGE_TYPE_NAME"]
  if k.isNone then expected "range option keyword"
  symbol "="
  if k == some "SUBTYPE" then typeInside else nameInside

/-- The options of a base type that name a function. -/
def typeFunctions : List Keyword :=
  ["INPUT", "OUTPUT", "RECEIVE", "SEND", "TYPMOD_IN", "TYPMOD_OUT", "ANALYZE", "SUBSCRIPT"]

/-- The options of a base type whose value is one of some words. -/
def typeChoices : List (Keyword × List Keyword) :=
  [("ALIGNMENT", ["CHAR", "INT2", "INT4", "DOUBLE"]),
    ("STORAGE", ["PLAIN", "EXTERNAL", "EXTENDED", "MAIN"]), ("PREFERRED", ["TRUE", "FALSE"]),
    ("COLLATABLE", ["TRUE", "FALSE"])]

/-- An option of a base type. -/
def typeOption : Parser (List Node) := do
  let word := (← peek).keyword
  if ← keyword? "PASSEDBYVALUE" then return []
  let others := ["INTERNALLENGTH", "LIKE", "ELEMENT", "CATEGORY", "DELIMITER", "DEFAULT"]
  if !(typeFunctions ++ typeChoices.map (·.1) ++ others).contains word then
    expected "type definition option keyword"
  skip 1
  symbol "="
  if typeFunctions.contains word then return ← nameInside
  match word, typeChoices.lookup word with
  | _, some words =>
    let _ ← oneOf words
  | "INTERNALLENGTH", _ =>
    if !(← keyword? "VARIABLE") then
      let _ ← wholeNumber
  | "LIKE", _ | "ELEMENT", _ => return ← typeInside
  | "DEFAULT", _ => return [.expr (← expr)]
  | _, _ =>
    let _ ← stringContent
  return []

/-- CREATE TYPE behind its keywords. -/
def createType : Parser (List Node) := do
  let name ← nameInside
  if !(← keyword? "AS") then
    if ← atSymbol "(" then
      return name ++ (← inParens (separatedUntil ")" typeOption)).flatten
    return name
  if ← keyword? "ENUM" then
    let _ ← inParens (separatedUntil ")" ident)
    return name
  if ← keyword? "RANGE" then
    return name ++ (← inParens (separatedUntil ")" rangeOption)).flatten
  if !(← atSymbol "(") then expected "ENUM, RANGE, or '(' after AS"
  let attributes ← inParens do
    if ← atSymbol ")" then return []
    separatedWith false (fun _ _ => false) typeAttribute
  return name ++ attributes.flatten

/-- CREATE DOMAIN behind its keywords. -/
def createDomain : Parser (List Node) := do
  let name ← nameInside
  keyword "AS"
  let type ← typeInside
  namedBy "COLLATE"
  let value := (← exprClause "DEFAULT").toList.map Node.expr
  return name ++ type ++ value ++ (← many tableConstraint?).flatten

/-! ## Roles and users -/

/-- What a role may do, each word with the property it is about. -/
def rolePowers : List (Keyword × String) :=
  [("LOGIN", "LOGIN or NOLOGIN"), ("NOLOGIN", "LOGIN or NOLOGIN"),
    ("INHERIT", "INHERIT or NOINHERIT"), ("NOINHERIT", "INHERIT or NOINHERIT"),
    ("BYPASSRLS", "BYPASSRLS or NOBYPASSRLS"), ("NOBYPASSRLS", "BYPASSRLS or NOBYPASSRLS"),
    ("CREATEDB", "CREATEDB or NOCREATEDB"), ("NOCREATEDB", "CREATEDB or NOCREATEDB"),
    ("CREATEROLE", "CREATEROLE or NOCREATEROLE"), ("NOCREATEROLE", "CREATEROLE or NOCREATEROLE"),
    ("SUPERUSER", "SUPERUSER or NOSUPERUSER"), ("NOSUPERUSER", "SUPERUSER or NOSUPERUSER"),
    ("REPLICATION", "REPLICATION or NOREPLICATION"),
    ("NOREPLICATION", "REPLICATION or NOREPLICATION")]

/-- An option of a role, if one stands here: the property it is about. -/
def roleOption? (seen : List String) : Parser (Option String) := do
  let place ← peek
  let once (property : String) (p : Parser Unit) : Parser (Option String) := do
    if seen.contains property then refuseAt ("Found multiple " ++ property) place
    p
    return some property
  let names : Parser Unit := do
    let _ ← separated ident
  match ← oneOf? (rolePowers.map (·.1) ++ ["PASSWORD", "CONNECTION", "VALID", "IN", "ROLE", "ADMIN",
      "USER"]) with
  | none => return none
  | some "PASSWORD" => once "PASSWORD" do
    if !(← keyword? "NULL") then
      let _ ← value
  | some "CONNECTION" =>
    keyword "LIMIT"
    once "CONNECTION LIMIT" do
      let _ ← numberValue
  | some "VALID" =>
    keyword "UNTIL"
    once "VALID UNTIL" do
      let _ ← value
  | some "IN" =>
    if ← keyword? "ROLE" then once "IN ROLE" names
    else if ← keyword? "GROUP" then once "IN GROUP" names
    else expected "ROLE or GROUP after IN"
  | some word => match rolePowers.lookup word with
    | some property => once property (pure ())
    | none => once word names

/-- CREATE ROLE behind its keywords. -/
def createRole : Parser (List Node) := do
  unlessExists
  let names ← separated nameInside
  let _ ← keyword? "WITH"
  if ← rule (·.roleOptions) then eachOnce roleOption?
  return names.flatten

/-- A user or another object that may have privileges. -/
def grantee : Parser (List Node) := do
  let ⟨name, inside⟩ ← objectName
  if ← given (name.parts.length == 1 && (← rule (·.userHosts))) (symbol? "@") then
    let _ ← ident
  return inside

/-- CREATE USER behind its keywords. -/
def createUser : Parser (List Node) := do
  unlessExists
  let _ ← ident
  restOfStatement
  return []

/-! ## Other objects -/

/-- CREATE EXTENSION behind its keywords. -/
def createExtension : Parser (List Node) := do
  unlessExists
  let _ ← ident
  if ← keyword? "WITH" then
    namedBy "SCHEMA"
    namedBy "VERSION"
    let _ ← keyword? "CASCADE"
  return []

/-- CREATE VIRTUAL TABLE behind VIRTUAL. -/
def createVirtualTable : Parser (List Node) := do
  keyword "TABLE"
  let name ← guarded ["IF", "NOT", "EXISTS"]
  keyword "USING"
  let _ ← ident
  let _ ← identList?
  return name.parts

/-- A text behind a keyword, if that stands here. -/
def textBy (k : Keyword) : Parser Unit := do
  if ← keyword? k then
    let _ ← stringContent

/-- CREATE CONNECTOR behind its keywords. -/
def createConnector : Parser (List Node) := do
  unlessExists
  let _ ← ident
  textBy "TYPE"
  textBy "URL"
  if ← keyword? "COMMENT" then
    let _ ← symbol? "="
    commentText
  settingsBehind ["WITH", "DCPROPERTIES"]

/-- A key with its value, one behind the other. -/
def keyAndValue : Parser Unit := do
  let _ ← ident
  let _ ← ident

/-- CREATE SERVER behind its keywords. -/
def createServer : Parser (List Node) := do
  unlessExists
  let name ← nameInside
  namedBy "TYPE"
  namedBy "VERSION"
  keywords ["FOREIGN", "DATA", "WRAPPER"]
  let wrapper ← nameInside
  if ← keyword? "OPTIONS" then
    let _ ← inParens (separated keyAndValue)
  return name ++ wrapper

/-- CREATE SECRET behind its keywords. -/
def createSecret : Parser (List Node) := do
  unlessExists
  if !(← atSymbol "(") then
    if !(← atKeyword "IN") then
      let _ ← ident
    namedBy "IN"
  inParens do
    keyword "TYPE"
    let _ ← ident
    if ← symbol? "," then
      let _ ← separated keyAndValue
  return []

end ColumnLineage.Sql.Parser
