import ColumnLineage.Json.Decode
import ColumnLineage.Lineage.Extractor

/-!
# Rows and options as JSON

A row is an object of nine fields, with its remarks as texts.  Options name their dialects, and a
missing field has its usual value.

## Main definitions

* `Row.toJson`, `Row.ofJson`: rows.
* `Options.toJson`, `Options.ofJson`: options.
-/

namespace ColumnLineage.Lineage

open Json Sql

/-- A remark by its text. -/
def Remark.ofJson (v : Value) : Decoded Remark := do
  match Remark.ofText (← Json.string v) with
  | .ok remark => return remark
  | .error e => throw (.refused e.message)

namespace Row

/-- The object of a row. -/
def toJson (row : Row) : Value :=
  .object
    [("databaseName", .string row.source.database),
      ("tableName", .string row.source.table),
      ("tableAliasName", .string row.source.tableAlias),
      ("columnName", .string row.column),
      ("aliasName", .string row.columnAlias),
      ("regulation", .string row.tags.regulation),
      ("metadatakey", .string row.tags.metadataKey),
      ("viewName", .string row.tags.viewName),
      ("remarks", .array (row.remarks.map fun remark => .string remark.text))]

/-- The fields of a row, all of them required. -/
def shape : Shape Row where
  name := "LineageRow"
  closed := false
  start := default
  fields :=
    [.of "databaseName" true Json.string fun s row =>
        { row with source := { row.source with database := s } },
      .of "tableName" true Json.string fun s row =>
        { row with source := { row.source with table := s } },
      .of "tableAliasName" true Json.string fun s row =>
        { row with source := { row.source with tableAlias := s } },
      .of "columnName" true Json.string fun s row => { row with column := s },
      .of "aliasName" true Json.string fun s row => { row with columnAlias := s },
      .of "regulation" true Json.string fun s row =>
        { row with tags := { row.tags with regulation := s } },
      .of "metadatakey" true Json.string fun s row =>
        { row with tags := { row.tags with metadataKey := s } },
      .of "viewName" true Json.string fun s row =>
        { row with tags := { row.tags with viewName := s } },
      .of "remarks" true (Json.list Remark.ofJson) fun remarks row => { row with remarks }]

/-- The row of a value. -/
def ofJson (v : Value) : Decoded Row :=
  shape.decode v

end Row

/-- A dialect by its canonical name. -/
def dialectOfJson (v : Value) : Decoded Dialect :=
  Json.keyword (Dialect.all.map Dialect.name) Dialect.ofCanonicalName v

namespace Options

/-- The object of options. -/
def toJson (o : Options) : Value :=
  .object
    [("dialect", .string o.dialect.name),
      ("fallback_dialect", match o.fallback with
        | some dialect => .string dialect.name
        | none => .null),
      ("max_depth", .integer o.maxDepth)]

/-- The fields of options, none of them required. -/
def shape : Shape Options where
  name := "LineageOptions"
  closed := true
  start := {}
  fields :=
    [.of "dialect" false dialectOfJson fun dialect o => { o with dialect },
      .of "fallback_dialect" false (Json.optional dialectOfJson) fun fallback o =>
        { o with fallback },
      .of "max_depth" false Json.natural fun maxDepth o => { o with maxDepth }]

/-- The options of a value. -/
def ofJson (v : Value) : Decoded Options :=
  shape.decode v

end Options

end ColumnLineage.Lineage
