import ColumnLineage.Lineage.Remark

/-!
# Rows

A row of lineage names one column of one table that a query reads, with the alias under which the
query gives it out and the remarks that say how it was found.

## Main definitions

* `Tags`: what a caller wants written on every row.
* `RowSource`: where the column of a row comes from.
* `Row`: one row.
* `deduplicate`: rows without repetitions and placeholders.
-/

namespace ColumnLineage.Lineage

/-- What a caller wants written on every row. -/
structure Tags where
  regulation : String
  metadataKey : String
  viewName : String
deriving DecidableEq, Repr, Inhabited

/-- Where the column of a row comes from; what is not known is empty. -/
structure RowSource where
  database : String := ""
  table : String := ""
  tableAlias : String := ""
deriving DecidableEq, Repr, Inhabited

/-- One column that a query reads. -/
structure Row where
  source : RowSource
  column : String
  /-- The name under which the query gives the column out. -/
  columnAlias : String
  tags : Tags
  remarks : List Remark
deriving DecidableEq, Repr, Inhabited

namespace Row

/-- The only row of a text that has no statements. -/
def techFailure (tags : Tags) : Row :=
  ⟨{}, "", "", tags, [.techFailure]⟩

/-- A row carries a remark. -/
def has (row : Row) (remark : Remark) : Bool :=
  row.remarks.contains remark

/-- A star without anything that tells whose columns it stands for. -/
def isPlaceholderStar (row : Row) : Bool :=
  row.column == "*" && row.source.database.isEmpty && row.source.table.isEmpty &&
    row.source.tableAlias.isEmpty && row.columnAlias.isEmpty

/-- A row with each of its remarks once, where it first occurs. -/
def normalized (row : Row) : Row :=
  { row with remarks := row.remarks.eraseDups }

end Row

/-- Normalized rows without placeholders, each once, where it first occurs. -/
def deduplicate (rows : List Row) : List Row :=
  ((rows.map Row.normalized).filter fun row => !row.isPlaceholderStar).eraseDups

end ColumnLineage.Lineage
