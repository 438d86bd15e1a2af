import ColumnLineage.Lineage.Row
import ColumnLineage.Text.Blank

/-!
# Tables

Rows are printed in columns, which are as wide as their widest cell and two blanks apart.

## Main definitions

* `Table`: headers and rows of cells.
* `Table.text`: a table as it is printed.
* `rowTable`: the table of traced rows.
-/

namespace ColumnLineage.Command

open Lineage

/-- Headers and rows of cells. -/
structure Table where
  headers : List String
  rows : List (List String)
deriving DecidableEq, Repr

namespace Table

/-- The widths of columns that hold some cells as well. -/
def widen (widths : List Nat) (cells : List String) : List Nat :=
  widths.zipWith (fun width cell => max width cell.length) cells

/-- The widths of the columns. -/
def widths (t : Table) : List Nat :=
  t.rows.foldl widen (t.headers.map String.length)

/-- A cell with blanks up to a width. -/
def padded (cell : String) (width : Nat) : String :=
  cell ++ String.ofList (List.replicate (width - cell.length) ' ')

/-- Cells side by side. -/
def beside (cells : List String) : String :=
  "  ".intercalate cells

/-- A line of cells, without blanks at its end. -/
def line (widths : List Nat) (cells : List String) : String :=
  Text.trimEnd (beside (cells.zipWith padded widths))

/-- The line of dashes. -/
def rule (widths : List Nat) : String :=
  beside (widths.map fun width => String.ofList (List.replicate width '-'))

/-- The lines of a table. -/
def lines (t : Table) : List String :=
  let widths := t.widths
  line widths t.headers :: rule widths :: t.rows.map (line widths)

/-- A table as it is printed. -/
def text (t : Table) : String :=
  String.join (t.lines.map (· ++ "\n"))

end Table

/-- A cell that is never empty. -/
def cellOf (text : String) : String :=
  if text.isEmpty then "-" else text

/-- The cells of a traced row. -/
def rowCells (row : Row) : List String :=
  [cellOf row.tags.viewName, cellOf row.source.database, cellOf row.source.table,
    cellOf row.source.tableAlias, cellOf row.column, cellOf row.columnAlias,
    ", ".intercalate (row.remarks.map Remark.text)]

/-- The table of traced rows. -/
def rowTable (rows : List Row) : Table where
  headers := ["VIEW", "DATABASE", "TABLE", "ALIAS", "COLUMN", "COLUMN_ALIAS", "REMARKS"]
  rows := rows.map rowCells

end ColumnLineage.Command
