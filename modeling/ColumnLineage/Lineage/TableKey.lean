import ColumnLineage.Sql.Visit

/-!
# Tables

A table is known by its name and its database.  A longer name is cut to these two parts.

## Main definitions

* `TableKey`: a table.
* `relationKeys`: the tables that a query reads, each once.
-/

namespace ColumnLineage.Lineage

open Sql

/-- A table with its database, which is empty where none is given. -/
structure TableKey where
  database : String
  table : String
deriving DecidableEq, Repr

namespace TableKey

/-- The table of some name parts: the last is the table, the one in front of it the database. -/
def ofParts (parts : List String) : TableKey :=
  match parts.reverse with
  | [] => ⟨"", ""⟩
  | [table] => ⟨"", table⟩
  | table :: database :: _ => ⟨database, table⟩

/-- The table of a dotted name. -/
def ofName (name : ObjectName) : TableKey :=
  ofParts name.values

end TableKey

/-- The table that a visit meets. -/
def Visit.table? : Visit → Option TableKey
  | .relation name => some (.ofName name)
  | _ => none

/-- The tables in some visits, each once, in order. -/
def relationKeys (visits : List Visit) : List TableKey :=
  (visits.filterMap Visit.table?).eraseDups

end ColumnLineage.Lineage
