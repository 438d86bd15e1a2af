import ColumnLineage.Sql.Rules
import ColumnLineage.Text.LetterCase

/-!
# Dialects

The seven dialects a query can be written in, with the names they go by.

## Main definitions

* `Dialect`: the dialects.
* `Dialect.name`: the canonical name.
* `Dialect.ofName`: the dialect of a name, aliases included.
* `Dialect.rules`: what the dialect decides about spelling and grammar.
-/

namespace ColumnLineage.Sql

/-- The dialects a query can be written in. -/
inductive Dialect where
  | generic
  | spark
  | hive
  | duckdb
  | snowflake
  | mysql
  | postgres
deriving DecidableEq, Repr, Inhabited

/-- A name that no dialect goes by. -/
structure UnknownDialect where
  name : String
deriving DecidableEq, Repr

namespace UnknownDialect

/-- The complaint about an unknown dialect. -/
def message (e : UnknownDialect) : String :=
  s!"[S003] Unknown SQL dialect: {e.name}"

end UnknownDialect

namespace Dialect

/-- All dialects, in the order in which they are listed. -/
def all : List Dialect :=
  [generic, spark, hive, duckdb, snowflake, mysql, postgres]

/-- The canonical name. -/
def name : Dialect → String
  | generic => "generic"
  | spark => "spark"
  | hive => "hive"
  | duckdb => "duckdb"
  | snowflake => "snowflake"
  | mysql => "mysql"
  | postgres => "postgres"

/-- The dialect of a canonical name. -/
def ofCanonicalName (s : String) : Option Dialect :=
  all.find? fun d => d.name == s

/-- The dialect of a name in any letter case, aliases included. -/
def ofName (s : String) : Except UnknownDialect Dialect :=
  match Text.lower s with
  | "ansi" => .ok generic
  | "databricks" => .ok spark
  | "postgresql" => .ok postgres
  | lowered =>
    match ofCanonicalName lowered with
    | some d => .ok d
    | none => .error ⟨s⟩

/-- What the dialect decides about spelling and grammar. -/
def rules : Dialect → Rules
  | generic => .generic
  | spark => .spark
  | hive => .hive
  | duckdb => .duckdb
  | snowflake => .snowflake
  | mysql => .mysql
  | postgres => .postgres

/-- Every canonical name is the name of its dialect. -/
theorem ofCanonicalName_name (d : Dialect) : ofCanonicalName d.name = some d := by
  cases d <;> rfl

end Dialect

end ColumnLineage.Sql
