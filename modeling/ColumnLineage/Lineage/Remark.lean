/-!
# Remarks

A remark says how a row was found: from which clause its column comes, and how the column was traced
to a table.  The remarks are a closed list of texts.

## Main definitions

* `JoinKind`: the kinds of joins that remarks tell apart.
* `Remark`: a remark, with `Remark.text`.
* `Remark.all`: every remark, in the order in which they are listed.
* `Remark.ofText`: the remark with a text.
-/

namespace ColumnLineage.Lineage

/-- The kinds of joins that remarks tell apart. -/
inductive JoinKind where
  | inner
  | left
  | right
  | full
  | cross
  | semi
  | anti
deriving DecidableEq, Repr

/-- A text that is no remark. -/
structure UnknownRemark where
  text : String
deriving DecidableEq, Repr

namespace UnknownRemark

/-- The complaint about a text that is no remark. -/
def message (e : UnknownRemark) : String :=
  s!"unknown remark '{e.text}'"

end UnknownRemark

/-- What stands in front of the kind of a join in a remark. -/
def joinLabel : String := "join_type:"

namespace JoinKind

/-- The keyword of a kind. -/
def text : JoinKind → String
  | inner => "INNER"
  | left => "LEFT"
  | right => "RIGHT"
  | full => "FULL"
  | cross => "CROSS"
  | semi => "SEMI"
  | anti => "ANTI"

/-- Every kind, in the order in which remarks list them. -/
def all : List JoinKind :=
  [inner, left, right, full, cross, semi, anti]

/-- The kind of a keyword.  A complaint tells the remark that the keyword was to stand in. -/
def ofText : String → Except UnknownRemark JoinKind
  | "INNER" => .ok inner
  | "LEFT" => .ok left
  | "RIGHT" => .ok right
  | "FULL" => .ok full
  | "CROSS" => .ok cross
  | "SEMI" => .ok semi
  | "ANTI" => .ok anti
  | keyword => .error ⟨joinLabel ++ keyword⟩

end JoinKind

/-- How a row was found. -/
inductive Remark where
  | allColumnsSelected
  | columnSelected
  | columnSelectedWithDatabase
  | columnSelectedDatabaseNotSpecified
  | tableNameAmbiguous
  | databaseNotSpecifiedInQuery
  | innerQueryAliasLayer
  | subqueryLayer
  | derivedExpression
  | caseExpression
  | whereClauseColumn
  | groupByColumn
  | havingClauseColumn
  | joinOnClauseColumn
  | joinEqualityPair
  | joinType (kind : JoinKind)
  | joinSubqueryWhereColumn
  | functionExpression
  | invalidTableAlias
  | tableNameDerived
  | techFailure
deriving DecidableEq, Repr

namespace Remark

/-- The text of a remark that names no kind of join. -/
def plainText? : Remark → Option String
  | allColumnsSelected => some "all_columns_selected"
  | columnSelected => some "column_selected"
  | columnSelectedWithDatabase => some "column_selected_with_database"
  | columnSelectedDatabaseNotSpecified => some "column_selected_database_not_specified"
  | tableNameAmbiguous => some "table_name_ambiguous"
  | databaseNotSpecifiedInQuery => some "database_not_specified_in_query"
  | innerQueryAliasLayer => some "inner_query_alias_layer"
  | subqueryLayer => some "subquery_layer"
  | derivedExpression => some "derived_expression"
  | caseExpression => some "case_expression"
  | whereClauseColumn => some "where_clause_column"
  | groupByColumn => some "group_by_column"
  | havingClauseColumn => some "having_clause_column"
  | joinOnClauseColumn => some "join_on_clause_column"
  | joinEqualityPair => some "join_equality_pair"
  | joinType _ => none
  | joinSubqueryWhereColumn => some "join_subquery_where_column"
  | functionExpression => some "function_expression"
  | invalidTableAlias => some "invalid_table_alias"
  | tableNameDerived => some "table_name_derived"
  | techFailure => some "tech_failure"

/-- The text of a remark. -/
def text : Remark → String
  | joinType kind => joinLabel ++ kind.text
  | remark => remark.plainText?.getD ""

/-- Every remark, in the order in which they are listed. -/
def all : List Remark :=
  [allColumnsSelected, columnSelected, columnSelectedWithDatabase,
    columnSelectedDatabaseNotSpecified, tableNameAmbiguous, databaseNotSpecifiedInQuery,
    innerQueryAliasLayer, subqueryLayer, derivedExpression, caseExpression, whereClauseColumn,
    groupByColumn, havingClauseColumn, joinOnClauseColumn, joinEqualityPair] ++
  JoinKind.all.map joinType ++
  [joinSubqueryWhereColumn, functionExpression, invalidTableAlias, tableNameDerived, techFailure]

/-- The remark with a text: behind the label of joins, a kind of join is read by its keyword. -/
def ofText (s : String) : Except UnknownRemark Remark :=
  match s.dropPrefix? joinLabel with
  | some keyword => (JoinKind.ofText keyword.copy).map joinType
  | none =>
    match all.find? fun remark => remark.plainText? == some s with
    | some remark => .ok remark
    | none => .error ⟨s⟩

/-- A remark names the kind of a join. -/
def namesJoin : Remark → Bool
  | joinType _ => true
  | _ => false

/-- Every remark is listed. -/
theorem mem_all (r : Remark) : r ∈ all := by
  cases r with
  | joinType kind => cases kind <;> decide
  | _ => decide

end Remark

end ColumnLineage.Lineage
