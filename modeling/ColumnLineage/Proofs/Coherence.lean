import ColumnLineage.Lineage.Extractor
import ColumnLineage.Proofs.Emission
import ColumnLineage.Proofs.Output

/-!
# Rows agree with their remarks

The remarks of a row say what its fields hold: a reason why a column is not traced goes with the
parts of the source that are empty for it, the kind of a join with the clause of a join, and the
remark on a database with a database.

## Main definitions

* `Row.Coherent`: a row carries its tags, and its remarks agree with its fields.
* `RowSource.Explains`: a source fits the reason why a column is not traced to a table.

## Main statements

* `coherent_of_mem_statementRows`: every row of a statement is coherent.
* `coherent_extract`: the rows of a text that can be read are coherent, each once, without
  placeholders.

## Design notes

Every way to emit a row puts at most one reason behind remarks that say where the column stands.
The remarks on the source follow from the reason alone, the others from where the column stands.
-/

namespace ColumnLineage.Lineage

open Sql

/-- A row carries some tags, and its remarks agree with its fields. -/
structure Row.Coherent (tags : Tags) (row : Row) : Prop where
  tagged : row.tags = tags
  remarked : row.remarks ≠ []
  nodup : row.remarks.Nodup
  invalid : row.has .invalidTableAlias → row.source.database = "" ∧ row.source.table = "" ∧
    ¬ row.has .tableNameDerived ∧ ¬ row.has .tableNameAmbiguous
  ambiguous : row.has .tableNameAmbiguous → row.source = {} ∧ ¬ row.has .tableNameDerived
  derived : row.has .tableNameDerived → ¬ row.has .allColumnsSelected →
    row.source.database = "" ∧ row.source.tableAlias = ""
  withDatabase : row.has .columnSelectedWithDatabase →
    row.source.database ≠ "" ∧ row.remarks = [.columnSelectedWithDatabase]
  withoutDatabase : row.has .databaseNotSpecifiedInQuery → row.source.database = ""
  joined : (∃ kind, row.has (.joinType kind)) ↔
    row.has .joinOnClauseColumn ∨ row.has .joinSubqueryWhereColumn
  oneJoin : row.remarks.countP Remark.namesJoin ≤ 1
  caseExpression : row.has .caseExpression → row.has .derivedExpression
  functionExpression : row.has .functionExpression → row.has .derivedExpression ∧ row.source = {}
  read : ¬ row.has .techFailure

/-- A source fits the reason why a column is not traced to a table, if there is one. -/
inductive RowSource.Explains (source : RowSource) : Option Remark → Prop
  | traced : source.Explains none
  | invalid (database : source.database = "") (table : source.table = "") :
    source.Explains (some .invalidTableAlias)
  | ambiguous (nothing : source = {}) : source.Explains (some .tableNameAmbiguous)
  | derived (database : source.database = "") (tableAlias : source.tableAlias = "") :
    source.Explains (some .tableNameDerived)

/-- What a reference is resolved to gives a source that fits the reason of a failure. -/
theorem Resolution.explains_failure (qualifier : Option String) (resolution : Resolution) :
    (resolution.source qualifier).Explains resolution.failure := by
  cases resolution with
  | found entry =>
    cases hderived : entry.isDerived with
    | true =>
      simp only [source, failure, hderived]
      exact .derived rfl rfl
    | false =>
      simp only [source, failure, hderived]
      exact .traced
  | invalidAlias => exact .invalid rfl rfl
  | ambiguous => exact .ambiguous rfl
  | unresolved => exact .derived rfl rfl

/-- A remark says where a column stands. -/
def Remark.tellsPlace : Remark → Bool
  | .derivedExpression | .caseExpression => true
  | .whereClauseColumn | .groupByColumn | .havingClauseColumn => true
  | .joinOnClauseColumn | .joinSubqueryWhereColumn | .joinType _ => true
  | _ => false

/-- The remarks that a row of an expression or a clause has in front of a reason. -/
inductive Opening : List Remark → Prop
  | expression : Opening [.derivedExpression]
  | caseExpression : Opening [.derivedExpression, .caseExpression]
  | filter : Opening [.whereClauseColumn]
  | grouping : Opening [.groupByColumn]
  | having : Opening [.havingClauseColumn]
  | predicate (kind : JoinKind) : Opening [.joinOnClauseColumn, .joinType kind]
  | joinedFilter (kind : JoinKind) : Opening [.joinSubqueryWhereColumn, .joinType kind]

theorem Opening.tellsPlace {remarks : List Remark} (h : Opening remarks) :
    ∀ remark ∈ remarks, remark.tellsPlace := by
  cases h <;> simp [Remark.tellsPlace]

theorem RowSource.Explains.tellsFailure {source : RowSource} {remark : Remark}
    (h : source.Explains (some remark)) : remark.tellsFailure := by
  cases h <;> rfl

theorem Row.has_iff {row : Row} {remark : Remark} : row.has remark ↔ remark ∈ row.remarks := by
  rw [Row.has, List.contains_iff_mem]

section Rows

variable {tags : Tags}

/-- A remark that does not say where a column stands is the reason. -/
theorem Opening.reason_of_has {remarks : List Remark} (hremarks : Opening remarks) {row : Row}
    {failure : Option Remark} (hrow : row.remarks = remarks ++ failure.toList) {remark : Remark}
    (hplace : remark.tellsPlace = false) (hhas : row.has remark) : failure = some remark := by
  rw [Row.has_iff, hrow, List.mem_append, Option.mem_toList] at hhas
  rcases hhas with hopening | hfailed
  · rw [hremarks.tellsPlace remark hopening] at hplace
    exact Bool.noConfusion hplace
  · exact hfailed

/-- A row is coherent if it says where its column stands and gives a reason that its source fits. -/
theorem coherent_opening {remarks : List Remark} (hremarks : Opening remarks) {source : RowSource}
    {failure : Option Remark} (hfailure : source.Explains failure) (column label : String) :
    (⟨source, column, label, tags, remarks ++ failure.toList⟩ : Row).Coherent tags := by
  generalize hrow : (⟨source, column, label, tags, remarks ++ failure.toList⟩ : Row) = row
  have hsource : row.source = source := by rw [← hrow]
  have htold : row.remarks = remarks ++ failure.toList := by rw [← hrow]
  have hreason : ∀ remark, remark.tellsPlace = false → row.has remark → failure = some remark :=
    fun _ hplace => hremarks.reason_of_has htold hplace
  have hother : ∀ remark, remark.tellsPlace = false → remark.tellsFailure = false →
      ¬ row.has remark := by
    intro remark hplace htells hhas
    rw [hreason remark hplace hhas] at hfailure
    rw [hfailure.tellsFailure] at htells
    exact Bool.noConfusion htells
  constructor
  case tagged => rw [← hrow]
  case invalid =>
    intro h
    have hinvalid := hreason _ rfl h
    have hempty : source.database = "" ∧ source.table = "" := by
      rw [hinvalid] at hfailure
      cases hfailure
      constructor <;> assumption
    refine ⟨hsource ▸ hempty.1, hsource ▸ hempty.2, fun hderived => ?_, fun hambiguous => ?_⟩
    · simp [hreason _ rfl hderived] at hinvalid
    · simp [hreason _ rfl hambiguous] at hinvalid
  case ambiguous =>
    intro h
    have hambiguous := hreason _ rfl h
    have hempty : source = {} := by
      rw [hambiguous] at hfailure
      cases hfailure
      assumption
    refine ⟨hsource.trans hempty, fun hderived => ?_⟩
    simp [hreason _ rfl hderived] at hambiguous
  case derived =>
    intro h _
    rw [hreason _ rfl h] at hfailure
    rw [hsource]
    cases hfailure
    constructor <;> assumption
  case withDatabase => exact fun h => absurd h (hother _ rfl rfl)
  case withoutDatabase => exact fun h => absurd h (hother _ rfl rfl)
  case functionExpression => exact fun h => absurd h (hother _ rfl rfl)
  case read => exact hother _ rfl rfl
  -- What is left looks at the remarks alone.
  case remarked =>
    rw [htold]
    cases hremarks <;> simp
  case nodup =>
    rw [htold]
    cases hremarks <;> cases hfailure <;> simp
  case joined =>
    simp only [Row.has_iff, htold]
    cases hremarks <;> cases hfailure <;> simp
  case oneJoin =>
    rw [htold]
    cases hremarks <;> cases hfailure <;> simp [Remark.namesJoin, List.countP_cons]
  case caseExpression =>
    simp only [Row.has_iff, htold]
    cases hremarks <;> cases hfailure <;> simp

/-- A row of a column is coherent if its only remark is the reason that its source fits, or else
says whether there is a database. -/
theorem coherent_reason {source : RowSource} {failure : Option Remark}
    (hfailure : source.Explains failure) (column label : String) :
    (⟨source, column, label, tags, [failure.getD
      (if source.database.isEmpty then .databaseNotSpecifiedInQuery
        else .columnSelectedWithDatabase)]⟩ : Row).Coherent tags := by
  cases hfailure with
  | traced =>
    by_cases hdatabase : source.database = ""
    · constructor <;> simp [hdatabase, Row.has, Remark.namesJoin]
    · constructor <;> simp [hdatabase, Row.has, Remark.namesJoin]
  | invalid database table => constructor <;> simp [database, table, Row.has, Remark.namesJoin]
  | ambiguous nothing => constructor <;> simp [nothing, Row.has, Remark.namesJoin]
  | derived database tableAlias =>
    constructor <;> simp [database, tableAlias, Row.has, Remark.namesJoin]

/-- The row of a column of a select list. -/
theorem coherent_columnRow (scopes : Scopes) (enclosing : Option String) (label : String)
    (ref : ColumnRef) : (columnRow tags scopes enclosing label ref).Coherent tags :=
  coherent_reason (Resolution.explains_failure _ _) _ _

/-- The row of a column that an expression of a select list reads. -/
theorem coherent_derivedRow (scopes : Scopes) (enclosing : Option String) (label : String)
    {remarks : List Remark} (hremarks : Opening remarks) (ref : ColumnRef) :
    (derivedRow tags scopes enclosing label remarks ref).Coherent tags :=
  coherent_opening hremarks (Resolution.explains_failure _ _) _ _

/-- The row of a call that reads no columns. -/
theorem coherent_functionRow (text label : String) :
    (⟨{}, text, label, tags, [.derivedExpression, .functionExpression]⟩ : Row).Coherent tags := by
  constructor <;> simp [Row.has, Remark.namesJoin]

/-- The row of a whole dataset. -/
theorem coherent_datasetRow (label : String) (base : Option TableKey) :
    (datasetRow tags label base).Coherent tags := by
  constructor <;> simp [datasetRow, Row.has, Remark.namesJoin]

/-- The row of a star whose qualifier names something, or that has none: the remark on the database
is there if and only if there is no database. -/
theorem coherent_foundStar (source : RowSource) (derived : Bool) :
    (⟨source, "*", "", tags, .allColumnsSelected ::
      ((if source.database.isEmpty then [.databaseNotSpecifiedInQuery] else []) ++
        (if derived then [.tableNameDerived] else []))⟩ : Row).Coherent tags := by
  by_cases hdatabase : source.database = ""
  · cases derived <;> constructor <;> simp [hdatabase, Row.has, Remark.namesJoin]
  · cases derived <;> constructor <;> simp [hdatabase, Row.has, Remark.namesJoin]

/-- The row of a star. -/
theorem coherent_starRow (scopes : Scopes) (enclosing qualifier : Option String) :
    (starRow tags scopes enclosing qualifier).Coherent tags := by
  unfold starRow
  cases scopes.resolve qualifier none with
  | invalidAlias => constructor <;> simp [Row.has, Remark.namesJoin]
  | found entry => exact coherent_foundStar _ _
  | ambiguous => exact coherent_foundStar _ _
  | unresolved => exact coherent_foundStar _ _

/-- The rows of an item of a select list. -/
theorem coherent_of_mem_projectionRows {scopes : Scopes} {enclosing : Option String}
    {item : ClassifiedItem} {row : Row} (h : row ∈ projectionRows tags scopes enclosing item) :
    row.Coherent tags := by
  unfold projectionRows at h
  cases hprojection : item.projection with
  | star qualifier =>
    rw [hprojection] at h
    rw [List.mem_singleton.mp h]
    exact coherent_starRow scopes enclosing qualifier
  | column ref =>
    rw [hprojection] at h
    rw [List.mem_singleton.mp h]
    exact coherent_columnRow scopes enclosing _ ref
  | case refs =>
    rw [hprojection] at h
    obtain ⟨ref, -, rfl⟩ := List.mem_map.mp h
    exact coherent_derivedRow scopes enclosing _ .caseExpression ref
  | derived refs =>
    rw [hprojection] at h
    obtain ⟨ref, -, rfl⟩ := List.mem_map.mp h
    exact coherent_derivedRow scopes enclosing _ .expression ref
  | functionOnly text =>
    rw [hprojection] at h
    rw [List.mem_singleton.mp h]
    exact coherent_functionRow text _
  | literal => simp [hprojection] at h

/-- The row of a column of a clause, whether its source is given or resolved. -/
theorem coherent_clauseRow (scopes : Scopes) (fallback : Option String) {remarks : List Remark}
    (hremarks : Opening remarks) (given : Option RowSource) (ref : ColumnRef) :
    (clauseRow tags scopes fallback remarks given ref).Coherent tags := by
  have hresolved : Row.Coherent tags
      ⟨(scopes.resolve ref.qualifier fallback).source ref.qualifier, ref.column, "", tags,
        remarks ++ (scopes.resolve ref.qualifier fallback).failure.toList⟩ :=
    coherent_opening hremarks (Resolution.explains_failure _ _) ref.column ""
  unfold clauseRow
  cases given with
  | none => exact hresolved
  | some source =>
    have hgiven : Row.Coherent tags
        ⟨source, ref.column, "", tags, remarks ++ (none : Option Remark).toList⟩ :=
      coherent_opening hremarks .traced ref.column ""
    by_cases htable : source.table.isEmpty
    · simpa [htable] using hresolved
    · simpa [htable] using hgiven

theorem opening_of_mem_selectClauses {select : Select} {clause : Remark × Expr}
    (h : clause ∈ selectClauses select) : Opening [clause.1] := by
  simp only [selectClauses, List.mem_append, List.mem_map] at h
  rcases h with (⟨_, -, rfl⟩ | ⟨_, -, rfl⟩) | ⟨_, -, rfl⟩
  · exact .filter
  · exact .grouping
  · exact .having

/-- The rows of the restriction of a join. -/
theorem coherent_of_mem_constraintRows {scopes : Scopes} {kind : JoinKind}
    {left right : Option String} {constraint : JoinConstraint} {row : Row}
    (h : row ∈ constraintRows tags scopes kind left right constraint) : row.Coherent tags := by
  cases constraint with
  | on predicate =>
    obtain ⟨ref, -, rfl⟩ := List.mem_map.mp h
    exact coherent_clauseRow scopes right (.predicate kind) none ref
  | «using» names =>
    obtain ⟨name, -, hside⟩ := List.mem_flatMap.mp h
    obtain ⟨partner, -, rfl⟩ := List.mem_map.mp hside
    exact coherent_clauseRow scopes partner (.predicate kind) none _
  | natural => simp [constraintRows] at h
  | none => simp [constraintRows] at h

/-- The rows of the filter of a joined subquery. -/
theorem coherent_of_mem_joinedFilterRows {c : CteCatalog} {scopes : Scopes} {kind : JoinKind}
    {relation : Source} {row : Row} (h : row ∈ joinedFilterRows tags c scopes kind relation) :
    row.Coherent tags := by
  unfold joinedFilterRows at h
  split at h
  · split at h
    · simp at h
    · obtain ⟨ref, -, rfl⟩ := List.mem_map.mp h
      exact coherent_clauseRow scopes _ (.joinedFilter kind) _ ref
  · simp at h

/-- The rows of a join. -/
theorem coherent_of_mem_joinRows {c : CteCatalog} {scopes : Scopes} {left : Option String}
    {join : Join} {row : Row} (h : row ∈ joinRows tags c scopes left join) : row.Coherent tags := by
  rcases List.mem_append.mp h with h | h
  · exact coherent_of_mem_constraintRows h
  · exact coherent_of_mem_joinedFilterRows h

end Rows

variable {tags : Tags} {maxDepth : Nat}

/-- Every row of a statement is coherent. -/
theorem coherent_of_mem_statementRows {s : Statement} {row : Row}
    (h : row ∈ statementRows tags maxDepth s) : row.Coherent tags := by
  rcases mem_statementRows.mp h with ⟨q, -, hrow⟩ | ⟨site, -, hrow⟩
  · obtain ⟨⟨query, label⟩, -, rfl⟩ := List.mem_map.mp hrow
    exact coherent_datasetRow label _
  · rcases SelectSite.mem_rowsIn.mp hrow with ⟨item, -, h⟩ | ⟨-, clause, hclause, h⟩ | ⟨link, -, h⟩
    · exact coherent_of_mem_projectionRows h
    · obtain ⟨ref, -, rfl⟩ := List.mem_map.mp h
      exact coherent_clauseRow _ _ (opening_of_mem_selectClauses hclause) none ref
    · exact coherent_of_mem_joinRows h

/-- An output holds the rows of its statements as they are, without placeholders. -/
theorem mem_output {statements : List Statement} {row : Row} :
    row ∈ deduplicate (statements.flatMap (statementRows tags maxDepth)) ↔
      (∃ s ∈ statements, row ∈ statementRows tags maxDepth s) ∧ row.isPlaceholderStar = false := by
  rw [mem_deduplicate]
  constructor
  · rintro ⟨raw, hraw, rfl, hplain⟩
    obtain ⟨s, hs, hrow⟩ := List.mem_flatMap.mp hraw
    rw [Row.normalized_eq_self (coherent_of_mem_statementRows hrow).nodup] at hplain ⊢
    exact ⟨⟨s, hs, hrow⟩, hplain⟩
  · rintro ⟨⟨s, hs, hrow⟩, hplain⟩
    exact ⟨row, List.mem_flatMap.mpr ⟨s, hs, hrow⟩,
      Row.normalized_eq_self (coherent_of_mem_statementRows hrow).nodup, hplain⟩

section Texts

variable {o : Options} {text : String} {statements : List Statement}

/-- A text that can be read has the rows of its statements. -/
theorem extract_of_readStatements (h : readStatements o text = .ok statements) (tags : Tags) :
    extract o text tags = deduplicate (statements.flatMap (statementRows tags o.maxDepth)) := by
  simp [extract, h]

/-- A row of a text that can be read is coherent, and no placeholder. -/
theorem coherent_of_mem_extract (h : readStatements o text = .ok statements) {row : Row}
    (hrow : row ∈ extract o text tags) : row.Coherent tags ∧ row.isPlaceholderStar = false := by
  rw [extract_of_readStatements h] at hrow
  obtain ⟨⟨s, -, hraw⟩, hplain⟩ := mem_output.mp hrow
  exact ⟨coherent_of_mem_statementRows hraw, hplain⟩

end Texts

/-- Where a text can be read, its rows are coherent and no placeholders, and each is there once. -/
theorem coherent_extract (o : Options) (text : String) (tags : Tags) {statements : List Statement}
    (h : readStatements o text = .ok statements) :
    (∀ row ∈ extract o text tags, row.Coherent tags ∧ row.isPlaceholderStar = false) ∧
      (extract o text tags).Nodup := by
  refine ⟨fun row hrow => coherent_of_mem_extract h hrow, ?_⟩
  rw [extract_of_readStatements h]
  exact nodup_deduplicate _

theorem exists_statements {o : Options} {text : String}
    (h : (readStatements o text).toOption.isSome) :
    ∃ statements, readStatements o text = .ok statements := by
  cases hread : readStatements o text with
  | ok statements => exact ⟨statements, rfl⟩
  | error failure => simp [hread, Except.toOption] at h

/-- The rows of a star, of a call and of a join are coherent. -/
theorem coherent_extract_join :
    ∃ statements, readStatements {} "SELECT *, NOW() FROM t JOIN u ON y = z" = .ok statements ∧
      (∀ row ∈ extract {} "SELECT *, NOW() FROM t JOIN u ON y = z" ⟨"", "", "v"⟩,
        row.Coherent ⟨"", "", "v"⟩ ∧ row.isPlaceholderStar = false) ∧
      (extract {} "SELECT *, NOW() FROM t JOIN u ON y = z" ⟨"", "", "v"⟩).Nodup := by
  have hsome : (readStatements {} "SELECT *, NOW() FROM t JOIN u ON y = z").toOption.isSome := by
    decide +kernel
  obtain ⟨statements, hread⟩ := exists_statements hsome
  exact ⟨statements, hread, coherent_extract {} _ ⟨"", "", "v"⟩ hread⟩

end ColumnLineage.Lineage
