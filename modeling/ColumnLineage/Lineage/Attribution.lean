import ColumnLineage.Lineage.Projection
import ColumnLineage.Lineage.Resolution
import ColumnLineage.Lineage.Row

/-!
# Attribution

A reference that is resolved becomes a row: the resolution says where the column comes from, or why
that is not known.

## Main definitions

* `Resolution.source`, `Resolution.failure`: where a column comes from, and why that is not known.
* `projectionRows`: the rows of an item of a select list.
* `clauseRows`: the rows of a filter or a grouping.
* `joinRows`: the rows of a join.
-/

namespace ColumnLineage.Lineage

open Sql

/-- The table name of a star whose subquery has no single table behind it. -/
def derivedPlaceholder : String := "__DERIVED__"

/-- Where the columns of an entry come from. -/
def ScopeEntry.source (entry : ScopeEntry) : RowSource :=
  ⟨entry.database, entry.table, entry.label⟩

namespace Resolution

/-- Where a column comes from, given its qualifier. -/
def source (qualifier : Option String) : Resolution → RowSource
  | found entry => if entry.isDerived then { table := entry.label } else entry.source
  | invalidAlias => { tableAlias := qualifier.getD "" }
  | ambiguous | unresolved => {}

/-- Why it is not known where a column comes from. -/
def failure : Resolution → Option Remark
  | found entry => if entry.isDerived then some .tableNameDerived else none
  | invalidAlias => some .invalidTableAlias
  | ambiguous => some .tableNameAmbiguous
  | unresolved => some .tableNameDerived

end Resolution

/-- The resolution of a column of a select list: where nothing is in scope, the alias of the
enclosing subquery is tried. -/
def projectionResolution (scopes : Scopes) (enclosing : Option String) (ref : ColumnRef) :
    Resolution :=
  match scopes.resolve ref.qualifier none with
  | .unresolved =>
    match enclosing.bind scopes.lookup with
    | some entry => .found entry
    | none => .unresolved
  | resolution => resolution

/-- The row of a column of a select list. -/
def columnRow (tags : Tags) (scopes : Scopes) (enclosing : Option String) (label : String)
    (ref : ColumnRef) : Row :=
  let resolution := projectionResolution scopes enclosing ref
  let source := resolution.source ref.qualifier
  let plain : Remark :=
    if source.database.isEmpty then .databaseNotSpecifiedInQuery else .columnSelectedWithDatabase
  ⟨source, ref.column, label, tags, [resolution.failure.getD plain]⟩

/-- The row of a column that an expression of a select list reads. -/
def derivedRow (tags : Tags) (scopes : Scopes) (enclosing : Option String) (label : String)
    (remarks : List Remark) (ref : ColumnRef) : Row :=
  let resolution := projectionResolution scopes enclosing ref
  ⟨resolution.source ref.qualifier, ref.column, label, tags, remarks ++ resolution.failure.toList⟩

/-- Where the columns of a star come from when it stands in a subquery: the alias of the subquery
fills the alias, and the table behind that alias fills the table and the database.  The flag tells
whether there is no single table. -/
def enclosedSource (scopes : Scopes) (enclosing : String) (source : RowSource) (derived : Bool) :
    RowSource × Bool :=
  let source :=
    if source.tableAlias.isEmpty then { source with tableAlias := enclosing } else source
  if !source.table.isEmpty then (source, derived)
  else
    match (scopes.outer.get? enclosing).bind (·.base) with
    | some key =>
      let database := if source.database.isEmpty then key.database else source.database
      ({ source with table := key.table, database }, derived)
    | none => ({ source with table := derivedPlaceholder }, true)

/-- The row of a star. -/
def starRow (tags : Tags) (scopes : Scopes) (enclosing qualifier : Option String) : Row :=
  match scopes.resolve qualifier none with
  | .invalidAlias =>
    ⟨{ tableAlias := qualifier.getD "" }, "*", "", tags,
      [.allColumnsSelected, .databaseNotSpecifiedInQuery, .invalidTableAlias]⟩
  | resolution =>
    let found : RowSource × Bool := match resolution with
      | .found entry => (entry.source, entry.isDerived)
      | _ => ({}, false)
    let (source, derived) := match enclosing with
      | some enclosing => enclosedSource scopes enclosing found.1 found.2
      | none => found
    ⟨source, "*", "", tags,
      .allColumnsSelected ::
        ((if source.database.isEmpty then [.databaseNotSpecifiedInQuery] else []) ++
          (if derived then [.tableNameDerived] else []))⟩

/-- The rows of an item of a select list. -/
def projectionRows (tags : Tags) (scopes : Scopes) (enclosing : Option String)
    (item : ClassifiedItem) : List Row :=
  let label := item.label.getD ""
  match item.projection with
  | .star qualifier => [starRow tags scopes enclosing qualifier]
  | .column ref => [columnRow tags scopes enclosing label ref]
  | .case refs => refs.map (derivedRow tags scopes enclosing label [.derivedExpression, .caseExpression])
  | .derived refs => refs.map (derivedRow tags scopes enclosing label [.derivedExpression])
  | .functionOnly text => [⟨{}, text, label, tags, [.derivedExpression, .functionExpression]⟩]
  | .literal => []

/-- The row of a column of a clause.  A source that is given with a table wins; else the reference
is resolved, with the name `fallback` tried first where it has no qualifier. -/
def clauseRow (tags : Tags) (scopes : Scopes) (fallback : Option String) (remarks : List Remark)
    (given : Option RowSource) (ref : ColumnRef) : Row :=
  let resolved :=
    let resolution := scopes.resolve ref.qualifier fallback
    ⟨resolution.source ref.qualifier, ref.column, "", tags, remarks ++ resolution.failure.toList⟩
  match given with
  | some source => if source.table.isEmpty then resolved else ⟨source, ref.column, "", tags, remarks⟩
  | none => resolved

/-- The rows of the columns that a clause reads. -/
def clauseRows (tags : Tags) (scopes : Scopes) (fallback : Option String) (remark : Remark)
    (e : Expr) : List Row :=
  (columnRefs e).map (clauseRow tags scopes fallback [remark] none)

/-- The name a joined source goes by: its alias, else the name of its table. -/
def sourceName : Source → Option String
  | .table name _ label _ => (aliasName label).or name.values.getLast?
  | .derived _ _ label _ => aliasName label
  | _ => none

/-- The kind of a join as remarks tell it; operators without a kind of their own count as inner. -/
def joinKind : JoinOperator → JoinKind
  | .join | .inner | .straight | .asOf | .crossApply | .outerApply => .inner
  | .left | .leftOuter => .left
  | .right | .rightOuter => .right
  | .full => .full
  | .cross => .cross
  | .semi | .leftSemi | .rightSemi => .semi
  | .anti | .leftAnti | .rightAnti => .anti

/-- The restriction of a join counts for lineage. -/
def isTraced : JoinOperator → Bool
  | .straight | .asOf | .crossApply | .outerApply => false
  | _ => true

/-- The restriction of a join, as far as it counts for lineage. -/
def tracedConstraint : Join → JoinConstraint
  | ⟨_, _, operator, _, constraint⟩ => if isTraced operator then constraint else .none

mutual

/-- The first SELECT of a query, on the left side of set operators. -/
def firstSelect : Query → Option Select
  | ⟨_, _, body, _⟩ => firstSelectOf body

/-- The first SELECT of a body. -/
def firstSelectOf : Body → Option Select
  | .select s => some s
  | .query q => firstSelect q
  | .combined left _ _ => firstSelectOf left
  | .other .. => none

end

/-- The rows of the restriction of a join: those of its predicate fall to the joined source, those
of its named columns to both sides. -/
def constraintRows (tags : Tags) (scopes : Scopes) (kind : JoinKind) (left right : Option String) :
    JoinConstraint → List Row
  | .on predicate =>
    (columnRefs predicate ++ equalityOperands predicate).map
      (clauseRow tags scopes right [.joinOnClauseColumn, .joinType kind] none)
  | .using names _ =>
    names.flatMap fun name =>
      [left, right].map fun partner =>
        clauseRow tags scopes partner [.joinOnClauseColumn, .joinType kind] none
          (.simple (name.values.getLastD ""))
  | .natural | .none => []

/-- The rows of the filter of a joined subquery. -/
def joinedFilterRows (tags : Tags) (c : CteCatalog) (scopes : Scopes) (kind : JoinKind) :
    Source → List Row
  | .derived _ query (some label) _ =>
    match (firstSelect query).bind (·.filter) with
    | none => []
    | some filter =>
      let name := label.name.value
      let given := (c.singleBase query).map fun key => RowSource.mk key.database key.table name
      (columnRefs filter).map
        (clauseRow tags scopes (some name) [.joinSubqueryWhereColumn, .joinType kind] given)
  | _ => []

/-- The rows of a join; `left` is the name of the source in front of it. -/
def joinRows (tags : Tags) (c : CteCatalog) (scopes : Scopes) (left : Option String)
    (join : Join) : List Row :=
  let kind := joinKind join.operator
  constraintRows tags scopes kind left (sourceName join.relation) (tracedConstraint join) ++
    joinedFilterRows tags c scopes kind join.relation

/-- The row of a whole dataset, as `SELECT *` from a subquery with an alias has it. -/
def datasetRow (tags : Tags) (label : String) (base : Option TableKey) : Row :=
  let source : RowSource := match base with
    | some key => ⟨key.database, key.table, label⟩
    | none => { table := label }
  ⟨source, "*", "", tags, [.allColumnsSelected, .tableNameDerived]⟩

end ColumnLineage.Lineage
