import ColumnLineage.Proofs.Coherence
import ColumnLineage.Proofs.RenamedScopes

/-!
# Renaming a statement renames its rows

No name is treated in a way of its own: where the names of a statement are replaced by others, one
for each, its rows are the same rows in the same order with their names replaced.

## Main definitions

* `Row.rename`: a row with its names replaced.
* `Renamable`: a statement in which names are not read off texts.

## Main statements

* `Renames.projectionRows`, `Renames.clauseRow`, `Renames.joinRows`: the rows of a renamed SELECT.
* `Renames.statementRows`: the rows of a renamed statement.
* `deduplicate_rename`: the output for renamed statements.

## Design notes

The column of a call without columns is its text.  Renaming leaves the text as it is, since a text
without queries and columns holds no names of those that are renamed.
-/

namespace ColumnLineage.Lineage

open Sql

section Definitions

variable (f : String → String)

def RowSource.rename (source : RowSource) : RowSource :=
  ⟨f source.database, f source.table, f source.tableAlias⟩

/-- A row with its names replaced; the column of a call is a text and no name. -/
def Row.rename (row : Row) : Row where
  source := row.source.rename f
  column := if row.has .functionExpression then row.column else f row.column
  columnAlias := f row.columnAlias
  tags := row.tags
  remarks := row.remarks

theorem Row.rename_mk {remarks : List Remark} (h : .functionExpression ∉ remarks)
    (source : RowSource) (column label : String) (tags : Tags) :
    Row.rename f ⟨source, column, label, tags, remarks⟩ =
      ⟨source.rename f, f column, f label, tags, remarks⟩ := by
  simp [Row.rename, Row.has, h]

def Projection.rename : Projection → Projection
  | .star qualifier => .star (qualifier.map f)
  | .column ref => .column (ref.rename f)
  | .case refs => .case (refs.map (ColumnRef.rename f))
  | .derived refs => .derived (refs.map (ColumnRef.rename f))
  | .functionOnly text => .functionOnly text
  | .literal => .literal

end Definitions

/-- In an item of a select list no names are read off a text: it is no star behind an expression,
and where it is a call that reads no columns, no query is met in it, but expressions alone.  By the
grammar an expression names tables nowhere but in its queries. -/
structure ReadsNoTexts (item : SelectItem) : Prop where
  noExprStar : ∀ e options, item ≠ .exprStar e options
  plainCalls : ∀ e, selectExprs.itemExpr? item = some e → columnRefs e = [] →
    isFunctionLike (unwrapped e) → ∀ v ∈ e.visits, ∃ inner, v = .expr inner

/-- In no select list of a statement names are read off a text. -/
def Renamable (s : Statement) : Prop :=
  ∀ select, Stands s.visits select → ∀ item ∈ select.items, ReadsNoTexts item

section Check

/-- A step meets an expression. -/
def meetsExpr : Visit → Bool
  | .expr _ => true
  | _ => false

/-- No names are read off a text in an expression of a select list. -/
def exprReadsNoTexts (e : Expr) : Bool :=
  !(columnRefs e).isEmpty || !isFunctionLike (unwrapped e) || e.visits.all meetsExpr

theorem exprReadsNoTexts_iff (e : Expr) :
    exprReadsNoTexts e ↔
      (columnRefs e = [] → isFunctionLike (unwrapped e) →
        ∀ v ∈ e.visits, ∃ inner, v = .expr inner) := by
  have hmeets : e.visits.all meetsExpr ↔ ∀ v ∈ e.visits, ∃ inner, v = .expr inner := by
    rw [List.all_eq_true]
    refine forall₂_congr fun v _ => ?_
    cases v <;> simp [meetsExpr]
  rw [← hmeets, exprReadsNoTexts]
  cases columnRefs e <;> cases isFunctionLike (unwrapped e) <;> simp

/-- No names are read off a text in an item. -/
def readsNoTexts : SelectItem → Bool
  | .exprStar .. => false
  | .expr e => exprReadsNoTexts e
  | .aliased e _ => exprReadsNoTexts e
  | .star _ => true
  | .qualifiedStar .. => true

theorem ReadsNoTexts.of_check {item : SelectItem} (h : readsNoTexts item) : ReadsNoTexts item := by
  constructor
  · rintro e options rfl
    exact Bool.false_ne_true h
  · intro e he
    cases item with
    | expr other =>
      obtain rfl := Option.some.inj he
      exact (exprReadsNoTexts_iff other).mp h
    | aliased other label =>
      obtain rfl := Option.some.inj he
      exact (exprReadsNoTexts_iff other).mp h
    | _ => exact absurd he (Option.some_ne_none e).symm

/-- Where the items pass that stand in the visits of a statement, the statement is renamable. -/
theorem Renamable.of_all {s : Statement}
    (h : s.visits.all fun
      | .enter q => q.branches.all fun select => select.items.all readsNoTexts
      | _ => true) : Renamable s := by
  rw [List.all_eq_true] at h
  rintro select ⟨q, hq, hbranch⟩ item hitem
  have hitems := List.all_eq_true.mp (List.all_eq_true.mp (h _ hq) select hbranch)
  exact .of_check (hitems item hitem)

end Check

section Items

variable (f : String → String)

theorem meetsNoNames_of_exprs {visits : List Visit}
    (hexprs : ∀ v ∈ visits, ∃ inner, v = .expr inner)
    (hnone : outerColumns 0 visits = []) : MeetsNoNames visits := by
  induction visits with
  | nil => exact fun v hv => by simp at hv
  | cons first more ih =>
    obtain ⟨e, rfl⟩ := hexprs first List.mem_cons_self
    simp only [outerColumns, if_true, List.append_eq_nil_iff] at hnone
    have hfirst : ColumnRef.ofExpr e = none := by
      cases href : ColumnRef.ofExpr e with
      | none => rfl
      | some ref => simp [href] at hnone
    intro v hv
    rcases List.mem_cons.mp hv with rfl | hv
    · exact ⟨e, rfl, hfirst⟩
    · exact ih (fun v hv => hexprs v (List.mem_cons_of_mem _ hv)) hnone.2 v hv

theorem ReadsNoTexts.meetsNoNames {item : SelectItem} (h : ReadsNoTexts item) {e : Expr}
    (he : selectExprs.itemExpr? item = some e) (hrefs : columnRefs e = [])
    (hlike : isFunctionLike (unwrapped e)) : MeetsNoNames e.visits :=
  meetsNoNames_of_exprs (h.plainCalls e he hrefs hlike) hrefs

/-- What a renamed expression gives out; a call without columns is to hold no names. -/
theorem Projection.ofExpr_rename {e : Expr}
    (hcall : columnRefs e = [] → isFunctionLike (unwrapped e) → MeetsNoNames e.visits) :
    ofExpr (e.rename f) = (ofExpr e).rename f := by
  unfold ofExpr
  simp only [unwrapped_rename, ColumnRef.ofExpr_rename, columnRefs_rename, isFunctionLike_rename,
    isCase_rename]
  cases hcolumn : ColumnRef.ofExpr (unwrapped e) with
  | some ref => rfl
  | none =>
    cases hrefs : columnRefs (unwrapped e) with
    | cons ref more =>
      simp only [Option.map_none, List.map_cons]
      split <;> rfl
    | nil =>
      simp only [Option.map_none, List.map_nil]
      split
      -- The column is the text of the call, in which no name stands that could be replaced.
      · next hlike =>
        have hnames := hcall ((columnRefs_unwrapped e).symm.trans hrefs) hlike
        rw [Expr.rename_eq_self f _ (hnames.mono (unwrapped_visits_subset e))]
        rfl
      · rfl

variable {f}

theorem Renames.starOf (hf : Renames f) (qualifier : String) :
    Projection.starOf (f qualifier) = (Projection.starOf qualifier).rename f := by
  unfold Projection.starOf
  rw [hf.isEmpty]
  split <;> rfl

/-- The classification of a renamed item of a select list. -/
theorem Renames.ofItem (hf : Renames f) {item : SelectItem} (hitem : ReadsNoTexts item) :
    ClassifiedItem.ofItem (item.rename f) =
      ⟨(ClassifiedItem.ofItem item).projection.rename f,
        (ClassifiedItem.ofItem item).label.map f⟩ := by
  cases item with
  | star options => rfl
  | qualifiedStar name options =>
    simp only [SelectItem.rename, ClassifiedItem.ofItem, ObjectName.values_rename, hf.getLastD,
      hf.starOf]
    rfl
  | exprStar e options => exact absurd rfl (hitem.noExprStar e options)
  | expr e =>
    have hprojection := Projection.ofExpr_rename f (hitem.meetsNoNames (e := e) rfl)
    simp only [SelectItem.rename, ClassifiedItem.ofItem, hprojection]
    rfl
  | aliased e label =>
    have hprojection := Projection.ofExpr_rename f (hitem.meetsNoNames (e := e) rfl)
    simp only [SelectItem.rename, ClassifiedItem.ofItem, hprojection]
    rfl

end Items

namespace Renames

variable {f : String → String} (hf : Renames f)

include hf

section Rows

theorem source_empty : RowSource.rename f {} = {} := by
  simp [RowSource.rename, hf.empty]

theorem entry_source (entry : ScopeEntry) : (entry.rename f).source = entry.source.rename f := by
  obtain ⟨kind, base, label⟩ := entry
  cases base with
  | some key => rfl
  | none =>
    simp [ScopeEntry.rename, ScopeEntry.source, ScopeEntry.database, ScopeEntry.table,
      RowSource.rename, hf.empty]

theorem resolution_source (qualifier : Option String) (resolution : Resolution) :
    (resolution.rename f).source (qualifier.map f) = (resolution.source qualifier).rename f := by
  cases resolution with
  | found entry =>
    simp only [Resolution.rename, Resolution.source, ScopeEntry.isDerived_rename, hf.entry_source]
    split
    · simp [RowSource.rename, ScopeEntry.rename, hf.empty]
    · rfl
  | invalidAlias =>
    simp [Resolution.rename, Resolution.source, RowSource.rename, hf.empty, hf.getD_empty]
  | ambiguous => exact hf.source_empty.symm
  | unresolved => exact hf.source_empty.symm

omit hf in
theorem resolution_failure (resolution : Resolution) :
    (resolution.rename f).failure = resolution.failure := by
  cases resolution with
  | found entry =>
    simp only [Resolution.rename, Resolution.failure, ScopeEntry.isDerived_rename]
  | _ => rfl

omit hf in
theorem functionExpression_not_mem_failure (resolution : Resolution) :
    .functionExpression ∉ resolution.failure.toList := by
  rw [Option.mem_toList]
  intro h
  -- A call is none of the reasons that a source can fit.
  have htells := Resolution.explains_failure none resolution
  rw [h] at htells
  cases htells

variable (tags : Tags) (scopes : Scopes) (enclosing : Option String)

theorem projectionResolution (ref : ColumnRef) :
    projectionResolution (scopes.rename f) (enclosing.map f) (ref.rename f) =
      (projectionResolution scopes enclosing ref).rename f := by
  have hresolve : (scopes.rename f).resolve (ref.rename f).qualifier none =
      (scopes.resolve ref.qualifier none).rename f := hf.resolve scopes ref.qualifier none
  unfold Lineage.projectionResolution
  rw [hresolve, hf.bind_lookup]
  cases scopes.resolve ref.qualifier none with
  -- Only here the alias of the enclosing subquery is looked up.
  | unresolved => cases enclosing.bind scopes.lookup <;> rfl
  | _ => rfl

omit scopes enclosing in
/-- The row of a reference with the reason of its failure behind other remarks. -/
theorem resolvedRow (resolution : Resolution) (qualifier : Option String) (column label : String)
    {remarks : List Remark} (hremarks : .functionExpression ∉ remarks) :
    ⟨(resolution.rename f).source (qualifier.map f), f column, f label, tags,
        remarks ++ (resolution.rename f).failure.toList⟩ =
      Row.rename f ⟨resolution.source qualifier, column, label, tags,
        remarks ++ resolution.failure.toList⟩ := by
  have hnone : .functionExpression ∉ remarks ++ resolution.failure.toList := by
    rw [List.mem_append]
    exact not_or.mpr ⟨hremarks, functionExpression_not_mem_failure resolution⟩
  rw [Row.rename_mk f hnone, hf.resolution_source, resolution_failure]

theorem columnRow (label : String) (ref : ColumnRef) :
    columnRow tags (scopes.rename f) (enclosing.map f) (f label) (ref.rename f) =
      (columnRow tags scopes enclosing label ref).rename f := by
  unfold Lineage.columnRow
  rw [hf.projectionResolution]
  generalize Lineage.projectionResolution scopes enclosing ref = resolution
  have hsource : (resolution.rename f).source (ref.rename f).qualifier =
      (resolution.source ref.qualifier).rename f := hf.resolution_source ref.qualifier resolution
  have hdatabase : ((resolution.source ref.qualifier).rename f).database.isEmpty =
      (resolution.source ref.qualifier).database.isEmpty := hf.isEmpty _
  simp only [hsource, hdatabase, resolution_failure]
  -- The only remark is a reason, or else it tells of a database: the column is a name.
  refine (Row.rename_mk f ?_ _ _ _ _).symm
  have hfailure := functionExpression_not_mem_failure resolution
  rw [List.mem_singleton]
  cases hreason : resolution.failure with
  | some reason =>
    rw [hreason] at hfailure
    simpa using hfailure
  | none => split <;> simp

theorem derivedRow (label : String) {remarks : List Remark}
    (hremarks : .functionExpression ∉ remarks) (ref : ColumnRef) :
    derivedRow tags (scopes.rename f) (enclosing.map f) (f label) remarks (ref.rename f) =
      (derivedRow tags scopes enclosing label remarks ref).rename f := by
  unfold Lineage.derivedRow
  rw [hf.projectionResolution]
  exact hf.resolvedRow tags _ ref.qualifier ref.column label hremarks

omit hf enclosing in
theorem enclosedSource_mk (label database table tableAlias : String) (derived : Bool) :
    Lineage.enclosedSource scopes label ⟨database, table, tableAlias⟩ derived =
      let filled := if tableAlias.isEmpty then label else tableAlias
      if table.isEmpty then
        match (scopes.outer.get? label).bind (·.base) with
        | some key =>
          (⟨if database.isEmpty then key.database else database, key.table, filled⟩, derived)
        | none => (⟨database, derivedPlaceholder, filled⟩, true)
      else (⟨database, table, filled⟩, derived) := by
  unfold Lineage.enclosedSource
  by_cases halias : tableAlias.isEmpty <;> by_cases htable : table.isEmpty <;>
    cases (scopes.outer.get? label).bind (·.base) <;> simp [halias, htable]

/-- Where the columns of a star in a subquery come from. -/
theorem enclosedSource (label : String) (source : RowSource) (derived : Bool) :
    enclosedSource (scopes.rename f) (f label) (source.rename f) derived =
      Prod.map (RowSource.rename f) id (enclosedSource scopes label source derived) := by
  obtain ⟨database, table, tableAlias⟩ := source
  have hbase : ((scopes.rename f).outer.get? (f label)).bind (·.base) =
      ((scopes.outer.get? label).bind (·.base)).map (TableKey.rename f) := by
    have hget : (scopes.rename f).outer.get? (f label) =
        (scopes.outer.get? label).map (ScopeEntry.rename f) := hf.get? scopes.outer label
    rw [hget]
    cases scopes.outer.get? label <;> rfl
  simp only [RowSource.rename, enclosedSource_mk, hf.isEmpty, hbase, ← apply_ite f]
  split
  · cases (scopes.outer.get? label).bind (·.base) with
    | some key => simp [RowSource.rename, TableKey.rename, apply_ite f]
    | none => simp [RowSource.rename, hf.placeholder]
  · rfl

omit scopes enclosing in
/-- The row of a star with a source and the remarks on it. -/
theorem foundStar (source : RowSource) (derived : Bool) :
    ⟨source.rename f, "*", "", tags, .allColumnsSelected ::
        ((if (source.rename f).database.isEmpty then [.databaseNotSpecifiedInQuery] else []) ++
          (if derived then [.tableNameDerived] else []))⟩ =
      Row.rename f ⟨source, "*", "", tags, .allColumnsSelected ::
        ((if source.database.isEmpty then [.databaseNotSpecifiedInQuery] else []) ++
          (if derived then [.tableNameDerived] else []))⟩ := by
  have hdatabase : (source.rename f).database.isEmpty = source.database.isEmpty := hf.isEmpty _
  rw [Row.rename_mk, hdatabase, hf.star, hf.empty]
  cases source.database.isEmpty <;> cases derived <;> simp

theorem starRow (qualifier : Option String) :
    starRow tags (scopes.rename f) (enclosing.map f) (qualifier.map f) =
      (starRow tags scopes enclosing qualifier).rename f := by
  have hresolve : (scopes.rename f).resolve (qualifier.map f) none =
      (scopes.resolve qualifier none).rename f := hf.resolve scopes qualifier none
  unfold Lineage.starRow
  rw [hresolve]
  cases scopes.resolve qualifier none with
  | invalidAlias =>
    simp only [Resolution.rename, hf.getD_empty]
    rw [Row.rename_mk f (by simp), hf.star, hf.empty]
    simp [RowSource.rename, hf.empty]
  | found entry =>
    simp only [Resolution.rename, hf.entry_source, ScopeEntry.isDerived_rename]
    cases enclosing with
    | none => exact hf.foundStar tags _ _
    | some label =>
      simp only [Option.map_some, hf.enclosedSource]
      exact hf.foundStar tags _ _
  | ambiguous | unresolved =>
    simp only [Resolution.rename]
    cases enclosing with
    | none =>
      have hplain := hf.foundStar tags {} false
      rw [hf.source_empty] at hplain
      exact hplain
    | some label =>
      have hfilled := hf.enclosedSource scopes label {} false
      rw [hf.source_empty] at hfilled
      simp only [Option.map_some, hfilled]
      exact hf.foundStar tags _ _

/-- The rows of a renamed item of a select list. -/
theorem projectionRows {item : SelectItem} (hitem : ReadsNoTexts item) :
    projectionRows tags (scopes.rename f) (enclosing.map f) (.ofItem (item.rename f)) =
      (projectionRows tags scopes enclosing (.ofItem item)).map (Row.rename f) := by
  unfold Lineage.projectionRows
  rw [hf.ofItem hitem]
  simp only [hf.getD_empty]
  cases (ClassifiedItem.ofItem item).projection with
  | star qualifier => exact congrArg (fun row => [row]) (hf.starRow tags scopes enclosing qualifier)
  | column ref => exact congrArg (fun row => [row]) (hf.columnRow tags scopes enclosing _ ref)
  | case refs =>
    simp only [Projection.rename, List.map_map]
    exact List.map_congr_left fun ref _ => hf.derivedRow tags scopes enclosing _ (by simp) ref
  | derived refs =>
    simp only [Projection.rename, List.map_map]
    exact List.map_congr_left fun ref _ => hf.derivedRow tags scopes enclosing _ (by simp) ref
  | functionOnly text => simp [Projection.rename, Row.rename, Row.has, hf.source_empty]
  | literal => rfl

omit enclosing in
theorem clauseRow (fallback : Option String) {remarks : List Remark}
    (hremarks : .functionExpression ∉ remarks) (given : Option RowSource) (ref : ColumnRef) :
    clauseRow tags (scopes.rename f) (fallback.map f) remarks (given.map (RowSource.rename f))
        (ref.rename f) =
      (clauseRow tags scopes fallback remarks given ref).rename f := by
  have hresolve : (scopes.rename f).resolve (ref.rename f).qualifier (fallback.map f) =
      (scopes.resolve ref.qualifier fallback).rename f := hf.resolve scopes ref.qualifier fallback
  have hresolved := hf.resolvedRow tags (scopes.resolve ref.qualifier fallback) ref.qualifier
    ref.column "" hremarks
  rw [hf.empty] at hresolved
  unfold Lineage.clauseRow
  rw [hresolve]
  cases given with
  | none => exact hresolved
  | some source =>
    have htable : (source.rename f).table.isEmpty = source.table.isEmpty := hf.isEmpty _
    simp only [Option.map_some, htable]
    split
    · exact hresolved
    · rw [Row.rename_mk f hremarks, hf.empty]
      rfl

end Rows

section Joins

variable (tags : Tags) (scopes : Scopes) (c : CteCatalog)

/-- The rows of the restriction of a renamed join. -/
theorem constraintRows (kind : JoinKind) (left right : Option String)
    (constraint : JoinConstraint) :
    constraintRows tags (scopes.rename f) kind (left.map f) (right.map f) (constraint.rename f) =
      (constraintRows tags scopes kind left right constraint).map (Row.rename f) := by
  have hremarks : .functionExpression ∉ [Remark.joinOnClauseColumn, Remark.joinType kind] := by simp
  cases constraint with
  | on predicate =>
    simp only [JoinConstraint.rename, Lineage.constraintRows, columnRefs_rename,
      equalityOperands_rename, ← List.map_append, List.map_map]
    exact List.map_congr_left fun ref _ => hf.clauseRow tags scopes right hremarks none ref
  | «using» names =>
    refine flatMap_renamed fun name _ => ?_
    have hcolumn : ColumnRef.simple ((name.rename f).values.getLastD "") =
        ColumnRef.rename f (.simple (name.values.getLastD "")) := by
      rw [ObjectName.values_rename, hf.getLastD]
      rfl
    have hrow := fun partner =>
      hf.clauseRow tags scopes partner hremarks none (.simple (name.values.getLastD ""))
    simp only [List.map_cons, List.map_nil, hcolumn, ← hrow, Option.map_none]
  | natural => rfl
  | none => rfl

/-- The rows of the filter of a renamed subquery that is joined. -/
theorem joinedFilterRows (kind : JoinKind) (relation : Source) :
    joinedFilterRows tags (c.rename f) (scopes.rename f) kind (relation.rename f) =
      (joinedFilterRows tags c scopes kind relation).map (Row.rename f) := by
  match relation with
  | .derived lateral query (some label) extras =>
    have hfilter : ((Lineage.firstSelect query).map (Select.rename f)).bind (·.filter) =
        ((Lineage.firstSelect query).bind (·.filter)).map (Expr.rename f) := by
      cases Lineage.firstSelect query with
      | none => rfl
      | some select => exact Select.filter_rename f select
    simp only [Source.rename, Option.map_some, Lineage.joinedFilterRows, firstSelect_rename,
      hfilter]
    cases (Lineage.firstSelect query).bind (·.filter) with
    | none => rfl
    | some filter =>
      have hgiven : ((c.rename f).singleBase (query.rename f)).map
          (fun key => RowSource.mk key.database key.table (f label.name.value)) =
            ((c.singleBase query).map fun key =>
              RowSource.mk key.database key.table label.name.value).map (RowSource.rename f) := by
        rw [hf.singleBase]
        cases c.singleBase query <;> rfl
      have hremarks : .functionExpression ∉ [Remark.joinSubqueryWhereColumn, .joinType kind] := by
        simp
      have hname : (label.rename f).name.value = f label.name.value := rfl
      simp only [Option.map_some, columnRefs_rename, List.map_map, hname, hgiven]
      exact List.map_congr_left fun ref _ =>
        hf.clauseRow tags scopes (some label.name.value) hremarks _ ref
  | .derived lateral query none extras => rfl
  | .table .. => rfl
  | .joined .. => rfl
  | .other .. => rfl

/-- The rows of a renamed join. -/
theorem joinRows (left : Option String) (join : Join) :
    joinRows tags (c.rename f) (scopes.rename f) (left.map f) (join.rename f) =
      (joinRows tags c scopes left join).map (Row.rename f) := by
  simp only [Lineage.joinRows, Join.operator_rename, Join.relation_rename, sourceName_rename,
    tracedConstraint_rename, hf.constraintRows, hf.joinedFilterRows, List.map_append]

end Joins

end Renames

section Clauses

/-- The clauses of a renamed SELECT. -/
theorem selectClauses_rename (f : String → String) (select : Select) :
    selectClauses (select.rename f) =
      (selectClauses select).map (Prod.map id (Expr.rename f)) := by
  have hoption : ∀ (remark : Remark) (e : Option Expr),
      (e.map (Expr.rename f)).toList.map (remark, ·) =
        (e.toList.map (remark, ·)).map (Prod.map id (Expr.rename f)) := by
    intro remark e
    cases e <;> rfl
  simp only [selectClauses, Select.filter_rename, Select.grouping_rename, Select.having_rename,
    hoption, List.map_append, List.map_map]
  rfl

theorem functionExpression_not_mem_clause {select : Select} {clause : Remark × Expr}
    (h : clause ∈ selectClauses select) : .functionExpression ∉ [clause.1] := by
  simp only [selectClauses, List.mem_append, List.mem_map] at h
  rcases h with (⟨_, -, rfl⟩ | ⟨_, -, rfl⟩) | ⟨_, -, rfl⟩
  all_goals simp

end Clauses

namespace Renames

variable {f : String → String} (tags : Tags) (scopes : Scopes) (c : CteCatalog)

mutual

theorem sourceJoinRows (hf : Renames f) : ∀ source : Source,
    sourceJoinRows tags (c.rename f) (scopes.rename f) (source.rename f) =
      (sourceJoinRows tags c scopes source).map (Row.rename f)
  | .joined tree _ => hf.treeJoinRows tree
  | .table .. => rfl
  | .derived .. => rfl
  | .other .. => rfl

/-- The rows of the joins of a renamed FROM clause. -/
theorem treeJoinRows (hf : Renames f) : ∀ tree : FromTree,
    treeJoinRows tags (c.rename f) (scopes.rename f) (tree.rename f) =
      (treeJoinRows tags c scopes tree).map (Row.rename f)
  | ⟨relation, joins⟩ => by
    rw [FromTree.rename, Lineage.treeJoinRows, Lineage.treeJoinRows, List.map_append,
      hf.sourceJoinRows relation, sourceName_rename, hf.joinsRows _ joins]

theorem joinsRows (hf : Renames f) : ∀ (left : Option String) (joins : List Join),
    joinsRows tags (c.rename f) (scopes.rename f) (left.map f) (renameJoins f joins) =
      (joinsRows tags c scopes left joins).map (Row.rename f)
  | _, [] => rfl
  | left, join :: more => by
    rw [renameJoins, Lineage.joinsRows, Lineage.joinsRows, List.map_append,
      hf.joinedRows left join, Join.relation_rename, sourceName_rename, hf.joinsRows _ more]

theorem joinedRows (hf : Renames f) : ∀ (left : Option String) (join : Join),
    joinedRows tags (c.rename f) (scopes.rename f) (left.map f) (join.rename f) =
      (joinedRows tags c scopes left join).map (Row.rename f)
  | left, ⟨relation, isGlobal, operator, matching, constraint⟩ => by
    have hjoin := hf.joinRows tags scopes c left
      ⟨relation, isGlobal, operator, matching, constraint⟩
    rw [Join.rename] at hjoin ⊢
    rw [Lineage.joinedRows, Lineage.joinedRows, List.map_append, hf.sourceJoinRows relation, hjoin]

end

variable (hf : Renames f)

include hf

omit c in
/-- The rows of the filters and the grouping of a renamed site. -/
theorem filterRows (site : SelectSite) :
    (site.rename f).filterRows tags (scopes.rename f) =
      (site.filterRows tags scopes).map (Row.rename f) := by
  have hrows : ∀ clause ∈ selectClauses site.select,
      clauseRows tags (scopes.rename f) (site.enclosing.map f) clause.1 (clause.2.rename f) =
        (clauseRows tags scopes site.enclosing clause.1 clause.2).map (Row.rename f) := by
    intro clause hclause
    unfold clauseRows
    rw [columnRefs_rename, List.map_map, List.map_map]
    refine List.map_congr_left fun ref _ => hf.clauseRow tags scopes site.enclosing ?_ none ref
    exact functionExpression_not_mem_clause hclause
  rw [SelectSite.filterRows_eq, SelectSite.filterRows_eq]
  change (if site.underJoin then [] else (selectClauses (site.select.rename f)).flatMap _) = _
  split
  · rfl
  · rw [selectClauses_rename]
    exact flatMap_renamed hrows

omit scopes in
/-- The rows of a renamed site. -/
theorem siteRows (outer : Scope) {site : SelectSite}
    (hitems : ∀ item ∈ site.select.items, ReadsNoTexts item) :
    (site.rename f).rows tags (c.rename f) (outer.rename f) =
      (site.rows tags c outer).map (Row.rename f) := by
  have hscopes : (site.rename f).scopes (c.rename f) (outer.rename f) =
      (site.scopes c outer).rename f :=
    congrArg (Scopes.mk · (outer.rename f)) (hf.ofSelect c site.select)
  have hprojections : (site.select.rename f).items.flatMap
      (fun item => Lineage.projectionRows tags ((site.scopes c outer).rename f)
        (site.enclosing.map f) (.ofItem item)) =
      (site.select.items.flatMap fun item =>
        Lineage.projectionRows tags (site.scopes c outer) site.enclosing (.ofItem item)).map
          (Row.rename f) := by
    rw [Select.items_rename]
    exact flatMap_renamed fun item hitem =>
      hf.projectionRows tags (site.scopes c outer) site.enclosing (hitems item hitem)
  have hjoins : (site.select.rename f).sources.flatMap
      (Lineage.treeJoinRows tags (c.rename f) ((site.scopes c outer).rename f)) =
      (site.select.sources.flatMap (Lineage.treeJoinRows tags c (site.scopes c outer))).map
        (Row.rename f) := by
    rw [Select.sources_rename]
    exact flatMap_renamed fun tree _ => hf.treeJoinRows tags (site.scopes c outer) c tree
  unfold SelectSite.rows
  simp only [hscopes, hf.filterRows, List.map_append, ← hprojections, ← hjoins]
  rfl

omit scopes in
/-- The rows of the whole datasets that a renamed query gives out. -/
theorem datasetRows (q : Query) :
    datasetRows tags (c.rename f) (q.rename f) = (datasetRows tags c q).map (Row.rename f) := by
  have hrow : ∀ (label : String) (base : Option TableKey),
      datasetRow tags (f label) (base.map (TableKey.rename f)) =
        (datasetRow tags label base).rename f := by
    intro label base
    cases base <;>
      simp [datasetRow, Row.rename, Row.has, RowSource.rename, TableKey.rename, hf.empty, hf.star]
  have hdatasets : (outermostSelects (q.rename f)).filterMap wholeDataset? =
      ((outermostSelects q).filterMap wholeDataset?).map (Prod.map (Query.rename f) f) := by
    rw [outermostSelects_rename]
    exact filterMap_renamed (wholeDataset?_rename f)
  unfold Lineage.datasetRows
  rw [hdatasets, List.map_map, List.map_map]
  refine List.map_congr_left fun dataset _ => ?_
  obtain ⟨query, label⟩ := dataset
  have hbase := hf.singleBase c query
  simp only [Function.comp_apply, Prod.map, hbase, hrow]

omit scopes c in
/-- The rows of a renamed statement. -/
theorem statementRows (maxDepth : Nat) {s : Statement} (hs : Renamable s) :
    statementRows tags maxDepth (s.rename f) =
      (statementRows tags maxDepth s).map (Row.rename f) := by
  have hquery : ∀ q ∈ statementQueries s,
      queryRows tags maxDepth ((CteCatalog.ofStatement s).rename f)
          ((Scope.ofStatement (.ofStatement s) s).rename f) (q.rename f) =
        (queryRows tags maxDepth (.ofStatement s) (.ofStatement (.ofStatement s) s) q).map
          (Row.rename f) := by
    intro q hq
    unfold queryRows
    rw [hf.datasetRows, querySites_rename, List.map_append]
    refine congrArg _ (flatMap_renamed fun site hsite => ?_)
    have hreached : site ∈ statementSites maxDepth s := List.mem_flatMap.mpr ⟨q, hq, hsite⟩
    exact hf.siteRows tags _ _ (hs _ (within_of_mem_statementSites hreached).select)
  unfold Lineage.statementRows
  simp only [hf.ofStatement_catalog, hf.ofStatement_scope, statementQueries_rename]
  exact flatMap_renamed hquery

section Output

theorem injective_source : Function.Injective (RowSource.rename f) := by
  rintro ⟨database, table, tableAlias⟩ ⟨database', table', tableAlias'⟩ h
  simp only [RowSource.rename, RowSource.mk.injEq, hf.injective.eq_iff] at h
  obtain ⟨rfl, rfl, rfl⟩ := h
  rfl

/-- Renaming tells rows apart. -/
theorem injective_row : Function.Injective (Row.rename f) := by
  intro row other h
  have hsource := hf.injective_source (congrArg Row.source h)
  have hlabel := hf.injective (congrArg Row.columnAlias h)
  have htags := congrArg Row.tags h
  have hremarks := congrArg Row.remarks h
  -- The remarks tell whether the column is a name, so both columns are, or none is.
  have hhas : row.has .functionExpression = other.has .functionExpression :=
    congrArg (fun remarks : List Remark => remarks.contains .functionExpression) hremarks
  have hcolumn : (if row.has .functionExpression then row.column else f row.column) =
      if other.has .functionExpression then other.column else f other.column :=
    congrArg Row.column h
  have hcolumn : row.column = other.column := by
    rw [hhas] at hcolumn
    split at hcolumn
    · exact hcolumn
    · exact hf.injective hcolumn
  cases row
  cases other
  rw [Row.mk.injEq]
  exact ⟨hsource, hcolumn, hlabel, htags, hremarks⟩

omit hf in
theorem normalized (row : Row) : (row.rename f).normalized = row.normalized.rename f := by
  have hhas : row.normalized.has .functionExpression = row.has .functionExpression := by
    simp [Row.has, Row.normalized]
  unfold Row.rename
  rw [hhas]
  rfl

theorem isPlaceholderStar (row : Row) :
    (row.rename f).isPlaceholderStar = row.isPlaceholderStar := by
  have hcolumn : ((row.rename f).column == "*") = (row.column == "*") := by
    unfold Row.rename
    split
    · rfl
    · exact hf.eq_star row.column
  simp only [Row.isPlaceholderStar, hcolumn]
  simp only [Row.rename, RowSource.rename, hf.isEmpty]

/-- Placeholders and repetitions are removed alike before and behind the renaming of rows. -/
theorem deduplicate (rows : List Row) :
    deduplicate (rows.map (Row.rename f)) = (deduplicate rows).map (Row.rename f) := by
  have hnormal : (rows.map (Row.rename f)).map Row.normalized =
      (rows.map Row.normalized).map (Row.rename f) := by
    rw [List.map_map, List.map_map]
    exact List.map_congr_left fun row _ => normalized row
  have hplain : ((fun row : Row => !row.isPlaceholderStar) ∘ Row.rename f) =
      fun row => !row.isPlaceholderStar := by
    funext row
    rw [Function.comp_apply, hf.isPlaceholderStar]
  unfold Lineage.deduplicate
  rw [hnormal, List.filter_map, hplain]
  exact eraseDups_map fun row _ other _ heq => hf.injective_row heq

end Output

end Renames

/-- The output for renamed statements is the renamed output, row by row. -/
theorem deduplicate_rename {f : String → String} (hf : Renames f) (tags : Tags) (maxDepth : Nat)
    {statements : List Statement} (h : ∀ s ∈ statements, Renamable s) :
    deduplicate ((statements.map (Statement.rename f)).flatMap (statementRows tags maxDepth)) =
      (deduplicate (statements.flatMap (statementRows tags maxDepth))).map (Row.rename f) := by
  have hrows : (statements.map (Statement.rename f)).flatMap (statementRows tags maxDepth) =
      (statements.flatMap (statementRows tags maxDepth)).map (Row.rename f) :=
    flatMap_renamed fun s hs => hf.statementRows tags maxDepth (h s hs)
  rw [hrows, hf.deduplicate]

/-- `WITH c AS (SELECT a FROM db.t) SELECT x.a AS n, NOW() FROM c AS x`. -/
def readingUnderAlias : Statement :=
  .query ⟨false, [.named "c" (.columnOf ["db", "t"])],
    .select (.plain [.aliased (.path [.bare "x", .bare "a"]) (.bare "n"),
        .expr (.call (.ofIdents [.bare "NOW"]) [.text "()"] [])]
      [.table (.ofIdents [.bare "c"]) [] (some ⟨true, .bare "x", []⟩) []] none), []⟩

/-- The names of a definition and of the table it reads are swapped. -/
theorem deduplicate_rename_swap :
    Renames (Equiv.swap "c" "t") ∧ (∀ s ∈ [readingUnderAlias], Renamable s) ∧
      deduplicate (([readingUnderAlias].map (Statement.rename (Equiv.swap "c" "t"))).flatMap
          (statementRows ⟨"", "", "v"⟩ 10)) =
        (deduplicate ([readingUnderAlias].flatMap (statementRows ⟨"", "", "v"⟩ 10))).map
          (Row.rename (Equiv.swap "c" "t")) := by
  have hswap : Renames (Equiv.swap "c" "t") := renames_swap (by decide) (by decide)
  have hrenamable : ∀ s ∈ [readingUnderAlias], Renamable s := by
    intro s hs
    rw [List.mem_singleton.mp hs]
    exact .of_all (by decide)
  exact ⟨hswap, hrenamable, deduplicate_rename hswap ⟨"", "", "v"⟩ 10 hrenamable⟩

end ColumnLineage.Lineage
