import Mathlib.Data.List.Forall2
import ColumnLineage.Proofs.Reach

/-!
# Rows and the references they report

A site gives one row for each reference of its select list and of its clauses, in the order in which
the references stand, and each row says what the reference is resolved to.

## Main definitions

* `Row.Reports`: a row that says what a reference is resolved to.
* `Row.NamesEntry`: a row names the only table behind an entry, or the entry.
* `selectClauses`: the filters and the grouping of a SELECT, each with its remark.
* `fromJoins`: the joins of a SELECT, each with the name of the source in front of it.
* `Emits`: a statement has one row for each of some references.

## Main statements

* `reports_projectionRows`, `reports_clauseRows`, `reports_predicateRows`: the rows of an item, of a
  clause, and of the predicate of a join.
-/

namespace ColumnLineage.Lineage

open Sql

/-- A remark that says why a reference is not traced to a table. -/
def Remark.tellsFailure : Remark → Bool
  | .invalidTableAlias => true
  | .tableNameAmbiguous => true
  | .tableNameDerived => true
  | _ => false

/-- A row says what a reference is resolved to, and why if it is not traced to a table. -/
structure Row.Reports (ref : ColumnRef) (resolution : Resolution) (row : Row) : Prop where
  column : row.column = ref.column
  source : row.source = resolution.source ref.qualifier
  failure : ∀ remark, remark.tellsFailure → (row.has remark ↔ resolution.failure = some remark)

/-- A row names a table with its database. -/
def Row.Names (row : Row) (key : TableKey) : Prop :=
  row.source.database = key.database ∧ row.source.table = key.table

/-- A row names the only table behind an entry, or the entry where there is no such table. -/
def Row.NamesEntry (row : Row) (entry : ScopeEntry) : Prop :=
  match entry.base with
  | some key => row.Names key
  | none => row.source = { table := entry.label } ∧ row.has .tableNameDerived

/-- A row that reports a reference which is found names the entry. -/
theorem Row.Reports.namesEntry {row : Row} {ref : ColumnRef} {entry : ScopeEntry}
    (h : row.Reports ref (.found entry)) : row.NamesEntry entry := by
  have hsource := h.source
  unfold Row.NamesEntry
  cases hbase : entry.base with
  | some key =>
    have hplace : row.source = entry.source := by
      simpa [Resolution.source, ScopeEntry.isDerived, hbase] using hsource
    constructor
    · simp [hplace, ScopeEntry.source, ScopeEntry.database, hbase]
    · simp [hplace, ScopeEntry.source, ScopeEntry.table, hbase]
  | none =>
    refine ⟨by simpa [Resolution.source, ScopeEntry.isDerived, hbase] using hsource, ?_⟩
    refine (h.failure .tableNameDerived rfl).mpr ?_
    simp [Resolution.failure, ScopeEntry.isDerived, hbase]

/-- Of the remarks that tell of a failure, a row has the one that is put behind its others. -/
theorem has_append_failure {row : Row} {remarks : List Remark} {resolution : Resolution}
    (hrow : row.remarks = remarks ++ resolution.failure.toList)
    (hremarks : ∀ remark ∈ remarks, remark.tellsFailure = false) (remark : Remark)
    (htells : remark.tellsFailure) : row.has remark ↔ resolution.failure = some remark := by
  unfold Row.has
  rw [hrow, List.contains_iff_mem, List.mem_append, Option.mem_toList]
  constructor
  · rintro (hmem | hfailure)
    · rw [hremarks remark hmem] at htells
      exact absurd htells Bool.false_ne_true
    · exact hfailure
  · exact Or.inr

section Resolution

variable {scopes : Scopes} {entry : ScopeEntry}

theorem Scopes.resolveUnqualified_of_sole (h : scopes.inner.sole = some entry) :
    scopes.resolveUnqualified = .found entry := by
  simp [Scopes.resolveUnqualified, Scopes.sole, h]

/-- The only local source stands for a reference of a select list without a qualifier. -/
theorem projectionResolution_of_sole (h : scopes.inner.sole = some entry)
    (enclosing : Option String) {ref : ColumnRef} (href : ref.qualifier = none) :
    projectionResolution scopes enclosing ref = .found entry := by
  have hresolve : scopes.resolve ref.qualifier none = .found entry := by
    rw [href]
    exact Scopes.resolveUnqualified_of_sole h
  unfold projectionResolution
  rw [hresolve]

/-- A reference of a clause is found through the alias, else it falls to the only local source. -/
theorem resolve_of_sole (h : scopes.inner.sole = some entry) (fallback : Option String) :
    scopes.resolve none fallback = .found ((fallback.bind scopes.lookup).getD entry) := by
  unfold Scopes.resolve
  cases hlookup : fallback.bind scopes.lookup with
  | some other => simp
  | none => simpa [hlookup] using Scopes.resolveUnqualified_of_sole h

end Resolution

section Rows

variable (tags : Tags) (scopes : Scopes)

theorem reports_columnRow (enclosing : Option String) (label : String) (ref : ColumnRef) :
    (columnRow tags scopes enclosing label ref).Reports ref
      (projectionResolution scopes enclosing ref) := by
  refine ⟨rfl, rfl, ?_⟩
  intro remark htells
  unfold columnRow Row.has
  generalize projectionResolution scopes enclosing ref = resolution
  cases hfailure : resolution.failure with
  | some failure =>
    rw [List.contains_iff_mem, List.mem_singleton, hfailure, Option.some.injEq]
    exact eq_comm
  | none =>
    -- The remarks on a column that is traced tell of no failure.
    rw [List.contains_iff_mem, List.mem_singleton, hfailure, Option.getD_none]
    refine ⟨fun hremark => ?_, fun hremark => by simp at hremark⟩
    rw [hremark] at htells
    split at htells <;> simp [Remark.tellsFailure] at htells

theorem reports_derivedRow (enclosing : Option String) (label : String) {remarks : List Remark}
    (hremarks : ∀ remark ∈ remarks, remark.tellsFailure = false) (ref : ColumnRef) :
    (derivedRow tags scopes enclosing label remarks ref).Reports ref
      (projectionResolution scopes enclosing ref) :=
  ⟨rfl, rfl, has_append_failure rfl hremarks⟩

theorem column_clauseRow (fallback : Option String) (remarks : List Remark)
    (given : Option RowSource) (ref : ColumnRef) :
    (clauseRow tags scopes fallback remarks given ref).column = ref.column := by
  unfold clauseRow
  split
  · split <;> rfl
  · rfl

/-- A clause without a given source reports its references as the scopes resolve them. -/
theorem reports_clauseRow (fallback : Option String) {remarks : List Remark}
    (hremarks : ∀ remark ∈ remarks, remark.tellsFailure = false) (ref : ColumnRef) :
    (clauseRow tags scopes fallback remarks none ref).Reports ref
      (scopes.resolve ref.qualifier fallback) :=
  ⟨rfl, rfl, has_append_failure rfl hremarks⟩

/-- The rows of an item that reads columns report its references, one row each. -/
theorem reports_projectionRows (enclosing : Option String) {item : SelectItem} {e : Expr}
    (hitem : selectExprs.itemExpr? item = some e) (hrefs : columnRefs e ≠ []) :
    List.Forall₂ (fun ref row => row.Reports ref (projectionResolution scopes enclosing ref))
      (columnRefs e) (projectionRows tags scopes enclosing (.ofItem item)) := by
  have hprojection : (ClassifiedItem.ofItem item).projection = .ofExpr e := by
    cases item with
    | expr other => rw [← Option.some.inj hitem]; rfl
    | aliased other label => rw [← Option.some.inj hitem]; rfl
    | _ => simp [selectExprs.itemExpr?] at hitem
  rw [← Projection.refs_ofExpr] at hrefs ⊢
  unfold projectionRows
  rw [hprojection]
  cases hexpr : Projection.ofExpr e with
  | column ref => exact .cons (reports_columnRow tags scopes enclosing _ ref) .nil
  | case refs =>
    refine List.forall₂_map_right_iff.mpr (List.forall₂_same.mpr fun ref _ => ?_)
    exact reports_derivedRow tags scopes enclosing _ (by decide) ref
  | derived refs =>
    refine List.forall₂_map_right_iff.mpr (List.forall₂_same.mpr fun ref _ => ?_)
    exact reports_derivedRow tags scopes enclosing _ (by decide) ref
  | star qualifier => simp [hexpr, Projection.refs] at hrefs
  | functionOnly text => simp [hexpr, Projection.refs] at hrefs
  | literal => simp [hexpr, Projection.refs] at hrefs

/-- The rows of a clause report its references, one row each. -/
theorem reports_clauseRows (fallback : Option String) {remark : Remark}
    (hremark : remark.tellsFailure = false) (e : Expr) :
    List.Forall₂ (fun ref row => row.Reports ref (scopes.resolve ref.qualifier fallback))
      (columnRefs e) (clauseRows tags scopes fallback remark e) := by
  refine List.forall₂_map_right_iff.mpr (List.forall₂_same.mpr fun ref _ => ?_)
  exact reports_clauseRow tags scopes fallback (by simpa using hremark) ref

/-- The rows of the predicate of a join report its references, those that it compares once more. -/
theorem reports_predicateRows (kind : JoinKind) (left right : Option String) (predicate : Expr) :
    List.Forall₂ (fun ref row => row.Reports ref (scopes.resolve ref.qualifier right))
      (columnRefs predicate ++ equalityOperands predicate)
      (constraintRows tags scopes kind left right (.on predicate)) := by
  refine List.forall₂_map_right_iff.mpr (List.forall₂_same.mpr fun ref _ => ?_)
  exact reports_clauseRow tags scopes right (by simp [Remark.tellsFailure]) ref

end Rows

/-- The filters and the grouping of a SELECT, each with the remark on its rows. -/
def selectClauses (select : Select) : List (Remark × Expr) :=
  select.filter.toList.map (.whereClauseColumn, ·) ++ select.grouping.map (.groupByColumn, ·) ++
    select.having.toList.map (.havingClauseColumn, ·)

theorem tellsFailure_of_mem_selectClauses {select : Select} {remark : Remark} {e : Expr}
    (h : (remark, e) ∈ selectClauses select) : remark.tellsFailure = false := by
  simp only [selectClauses, List.mem_append, List.mem_map, Prod.mk.injEq] at h
  rcases h with (⟨_, -, rfl, -⟩ | ⟨_, -, rfl, -⟩) | ⟨_, -, rfl, -⟩
  all_goals rfl

theorem visits_subset_of_mem_selectClauses {select : Select} {remark : Remark} {e : Expr}
    (h : (remark, e) ∈ selectClauses select) : e.visits ⊆ select.visits := by
  simp only [selectClauses, List.mem_append, List.mem_map, Prod.mk.injEq] at h
  rcases h with (⟨_, he, -, rfl⟩ | ⟨_, he, -, rfl⟩) | ⟨_, he, -, rfl⟩
  · exact Select.filter_visits_subset he
  · exact Select.grouping_visits_subset he
  · exact Select.having_visits_subset he

/-- The joins of the FROM clause of a SELECT, each with the name of the source in front of it. -/
def fromJoins (select : Select) : List (Option String × Join) :=
  select.sources.flatMap treeJoins

/-- The joins of a SELECT and the sources in front of them are met in its visit. -/
theorem within_fromJoins {select : Select} {left : Option String} {join : Join}
    (h : (left, join) ∈ fromJoins select) :
    join.visits ⊆ select.visits ∧ NamesSource select.visits left := by
  obtain ⟨tree, htree, hjoin⟩ := List.mem_flatMap.mp h
  exact within_treeJoins (Select.tree_visits_subset htree) hjoin

/-- A joined source of a site is met in the statement. -/
theorem source_mem_of_mem_fromJoins {maxDepth : Nat} {s : Statement} {site : SelectSite}
    (hsite : site ∈ statementSites maxDepth s) {left : Option String} {join : Join}
    (hlink : (left, join) ∈ fromJoins site.select) : .source join.relation ∈ s.visits := by
  have hsub := (within_of_mem_statementSites hsite).select.visits_subset s.closed_visits
  have hjoin := join.relation_visits_subset join.relation.source_mem_visits
  exact hsub ((within_fromJoins hlink).1 hjoin)

namespace SelectSite

variable {tags : Tags}

/-- The rows of the filters and the grouping of a site are those of its clauses. -/
theorem filterRows_eq (tags : Tags) (scopes : Scopes) (site : SelectSite) :
    site.filterRows tags scopes = if site.underJoin then [] else
      (selectClauses site.select).flatMap fun (remark, e) =>
        clauseRows tags scopes site.enclosing remark e := by
  unfold filterRows selectClauses
  split
  · rfl
  · simp [List.flatMap_append, List.flatMap_map]

theorem rowsIn_eq (s : Statement) (tags : Tags) (site : SelectSite) : site.rowsIn s tags =
    site.select.items.flatMap
        (fun item => projectionRows tags (site.scopesIn s) site.enclosing (.ofItem item)) ++
      site.filterRows tags (site.scopesIn s) ++
      (fromJoins site.select).flatMap fun (left, join) =>
        joinRows tags (.ofStatement s) (site.scopesIn s) left join := by
  have hjoins : site.select.sources.flatMap
      (treeJoinRows tags (.ofStatement s) (site.scopesIn s)) =
        (fromJoins site.select).flatMap fun (left, join) =>
          joinRows tags (.ofStatement s) (site.scopesIn s) left join := by
    unfold fromJoins
    rw [List.flatMap_assoc]
    congr 1
    funext tree
    exact treeJoinRows_eq_flatMap tags _ _ tree
  rw [← hjoins]
  rfl

/-- The rows of a site are those of its items, of its clauses, and of its joins. -/
theorem mem_rowsIn {s : Statement} {site : SelectSite} {row : Row} :
    row ∈ site.rowsIn s tags ↔
      (∃ item ∈ site.select.items,
        row ∈ projectionRows tags (site.scopesIn s) site.enclosing (.ofItem item)) ∨
      (site.underJoin = false ∧ ∃ clause ∈ selectClauses site.select,
        row ∈ clauseRows tags (site.scopesIn s) site.enclosing clause.1 clause.2) ∨
      ∃ link ∈ fromJoins site.select,
        row ∈ joinRows tags (.ofStatement s) (site.scopesIn s) link.1 link.2 := by
  rw [rowsIn_eq, filterRows_eq]
  simp only [List.mem_append, List.mem_flatMap, or_assoc]
  cases site.underJoin <;> simp

theorem projectionRows_subset {s : Statement} {maxDepth : Nat} {site : SelectSite}
    (hsite : site ∈ statementSites maxDepth s) {item : SelectItem}
    (hitem : item ∈ site.select.items) :
    projectionRows tags (site.scopesIn s) site.enclosing (.ofItem item) ⊆
      statementRows tags maxDepth s :=
  fun _ hrow => rowsIn_subset hsite (mem_rowsIn.mpr (Or.inl ⟨item, hitem, hrow⟩))

theorem clauseRows_subset {s : Statement} {maxDepth : Nat} {site : SelectSite}
    (hsite : site ∈ statementSites maxDepth s) (hjoin : site.underJoin = false) {remark : Remark}
    {e : Expr} (hclause : (remark, e) ∈ selectClauses site.select) :
    clauseRows tags (site.scopesIn s) site.enclosing remark e ⊆ statementRows tags maxDepth s :=
  fun _ hrow => rowsIn_subset hsite (mem_rowsIn.mpr (Or.inr (Or.inl ⟨hjoin, _, hclause, hrow⟩)))

theorem joinRows_subset {s : Statement} {maxDepth : Nat} {site : SelectSite}
    (hsite : site ∈ statementSites maxDepth s) {left : Option String} {join : Join}
    (hlink : (left, join) ∈ fromJoins site.select) :
    joinRows tags (.ofStatement s) (site.scopesIn s) left join ⊆ statementRows tags maxDepth s :=
  fun _ hrow => rowsIn_subset hsite (mem_rowsIn.mpr (Or.inr (Or.inr ⟨_, hlink, hrow⟩)))

theorem constraintRows_subset {s : Statement} {maxDepth : Nat} {site : SelectSite}
    (hsite : site ∈ statementSites maxDepth s) {left : Option String} {join : Join}
    (hlink : (left, join) ∈ fromJoins site.select) :
    constraintRows tags (site.scopesIn s) (joinKind join.operator) left (sourceName join.relation)
      (tracedConstraint join) ⊆ statementRows tags maxDepth s :=
  List.Subset.trans (List.subset_append_left _ _) (joinRows_subset hsite hlink)

theorem joinedFilterRows_subset {s : Statement} {maxDepth : Nat} {site : SelectSite}
    (hsite : site ∈ statementSites maxDepth s) {left : Option String} {join : Join}
    (hlink : (left, join) ∈ fromJoins site.select) :
    joinedFilterRows tags (.ofStatement s) (site.scopesIn s) (joinKind join.operator)
      join.relation ⊆ statementRows tags maxDepth s :=
  List.Subset.trans (List.subset_append_right _ _) (joinRows_subset hsite hlink)

end SelectSite

/-- Some rows are rows of a statement, one for each of some references, and those of references
without a qualifier satisfy `P`. -/
def Emits (s : Statement) (tags : Tags) (maxDepth : Nat) (refs : List ColumnRef) (rows : List Row)
    (P : Row → Prop) : Prop :=
  rows ⊆ statementRows tags maxDepth s ∧
    List.Forall₂ (fun ref row => row.column = ref.column ∧ (ref.qualifier = none → P row)) refs rows

end ColumnLineage.Lineage
