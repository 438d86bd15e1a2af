import ColumnLineage.Proofs.Emission
import ColumnLineage.Proofs.Output

/-!
# Which filters come out

The columns of a filter come out where the filter stands, except for the SELECTs of a joined
subquery: these are left to the join, which shows the filter of the first SELECT of the subquery if
the subquery has an alias.  The other SELECTs of such a subquery, and those of a joined subquery
that has no alias or leads a join in parentheses, have their filters shown by neither.

## Main definitions

* `Row.TellsFilter`: a row says that a filter reads its column.
* `FilterShown`: the filter of a SELECT comes out where it stands, or at a join.
* `JoinsAccount`: the joins of a statement show every filter that is left to them.

## Main statements

* `tellOfFilter_statementRows_iff`: which columns a statement tells of as columns of filters.
* `filterShown_of_joinsAccount`: where joins account for what is left to them, all filters come out.
* `filters_of_output`: the same of the output for some statements.
-/

namespace ColumnLineage.Lineage

open Sql

/-- A remark says that a column is read by a filter. -/
def Remark.tellsFilter : Remark → Bool
  | .whereClauseColumn => true
  | .joinSubqueryWhereColumn => true
  | _ => false

/-- A row says that its column is read by a filter. -/
def Row.TellsFilter (row : Row) : Prop :=
  ∃ remark ∈ row.remarks, remark.tellsFilter

/-- Some rows tell of a column that it is read by a filter. -/
def TellOfFilter (rows : List Row) (column : String) : Prop :=
  ∃ row ∈ rows, row.column = column ∧ row.TellsFilter

/-- The filter of a SELECT reads a column. -/
def FiltersBy (select : Select) (column : String) : Prop :=
  ∃ filter, select.filter = some filter ∧ ∃ ref ∈ columnRefs filter, ref.column = column

/-- The filter of a SELECT comes out. -/
inductive FilterShown (s : Statement) (maxDepth : Nat) (select : Select) : Prop
  /-- It comes out where it stands, if no join is to account for it. -/
  | standing (site : SelectSite) (hsite : site ∈ statementSites maxDepth s)
      (hselect : site.select = select) (hjoin : site.underJoin = false)
  /-- It comes out at a join, if it is that of the first SELECT of a joined subquery with an
  alias. -/
  | joined (joining : SelectSite) (hjoining : joining ∈ statementSites maxDepth s)
      (left : Option String) (join : Join) (hlink : (left, join) ∈ fromJoins joining.select)
      (lateral : Bool) (query : Query) (label : Alias) (extras : List Node)
      (hrelation : join.relation = .derived lateral query (some label) extras)
      (hfirst : firstSelect query = some select)

/-- The joins of a statement show every filter that is left to them: a joined subquery stands
directly behind its join, with an alias, and all its SELECTs are its first one. -/
def JoinsAccount (s : Statement) (maxDepth : Nat) : Prop :=
  ∀ site ∈ statementSites maxDepth s, ∀ step ∈ selectSteps site.select, step.underJoin →
    (∃ left join lateral label extras, (left, join) ∈ fromJoins site.select ∧
      join.relation = .derived lateral step.query (some label) extras) ∧
    ∀ select ∈ outermostSelects step.query, firstSelect step.query = some select

section Rows

variable {tags : Tags} {scopes : Scopes}

/-- A remark on why a column is not traced tells of no filter. -/
theorem Resolution.tellsFilter_of_failure {resolution : Resolution} {remark : Remark}
    (h : resolution.failure = some remark) : remark.tellsFilter = false := by
  cases resolution with
  | found entry =>
    simp only [Resolution.failure] at h
    split at h
    · rw [← Option.some.inj h]
      rfl
    · simp at h
  | _ =>
    rw [← Option.some.inj h]
    rfl

/-- Of a row whose remarks end with a failure, the others say whether it tells of a filter. -/
theorem tellsFilter_append_failure {row : Row} {remarks : List Remark} {resolution : Resolution}
    (hrow : row.remarks = remarks ++ resolution.failure.toList) :
    row.TellsFilter ↔ ∃ remark ∈ remarks, remark.tellsFilter := by
  unfold Row.TellsFilter
  rw [hrow]
  constructor
  · rintro ⟨remark, hremark, htells⟩
    rcases List.mem_append.mp hremark with hremark | hremark
    · exact ⟨remark, hremark, htells⟩
    · rw [Resolution.tellsFilter_of_failure (Option.mem_toList.mp hremark)] at htells
      exact absurd htells Bool.false_ne_true
  · rintro ⟨remark, hremark, htells⟩
    exact ⟨remark, List.mem_append_left _ hremark, htells⟩

/-- A row of a clause tells of a filter if the remarks of the clause do. -/
theorem tellsFilter_clauseRow (fallback : Option String) (remarks : List Remark)
    (given : Option RowSource) (ref : ColumnRef) :
    (clauseRow tags scopes fallback remarks given ref).TellsFilter ↔
      ∃ remark ∈ remarks, remark.tellsFilter := by
  unfold clauseRow
  split
  · split
    · exact tellsFilter_append_failure rfl
    · exact Iff.rfl
  · exact tellsFilter_append_failure rfl

theorem not_tellsFilter_columnRow (enclosing : Option String) (label : String) (ref : ColumnRef) :
    ¬ (columnRow tags scopes enclosing label ref).TellsFilter := by
  rintro ⟨remark, hremark, htells⟩
  have hremark := List.mem_singleton.mp hremark
  cases hfailure : (projectionResolution scopes enclosing ref).failure with
  | some failure =>
    rw [hfailure, Option.getD_some] at hremark
    rw [hremark, Resolution.tellsFilter_of_failure hfailure] at htells
    exact absurd htells Bool.false_ne_true
  | none =>
    rw [hfailure, Option.getD_none] at hremark
    rw [hremark] at htells
    split at htells <;> exact absurd htells Bool.false_ne_true

theorem not_tellsFilter_starRow (enclosing qualifier : Option String) :
    ¬ (starRow tags scopes enclosing qualifier).TellsFilter := by
  rintro ⟨remark, hremark, htells⟩
  have hremarks : remark ∈ [Remark.allColumnsSelected, .databaseNotSpecifiedInQuery,
      .invalidTableAlias, .tableNameDerived] := by
    unfold starRow at hremark
    split at hremark
    · simp only [List.mem_cons] at hremark ⊢
      tauto
    · simp only [List.mem_cons, List.mem_append, List.mem_ite_nil_right] at hremark ⊢
      tauto
  simp only [List.mem_cons, List.not_mem_nil, or_false] at hremarks
  rcases hremarks with rfl | rfl | rfl | rfl <;> exact absurd htells Bool.false_ne_true

/-- No row of a select list tells of a filter. -/
theorem not_tellsFilter_of_mem_projectionRows {enclosing : Option String} {item : ClassifiedItem}
    {row : Row} (h : row ∈ projectionRows tags scopes enclosing item) : ¬ row.TellsFilter := by
  unfold projectionRows at h
  simp only at h
  split at h
  · rw [List.mem_singleton.mp h]
    exact not_tellsFilter_starRow _ _
  · rw [List.mem_singleton.mp h]
    exact not_tellsFilter_columnRow _ _ _
  · obtain ⟨ref, -, rfl⟩ := List.mem_map.mp h
    rw [tellsFilter_append_failure rfl]
    simp [Remark.tellsFilter]
  · obtain ⟨ref, -, rfl⟩ := List.mem_map.mp h
    rw [tellsFilter_append_failure rfl]
    simp [Remark.tellsFilter]
  · rw [List.mem_singleton.mp h]
    simp [Row.TellsFilter, Remark.tellsFilter]
  · simp at h

/-- No row of the restriction of a join tells of a filter. -/
theorem not_tellsFilter_of_mem_constraintRows {kind : JoinKind} {left right : Option String}
    {constraint : JoinConstraint} {row : Row}
    (h : row ∈ constraintRows tags scopes kind left right constraint) : ¬ row.TellsFilter := by
  have hrow : ∃ fallback ref,
      row = clauseRow tags scopes fallback [.joinOnClauseColumn, .joinType kind] none ref := by
    match constraint, h with
    | .on predicate, h =>
      obtain ⟨ref, -, rfl⟩ := List.mem_map.mp h
      exact ⟨_, ref, rfl⟩
    | .using names _, h =>
      obtain ⟨name, -, h⟩ := List.mem_flatMap.mp h
      obtain ⟨partner, -, rfl⟩ := List.mem_map.mp h
      exact ⟨partner, _, rfl⟩
    | .natural, h | .none, h => simp [constraintRows] at h
  obtain ⟨fallback, ref, rfl⟩ := hrow
  rw [tellsFilter_clauseRow]
  simp [Remark.tellsFilter]

theorem not_tellsFilter_of_mem_datasetRows {c : CteCatalog} {q : Query} {row : Row}
    (h : row ∈ datasetRows tags c q) : ¬ row.TellsFilter := by
  obtain ⟨dataset, -, rfl⟩ := List.mem_map.mp h
  simp [Row.TellsFilter, datasetRow, Remark.tellsFilter]

/-- The rows of the clauses of a SELECT that tell of a filter are those of its filter. -/
theorem tellOfFilter_clauseRows_iff {select : Select} {enclosing : Option String}
    {column : String} :
    (∃ clause ∈ selectClauses select,
      TellOfFilter (clauseRows tags scopes enclosing clause.1 clause.2) column) ↔
        FiltersBy select column := by
  constructor
  · rintro ⟨⟨remark, e⟩, hclause, row, hrow, rfl, htells⟩
    obtain ⟨ref, href, rfl⟩ := List.mem_map.mp hrow
    rw [tellsFilter_clauseRow] at htells
    rw [column_clauseRow]
    simp only [selectClauses, List.mem_append, List.mem_map, Prod.mk.injEq] at hclause
    rcases hclause with (⟨filter, hfilter, rfl, rfl⟩ | ⟨_, -, rfl, -⟩) | ⟨_, -, rfl, -⟩
    · exact ⟨filter, Option.mem_toList.mp hfilter, ref, href, rfl⟩
    · simp [Remark.tellsFilter] at htells
    · simp [Remark.tellsFilter] at htells
  · rintro ⟨filter, hfilter, ref, href, rfl⟩
    refine ⟨(.whereClauseColumn, filter), ?_, _, List.mem_map_of_mem href, ?_, ?_⟩
    · simp [selectClauses, hfilter]
    · exact column_clauseRow _ _ _ _ _ _
    · rw [tellsFilter_clauseRow]
      simp [Remark.tellsFilter]

/-- The rows of a join that tell of a filter are those of the first SELECT of a joined subquery with
an alias. -/
theorem tellOfFilter_joinRows_iff {c : CteCatalog} {left : Option String} {join : Join}
    {column : String} :
    TellOfFilter (joinRows tags c scopes left join) column ↔
      ∃ lateral query label extras select,
        join.relation = .derived lateral query (some label) extras ∧
          firstSelect query = some select ∧ FiltersBy select column := by
  constructor
  · rintro ⟨row, hrow, rfl, htells⟩
    rcases List.mem_append.mp hrow with hrow | hrow
    · exact absurd htells (not_tellsFilter_of_mem_constraintRows hrow)
    · unfold joinedFilterRows at hrow
      split at hrow
      · next lateral query label extras hrelation =>
        split at hrow
        · simp at hrow
        · next filter hfilter =>
          obtain ⟨select, hfirst, hfilter⟩ := Option.bind_eq_some_iff.mp hfilter
          obtain ⟨ref, href, rfl⟩ := List.mem_map.mp hrow
          exact ⟨lateral, query, label, extras, select, hrelation, hfirst, filter, hfilter, ref,
            href, (column_clauseRow _ _ _ _ _ _).symm⟩
      · simp at hrow
  · rintro ⟨lateral, query, label, extras, select, hrelation, hfirst, filter, hfilter, ref, href,
      rfl⟩
    simp only [joinRows, joinedFilterRows, hrelation, hfirst, Option.bind_some, hfilter]
    refine ⟨_, List.mem_append_right _ (List.mem_map_of_mem href), column_clauseRow _ _ _ _ _ _, ?_⟩
    rw [tellsFilter_clauseRow]
    simp [Remark.tellsFilter]

end Rows

section Statement

variable {s : Statement} {tags : Tags} {maxDepth : Nat}

/-- A statement tells of a column as that of a filter exactly if a filter that is shown reads it. -/
theorem tellOfFilter_statementRows_iff {column : String} :
    TellOfFilter (statementRows tags maxDepth s) column ↔
      ∃ select, FilterShown s maxDepth select ∧ FiltersBy select column := by
  constructor
  · rintro ⟨row, hrow, hcolumn, htells⟩
    -- Of all rows, only those of filters and of joined subqueries tell of a filter.
    rcases mem_statementRows.mp hrow with ⟨q, -, hdataset⟩ | ⟨site, hsite, hrow⟩
    · exact absurd htells (not_tellsFilter_of_mem_datasetRows hdataset)
    · rcases SelectSite.mem_rowsIn.mp hrow with ⟨item, -, hitem⟩ | ⟨hjoin, clause, hclause, hrow⟩ |
        ⟨⟨left, join⟩, hlink, hrow⟩
      · exact absurd htells (not_tellsFilter_of_mem_projectionRows hitem)
      · exact ⟨site.select, .standing site hsite rfl hjoin,
          tellOfFilter_clauseRows_iff.mp ⟨clause, hclause, row, hrow, hcolumn, htells⟩⟩
      · obtain ⟨lateral, query, label, extras, select, hrelation, hfirst, hfilters⟩ :=
          tellOfFilter_joinRows_iff.mp ⟨row, hrow, hcolumn, htells⟩
        exact ⟨select, .joined site hsite left join hlink lateral query label extras hrelation
          hfirst, hfilters⟩
  · rintro ⟨select, hshown, hfilters⟩
    cases hshown with
    | standing site hsite hselect hjoin =>
      subst hselect
      obtain ⟨clause, hclause, row, hrow, htells⟩ := tellOfFilter_clauseRows_iff.mpr hfilters
      exact ⟨row, SelectSite.clauseRows_subset hsite hjoin hclause hrow, htells⟩
    | joined joining hjoining left join hlink lateral query label extras hrelation hfirst =>
      obtain ⟨row, hrow, htells⟩ := tellOfFilter_joinRows_iff.mpr
        ⟨lateral, query, label, extras, select, hrelation, hfirst, hfilters⟩
      exact ⟨row, SelectSite.joinRows_subset hjoining hlink hrow, htells⟩

/-- The filters of the branches of a query come out if a join is to account for them. -/
def StepShown (s : Statement) (maxDepth : Nat) (step : Step) : Prop :=
  step.underJoin → ∀ select ∈ outermostSelects step.query, FilterShown s maxDepth select

/-- Where joins account for what is left to them, a step from a site leaves nothing out. -/
theorem JoinsAccount.stepShown (h : JoinsAccount s maxDepth) {site : SelectSite}
    (hsite : site ∈ statementSites maxDepth s) {step : Step}
    (hstep : step ∈ selectSteps site.select) : StepShown s maxDepth step := by
  intro hjoin select hselect
  obtain ⟨⟨left, join, lateral, label, extras, hlink, hrelation⟩, hfirst⟩ :=
    h site hsite step hstep hjoin
  exact .joined site hsite left join hlink lateral step.query label extras hrelation
    (hfirst select hselect)

/-- The filters of the sites of a body come out if those below it do. -/
theorem JoinsAccount.filterShown_of_mem_bodySites (h : JoinsAccount s maxDepth)
    {go : Step → List SelectSite}
    (hgo : ∀ step, StepShown s maxDepth step → go step ⊆ statementSites maxDepth s →
      ∀ site ∈ go step, FilterShown s maxDepth site.select)
    {enclosing : Option String} {underJoin : Bool} (body : Body)
    (hshown : underJoin → ∀ select ∈ outermostSelectsOf body, FilterShown s maxDepth select)
    (hsub : bodySites go enclosing underJoin body ⊆ statementSites maxDepth s) {site : SelectSite}
    (hsite : site ∈ bodySites go enclosing underJoin body) : FilterShown s maxDepth site.select :=
  match body, hshown, hsub, hsite with
  | .select select, hshown, hsub, hsite => by
    have hself := hsub List.mem_cons_self
    rcases List.mem_cons.mp hsite with rfl | hsite
    -- The SELECT itself shows its filter, unless that is left to a join that does.
    · cases underJoin with
      | false => exact .standing _ hself rfl rfl
      | true => exact hshown rfl select (List.mem_singleton_self select)
    · obtain ⟨step, hstep, hsite⟩ := List.mem_flatMap.mp hsite
      refine hgo step (h.stepShown hself hstep) ?_ site hsite
      intro other hother
      exact hsub (List.mem_cons_of_mem _ (List.mem_flatMap.mpr ⟨step, hstep, hother⟩))
  | .query q, hshown, hsub, hsite => hgo ⟨q, enclosing, underJoin⟩ hshown hsub site hsite
  | .combined left _ right, hshown, hsub, hsite => by
    rcases List.mem_append.mp hsite with hsite | hsite
    · exact h.filterShown_of_mem_bodySites hgo left
        (fun hjoin select hselect => hshown hjoin select (List.mem_append_left _ hselect))
        (List.Subset.trans (List.subset_append_left _ _) hsub) hsite
    · exact h.filterShown_of_mem_bodySites hgo right
        (fun hjoin select hselect => hshown hjoin select (List.mem_append_right _ hselect))
        (List.Subset.trans (List.subset_append_right _ _) hsub) hsite
  | .other .., _, _, hsite => by simp [bodySites] at hsite

theorem JoinsAccount.filterShown_of_mem_sitesWithin (h : JoinsAccount s maxDepth) (levels : Nat)
    {step : Step} (hshown : StepShown s maxDepth step)
    (hsub : sitesWithin levels step ⊆ statementSites maxDepth s) {site : SelectSite}
    (hsite : site ∈ sitesWithin levels step) : FilterShown s maxDepth site.select := by
  induction levels generalizing step site with
  | zero => simp [sitesWithin] at hsite
  | succ levels ih =>
    obtain ⟨⟨recursive, ctes, body, tail⟩, enclosing, underJoin⟩ := step
    rcases List.mem_append.mp hsite with hsite | hsite
    · exact h.filterShown_of_mem_bodySites
        (fun step hshown hsub site hsite => ih hshown hsub hsite) body hshown
        (List.Subset.trans (List.subset_append_left _ _) hsub) hsite
    -- A definition is never under a join, so that nothing in it is left to one.
    · obtain ⟨cte, hcte, hsite⟩ := List.mem_flatMap.mp hsite
      refine ih (fun hjoin => absurd hjoin Bool.false_ne_true) ?_ hsite
      intro other hother
      exact hsub (List.mem_append_right _ (List.mem_flatMap.mpr ⟨cte, hcte, hother⟩))

/-- Where joins account for what is left to them, the filter of every SELECT that is reached comes
out. -/
theorem filterShown_of_joinsAccount (h : JoinsAccount s maxDepth) {site : SelectSite}
    (hsite : site ∈ statementSites maxDepth s) : FilterShown s maxDepth site.select := by
  obtain ⟨q, hq, hinside⟩ := List.mem_flatMap.mp hsite
  refine h.filterShown_of_mem_sitesWithin (maxDepth + 1)
    (fun hjoin => absurd hjoin Bool.false_ne_true) ?_ hinside
  intro other hother
  exact List.mem_flatMap.mpr ⟨q, hq, hother⟩

end Statement

section Output

/-- Rows without repetitions tell of the same columns, stars apart. -/
theorem tellOfFilter_deduplicate_iff {rows : List Row} {column : String} (hcolumn : column ≠ "*") :
    TellOfFilter (deduplicate rows) column ↔ TellOfFilter rows column := by
  have hnormalized : ∀ raw : Row, raw.normalized.TellsFilter ↔ raw.TellsFilter := by
    intro raw
    simp [Row.TellsFilter, Row.normalized]
  constructor
  · rintro ⟨row, hrow, rfl, htells⟩
    obtain ⟨raw, hraw, rfl, -⟩ := mem_deduplicate.mp hrow
    exact ⟨raw, hraw, rfl, (hnormalized raw).mp htells⟩
  · rintro ⟨raw, hraw, rfl, htells⟩
    refine ⟨raw.normalized, mem_deduplicate.mpr ⟨raw, hraw, rfl, ?_⟩, rfl,
      (hnormalized raw).mpr htells⟩
    simp [Row.isPlaceholderStar, Row.normalized, hcolumn]

/-- The output for some statements tells of a column as that of a filter exactly if a filter that is
shown reads it; where joins account for what is left to them, it tells of every column that a filter
reads. -/
theorem filters_of_output (statements : List Statement) (tags : Tags) (maxDepth : Nat) :
    (∀ column, column ≠ "*" →
      (TellOfFilter (deduplicate (statements.flatMap (statementRows tags maxDepth))) column ↔
        ∃ s ∈ statements, ∃ select, FilterShown s maxDepth select ∧ FiltersBy select column)) ∧
    ∀ s ∈ statements, JoinsAccount s maxDepth → ∀ site ∈ statementSites maxDepth s,
      ∀ column, column ≠ "*" → FiltersBy site.select column →
        TellOfFilter (deduplicate (statements.flatMap (statementRows tags maxDepth))) column := by
  have hshown : ∀ column, column ≠ "*" →
      (TellOfFilter (deduplicate (statements.flatMap (statementRows tags maxDepth))) column ↔
        ∃ s ∈ statements, ∃ select, FilterShown s maxDepth select ∧ FiltersBy select column) := by
    intro column hcolumn
    rw [tellOfFilter_deduplicate_iff hcolumn]
    constructor
    · rintro ⟨row, hrow, htells⟩
      obtain ⟨s, hs, hrow⟩ := List.mem_flatMap.mp hrow
      exact ⟨s, hs, tellOfFilter_statementRows_iff.mp ⟨row, hrow, htells⟩⟩
    · rintro ⟨s, hs, hselect⟩
      have htold : TellOfFilter (statementRows tags maxDepth s) column :=
        tellOfFilter_statementRows_iff.mpr hselect
      obtain ⟨row, hrow, htells⟩ := htold
      exact ⟨row, List.mem_flatMap.mpr ⟨s, hs, hrow⟩, htells⟩
  refine ⟨hshown, ?_⟩
  intro s hs haccount site hsite column hcolumn hfilters
  exact (hshown column hcolumn).mpr
    ⟨s, hs, site.select, filterShown_of_joinsAccount haccount hsite, hfilters⟩

end Output

/-- `SELECT y FROM parts WHERE column`. -/
def filteredBy (parts : List String) (column : String) : Select :=
  .plain [.expr (.column (.bare "y"))] [.bare parts] (some (.column (.bare column)))

/-- `SELECT x FROM db.t CROSS JOIN (body) AS w`. -/
def selectCrossJoined (body : Body) : Select :=
  { Select.plain [.expr (.column (.bare "x"))] [] none with
    sources := [⟨.bare ["db", "t"],
      [⟨.derived false (.ofBody body) (some ⟨true, .bare "w", []⟩) [], false, .cross, none,
        .none⟩]⟩] }

/-- The statement that is such a SELECT alone. -/
def crossJoined (body : Body) : Statement :=
  .query (.ofBody (.select (selectCrossJoined body)))

/-- `SELECT x FROM db.t CROSS JOIN (SELECT y FROM db.u WHERE p) AS w`. -/
def crossJoinedFiltered : Statement :=
  crossJoined (.select (filteredBy ["db", "u"] "p"))

theorem sites_crossJoinedFiltered : statementSites 1 crossJoinedFiltered =
    [⟨selectCrossJoined (.select (filteredBy ["db", "u"] "p")), none, false⟩,
      ⟨filteredBy ["db", "u"] "p", some "w", true⟩] :=
  rfl

theorem joinsAccount_crossJoinedFiltered : JoinsAccount crossJoinedFiltered 1 := by
  intro site hsite step hstep hjoin
  rw [sites_crossJoinedFiltered] at hsite
  rcases List.mem_cons.mp hsite with rfl | hsite
  · rw [List.mem_singleton.mp hstep]
    refine ⟨⟨_, _, _, _, _, List.mem_singleton_self _, rfl⟩, ?_⟩
    intro select hselect
    rw [List.mem_singleton.mp hselect]
    rfl
  · rw [List.mem_singleton.mp hsite] at hstep
    exact absurd hstep List.not_mem_nil

theorem filters_of_output_crossJoinedFiltered :
    JoinsAccount crossJoinedFiltered 1 ∧
      TellOfFilter (deduplicate ([crossJoinedFiltered].flatMap (statementRows ⟨"", "", ""⟩ 1)))
        "p" := by
  have hsite : ⟨filteredBy ["db", "u"] "p", some "w", true⟩ ∈
      statementSites 1 crossJoinedFiltered := by
    rw [sites_crossJoinedFiltered]
    simp
  exact ⟨joinsAccount_crossJoinedFiltered, (filters_of_output [crossJoinedFiltered] ⟨"", "", ""⟩
    1).2 _ List.mem_cons_self joinsAccount_crossJoinedFiltered _ hsite "p" (by decide)
      ⟨.column (.bare "p"), rfl, .simple "p", by decide, rfl⟩⟩

/-- `SELECT x FROM db.t CROSS JOIN (SELECT y FROM db.u WHERE p UNION SELECT y FROM db.v WHERE q) AS
w`. -/
def crossJoinedUnion : Statement :=
  crossJoined (.combined (.select (filteredBy ["db", "u"] "p")) "UNION"
    (.select (filteredBy ["db", "v"] "q")))

/-- Not every column of a filter comes out: that of a later branch of a joined subquery is lost. -/
theorem not_always_tellOfFilter :
    ¬ ∀ (statements : List Statement) (tags : Tags) (maxDepth : Nat), ∀ s ∈ statements,
      ∀ site ∈ statementSites maxDepth s, ∀ column, column ≠ "*" → FiltersBy site.select column →
        TellOfFilter (deduplicate (statements.flatMap (statementRows tags maxDepth))) column := by
  intro h
  have hsites : (statementSites 1 crossJoinedUnion)[2]? =
      some ⟨filteredBy ["db", "v"] "q", some "w", true⟩ := rfl
  obtain ⟨row, hrow, hcolumn, -⟩ := h [crossJoinedUnion] ⟨"", "", ""⟩ 1 _ List.mem_cons_self _
    (List.mem_of_getElem? hsites) "q" (by decide)
    ⟨.column (.bare "q"), rfl, .simple "q", by decide, rfl⟩
  revert row
  decide

end ColumnLineage.Lineage
