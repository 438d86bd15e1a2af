import ColumnLineage.Proofs.SingleSource

/-!
# Qualified references

A qualifier that names one source of a SELECT's own FROM clause stands for that source, whatever
else in the statement has the name: the local scope is asked first.  The filter of a joined subquery
is the exception.  Its join resolves it, in the scopes of the SELECT that joins, so that the qualifier
stands for what this SELECT finds under the name, unless a single table stands behind the subquery.

## Main definitions

* `Qualifies`: a name is that of one source of a SELECT, which is a physical table.
* `EmitsUnder`: a statement has one row for each of some references, with a fact about those under a
  qualifier.
* `FollowsQualifier`: where the references under such a name fall.

## Main statements

* `followsQualifier_of_qualifies`: where they fall, for every SELECT that is reached.
-/

namespace ColumnLineage.Lineage

open Sql

/-- A name is that of exactly one source of the FROM clause of a SELECT, and this source is a
physical table. -/
def Qualifies (s : Statement) (select : Select) (q : String) (key : TableKey) : Prop :=
  ∃ name arguments label extras,
    (Scope.fromSources select).filter (fun source => scopeName source = some q) =
        [.table name arguments label extras] ∧
      TableKey.ofName name = key ∧ (CteCatalog.ofStatement s).reference? key = none

/-- Some rows are rows of a statement, one for each of some references, and those of references
under a qualifier satisfy `P`. -/
def EmitsUnder (s : Statement) (tags : Tags) (maxDepth : Nat) (q : String) (refs : List ColumnRef)
    (rows : List Row) (P : Row → Prop) : Prop :=
  rows ⊆ statementRows tags maxDepth s ∧
    List.Forall₂ (fun ref row => row.column = ref.column ∧ (ref.qualifier = some q → P row)) refs
      rows

section Select

variable {s : Statement} {select : Select} {q : String} {key : TableKey}

/-- The table that a qualifier names stands in the FROM clause, and no other source has the name. -/
theorem Qualifies.exists_table (h : Qualifies s select q key) :
    ∃ name arguments label extras,
      .table name arguments label extras ∈ Scope.fromSources select ∧
        (TableKey.ofName name = key ∧ (CteCatalog.ofStatement s).reference? key = none) ∧
        scopeName (.table name arguments label extras) = some q ∧
        ∀ other ∈ Scope.fromSources select, scopeName other = some q →
          other = .table name arguments label extras := by
  obtain ⟨name, arguments, label, extras, hfilter, hkey⟩ := h
  have hmem : ∀ source, source ∈ Scope.fromSources select ∧ scopeName source = some q ↔
      source = .table name arguments label extras := by
    intro source
    have hone := List.mem_singleton (a := source) (b := .table name arguments label extras)
    rwa [← hfilter, List.mem_filter, decide_eq_true_iff] at hone
  obtain ⟨hsource, hname⟩ := (hmem _).mpr rfl
  exact ⟨name, arguments, label, extras, hsource, hkey, hname,
    fun other hother hothers => (hmem other).mp ⟨hother, hothers⟩⟩

/-- The source that a qualifier names has its table behind it. -/
theorem Qualifies.exists_source (h : Qualifies s select q key) :
    ∃ source ∈ Scope.fromSources select, ∃ entry,
      sourceEntry (.ofStatement s) source = some (q, entry) ∧ entry.base = some key ∧
        ∀ other ∈ Scope.fromSources select, scopeName other = some q → other = source := by
  obtain ⟨name, arguments, label, extras, hsource, ⟨rfl, hphysical⟩, hname, hone⟩ := h.exists_table
  refine ⟨_, hsource, .physical (.ofName name) (aliasName label), ?_, rfl, hone⟩
  have hlabel : (aliasName label).getD (TableKey.ofName name).table = q := Option.some.inj hname
  simp [sourceEntry, hphysical, hlabel]

/-- The local scope holds the table under its qualifier. -/
theorem Qualifies.exists_local (h : Qualifies s select q key) :
    ∃ entry, (Scope.ofSelect (.ofStatement s) select).get? q = some entry ∧
      entry.base = some key := by
  obtain ⟨source, hsource, entry, hentry, hbase, hone⟩ := h.exists_source
  obtain ⟨found, hfound⟩ := Option.isSome_iff_exists.mp (Scope.lookup_sources_isSome
    (c := .ofStatement s) hsource (scopeName_of_sourceEntry hentry))
  obtain ⟨other, hother, hothers⟩ := Scope.exists_source_of_lookup hfound
  obtain rfl := hone other hother (scopeName_of_sourceEntry hothers)
  obtain ⟨-, rfl⟩ := Prod.mk.inj (Option.some.inj (hothers.symm.trans hentry))
  exact ⟨found, (Scope.get?_ofSelect _ _ _).trans hfound, hbase⟩

/-- A single table behind a query that holds the SELECT is the table of the qualifier. -/
theorem Qualifies.eq_of_singleBase (h : Qualifies s select q key) {query : Query}
    (hsub : select.visits ⊆ query.visits) {base : TableKey}
    (hbase : (CteCatalog.ofStatement s).singleBase query = some base) : base = key := by
  obtain ⟨name, arguments, label, extras, hsource, ⟨hname, hphysical⟩, -⟩ := h.exists_table
  have hmet := query.closed_visits.relation_of_table
    (hsub (Scope.source_mem_of_mem_fromSources hsource))
  exact CteCatalog.eq_of_singleBase (mem_relationKeys.mpr ⟨name, hmet, hname⟩) hphysical hbase

end Select

section Rows

variable {s : Statement} {tags : Tags} {maxDepth : Nat} {site : SelectSite} {q : String}
  {key : TableKey}

/-- A reference under the qualifier resolves to its table in the scopes of the SELECT. -/
theorem Qualifies.exists_resolve (h : Qualifies s site.select q key) {ref : ColumnRef}
    (href : ref.qualifier = some q) : ∃ entry, entry.base = some key ∧
      (∀ fallback, (site.scopesIn s).resolve ref.qualifier fallback = .found entry) ∧
        projectionResolution (site.scopesIn s) site.enclosing ref = .found entry := by
  obtain ⟨entry, hlocal, hbase⟩ := h.exists_local
  have hresolve : ∀ fallback,
      (site.scopesIn s).resolve ref.qualifier fallback = .found entry := by
    intro fallback
    -- The local scope is asked first, so that no other source of the statement comes in.
    have hlookup : (site.scopesIn s).lookup q = some entry := by
      unfold Scopes.lookup
      rw [show (site.scopesIn s).inner.get? q = some entry from hlocal, Option.some_or]
    simp [Scopes.resolve, href, hlookup]
  refine ⟨entry, hbase, hresolve, ?_⟩
  unfold projectionResolution
  rw [hresolve]

/-- A row that reports such a reference names the table. -/
theorem names_of_reports_found {row : Row} {ref : ColumnRef} {entry : ScopeEntry}
    (hreports : row.Reports ref (.found entry)) (hbase : entry.base = some key) :
    row.Names key := by
  simpa only [Row.NamesEntry, hbase] using hreports.namesEntry

/-- References of the select list under the qualifier fall to its table. -/
theorem Qualifies.emits_item (h : Qualifies s site.select q key)
    (hsite : site ∈ statementSites maxDepth s) {item : SelectItem}
    (hitem : item ∈ site.select.items) {e : Expr} (hexpr : selectExprs.itemExpr? item = some e)
    (hrefs : columnRefs e ≠ []) :
    EmitsUnder s tags maxDepth q (columnRefs e)
      (projectionRows tags (site.scopesIn s) site.enclosing (.ofItem item)) (·.Names key) := by
  refine ⟨SelectSite.projectionRows_subset hsite hitem, ?_⟩
  refine (reports_projectionRows tags (site.scopesIn s) site.enclosing hexpr hrefs).imp ?_
  intro ref row hreports
  refine ⟨hreports.column, ?_⟩
  intro href
  obtain ⟨entry, hbase, -, hfound⟩ := h.exists_resolve href
  exact names_of_reports_found (hfound ▸ hreports) hbase

/-- References of a clause under the qualifier fall to its table. -/
theorem Qualifies.emits_clause (h : Qualifies s site.select q key)
    (hsite : site ∈ statementSites maxDepth s) (hjoin : site.underJoin = false) {remark : Remark}
    {e : Expr} (hclause : (remark, e) ∈ selectClauses site.select) :
    EmitsUnder s tags maxDepth q (columnRefs e)
      (clauseRows tags (site.scopesIn s) site.enclosing remark e) (·.Names key) := by
  refine ⟨SelectSite.clauseRows_subset hsite hjoin hclause, ?_⟩
  refine (reports_clauseRows tags (site.scopesIn s) site.enclosing
    (tellsFailure_of_mem_selectClauses hclause) e).imp ?_
  intro ref row hreports
  refine ⟨hreports.column, ?_⟩
  intro href
  obtain ⟨entry, hbase, hfound, -⟩ := h.exists_resolve href
  exact names_of_reports_found (hfound _ ▸ hreports) hbase

/-- References of the predicate of a join under the qualifier fall to its table. -/
theorem Qualifies.emits_predicate (h : Qualifies s site.select q key)
    (hsite : site ∈ statementSites maxDepth s) {left : Option String} {join : Join}
    (hlink : (left, join) ∈ fromJoins site.select) {predicate : Expr}
    (hpredicate : tracedConstraint join = .on predicate) :
    EmitsUnder s tags maxDepth q (columnRefs predicate ++ equalityOperands predicate)
      (constraintRows tags (site.scopesIn s) (joinKind join.operator) left
        (sourceName join.relation) (tracedConstraint join)) (·.Names key) := by
  refine ⟨SelectSite.constraintRows_subset hsite hlink, ?_⟩
  rw [hpredicate]
  refine (reports_predicateRows tags (site.scopesIn s) _ left _ predicate).imp ?_
  intro ref row hreports
  refine ⟨hreports.column, ?_⟩
  intro href
  obtain ⟨entry, hbase, hfound, -⟩ := h.exists_resolve href
  exact names_of_reports_found (hfound _ ▸ hreports) hbase

/-- A name of one source only is found to stand for this source from wherever in the statement. -/
theorem Qualifies.lookup_of_namedOnce (h : Qualifies s site.select q key)
    (hsite : site ∈ statementSites maxDepth s) {joining : SelectSite}
    (hjoining : joining ∈ statementSites maxDepth s) (honce : NamedOnce s.visits q) :
    ∃ entry, (joining.scopesIn s).lookup q = some entry ∧ entry.base = some key := by
  obtain ⟨source, hsource, entry, hentry, hbase, -⟩ := h.exists_source
  have hsub := (within_of_mem_statementSites hjoining).select.visits_subset s.closed_visits
  exact ⟨entry, Lineage.lookup_of_namedOnce hsub (source_mem_of_mem_site hsite hsource) hentry honce,
    hbase⟩

/-- The references of the filter of a joined subquery under the qualifier fall to the single table
behind the subquery, or to what the joining SELECT finds under the qualifier. -/
theorem Qualifies.namesThrough_clauseRow (h : Qualifies s site.select q key) (tags : Tags)
    (scopes : Scopes) (hsite : site ∈ statementSites maxDepth s)
    (houter : scopes.outer = .ofStatement (.ofStatement s) s) {query : Query}
    (hsub : site.select.visits ⊆ query.visits) (label : String) {remarks : List Remark}
    (hremarks : ∀ remark ∈ remarks, remark.tellsFailure = false) {ref : ColumnRef}
    (href : ref.qualifier = some q) :
    (clauseRow tags scopes (some label) remarks (((CteCatalog.ofStatement s).singleBase query).map
      fun key => RowSource.mk key.database key.table label) ref).NamesThrough key
        (joinedEntry (.ofStatement s) scopes query q) := by
  obtain ⟨source, hsource, own, hown, -⟩ := h.exists_source
  have hglobal : (scopes.outer.get? q).isSome := by
    rw [houter]
    exact Scope.get?_ofStatement_isSome (source_mem_of_mem_site hsite hsource)
      (scopeName_of_sourceEntry hown)
  obtain ⟨entry, hentry⟩ : ∃ entry, scopes.lookup q = some entry := by
    refine Option.isSome_iff_exists.mp ?_
    simp [Scopes.lookup, hglobal]
  refine namesThrough_given (fun base => h.eq_of_singleBase hsub) hentry ?_
  have hreports := reports_clauseRow tags scopes (some label) hremarks ref
  have hfound : scopes.resolve ref.qualifier (some label) = .found entry := by
    simp [Scopes.resolve, href, hentry]
  exact (hfound ▸ hreports).namesEntry

/-- The filter of a joined subquery falls to the table of the qualifier where no other table stands
behind the subquery or no other source has the name. -/
theorem Qualifies.emits_joined (h : Qualifies s site.select q key)
    (hsite : site ∈ statementSites maxDepth s) {joining : SelectSite}
    (hjoining : joining ∈ statementSites maxDepth s) {left : Option String} {join : Join}
    (hlink : (left, join) ∈ fromJoins joining.select) {lateral : Bool} {query : Query}
    {label : Alias} {extras : List Node}
    (hrelation : join.relation = .derived lateral query (some label) extras)
    (hfirst : firstSelect query = some site.select) {filter : Expr}
    (hfilter : site.select.filter = some filter) :
    EmitsUnder s tags maxDepth q (columnRefs filter)
      (joinedFilterRows tags (.ofStatement s) (joining.scopesIn s) (joinKind join.operator)
        join.relation)
      fun row =>
        row.NamesThrough key (joinedEntry (.ofStatement s) (joining.scopesIn s) query q) ∧
          (NamedOnce s.visits q → row.Names key) := by
  constructor
  · exact SelectSite.joinedFilterRows_subset hjoining hlink
  · simp only [hrelation, joinedFilterRows, hfirst, Option.bind_some, hfilter]
    refine List.forall₂_map_right_iff.mpr (List.forall₂_same.mpr fun ref _ => ?_)
    refine ⟨column_clauseRow _ _ _ _ _ _, ?_⟩
    intro href
    have hremarks : ∀ remark ∈ [Remark.joinSubqueryWhereColumn,
        .joinType (joinKind join.operator)], remark.tellsFailure = false := by
      simp [Remark.tellsFailure]
    have hthrough := h.namesThrough_clauseRow tags (joining.scopesIn s) hsite rfl
      (firstSelect_visits_subset query hfirst) label.name.value hremarks href
    refine ⟨hthrough, ?_⟩
    intro honce
    obtain ⟨entry, hentry, hbase⟩ := h.lookup_of_namedOnce hsite hjoining honce
    unfold joinedEntry at hthrough
    split at hthrough
    · exact hthrough
    · simpa only [hentry, Row.NamesThrough, Row.NamesEntry, hbase] using hthrough

/-- Where the references of a SELECT under a qualifier fall that names a table of its own. -/
structure FollowsQualifier (s : Statement) (tags : Tags) (maxDepth : Nat) (site : SelectSite)
    (q : String) (key : TableKey) : Prop where
  /-- Those of the select list fall to the table. -/
  items : ∀ item ∈ site.select.items, ∀ e, selectExprs.itemExpr? item = some e →
    columnRefs e ≠ [] → EmitsUnder s tags maxDepth q (columnRefs e)
      (projectionRows tags (site.scopesIn s) site.enclosing (.ofItem item)) (·.Names key)
  /-- Those of the filters and the grouping fall to the table. -/
  clauses : site.underJoin = false → ∀ remark e, (remark, e) ∈ selectClauses site.select →
    EmitsUnder s tags maxDepth q (columnRefs e)
      (clauseRows tags (site.scopesIn s) site.enclosing remark e) (·.Names key)
  /-- Those of the predicates of joins fall to the table. -/
  predicates : ∀ left join, (left, join) ∈ fromJoins site.select → ∀ predicate,
    tracedConstraint join = .on predicate →
      EmitsUnder s tags maxDepth q (columnRefs predicate ++ equalityOperands predicate)
        (constraintRows tags (site.scopesIn s) (joinKind join.operator) left
          (sourceName join.relation) (tracedConstraint join)) (·.Names key)
  /-- Where the SELECT is the first of a joined subquery, those of its filter fall to the table if
  no other table stands behind the subquery or no other source of the statement has the name; else
  they fall to what the joining SELECT finds under the name. -/
  joined : ∀ joining ∈ statementSites maxDepth s, ∀ left join,
    (left, join) ∈ fromJoins joining.select → ∀ lateral query label extras,
      join.relation = .derived lateral query (some label) extras →
      firstSelect query = some site.select → ∀ filter, site.select.filter = some filter →
        EmitsUnder s tags maxDepth q (columnRefs filter)
          (joinedFilterRows tags (.ofStatement s) (joining.scopesIn s) (joinKind join.operator)
            join.relation)
          fun row =>
            row.NamesThrough key (joinedEntry (.ofStatement s) (joining.scopesIn s) query q) ∧
              (NamedOnce s.visits q → row.Names key)

/-- References under a qualifier that names one source of the SELECT's own FROM clause, a physical
table, fall to this table, except in the filter of a joined subquery, which is left to the joining
SELECT. -/
theorem followsQualifier_of_qualifies (s : Statement) (tags : Tags) (maxDepth : Nat)
    (site : SelectSite) (q : String) (key : TableKey) (hsite : site ∈ statementSites maxDepth s)
    (h : Qualifies s site.select q key) : FollowsQualifier s tags maxDepth site q key where
  items _ hitem _ hexpr hrefs := h.emits_item hsite hitem hexpr hrefs
  clauses hjoin _ _ hclause := h.emits_clause hsite hjoin hclause
  predicates _ _ hlink _ hpredicate := h.emits_predicate hsite hlink hpredicate
  joined _ hjoining _ _ hlink _ _ _ _ hrelation hfirst _ hfilter :=
    h.emits_joined hsite hjoining hlink hrelation hfirst hfilter

end Rows

/-- A table with an alias. -/
def aliasedTable (parts : List String) (label : String) : Source :=
  .table (.ofIdents (parts.map .bare)) [] (some ⟨true, .bare label, []⟩) []

/-- `SELECT t.k FROM sources WHERE t.y`. -/
def filteredUnder (sources : List Source) : Select :=
  .plain [.expr (.path [.bare "t", .bare "k"])] sources (some (.path [.bare "t", .bare "y"]))

/-- `SELECT t.x FROM db.a AS t CROSS JOIN (SELECT t.k FROM sources WHERE t.y) AS w`. -/
def selectJoiningUnder (sources : List Source) : Select :=
  { Select.plain [.expr (.path [.bare "t", .bare "x"])] [] none with
    sources := [⟨aliasedTable ["db", "a"] "t",
      [⟨.subquery (filteredUnder sources) "w", false, .cross, none, .none⟩]⟩] }

/-- The statement in which the joined subquery reads `db.b` under the alias of `db.a`. -/
def joiningTable : Statement :=
  .query (.ofBody (.select (selectJoiningUnder [aliasedTable ["db", "b"] "t"])))

theorem followsQualifier_joiningTable :
    ⟨filteredUnder [aliasedTable ["db", "b"] "t"], some "w", true⟩ ∈
        statementSites 1 joiningTable ∧
      Qualifies joiningTable (filteredUnder [aliasedTable ["db", "b"] "t"]) "t" ⟨"db", "b"⟩ ∧
      FollowsQualifier joiningTable ⟨"", "", ""⟩ 1
        ⟨filteredUnder [aliasedTable ["db", "b"] "t"], some "w", true⟩ "t" ⟨"db", "b"⟩ := by
  have hsites : (statementSites 1 joiningTable)[1]? =
      some ⟨filteredUnder [aliasedTable ["db", "b"] "t"], some "w", true⟩ := rfl
  have hqualifies : Qualifies joiningTable (filteredUnder [aliasedTable ["db", "b"] "t"]) "t"
      ⟨"db", "b"⟩ := ⟨_, _, _, _, rfl, rfl, rfl⟩
  exact ⟨List.mem_of_getElem? hsites, hqualifies, followsQualifier_of_qualifies joiningTable
    ⟨"", "", ""⟩ 1 _ "t" ⟨"db", "b"⟩ (List.mem_of_getElem? hsites) hqualifies⟩

/-- The statement in which the joined subquery reads `db.b` under the alias of `db.a`, and `db.c`
beside it. -/
def joiningTables : Statement :=
  .query (.ofBody (.select
    (selectJoiningUnder [aliasedTable ["db", "b"] "t", aliasedTable ["db", "c"] "u"])))

/-- The own table of a joined subquery does not always win in its filter: the joining SELECT takes
the qualifier for its own table. -/
theorem joined_filter_not_always_to_qualified_table :
    ¬ ∀ (s : Statement) (tags : Tags) (maxDepth : Nat) (site : SelectSite) (q : String)
      (key : TableKey), site ∈ statementSites maxDepth s → Qualifies s site.select q key →
      ∀ joining ∈ statementSites maxDepth s, ∀ left join,
        (left, join) ∈ fromJoins joining.select → ∀ lateral query label extras,
          join.relation = .derived lateral query (some label) extras →
          firstSelect query = some site.select → ∀ filter, site.select.filter = some filter →
            EmitsUnder s tags maxDepth q (columnRefs filter)
              (joinedFilterRows tags (.ofStatement s) (joining.scopesIn s)
                (joinKind join.operator) join.relation) (·.Names key) := by
  intro h
  have hjoining : (statementSites 1 joiningTables)[0]? = some ⟨selectJoiningUnder
      [aliasedTable ["db", "b"] "t", aliasedTable ["db", "c"] "u"], none, false⟩ := rfl
  have hsites : (statementSites 1 joiningTables)[1]? = some ⟨filteredUnder
      [aliasedTable ["db", "b"] "t", aliasedTable ["db", "c"] "u"], some "w", true⟩ := rfl
  obtain ⟨-, hrows⟩ := h joiningTables ⟨"", "", ""⟩ 1 _ "t" ⟨"db", "b"⟩
    (List.mem_of_getElem? hsites) ⟨_, _, _, _, rfl, rfl, rfl⟩ _ (List.mem_of_getElem? hjoining)
    _ _ (List.mem_singleton_self _) _ _ _ _ rfl rfl _ rfl
  obtain ⟨-, hnames⟩ := (List.forall₂_cons.mp hrows).1
  exact absurd (hnames rfl).2 (by decide)

end ColumnLineage.Lineage
