import ColumnLineage.Proofs.Emission

/-!
# SELECTs over one table

Where a SELECT reads one physical table and nothing else, its select list is attributed to that
table.  Its filters and its grouping are traced through the alias of the enclosing subquery first,
if there is one: they fall to the only table behind the alias, or to the alias itself where several
tables stand behind it.

## Main definitions

* `ReadsOnly`: a SELECT reads one physical table and nothing else.
* `Row.NamesThrough`: a row falls to what an alias stands for, or to a table where there is none.
* `NamedOnce`: a name is that of one source only.
* `FallsToTable`: where the references of a SELECT over one table fall.

## Main statements

* `fallsToTable_of_readsOnly`: where the references of such a SELECT fall.

## Design notes

A name may be given to several sources of a statement.  The first source found under it counts, so
that the alias of the enclosing subquery stands for this subquery only where no other source has it.
-/

namespace ColumnLineage.Lineage

open Sql

/-- A SELECT reads one physical table and nothing else. -/
def ReadsOnly (s : Statement) (select : Select) (key : TableKey) : Prop :=
  ∃ name arguments label extras, select.sources = [⟨.table name arguments label extras, []⟩] ∧
    TableKey.ofName name = key ∧ (CteCatalog.ofStatement s).reference? key = none

/-- A row names what an alias stands for, or a table where the alias stands for nothing. -/
def Row.NamesThrough (row : Row) (key : TableKey) : Option ScopeEntry → Prop
  | some entry => row.NamesEntry entry
  | none => row.Names key

/-- What the filter of a joined subquery is traced through: a single table behind the subquery is
taken as it is, else the alias is looked up. -/
def joinedEntry (c : CteCatalog) (scopes : Scopes) (query : Query) (label : String) :
    Option ScopeEntry :=
  if (c.singleBase query).any fun key => !key.table.isEmpty then none else scopes.lookup label

/-- An alias stands for a subquery over a table: what is found under it has this table behind it, or
no single table. -/
def StandsOver (scopes : Scopes) (key : TableKey) (label : String) : Prop :=
  ∃ entry, scopes.lookup label = some entry ∧ entry.label = label ∧
    (entry.base = some key ∨ entry.base = none)

/-- A name is that of at most one source. -/
def NamedOnce (visits : List Visit) (name : String) : Prop :=
  ∀ a b, .source a ∈ visits → .source b ∈ visits → scopeName a = some name →
    scopeName b = some name → a = b

section Select

variable {s : Statement} {select : Select} {key : TableKey}

/-- The local scope of a SELECT over one table holds the table alone. -/
theorem ReadsOnly.exists_sole (h : ReadsOnly s select key) :
    ∃ entry, (Scope.ofSelect (.ofStatement s) select).sole = some entry ∧
      entry.base = some key := by
  obtain ⟨name, arguments, label, extras, hsources, rfl, hphysical⟩ := h
  refine ⟨.physical (.ofName name) (aliasName label), ?_, rfl⟩
  have hitems : (select.sources.flatMap Scope.flatTree).filterMap
      (sourceEntry (.ofStatement s)) = [((aliasName label).getD (TableKey.ofName name).table,
        .physical (.ofName name) (aliasName label))] := by
    simp [hsources, Scope.flatTree, Scope.flatSources, Scope.flatJoins, sourceEntry, hphysical]
  rw [Scope.ofSelect, hitems]
  rfl

/-- The table of a SELECT over one table is met in it. -/
theorem ReadsOnly.mem_relationKeys (h : ReadsOnly s select key) :
    key ∈ relationKeys select.visits := by
  obtain ⟨name, arguments, label, extras, hsources, rfl, -⟩ := h
  refine Lineage.mem_relationKeys.mpr ⟨name, ?_, rfl⟩
  have htree := Select.tree_visits_subset (s := select) (by rw [hsources]; exact List.mem_cons_self)
  exact htree (by simp [FromTree.visits, Source.visits])

/-- A single table behind a query that holds a SELECT over one table is this table. -/
theorem ReadsOnly.eq_of_singleBase (h : ReadsOnly s select key) {query : Query}
    (hsub : select.visits ⊆ query.visits) {base : TableKey}
    (hbase : (CteCatalog.ofStatement s).singleBase query = some base) : base = key := by
  obtain ⟨-, -, -, -, -, -, hphysical⟩ := id h
  exact CteCatalog.eq_of_singleBase (relationKeys_subset hsub h.mem_relationKeys) hphysical hbase

/-- What is found among sources under a name of one source is what this source stands for. -/
theorem eq_of_namedOnce {c : CteCatalog} {visits : List Visit} {name : String}
    (honce : NamedOnce visits name) {source : Source} {entry : ScopeEntry}
    (hmet : .source source ∈ visits) (hentry : sourceEntry c source = some (name, entry))
    {sources : List Source} (hsources : ∀ other ∈ sources, .source other ∈ visits)
    {found : ScopeEntry} (hfound : (sources.filterMap (sourceEntry c)).lookup name = some found) :
    found = entry := by
  obtain ⟨other, hother, hothers⟩ := Scope.exists_source_of_lookup hfound
  obtain rfl := honce other source (hsources other hother) hmet
    (scopeName_of_sourceEntry hothers) (scopeName_of_sourceEntry hentry)
  exact (Prod.mk.inj (Option.some.inj (hothers.symm.trans hentry))).2

/-- The only source of a name is found under it, from wherever in the statement. -/
theorem lookup_of_namedOnce (hsub : select.visits ⊆ s.visits) {source : Source} {name : String}
    {entry : ScopeEntry} (hmet : .source source ∈ s.visits)
    (hentry : sourceEntry (.ofStatement s) source = some (name, entry))
    (honce : NamedOnce s.visits name) :
    Scopes.lookup ⟨.ofSelect (.ofStatement s) select, .ofStatement (.ofStatement s) s⟩ name =
      some entry := by
  have hname := scopeName_of_sourceEntry hentry
  unfold Scopes.lookup
  simp only
  rw [Scope.get?_ofSelect, Scope.get?_ofStatement hmet hname]
  -- The local scope is asked first, but under this name it can hold no other source either.
  cases hlocal : ((Scope.fromSources select).filterMap
      (sourceEntry (.ofStatement s))).lookup name with
  | some found =>
    have hsources : ∀ other ∈ Scope.fromSources select, .source other ∈ s.visits :=
      fun other hother => hsub (Scope.source_mem_of_mem_fromSources hother)
    rw [Option.some_or, eq_of_namedOnce honce hmet hentry hsources hlocal]
  | none =>
    obtain ⟨found, hglobal⟩ := Option.isSome_iff_exists.mp (Scope.lookup_sources_isSome
      (c := .ofStatement s) (Scope.mem_orderedSources.mpr hmet) hname)
    have hsources : ∀ other ∈ Scope.orderedSources s.visits, .source other ∈ s.visits :=
      fun other hother => Scope.mem_orderedSources.mp hother
    rw [Option.none_or, hglobal, eq_of_namedOnce honce hmet hentry hsources hglobal]

/-- The alias of a subquery stands for the subquery where it is named once: what is found under it
has the table of a SELECT in the subquery behind it, or no single table. -/
theorem ReadsOnly.standsOver (h : ReadsOnly s select key) {place : Select}
    (hsub : place.visits ⊆ s.visits) {label : String}
    (hencloses : Encloses s.visits label select.visits) (honce : NamedOnce s.visits label) :
    StandsOver ⟨.ofSelect (.ofStatement s) place, .ofStatement (.ofStatement s) s⟩ key label := by
  obtain ⟨lateral, query, name, extras, hmet, rfl, hinside⟩ := hencloses
  refine ⟨_, lookup_of_namedOnce hsub hmet rfl honce, rfl, ?_⟩
  cases hbase : (CteCatalog.ofStatement s).singleBase query with
  | some base => exact Or.inl (by rw [h.eq_of_singleBase hinside hbase])
  | none => exact Or.inr rfl

end Select

section Rows

variable {s : Statement} {tags : Tags} {maxDepth : Nat} {site : SelectSite} {key : TableKey}

/-- The references of the select list fall to the table. -/
theorem ReadsOnly.emits_item (honly : ReadsOnly s site.select key)
    (hsite : site ∈ statementSites maxDepth s) {item : SelectItem}
    (hitem : item ∈ site.select.items) {e : Expr} (hexpr : selectExprs.itemExpr? item = some e)
    (hrefs : columnRefs e ≠ []) :
    Emits s tags maxDepth (columnRefs e)
      (projectionRows tags (site.scopesIn s) site.enclosing (.ofItem item)) (·.Names key) := by
  obtain ⟨entry, hsole, hbase⟩ := honly.exists_sole
  refine ⟨SelectSite.projectionRows_subset hsite hitem, ?_⟩
  refine (reports_projectionRows tags (site.scopesIn s) site.enclosing hexpr hrefs).imp ?_
  intro ref row hreports
  refine ⟨hreports.column, ?_⟩
  intro href
  have hfound : projectionResolution (site.scopesIn s) site.enclosing ref = .found entry :=
    projectionResolution_of_sole hsole site.enclosing href
  have hnames := (hfound ▸ hreports).namesEntry
  simpa only [Row.NamesEntry, hbase] using hnames

/-- The references of a clause fall to what the enclosing alias stands for, or to the table. -/
theorem ReadsOnly.emits_clause (honly : ReadsOnly s site.select key)
    (hsite : site ∈ statementSites maxDepth s) (hjoin : site.underJoin = false) {remark : Remark}
    {e : Expr} (hclause : (remark, e) ∈ selectClauses site.select) :
    Emits s tags maxDepth (columnRefs e)
      (clauseRows tags (site.scopesIn s) site.enclosing remark e)
      (·.NamesThrough key (site.enclosing.bind (site.scopesIn s).lookup)) := by
  obtain ⟨entry, hsole, hbase⟩ := honly.exists_sole
  refine ⟨SelectSite.clauseRows_subset hsite hjoin hclause, ?_⟩
  refine (reports_clauseRows tags (site.scopesIn s) site.enclosing
    (tellsFailure_of_mem_selectClauses hclause) e).imp ?_
  intro ref row hreports
  refine ⟨hreports.column, ?_⟩
  intro href
  have hfound : (site.scopesIn s).resolve none site.enclosing =
      .found ((site.enclosing.bind (site.scopesIn s).lookup).getD entry) :=
    resolve_of_sole hsole site.enclosing
  rw [href, hfound] at hreports
  have hnames := hreports.namesEntry
  cases hlookup : site.enclosing.bind (site.scopesIn s).lookup with
  | some other => simpa only [Row.NamesThrough, hlookup, Option.getD_some] using hnames
  | none =>
    simpa only [Row.NamesThrough, Row.NamesEntry, hlookup, Option.getD_none, hbase] using hnames

/-- A row of the filter of a joined subquery names the single table behind the subquery if there is
one, and else what its reference is resolved to. -/
theorem namesThrough_given {scopes : Scopes} {query : Query} {label name : String}
    (hbase : ∀ base, (CteCatalog.ofStatement s).singleBase query = some base → base = key)
    {fallback : Option String} {remarks : List Remark} {ref : ColumnRef} {entry : ScopeEntry}
    (hentry : scopes.lookup name = some entry)
    (hresolved : (clauseRow tags scopes fallback remarks none ref).NamesEntry entry) :
    (clauseRow tags scopes fallback remarks (((CteCatalog.ofStatement s).singleBase query).map
      fun key => RowSource.mk key.database key.table label) ref).NamesThrough key
        (joinedEntry (.ofStatement s) scopes query name) := by
  unfold joinedEntry
  cases hsingle : (CteCatalog.ofStatement s).singleBase query with
  | none => simpa [hentry, Row.NamesThrough] using hresolved
  | some base =>
    obtain rfl := hbase base hsingle
    cases hempty : base.table.isEmpty with
    -- A base without a name is not given: the row is resolved as if there were none.
    | true => simpa [hempty, hentry, clauseRow, Row.NamesThrough] using hresolved
    | false => simp [hempty, clauseRow, Row.NamesThrough, Row.Names]

/-- A reference of the filter of a joined subquery falls to the single table behind the subquery, or
to what its alias stands for. -/
theorem namesThrough_clauseRow {scopes : Scopes} {query : Query} {label : String}
    (hbase : ∀ base, (CteCatalog.ofStatement s).singleBase query = some base → base = key)
    (hlabel : (scopes.lookup label).isSome) {remarks : List Remark}
    (hremarks : ∀ remark ∈ remarks, remark.tellsFailure = false) {ref : ColumnRef}
    (href : ref.qualifier = none) :
    (clauseRow tags scopes (some label) remarks (((CteCatalog.ofStatement s).singleBase query).map
      fun key => RowSource.mk key.database key.table label) ref).NamesThrough key
        (joinedEntry (.ofStatement s) scopes query label) := by
  obtain ⟨entry, hentry⟩ := Option.isSome_iff_exists.mp hlabel
  refine namesThrough_given hbase hentry ?_
  have hreports := reports_clauseRow tags scopes (some label) hremarks ref
  have hfound : scopes.resolve ref.qualifier (some label) = .found entry := by
    simp [Scopes.resolve, href, hentry]
  exact (hfound ▸ hreports).namesEntry

/-- The filter of a joined subquery over a table falls to the table or to what the alias of the
subquery stands for. -/
theorem ReadsOnly.emits_joined {select : Select} (honly : ReadsOnly s select key)
    (hsite : site ∈ statementSites maxDepth s) {left : Option String} {join : Join}
    (hlink : (left, join) ∈ fromJoins site.select) {lateral : Bool} {query : Query} {label : Alias}
    {extras : List Node} (hrelation : join.relation = .derived lateral query (some label) extras)
    (hfirst : firstSelect query = some select) {filter : Expr}
    (hfilter : select.filter = some filter) :
    Emits s tags maxDepth (columnRefs filter)
      (joinedFilterRows tags (.ofStatement s) (site.scopesIn s) (joinKind join.operator)
        join.relation)
      (·.NamesThrough key
        (joinedEntry (.ofStatement s) (site.scopesIn s) query label.name.value)) := by
  have hinside := firstSelect_visits_subset query hfirst
  have hmet := source_mem_of_mem_fromJoins hsite hlink
  have hlabel : ((site.scopesIn s).lookup label.name.value).isSome := by
    have hname : scopeName join.relation = some label.name.value := by
      rw [hrelation]
      rfl
    have hglobal := Scope.get?_ofStatement_isSome (c := .ofStatement s) hmet hname
    simp [Scopes.lookup, SelectSite.scopesIn, SelectSite.scopes, hglobal]
  constructor
  · exact SelectSite.joinedFilterRows_subset hsite hlink
  · simp only [hrelation, joinedFilterRows, hfirst, Option.bind_some, hfilter]
    refine List.forall₂_map_right_iff.mpr (List.forall₂_same.mpr fun ref _ => ?_)
    refine ⟨column_clauseRow _ _ _ _ _ _, ?_⟩
    exact namesThrough_clauseRow (fun base => honly.eq_of_singleBase hinside) hlabel
      (by simp [Remark.tellsFailure])

/-- Where the references of a SELECT over one table fall. -/
structure FallsToTable (s : Statement) (tags : Tags) (maxDepth : Nat) (site : SelectSite)
    (key : TableKey) : Prop where
  /-- Those of the select list fall to the table. -/
  items : ∀ item ∈ site.select.items, ∀ e, selectExprs.itemExpr? item = some e →
    columnRefs e ≠ [] → Emits s tags maxDepth (columnRefs e)
      (projectionRows tags (site.scopesIn s) site.enclosing (.ofItem item)) (·.Names key)
  /-- Those of the filters and the grouping fall to what the alias of the enclosing subquery stands
  for, and to the table where there is no such alias. -/
  clauses : site.underJoin = false → ∀ remark e, (remark, e) ∈ selectClauses site.select →
    Emits s tags maxDepth (columnRefs e)
      (clauseRows tags (site.scopesIn s) site.enclosing remark e)
      (·.NamesThrough key (site.enclosing.bind (site.scopesIn s).lookup))
  /-- The alias of the enclosing subquery stands for that subquery if it is named once. -/
  enclosing : ∀ label, site.enclosing = some label → NamedOnce s.visits label →
    StandsOver (site.scopesIn s) key label
  /-- Where the SELECT is the first of a joined subquery, the references of its filter fall to the
  table if no other table stands behind the subquery, and else to what its alias stands for. -/
  joined : ∀ joining ∈ statementSites maxDepth s, ∀ left join,
    (left, join) ∈ fromJoins joining.select → ∀ lateral query label extras,
      join.relation = .derived lateral query (some label) extras →
      firstSelect query = some site.select → ∀ filter, site.select.filter = some filter →
        Emits s tags maxDepth (columnRefs filter)
          (joinedFilterRows tags (.ofStatement s) (joining.scopesIn s) (joinKind join.operator)
            join.relation)
          (·.NamesThrough key
            (joinedEntry (.ofStatement s) (joining.scopesIn s) query label.name.value)) ∧
        (NamedOnce s.visits label.name.value →
          StandsOver (joining.scopesIn s) key label.name.value)

/-- A SELECT over one physical table has its select list attributed to the table, and its clauses to
what the alias of the enclosing subquery stands for, else to the table. -/
theorem fallsToTable_of_readsOnly (s : Statement) (tags : Tags) (maxDepth : Nat) (site : SelectSite)
    (key : TableKey) (hsite : site ∈ statementSites maxDepth s)
    (honly : ReadsOnly s site.select key) : FallsToTable s tags maxDepth site key where
  items item hitem e hexpr hrefs := honly.emits_item hsite hitem hexpr hrefs
  clauses hjoin remark e hclause := honly.emits_clause hsite hjoin hclause
  enclosing label hlabel honce :=
    have hwithin := within_of_mem_statementSites hsite
    honly.standsOver (hwithin.select.visits_subset s.closed_visits)
      (hwithin.enclosing label hlabel) honce
  joined joining hjoining left join hlink lateral query label extras hrelation hfirst filter
      hfilter := by
    refine ⟨honly.emits_joined hjoining hlink hrelation hfirst hfilter, ?_⟩
    intro honce
    have hsub := (within_of_mem_statementSites hjoining).select.visits_subset s.closed_visits
    have hmet := source_mem_of_mem_fromJoins hjoining hlink
    rw [hrelation] at hmet
    exact honly.standsOver hsub
      ⟨lateral, query, label, extras, hmet, rfl, firstSelect_visits_subset query hfirst⟩ honce

end Rows

/-- `SELECT a FROM db.t1 WHERE x IN (SELECT y FROM db.t2)`. -/
def selectFilteredByOther : Select :=
  .plain [.expr (.column (.bare "a"))] [.bare ["db", "t1"]]
    (some (.plain [Expr.column (.bare "x"), " IN (", Node.query (.ofBody (.select
      (.plain [.expr (.column (.bare "y"))] [.bare ["db", "t2"]] none))), ")"]))

/-- `SELECT * FROM (SELECT a FROM db.t1 WHERE x IN (SELECT y FROM db.t2)) AS w`. -/
def subqueryFilteredByOther : Statement :=
  .query (.ofBody (.select (.plain [.star []] [.subquery selectFilteredByOther "w"] none)))

theorem mem_sites_subqueryFilteredByOther :
    ⟨selectFilteredByOther, some "w", false⟩ ∈ statementSites 10 subqueryFilteredByOther := by
  have hsites : (statementSites 10 subqueryFilteredByOther)[1]? =
      some ⟨selectFilteredByOther, some "w", false⟩ := rfl
  exact List.mem_of_getElem? hsites

theorem readsOnly_selectFilteredByOther :
    ReadsOnly subqueryFilteredByOther selectFilteredByOther ⟨"db", "t1"⟩ :=
  ⟨_, _, _, _, rfl, rfl, rfl⟩

theorem fallsToTable_subqueryFilteredByOther :
    ⟨selectFilteredByOther, some "w", false⟩ ∈ statementSites 10 subqueryFilteredByOther ∧
      ReadsOnly subqueryFilteredByOther selectFilteredByOther ⟨"db", "t1"⟩ ∧
      FallsToTable subqueryFilteredByOther ⟨"", "", ""⟩ 10
        ⟨selectFilteredByOther, some "w", false⟩ ⟨"db", "t1"⟩ :=
  ⟨mem_sites_subqueryFilteredByOther, readsOnly_selectFilteredByOther,
    fallsToTable_of_readsOnly _ _ _ _ _ mem_sites_subqueryFilteredByOther
      readsOnly_selectFilteredByOther⟩

/-- The filter of a SELECT over one table does not always fall to that table: the alias of the
enclosing subquery is tried first, and two tables stand behind it here. -/
theorem filter_not_always_to_only_table :
    ¬ ∀ (s : Statement) (tags : Tags) (maxDepth : Nat) (site : SelectSite) (key : TableKey),
      site ∈ statementSites maxDepth s → ReadsOnly s site.select key → site.underJoin = false →
      ∀ remark e, (remark, e) ∈ selectClauses site.select →
        Emits s tags maxDepth (columnRefs e)
          (clauseRows tags (site.scopesIn s) site.enclosing remark e) (·.Names key) := by
  intro h
  obtain ⟨-, hrows⟩ := h subqueryFilteredByOther ⟨"", "", ""⟩ 10
    ⟨selectFilteredByOther, some "w", false⟩ ⟨"db", "t1"⟩ mem_sites_subqueryFilteredByOther
    readsOnly_selectFilteredByOther rfl .whereClauseColumn _ List.mem_cons_self
  obtain ⟨-, hnames⟩ := (List.forall₂_cons.mp hrows).1
  exact absurd (hnames rfl).1 (by decide)

end ColumnLineage.Lineage
