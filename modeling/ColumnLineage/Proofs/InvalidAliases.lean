import ColumnLineage.Proofs.Nesting
import ColumnLineage.Proofs.Qualifiers
import ColumnLineage.Proofs.SelectLists

/-!
# Invalid aliases

A qualifier counts as an invalid alias if it names no table, no subquery and no definition anywhere
in the statement.  Unnested arrays, pivots, joins in parentheses and the like are in no scope, so
that the alias of one of these is invalid unless something else has the name.

## Main definitions

* `Known`: a name is that of a table, a subquery or a definition in a statement.
* `Declared`, `declaredAlias`: the sources of a FROM clause of every kind, and their aliases.
* `TellsUnknown`: the remark on invalid aliases stands where a qualifier is not known.

## Main statements

* `tellsUnknown_of_site`: which rows have the remark, and which aliases are known.
-/

namespace ColumnLineage.Lineage

open Sql

/-- A name is that of a table or a subquery anywhere in a statement, or of a definition. -/
def Known (s : Statement) (name : String) : Prop :=
  (∃ source, .source source ∈ s.visits ∧ scopeName source = some name) ∨
    name ∈ definedNames s.visits

/-- A source stands in the FROM clause of a SELECT outside nested queries, be it joined, in
parentheses, or in a pivot. -/
def Declared (select : Select) (source : Source) : Prop :=
  .source source ∈ surface (visitTrees select.sources)

/-- The alias of a source of any kind. -/
def declaredAlias : Source → Option String
  | .table _ _ label _ => aliasName label
  | .derived _ _ label _ => aliasName label
  | .joined _ label => aliasName label
  | .other _ _ label => aliasName label

/-- A source is a table or a subquery. -/
def isScoped : Source → Bool
  | .table .. | .derived .. => true
  | .joined .. | .other .. => false

section Names

variable {s : Statement} {maxDepth : Nat} {site : SelectSite} {q : String}

/-- A scope holds tables and subqueries under their aliases. -/
theorem scopeName_of_declaredAlias {source : Source} (hscoped : isScoped source)
    (halias : declaredAlias source = some q) : scopeName source = some q := by
  cases source with
  | table name arguments label extras =>
    have hlabel : aliasName label = some q := halias
    simp [scopeName, hlabel]
  | derived lateral query label extras => exact halias
  | joined tree label => simp [isScoped] at hscoped
  | other layout parts label => simp [isScoped] at hscoped

/-- The sources of a FROM clause are met in the statement. -/
theorem source_mem_of_declared (hsite : site ∈ statementSites maxDepth s) {source : Source}
    (h : Declared site.select source) : .source source ∈ s.visits := by
  have htrees : .source source ∈ visitTrees site.select.sources :=
    (mem_iff_of_balanced (balanced_visitTrees _)).mpr (Or.inl ⟨rfl, h⟩)
  rw [visitTrees_eq_flatMap] at htrees
  obtain ⟨tree, htree, hmet⟩ := List.mem_flatMap.mp htrees
  have hsub := (within_of_mem_statementSites hsite).select.visits_subset s.closed_visits
  exact hsub (Select.tree_visits_subset htree hmet)

/-- The global scope has the names that are known. -/
theorem get?_ofStatement_isSome_iff :
    ((Scope.ofStatement (.ofStatement s) s).get? q).isSome ↔ Known s q := by
  have hnames : ((CteCatalog.ofStatement s).names.map fun name =>
      (name, (⟨.cte, (CteCatalog.ofStatement s).cteBase name, name⟩ : ScopeEntry))).map Prod.fst =
        (CteCatalog.ofStatement s).names := by
    rw [List.map_map]
    exact List.map_id _
  rw [Scope.ofStatement, Scope.get?_ofList, lookup_isSome_iff_mem, Scope.globalItems_eq,
    List.map_append, List.mem_append, map_fst_filterMap_sourceEntry, hnames, List.mem_filterMap,
    CteCatalog.ofStatement, CteCatalog.mem_names_ofVisits]
  simp only [Scope.mem_orderedSources]
  rfl

/-- The scopes of a SELECT have the names that are known. -/
theorem lookup_isSome_iff_known (hsite : site ∈ statementSites maxDepth s) :
    ((site.scopesIn s).lookup q).isSome ↔ Known s q := by
  have houter : ((site.scopesIn s).outer.get? q).isSome ↔ Known s q := get?_ofStatement_isSome_iff
  have hinner : ((site.scopesIn s).inner.get? q).isSome → Known s q := by
    intro h
    obtain ⟨entry, hentry⟩ := Option.isSome_iff_exists.mp h
    obtain ⟨source, hsource, hsourceEntry⟩ :=
      Scope.exists_source_of_lookup ((Scope.get?_ofSelect _ _ _).symm.trans hentry)
    exact Or.inl ⟨source, source_mem_of_mem_site hsite hsource,
      scopeName_of_sourceEntry hsourceEntry⟩
  rw [Scopes.lookup, Option.isSome_or, Bool.or_eq_true, houter]
  exact or_iff_right_of_imp hinner

end Names

section Resolution

variable {s : Statement} {maxDepth : Nat} {site : SelectSite} {q : String}

theorem Resolution.failure_eq_invalid_iff {resolution : Resolution} :
    resolution.failure = some .invalidTableAlias ↔ resolution = .invalidAlias := by
  cases resolution with
  | found entry => by_cases hderived : entry.isDerived <;> simp [Resolution.failure, hderived]
  | invalidAlias => simp [Resolution.failure]
  | ambiguous => simp [Resolution.failure]
  | unresolved => simp [Resolution.failure]

/-- A qualifier is an invalid alias if it is not known. -/
theorem resolve_eq_invalidAlias_iff (hsite : site ∈ statementSites maxDepth s)
    (fallback : Option String) :
    (site.scopesIn s).resolve (some q) fallback = .invalidAlias ↔ ¬ Known s q := by
  rw [← lookup_isSome_iff_known hsite]
  unfold Scopes.resolve
  cases hlookup : (site.scopesIn s).lookup q <;> simp [hlookup]

/-- So it is in a select list, whatever stands around it. -/
theorem projectionResolution_eq_invalidAlias_iff (hsite : site ∈ statementSites maxDepth s)
    {ref : ColumnRef} (href : ref.qualifier = some q) :
    projectionResolution (site.scopesIn s) site.enclosing ref = .invalidAlias ↔ ¬ Known s q := by
  have hresolve := resolve_eq_invalidAlias_iff (q := q) hsite none
  have hqualified : projectionResolution (site.scopesIn s) site.enclosing ref =
      (site.scopesIn s).resolve (some q) none := by
    unfold projectionResolution
    rw [href]
    cases hlookup : (site.scopesIn s).lookup q <;> simp [Scopes.resolve, hlookup]
  rw [hqualified, hresolve]

/-- A row that reports a reference has the remark if the reference has an invalid alias. -/
theorem Row.Reports.has_invalid_iff {row : Row} {ref : ColumnRef} {resolution : Resolution}
    (h : row.Reports ref resolution) :
    row.has .invalidTableAlias ↔ resolution = .invalidAlias :=
  (h.failure .invalidTableAlias rfl).trans Resolution.failure_eq_invalid_iff

/-- The row of a star has the remark if its qualifier is an invalid alias. -/
theorem has_invalid_starRow_iff (tags : Tags) (scopes : Scopes)
    (enclosing qualifier : Option String) :
    (starRow tags scopes enclosing qualifier).has .invalidTableAlias ↔
      scopes.resolve qualifier none = .invalidAlias := by
  rw [Row.has_iff]
  unfold starRow
  cases scopes.resolve qualifier none with
  | invalidAlias => simp
  | _ =>
    simp only [reduceCtorEq, iff_false, List.mem_cons, List.mem_append, not_or]
    refine ⟨not_false, ?_, ?_⟩
    · split <;> simp
    · split <;> simp

/-- The row of a clause has the remark if no table is given for it and the reference has an invalid
alias. -/
theorem has_invalid_clauseRow_iff (tags : Tags) (scopes : Scopes) (fallback : Option String)
    {remarks : List Remark} (hremarks : ∀ remark ∈ remarks, remark.tellsFailure = false)
    (given : Option RowSource) (ref : ColumnRef) :
    (clauseRow tags scopes fallback remarks given ref).has .invalidTableAlias ↔
      (∀ source ∈ given, source.table = "") ∧
        scopes.resolve ref.qualifier fallback = .invalidAlias := by
  have hresolved := (reports_clauseRow tags scopes fallback hremarks ref).has_invalid_iff
  cases given with
  | none => simpa using hresolved
  | some source =>
    by_cases htable : source.table = ""
    · have hrow : clauseRow tags scopes fallback remarks (some source) ref =
          clauseRow tags scopes fallback remarks none ref := by simp [clauseRow, htable]
      rw [hrow, hresolved]
      simp [htable]
    · have hnone : Remark.invalidTableAlias ∉ remarks := by
        intro hmem
        exact absurd (hremarks _ hmem) (by simp [Remark.tellsFailure])
      simp [clauseRow, htable, Row.has_iff, hnone]

end Resolution

section Sites

variable {s : Statement} {tags : Tags} {maxDepth : Nat} {site : SelectSite} {q : String}

/-- Rows that report references are told apart by what references under a qualifier resolve to. -/
theorem emitsUnder_of_reports {refs : List ColumnRef} {rows : List Row} {P : Prop}
    {resolution : ColumnRef → Resolution} (hsub : rows ⊆ statementRows tags maxDepth s)
    (hreports : List.Forall₂ (fun ref row => row.Reports ref (resolution ref)) refs rows)
    (hinvalid : ∀ ref : ColumnRef, ref.qualifier = some q →
      (resolution ref = .invalidAlias ↔ P)) :
    EmitsUnder s tags maxDepth q refs rows fun row => row.has .invalidTableAlias ↔ P := by
  refine ⟨hsub, hreports.imp ?_⟩
  intro ref row hrow
  exact ⟨hrow.column, fun href => hrow.has_invalid_iff.trans (hinvalid ref href)⟩

/-- The remark on invalid aliases stands on the rows of the references of a SELECT under a qualifier
if the qualifier is not known, and else on none of them. -/
structure TellsUnknown (s : Statement) (tags : Tags) (maxDepth : Nat) (site : SelectSite)
    (q : String) : Prop where
  /-- For the columns of the select list. -/
  items : ∀ item ∈ site.select.items, ∀ e, selectExprs.itemExpr? item = some e →
    columnRefs e ≠ [] → EmitsUnder s tags maxDepth q (columnRefs e)
      (projectionRows tags (site.scopesIn s) site.enclosing (.ofItem item))
      fun row => row.has .invalidTableAlias ↔ ¬ Known s q
  /-- For the stars of the select list. -/
  stars : ∀ item ∈ site.select.items, starQualifier item = some q →
    ∃ row ∈ statementRows tags maxDepth s,
      projectionRows tags (site.scopesIn s) site.enclosing (.ofItem item) = [row] ∧
        (row.has .invalidTableAlias ↔ ¬ Known s q)
  /-- For the filters and the grouping. -/
  clauses : site.underJoin = false → ∀ remark e, (remark, e) ∈ selectClauses site.select →
    EmitsUnder s tags maxDepth q (columnRefs e)
      (clauseRows tags (site.scopesIn s) site.enclosing remark e)
      fun row => row.has .invalidTableAlias ↔ ¬ Known s q
  /-- For the predicates of joins. -/
  predicates : ∀ left join, (left, join) ∈ fromJoins site.select → ∀ predicate,
    tracedConstraint join = .on predicate →
      EmitsUnder s tags maxDepth q (columnRefs predicate ++ equalityOperands predicate)
        (constraintRows tags (site.scopesIn s) (joinKind join.operator) left
          (sourceName join.relation) (tracedConstraint join))
        fun row => row.has .invalidTableAlias ↔ ¬ Known s q
  /-- For the filter of a joined subquery, which its join accounts for; a single table behind the
  subquery is given for all of its columns. -/
  joined : ∀ joining ∈ statementSites maxDepth s, ∀ left join,
    (left, join) ∈ fromJoins joining.select → ∀ lateral query label extras,
      join.relation = .derived lateral query (some label) extras →
      firstSelect query = some site.select → ∀ filter, site.select.filter = some filter →
        EmitsUnder s tags maxDepth q (columnRefs filter)
          (joinedFilterRows tags (.ofStatement s) (joining.scopesIn s) (joinKind join.operator)
            join.relation)
          fun row => row.has .invalidTableAlias ↔
            (∀ key, (CteCatalog.ofStatement s).singleBase query = some key → key.table = "") ∧
              ¬ Known s q

theorem star_tellsUnknown (hsite : site ∈ statementSites maxDepth s) {item : SelectItem}
    (hitem : item ∈ site.select.items) (hstar : starQualifier item = some q) :
    ∃ row ∈ statementRows tags maxDepth s,
      projectionRows tags (site.scopesIn s) site.enclosing (.ofItem item) = [row] ∧
        (row.has .invalidTableAlias ↔ ¬ Known s q) := by
  have hnone : selectExprs.itemExpr? item = none := by
    cases hexpr : selectExprs.itemExpr? item with
    | none => rfl
    | some e => simp [starQualifier_of_itemExpr hexpr] at hstar
  have hrows := projectionRows_of_star tags (site.scopesIn s) site.enclosing hnone
  refine ⟨_, SelectSite.projectionRows_subset hsite hitem ?_, hrows, ?_⟩
  · rw [hrows]
    exact List.mem_singleton_self _
  · rw [has_invalid_starRow_iff, hstar]
    exact resolve_eq_invalidAlias_iff hsite none

theorem predicate_tellsUnknown (hsite : site ∈ statementSites maxDepth s) {left : Option String}
    {join : Join} (hlink : (left, join) ∈ fromJoins site.select) {predicate : Expr}
    (hpredicate : tracedConstraint join = .on predicate) :
    EmitsUnder s tags maxDepth q (columnRefs predicate ++ equalityOperands predicate)
      (constraintRows tags (site.scopesIn s) (joinKind join.operator) left
        (sourceName join.relation) (tracedConstraint join))
      fun row => row.has .invalidTableAlias ↔ ¬ Known s q := by
  have hsub : constraintRows tags (site.scopesIn s) (joinKind join.operator) left
      (sourceName join.relation) (tracedConstraint join) ⊆ statementRows tags maxDepth s :=
    SelectSite.constraintRows_subset hsite hlink
  rw [hpredicate] at hsub ⊢
  refine emitsUnder_of_reports hsub (reports_predicateRows tags _ _ left _ predicate) ?_
  intro ref href
  rw [href]
  exact resolve_eq_invalidAlias_iff hsite _

theorem joinedFilter_tellsUnknown {joining : SelectSite}
    (hjoining : joining ∈ statementSites maxDepth s) {left : Option String} {join : Join}
    (hlink : (left, join) ∈ fromJoins joining.select) {lateral : Bool} {query : Query}
    {label : Alias} {extras : List Node}
    (hrelation : join.relation = .derived lateral query (some label) extras) {select : Select}
    (hfirst : firstSelect query = some select) {filter : Expr}
    (hfilter : select.filter = some filter) :
    EmitsUnder s tags maxDepth q (columnRefs filter)
      (joinedFilterRows tags (.ofStatement s) (joining.scopesIn s) (joinKind join.operator)
        join.relation)
      fun row => row.has .invalidTableAlias ↔
        (∀ key, (CteCatalog.ofStatement s).singleBase query = some key → key.table = "") ∧
          ¬ Known s q := by
  constructor
  · exact SelectSite.joinedFilterRows_subset hjoining hlink
  · simp only [hrelation, joinedFilterRows, hfirst, Option.bind_some, hfilter]
    refine List.forall₂_map_right_iff.mpr (List.forall₂_same.mpr fun ref _ => ?_)
    refine ⟨column_clauseRow _ _ _ _ _ _, ?_⟩
    intro href
    have hremarks : ∀ remark ∈ [Remark.joinSubqueryWhereColumn,
        .joinType (joinKind join.operator)], remark.tellsFailure = false := by
      simp [Remark.tellsFailure]
    rw [has_invalid_clauseRow_iff tags _ _ hremarks, href, resolve_eq_invalidAlias_iff hjoining]
    simp

/-- The remark on invalid aliases tells, for every SELECT that is reached, that a qualifier is not
known.  The alias of every table and every subquery in its FROM clause is known. -/
theorem tellsUnknown_of_site (s : Statement) (tags : Tags) (maxDepth : Nat) (site : SelectSite)
    (hsite : site ∈ statementSites maxDepth s) (q : String) :
    TellsUnknown s tags maxDepth site q ∧
      ∀ source, Declared site.select source → declaredAlias source = some q → isScoped source →
        Known s q := by
  constructor
  · exact {
      items := fun item hitem e hexpr hrefs =>
        emitsUnder_of_reports (SelectSite.projectionRows_subset hsite hitem)
          (reports_projectionRows tags _ _ hexpr hrefs)
          fun _ href => projectionResolution_eq_invalidAlias_iff hsite href
      stars := fun _ hitem hstar => star_tellsUnknown hsite hitem hstar
      clauses := fun hjoin _ e hclause =>
        emitsUnder_of_reports (SelectSite.clauseRows_subset hsite hjoin hclause)
          (reports_clauseRows tags _ _ (tellsFailure_of_mem_selectClauses hclause) e)
          fun _ href => by
            rw [href]
            exact resolve_eq_invalidAlias_iff hsite _
      predicates := fun _ _ hlink _ hpredicate => predicate_tellsUnknown hsite hlink hpredicate
      joined := fun _ hjoining _ _ hlink _ _ _ _ hrelation hfirst _ hfilter =>
        joinedFilter_tellsUnknown hjoining hlink hrelation hfirst hfilter }
  · intro source hdeclared halias hscoped
    exact Or.inl ⟨source, source_mem_of_declared hsite hdeclared,
      scopeName_of_declaredAlias hscoped halias⟩

end Sites

/-- `UNNEST(a) AS u`. -/
def unnestedColumn : Source :=
  .other [.text "UNNEST(", .part 0, .text ")"] [.expr (.column (.bare "a"))]
    (some ⟨true, .bare "u", []⟩)

/-- `SELECT t.x FROM db.b AS t, UNNEST(a) AS u WHERE u.y`. -/
def selectUnnested : Select :=
  .plain [.expr (.path [.bare "t", .bare "x"])] [aliasedTable ["db", "b"] "t", unnestedColumn]
    (some (.path [.bare "u", .bare "y"]))

/-- The statement that is this SELECT alone. -/
def statementUnnested : Statement :=
  .query (.ofBody (.select selectUnnested))

theorem tellsUnknown_unnested :
    ⟨selectUnnested, none, false⟩ ∈ statementSites 1 statementUnnested ∧
      (Known statementUnnested "t" ∧
        TellsUnknown statementUnnested ⟨"", "", ""⟩ 1 ⟨selectUnnested, none, false⟩ "t") ∧
      ¬ Known statementUnnested "u" ∧
        TellsUnknown statementUnnested ⟨"", "", ""⟩ 1 ⟨selectUnnested, none, false⟩ "u" := by
  have hsite : ⟨selectUnnested, none, false⟩ ∈ statementSites 1 statementUnnested :=
    List.mem_singleton_self _
  obtain ⟨htable, hknown⟩ := tellsUnknown_of_site statementUnnested ⟨"", "", ""⟩ 1 _ hsite "t"
  obtain ⟨harray, -⟩ := tellsUnknown_of_site statementUnnested ⟨"", "", ""⟩ 1 _ hsite "u"
  have hdeclared : Declared selectUnnested (aliasedTable ["db", "b"] "t") := List.mem_cons_self
  refine ⟨hsite, ⟨hknown _ hdeclared rfl rfl, htable⟩, ?_, harray⟩
  rw [← lookup_isSome_iff_known hsite]
  decide

/-- The alias of a source in a FROM clause is not always known: that of an unnested array counts as
invalid. -/
theorem not_always_known :
    ¬ ∀ (s : Statement) (tags : Tags) (maxDepth : Nat), ∀ site ∈ statementSites maxDepth s,
      ∀ source q, Declared site.select source → declaredAlias source = some q →
        site.underJoin = false → ∀ remark e, (remark, e) ∈ selectClauses site.select →
          EmitsUnder s tags maxDepth q (columnRefs e)
            (clauseRows tags (site.scopesIn s) site.enclosing remark e)
            fun row => ¬ row.has .invalidTableAlias := by
  intro h
  have hsurface : (surface (visitTrees selectUnnested.sources))[2]? =
      some (.source unnestedColumn) := rfl
  obtain ⟨-, hrows⟩ := h statementUnnested ⟨"", "", ""⟩ 1 ⟨selectUnnested, none, false⟩
    (List.mem_singleton_self _) unnestedColumn "u" (List.mem_of_getElem? hsurface) rfl rfl _ _
    (List.mem_singleton_self _)
  obtain ⟨-, hvalid⟩ := (List.forall₂_cons.mp hrows).1
  exact hvalid rfl (by decide)

end ColumnLineage.Lineage
