import ColumnLineage.Proofs.Emission

/-!
# References among several sources

A reference without a qualifier is left open where a SELECT has sources of different names.  Sources
are told apart by name alone, so that tables of one name in different databases count as one source,
and the reference falls to the first of them.

## Main definitions

* `NamesDiffer`: two sources of a FROM clause have different names.
* `Row.LeavesOpen`: a row names no source and says that there are several.

## Main statements

* `leavesOpen_iff_namesDiffer`: a reference of a select list is left open exactly where names
  differ.
-/

namespace ColumnLineage.Lineage

open Sql

/-- Two sources of the FROM clause of a SELECT have different names. -/
def NamesDiffer (select : Select) : Prop :=
  ∃ a ∈ Scope.fromSources select, ∃ b ∈ Scope.fromSources select, scopeName a ≠ scopeName b

/-- A row names no source and says that there are several. -/
def Row.LeavesOpen (row : Row) : Prop :=
  row.source = {} ∧ row.has .tableNameAmbiguous

/-- Every source of the FROM clause of a SELECT is a table, a reference to a definition, or a
subquery with an alias, so that it has a name. -/
def SourcesNamed (select : Select) : Prop :=
  ∀ source ∈ Scope.fromSources select, (scopeName source).isSome

variable {s : Statement} {tags : Tags} {maxDepth : Nat} {site : SelectSite}

/-- Several names in the local scope leave a reference without a qualifier open: all of them stand
in the global scope, so that this one has no only source either. -/
theorem projectionResolution_of_namesDiffer (hsite : site ∈ statementSites maxDepth s)
    (hnamed : SourcesNamed site.select) (hdiffer : NamesDiffer site.select) {ref : ColumnRef}
    (href : ref.qualifier = none) :
    projectionResolution (site.scopesIn s) site.enclosing ref = .ambiguous := by
  obtain ⟨a, ha, b, hb, hne⟩ := hdiffer
  obtain ⟨nameA, hnameA⟩ := Option.isSome_iff_exists.mp (hnamed a ha)
  obtain ⟨nameB, hnameB⟩ := Option.isSome_iff_exists.mp (hnamed b hb)
  have hnames : nameA ≠ nameB := fun heq => hne (by rw [hnameA, hnameB, heq])
  have hlocal : ∀ {source name}, source ∈ Scope.fromSources site.select →
      scopeName source = some name → ((site.scopesIn s).inner.get? name).isSome := by
    intro source name hsource hname
    have hget := Scope.get?_ofSelect (.ofStatement s) site.select name
    have hfound := Scope.lookup_sources_isSome (c := .ofStatement s) hsource hname
    rwa [← hget] at hfound
  have hinner : 1 < (site.scopesIn s).inner.size :=
    Scope.one_lt_size (hlocal ha hnameA) (hlocal hb hnameB) hnames
  -- With one name in the global scope the reference would fall to its entry after all.
  have houter : 1 < (site.scopesIn s).outer.size :=
    Scope.one_lt_size (Scope.get?_ofStatement_isSome (source_mem_of_mem_site hsite ha) hnameA)
      (Scope.get?_ofStatement_isSome (source_mem_of_mem_site hsite hb) hnameB) hnames
  have hresolve : (site.scopesIn s).resolve none none = .ambiguous := by
    simp [Scopes.resolve, Scopes.resolveUnqualified, Scopes.sole, Scopes.candidates,
      Scope.sole_eq_none_of_one_lt_size hinner, Scope.sole_eq_none_of_one_lt_size houter,
      Scope.isEmpty_eq_false_of_one_lt_size hinner, hinner]
  unfold projectionResolution
  rw [href, hresolve]

/-- The first source is the only one in the local scope where all sources have one name. -/
theorem sole_of_not_namesDiffer {select : Select} (hnamed : SourcesNamed select)
    (hsame : ¬ NamesDiffer select) {first : Source} {more : List Source}
    (hsources : Scope.fromSources select = first :: more) : ∃ name entry,
      sourceEntry (.ofStatement s) first = some (name, entry) ∧
        (Scope.ofSelect (.ofStatement s) select).sole = some entry := by
  have hfirst : first ∈ Scope.fromSources select := hsources ▸ List.mem_cons_self
  obtain ⟨name, hname⟩ := Option.isSome_iff_exists.mp (hnamed first hfirst)
  obtain ⟨entry, hentry⟩ := exists_sourceEntry (c := .ofStatement s) hname
  refine ⟨name, entry, hentry, ?_⟩
  have hone : ∀ item ∈ more.filterMap (sourceEntry (.ofStatement s)), item.1 = name := by
    intro item hitem
    obtain ⟨source, hsource, hitem⟩ := List.mem_filterMap.mp hitem
    have hother := scopeName_of_sourceEntry hitem
    by_contra hne
    refine hsame ⟨source, hsources ▸ List.mem_cons_of_mem _ hsource, first, hfirst, ?_⟩
    rw [hother, hname]
    exact fun heq => hne (Option.some.inj heq)
  have hentries : (Scope.ofSelect (.ofStatement s) select).entries = [(name, entry)] := by
    have hitems := List.filterMap_cons_some (l := more) hentry
    have hlocal : Scope.ofSelect (.ofStatement s) select =
        .ofList ((Scope.fromSources select).filterMap (sourceEntry (.ofStatement s))) := rfl
    rw [hlocal, Scope.entries_ofList, hsources, hitems]
    exact firstEntries_of_same_name hone
  unfold Scope.sole
  rw [hentries]

/-- Where all sources have one name, a reference without a qualifier falls to the first of them and
is not told to be ambiguous. -/
theorem namesEntry_of_not_namesDiffer (hnamed : SourcesNamed site.select)
    (hsame : ¬ NamesDiffer site.select) {first : Source} {more : List Source}
    (hsources : Scope.fromSources site.select = first :: more) {ref : ColumnRef}
    (href : ref.qualifier = none) {row : Row}
    (hreports : row.Reports ref (projectionResolution (site.scopesIn s) site.enclosing ref)) :
    ¬ row.LeavesOpen ∧ ∃ name entry,
      sourceEntry (.ofStatement s) first = some (name, entry) ∧ row.NamesEntry entry := by
  obtain ⟨name, entry, hentry, hsole⟩ := sole_of_not_namesDiffer (s := s) hnamed hsame hsources
  have hfound : projectionResolution (site.scopesIn s) site.enclosing ref = .found entry :=
    projectionResolution_of_sole hsole site.enclosing href
  rw [hfound] at hreports
  refine ⟨?_, name, entry, hentry, hreports.namesEntry⟩
  rintro ⟨-, hopen⟩
  have hfailure := (hreports.failure .tableNameAmbiguous rfl).mp hopen
  simp only [Resolution.failure] at hfailure
  split at hfailure <;> simp at hfailure

/-- Among several sources, a reference of a select list without a qualifier is left open exactly
where two sources have different names; else it falls to the first source. -/
theorem leavesOpen_iff_namesDiffer (s : Statement) (tags : Tags) (maxDepth : Nat)
    (site : SelectSite) (hsite : site ∈ statementSites maxDepth s)
    (hmany : 2 ≤ (Scope.fromSources site.select).length) (hnamed : SourcesNamed site.select)
    (item : SelectItem) (hitem : item ∈ site.select.items) (e : Expr)
    (hexpr : selectExprs.itemExpr? item = some e) (hrefs : columnRefs e ≠ []) :
    Emits s tags maxDepth (columnRefs e)
      (projectionRows tags (site.scopesIn s) site.enclosing (.ofItem item)) fun row =>
        (row.LeavesOpen ↔ NamesDiffer site.select) ∧
          (¬ NamesDiffer site.select → ∃ first name entry,
            (Scope.fromSources site.select).head? = some first ∧
              sourceEntry (.ofStatement s) first = some (name, entry) ∧ row.NamesEntry entry) := by
  refine ⟨SelectSite.projectionRows_subset hsite hitem, ?_⟩
  refine (reports_projectionRows tags (site.scopesIn s) site.enclosing hexpr hrefs).imp ?_
  intro ref row hreports
  refine ⟨hreports.column, ?_⟩
  intro href
  by_cases hdiffer : NamesDiffer site.select
  · rw [projectionResolution_of_namesDiffer hsite hnamed hdiffer href] at hreports
    have hopen : row.LeavesOpen :=
      ⟨hreports.source, (hreports.failure .tableNameAmbiguous rfl).mpr rfl⟩
    exact ⟨iff_of_true hopen hdiffer, fun hsame => absurd hdiffer hsame⟩
  · cases hsources : Scope.fromSources site.select with
    | nil => simp [hsources] at hmany
    | cons first more =>
      obtain ⟨hclosed, name, entry, hentry, hnames⟩ :=
        namesEntry_of_not_namesDiffer hnamed hdiffer hsources href hreports
      exact ⟨iff_of_false hclosed hdiffer, fun _ => ⟨first, name, entry, rfl, hentry, hnames⟩⟩

/-- `SELECT x FROM first, second`. -/
def columnOfTwo (first second : List String) : Select :=
  .plain [.expr (.column (.bare "x"))] [.bare first, .bare second] none

/-- The statement that is such a SELECT alone. -/
def statementOfTwo (first second : List String) : Statement :=
  .query (.ofBody (.select (columnOfTwo first second)))

theorem mem_sites_statementOfTwo (first second : List String) :
    ⟨columnOfTwo first second, none, false⟩ ∈ statementSites 10 (statementOfTwo first second) := by
  have hsites : (statementSites 10 (statementOfTwo first second))[0]? =
      some ⟨columnOfTwo first second, none, false⟩ := rfl
  exact List.mem_of_getElem? hsites

theorem sourcesNamed_columnOfTwo (first second : List String) :
    SourcesNamed (columnOfTwo first second) := by
  intro source hsource
  have hsources : source = .bare first ∨ source = .bare second := by
    simpa [columnOfTwo, Select.plain, Scope.fromSources, Scope.flatTree, Scope.flatJoins,
      Source.bare, Scope.flatSources] using hsource
  rcases hsources with rfl | rfl <;> rfl

theorem leavesOpen_iff_namesDiffer_of_two_tables :
    ⟨columnOfTwo ["a", "t"] ["b", "u"], none, false⟩ ∈
        statementSites 10 (statementOfTwo ["a", "t"] ["b", "u"]) ∧
      2 ≤ (Scope.fromSources (columnOfTwo ["a", "t"] ["b", "u"])).length ∧
      SourcesNamed (columnOfTwo ["a", "t"] ["b", "u"]) ∧
      columnRefs (.column (.bare "x")) ≠ [] ∧
      Emits (statementOfTwo ["a", "t"] ["b", "u"]) ⟨"", "", ""⟩ 10 [.simple "x"]
        [⟨{}, "x", "", ⟨"", "", ""⟩, [.tableNameAmbiguous]⟩] fun row =>
          row.LeavesOpen ↔ NamesDiffer (columnOfTwo ["a", "t"] ["b", "u"]) := by
  have hmany : 2 ≤ (Scope.fromSources (columnOfTwo ["a", "t"] ["b", "u"])).length := by decide
  have hrefs : columnRefs (.column (.bare "x")) ≠ [] := by decide
  obtain ⟨hsubset, hrows⟩ := leavesOpen_iff_namesDiffer (statementOfTwo ["a", "t"] ["b", "u"])
    ⟨"", "", ""⟩ 10 ⟨columnOfTwo ["a", "t"] ["b", "u"], none, false⟩
    (mem_sites_statementOfTwo _ _) hmany (sourcesNamed_columnOfTwo _ _)
    (.expr (.column (.bare "x"))) List.mem_cons_self (.column (.bare "x")) rfl hrefs
  refine ⟨mem_sites_statementOfTwo _ _, hmany, sourcesNamed_columnOfTwo _ _, hrefs, hsubset, ?_⟩
  exact hrows.imp fun ref row h => ⟨h.1, fun href => (h.2 href).1⟩

/-- A reference among several sources is not always left open: two tables of one name in different
databases count as one source. -/
theorem not_always_leavesOpen :
    ¬ ∀ (s : Statement) (tags : Tags) (maxDepth : Nat) (site : SelectSite),
      site ∈ statementSites maxDepth s → 2 ≤ (Scope.fromSources site.select).length →
      SourcesNamed site.select → ∀ item ∈ site.select.items, ∀ e,
        selectExprs.itemExpr? item = some e → columnRefs e ≠ [] →
        Emits s tags maxDepth (columnRefs e)
          (projectionRows tags (site.scopesIn s) site.enclosing (.ofItem item)) Row.LeavesOpen := by
  intro h
  obtain ⟨-, hrows⟩ := h (statementOfTwo ["db1", "t"] ["db2", "t"]) ⟨"", "", ""⟩ 10
    ⟨columnOfTwo ["db1", "t"] ["db2", "t"], none, false⟩ (mem_sites_statementOfTwo _ _) (by decide)
    (sourcesNamed_columnOfTwo _ _) (.expr (.column (.bare "x"))) List.mem_cons_self
    (.column (.bare "x")) rfl (by decide)
  obtain ⟨-, hopen⟩ := (List.forall₂_cons.mp hrows).1
  exact absurd (hopen rfl).1 (by decide)

end ColumnLineage.Lineage
