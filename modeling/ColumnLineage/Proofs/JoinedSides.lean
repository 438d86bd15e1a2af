import ColumnLineage.Proofs.JoinPredicates

/-!
# The sides of a join

A column without qualifier in the predicate of a join falls to the source that is joined, and a
column that a join names falls to both of its sides.  The name of the source to which a row falls,
the key under which a source is filed, and the sources that a scope consists of are found
independently of each other; the rows come from the sides of the join because the three agree.

## Main definitions

* `IsNamed`: a source that a join can fall to.
* `Row.FallsTo`: a row that comes from an entry of a scope.
* `FallsToSides`: the rows of a join come from its sides.

## Main statements

* `scopeName_of_sourceName`: the key of a source is its name.
* `JoinedIn.flatSources_subset`: a scope is made of both sides of a join.
* `falls_to_sides`: the rows of a join whose joined source has a name come from its sides.
-/

namespace ColumnLineage.Lineage

open Sql Scope

section Names

/-- A table with a name of at least one part, or a subquery with an alias. -/
def IsNamed : Source → Prop
  | .table name _ _ _ => name.values ≠ []
  | .derived _ _ label _ => label.isSome
  | .joined .. => False
  | .other .. => False

theorem exists_sourceName {source : Source} (h : IsNamed source) :
    ∃ name, sourceName source = some name := by
  cases source with
  | table name arguments label extras =>
    have hlast : name.values.getLast?.isSome := List.getLast?_isSome.mpr h
    rw [← Option.isSome_iff_exists, sourceName, Option.isSome_or, hlast, Bool.or_true]
  | derived lateral query label extras =>
    obtain ⟨label, rfl⟩ := Option.isSome_iff_exists.mp h
    exact ⟨label.name.value, rfl⟩
  | joined tree label => exact absurd h id
  | other layout parts label => exact absurd h id

/-- The name to which the rows of a join fall is the key of the source in a scope. -/
theorem scopeName_of_sourceName {source : Source} {name : String}
    (h : sourceName source = some name) : scopeName source = some name := by
  cases source with
  | table parts arguments label extras =>
    rw [scopeName, TableKey.ofName_eq]
    cases halias : aliasName label with
    | some label =>
      rw [sourceName, halias, Option.some_or] at h
      rw [Option.getD_some, h]
    | none =>
      rw [sourceName, halias, Option.none_or] at h
      simp only [Option.getD_none, List.getLastD_eq_getLast?, h, Option.getD_some]
  | derived lateral query label extras => exact h
  | joined tree label => simp [sourceName] at h
  | other layout parts label => simp [sourceName] at h

/-- A source with a name is none in parentheses. -/
theorem flatSources_of_sourceName {source : Source} {name : String}
    (h : sourceName source = some name) : flatSources source = [source] := by
  cases source with
  | joined tree label => simp [sourceName] at h
  | _ => rfl

end Names

section Joins

/-- Both sides of a join are among the sources behind which or in which it stands. -/
theorem JoinedBehind.flatSources_subset {prior front : Source} {joins : List Join} {join : Join}
    (h : JoinedBehind prior joins front join) :
    flatSources front ⊆ flatSources prior ++ flatJoins joins ∧
      flatSources join.relation ⊆ flatSources prior ++ flatJoins joins := by
  induction h with
  | @here prior join more =>
    rw [flatJoins, flatJoin_eq]
    refine ⟨List.subset_append_left _ _, List.subset_append_of_subset_right _ ?_⟩
    exact List.subset_append_left _ _
  | @later prior front first join more _ ih =>
    rw [flatJoins, flatJoin_eq]
    have hsub := List.subset_append_right (flatSources prior)
      (flatSources first.relation ++ flatJoins more)
    exact ⟨List.Subset.trans ih.1 hsub, List.Subset.trans ih.2 hsub⟩
  | @nested inner label joins front join _ ih =>
    rw [← flatTree_eq] at ih
    exact ⟨List.subset_append_of_subset_left _ ih.1, List.subset_append_of_subset_left _ ih.2⟩

/-- Both sides of a join are among the sources of its SELECT. -/
theorem JoinedIn.flatSources_subset {select : Select} {tree : FromTree}
    (htree : tree ∈ select.sources) {front : Source} {join : Join} (h : JoinedIn tree front join) :
    flatSources front ⊆ fromSources select ∧ flatSources join.relation ⊆ fromSources select := by
  have hsub : flatTree tree ⊆ fromSources select := fun source hsource =>
    List.mem_flatMap.mpr ⟨tree, htree, hsource⟩
  rw [flatTree_eq] at hsub
  obtain ⟨hfront, hjoined⟩ := JoinedBehind.flatSources_subset h
  exact ⟨List.Subset.trans hfront hsub, List.Subset.trans hjoined hsub⟩

end Joins

section Rows

variable {c : CteCatalog} {select : Select} {name : String}

/-- A name stands for an entry of a local scope: the scope holds it, and a reference without a
qualifier that falls to the name is found there, whatever the statement holds besides. -/
structure StandsLocally (c : CteCatalog) (select : Select) (name : String) (entry : ScopeEntry) :
    Prop where
  held : (Scope.ofSelect c select).get? name = some entry
  resolved : ∀ outer, Scopes.resolve ⟨.ofSelect c select, outer⟩ none (some name) = .found entry

/-- The name of a source of a SELECT stands for an entry of its scope. -/
theorem exists_standsLocally {source : Source} (hsub : flatSources source ⊆ fromSources select)
    (hname : sourceName source = some name) : ∃ entry, StandsLocally c select name entry := by
  have hmem : source ∈ fromSources select := by
    refine hsub ?_
    rw [flatSources_of_sourceName hname]
    exact List.mem_singleton_self source
  obtain ⟨entry, hentry⟩ := Option.isSome_iff_exists.mp
    (Scope.lookup_sources_isSome (c := c) hmem (scopeName_of_sourceName hname))
  have hheld : (Scope.ofSelect c select).get? name = some entry := by
    rw [Scope.get?_ofSelect, hentry]
  refine ⟨entry, hheld, fun outer => ?_⟩
  simp [Scopes.resolve, Scopes.lookup, hheld]

/-- A row comes from an entry: it says that the reference is found there, and neither that there is
no such source nor that there are several. -/
structure Row.FallsTo (ref : ColumnRef) (entry : ScopeEntry) (row : Row) : Prop where
  reports : row.Reports ref (.found entry)
  valid : row.has .invalidTableAlias = false
  unambiguous : row.has .tableNameAmbiguous = false

theorem Row.Reports.fallsTo {row : Row} {ref : ColumnRef} {entry : ScopeEntry}
    (h : row.Reports ref (.found entry)) : row.FallsTo ref entry := by
  have hfailure (remark : Remark) (htells : remark.tellsFailure)
      (hne : remark ≠ .tableNameDerived) : row.has remark = false := by
    refine Bool.eq_false_iff.mpr fun hhas => ?_
    have hsome := (h.failure remark htells).mp hhas
    simp only [Resolution.failure] at hsome
    split at hsome
    · exact hne (Option.some.inj hsome).symm
    · simp at hsome
  exact ⟨h, hfailure _ rfl (by simp), hfailure _ rfl (by simp)⟩

/-- The row of a reference in the restriction of a join, where it falls to the source `partner`. -/
def restrictionRow (tags : Tags) (scopes : Scopes) (kind : JoinKind) (partner : Option String)
    (ref : ColumnRef) : Row :=
  clauseRow tags scopes partner [.joinOnClauseColumn, .joinType kind] none ref

/-- The rows of a column that a join names, the one that falls to the source in front first. -/
def namedColumnRows (tags : Tags) (scopes : Scopes) (kind : JoinKind) (left right : Option String)
    (column : ObjectName) : Row × Row :=
  let ref : ColumnRef := .simple (column.values.getLastD "")
  (restrictionRow tags scopes kind left ref, restrictionRow tags scopes kind right ref)

theorem constraintRows_using (tags : Tags) (scopes : Scopes) (kind : JoinKind)
    (left right : Option String) (names : List ObjectName) (inside : List Node) :
    constraintRows tags scopes kind left right (.using names inside) =
      (names.map (namedColumnRows tags scopes kind left right)).flatMap
        fun pair => [pair.1, pair.2] := by
  rw [List.flatMap_map]
  rfl

/-- A column that falls to a name comes from the entry for which the name stands. -/
theorem StandsLocally.fallsTo {entry : ScopeEntry} (h : StandsLocally c select name entry)
    (outer : Scope) (tags : Tags) (kind : JoinKind) {ref : ColumnRef}
    (href : ref.qualifier = none) :
    (restrictionRow tags ⟨.ofSelect c select, outer⟩ kind (some name) ref).FallsTo ref entry := by
  have hremarks : ∀ remark ∈ [Remark.joinOnClauseColumn, .joinType kind],
      remark.tellsFailure = false := by simp [Remark.tellsFailure]
  have hrow := reports_clauseRow tags ⟨.ofSelect c select, outer⟩ (some name) hremarks ref
  rw [href, h.resolved outer] at hrow
  exact hrow.fallsTo

end Rows

/-- The rows of the restriction of a join at a site, where the source `front` stands in front of
it. -/
def restrictionRows (s : Statement) (tags : Tags) (site : SelectSite) (front : Source)
    (join : Join) : List Row :=
  constraintRows tags (site.scopesIn s) (joinKind join.operator) (sourceName front)
    (sourceName join.relation) (tracedConstraint join)

/-- The rows of a join come from its sides: those of a predicate from the joined one, and those of a
named column from either. -/
structure FallsToSides (s : Statement) (tags : Tags) (site : SelectSite) (front : Source)
    (join : Join) (name : String) (entry : ScopeEntry) : Prop where
  named : sourceName join.relation = some name
  filed : (sourceEntry (.ofStatement s) join.relation).map Prod.fst = some name
  stands : StandsLocally (.ofStatement s) site.select name entry
  emitted : restrictionRows s tags site front join ⊆ site.rowsIn s tags
  predicate : ∀ e, tracedConstraint join = .on e →
    List.Forall₂ (fun ref row => ref.qualifier = none → row.FallsTo ref entry)
      (columnRefs e ++ equalityOperands e) (restrictionRows s tags site front join)
  /-- There is a pair of rows for each column, the one of the source in front first. -/
  columns : ∀ names inside, tracedConstraint join = .using names inside →
    ∃ pairs : List (Row × Row),
      restrictionRows s tags site front join = pairs.flatMap (fun pair => [pair.1, pair.2]) ∧
      List.Forall₂ (fun column pair =>
        pair.2.FallsTo (.simple (column.values.getLastD "")) entry ∧
        ∀ other, sourceName front = some other → ∃ given,
          StandsLocally (.ofStatement s) site.select other given ∧
          pair.1.FallsTo (.simple (column.values.getLastD "")) given) names pairs

/-- The rows of a join whose joined source has a name come from its sides. -/
theorem falls_to_sides (s : Statement) (tags : Tags) (site : SelectSite) {tree : FromTree}
    (htree : tree ∈ site.select.sources) {front : Source} {join : Join}
    (hjoin : JoinedIn tree front join) (hnamed : IsNamed join.relation) :
    ∃ name entry, FallsToSides s tags site front join name entry := by
  obtain ⟨name, hname⟩ := exists_sourceName hnamed
  obtain ⟨hfront, hjoined⟩ := hjoin.flatSources_subset htree
  obtain ⟨entry, hentry⟩ := exists_standsLocally (c := .ofStatement s) hjoined hname
  have hlink : (sourceName front, join) ∈ fromJoins site.select :=
    List.mem_flatMap.mpr ⟨tree, htree, mem_treeJoins_iff.mpr ⟨front, hjoin, rfl⟩⟩
  refine ⟨name, entry, ?_⟩
  exact {
    named := hname
    filed := by rw [map_fst_sourceEntry, scopeName_of_sourceName hname]
    stands := hentry
    emitted := by
      intro row hrow
      exact SelectSite.mem_rowsIn.mpr
        (Or.inr (Or.inr ⟨_, hlink, List.mem_append_left _ hrow⟩))
    predicate := by
      intro e he
      rw [restrictionRows, he, hname]
      refine List.forall₂_map_right_iff.mpr (List.forall₂_same.mpr fun ref _ href => ?_)
      exact hentry.fallsTo _ tags _ href
    columns := by
      intro names inside hnames
      refine ⟨_, by rw [restrictionRows, hnames, hname, constraintRows_using], ?_⟩
      refine List.forall₂_map_right_iff.mpr (List.forall₂_same.mpr fun column _ => ?_)
      refine ⟨hentry.fallsTo _ tags _ rfl, fun other hother => ?_⟩
      -- The source in front is named as well, and so stands in the same scope.
      obtain ⟨given, hgiven⟩ := exists_standsLocally (c := .ofStatement s) hfront hother
      refine ⟨given, hgiven, ?_⟩
      rw [hother]
      exact hgiven.fallsTo _ tags _ rfl }

/-- `LEFT JOIN db.c ON b.i = j`. -/
def leftJoinUnqualified : Join :=
  ⟨.bare ["db", "c"], false, .left, none,
    .on (.binary (.path [.bare "b", .bare "i"]) .eq (.column (.bare "j")))⟩

/-- `db.a JOIN (db.b LEFT JOIN db.c ON b.i = j) ON a.i = b.i`. -/
def joiningUnqualified : FromTree :=
  ⟨.bare ["db", "a"], [⟨.joined ⟨.bare ["db", "b"], [leftJoinUnqualified]⟩ none, false, .join, none,
    .on (equated "a" "b")⟩]⟩

/-- `SELECT a.x FROM db.a JOIN (db.b LEFT JOIN db.c ON b.i = j) ON a.i = b.i`. -/
def selectJoiningUnqualified : Select :=
  { Select.plain [.expr (.path [.bare "a", .bare "x"])] [] none with
    sources := [joiningUnqualified] }

theorem falls_to_sides_joiningUnqualified :
    joiningUnqualified ∈ selectJoiningUnqualified.sources ∧
      JoinedIn joiningUnqualified (.bare ["db", "b"]) leftJoinUnqualified ∧
      IsNamed leftJoinUnqualified.relation ∧
      ∃ name entry, FallsToSides (.query (.ofBody (.select selectJoiningUnqualified))) ⟨"", "", ""⟩
        ⟨selectJoiningUnqualified, none, false⟩ (.bare ["db", "b"]) leftJoinUnqualified
        name entry := by
  have htree : joiningUnqualified ∈ selectJoiningUnqualified.sources := List.mem_singleton_self _
  have hjoin : JoinedIn joiningUnqualified (.bare ["db", "b"]) leftJoinUnqualified :=
    .later (.nested .here)
  have hnamed : IsNamed leftJoinUnqualified.relation := List.cons_ne_nil _ _
  exact ⟨htree, hjoin, hnamed, falls_to_sides _ _ _ htree hjoin hnamed⟩

end ColumnLineage.Lineage
