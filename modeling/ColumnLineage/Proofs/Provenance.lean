import ColumnLineage.Proofs.Emission

/-!
# Provenance

Every row of a statement can be traced to the statement: it names nothing, or a physical table with
the database that stands in front of it, or a subquery or definition that no single table stands
behind, or the placeholder for one.

## Main definitions

* `Physical`: a table that is met and is no reference to a definition.
* `ScopeEntry.Grounded`: an entry that stands for a physical table or names something derived.
* `Traceable`: a row with a source in a statement.

## Main statements

* `traceable_of_mem_statementRows`: every row of a statement is traceable.

## Design notes

The invariant is a property of scope entries.  Each way to emit a row reads entries of the two
scopes only, so it suffices that every entry that is ever put into a scope is grounded.
-/

namespace ColumnLineage.Lineage

open Sql

/-- A name has parts, and none of them is empty. -/
def HasPlainParts (name : ObjectName) : Prop :=
  name.values ≠ [] ∧ "" ∉ name.values

/-- A name of one part that a WITH list defines. -/
def RefersToDefinition (visits : List Visit) (name : ObjectName) : Prop :=
  ∃ defined ∈ definedNames visits, name.values = [defined]

/-- The alias of a source that refers to a definition. -/
def LabelsReference (visits : List Visit) (name : String) : Prop :=
  ∃ table arguments label extras, .source (.table table arguments (some label) extras) ∈ visits ∧
    RefersToDefinition visits table ∧ label.name.value = name

/-- The alias of a subquery, the name of a definition, or the alias of a reference to one. -/
def NamesDerived (visits : List Visit) (label : String) : Prop :=
  LabelsSubquery visits label ∨ label ∈ definedNames visits ∨ LabelsReference visits label

/-- A row has a source in a statement. -/
inductive Traceable (s : Statement) (row : Row) : Prop
  /-- No table is named. -/
  | unnamed (database : row.source.database = "") (table : row.source.table = "")
  /-- The table is the last part of a name in the statement, the database the part in front. -/
  | physical (name : ObjectName) (met : .relation name ∈ s.visits)
      (noReference : ¬ RefersToDefinition s.visits name)
      (database : row.source.database = name.values.dropLast.getLastD "")
      (table : row.source.table = name.values.getLastD "")
  /-- The row names a subquery or definition and says so. -/
  | derived (label : NamesDerived s.visits row.source.table) (database : row.source.database = "")
      (tableAlias : row.source.tableAlias = "") (remark : row.has .tableNameDerived)
  /-- The row is a star over something without a single table, and says so. -/
  | placeholder (table : row.source.table = "__DERIVED__") (database : row.source.database = "")
      (column : row.column = "*") (remark : row.has .tableNameDerived)

/-- A table that is met in some visits and refers to no definition of theirs. -/
def Physical (visits : List Visit) (key : TableKey) : Prop :=
  key ∈ relationKeys visits ∧ (CteCatalog.ofVisits visits).reference? key = none

/-- An entry stands for a physical table, or it names something derived. -/
structure ScopeEntry.Grounded (visits : List Visit) (entry : ScopeEntry) : Prop where
  base : ∀ key, entry.base = some key → Physical visits key
  label : entry.base = none → NamesDerived visits entry.label

/-- All entries of a scope are grounded. -/
def Scope.Grounded (visits : List Visit) (scope : Scope) : Prop :=
  ∀ item ∈ scope.entries, item.2.Grounded visits

/-- All entries of the two scopes of a SELECT are grounded. -/
structure Scopes.Grounded (visits : List Visit) (scopes : Scopes) : Prop where
  inner : scopes.inner.Grounded visits
  outer : scopes.outer.Grounded visits

/-- A name with plain parts whose database is empty has one part. -/
theorem values_eq_singleton {name : ObjectName} (hplain : HasPlainParts name)
    (hdatabase : (TableKey.ofName name).database = "") :
    name.values = [(TableKey.ofName name).table] := by
  rw [TableKey.ofName_eq] at hdatabase ⊢
  obtain ⟨hne, hempty⟩ := hplain
  rcases name.values.eq_nil_or_concat with hnil | ⟨front, table, hfront⟩
  · exact absurd hnil hne
  · rcases front.eq_nil_or_concat with rfl | ⟨rest, database, rfl⟩
    · simp [hfront]
    · rw [hfront] at hdatabase hempty
      have hdb : database = "" := by simpa using hdatabase
      simp [hdb] at hempty

section Statement

variable {s : Statement}

/-- A row that names a physical table can be traced to it. -/
theorem traceable_of_physical {row : Row} {key : TableKey} (hkey : Physical s.visits key)
    (hdatabase : row.source.database = key.database) (htable : row.source.table = key.table) :
    Traceable s row := by
  obtain ⟨hmem, hnone⟩ := hkey
  obtain ⟨name, hmet, rfl⟩ := mem_relationKeys.mp hmem
  rw [TableKey.ofName_eq] at hdatabase htable
  refine .physical name hmet ?_ hdatabase htable
  rintro ⟨defined, hdefined, hvalues⟩
  have hkey : TableKey.ofName name = ⟨"", defined⟩ := by rw [TableKey.ofName_eq, hvalues]; rfl
  rw [hkey] at hnone
  have hsome := CteCatalog.relations?_isSome_iff.mpr (CteCatalog.mem_names_ofVisits.mpr hdefined)
  rw [← Option.isNone_iff_eq_none] at hnone
  simp [CteCatalog.reference?, Option.isSome_iff_ne_none] at hnone hsome
  exact hsome hnone

variable (hplain : ∀ name, .relation name ∈ s.visits → HasPlainParts name)

include hplain

/-- A physical table has a name. -/
theorem table_ne_empty_of_physical {key : TableKey} (hkey : Physical s.visits key) :
    key.table ≠ "" := by
  obtain ⟨name, hmet, rfl⟩ := mem_relationKeys.mp hkey.1
  obtain ⟨hne, hempty⟩ := hplain name hmet
  rw [TableKey.ofName_eq]
  rcases name.values.eq_nil_or_concat with hnil | ⟨front, table, hfront⟩
  · exact absurd hnil hne
  · rw [hfront] at hempty ⊢
    intro htable
    have heq : table = "" := by simpa using htable
    simp [heq] at hempty

/-- A source that refers to a definition does so by a name of one part. -/
theorem refersToDefinition_of_reference? {name : ObjectName} {relations : List TableKey}
    (hmet : .relation name ∈ s.visits)
    (h : (CteCatalog.ofStatement s).reference? (.ofName name) = some relations) :
    (TableKey.ofName name).table ∈ definedNames s.visits ∧ RefersToDefinition s.visits name := by
  obtain ⟨hdatabase, hrel⟩ := CteCatalog.relations?_of_reference? h
  have hdefined : (TableKey.ofName name).table ∈ definedNames s.visits := by
    refine CteCatalog.mem_names_ofVisits.mp (CteCatalog.relations?_isSome_iff.mp ?_)
    exact Option.isSome_iff_exists.mpr ⟨relations, hrel⟩
  exact ⟨hdefined, _, hdefined, values_eq_singleton (hplain name hmet) hdatabase⟩

/-- What a source of the statement stands for is grounded. -/
theorem grounded_of_sourceEntry {source : Source} (hmet : .source source ∈ s.visits)
    {item : String × ScopeEntry} (h : sourceEntry (.ofStatement s) source = some item) :
    item.2.Grounded s.visits := by
  cases source with
  | table name arguments label extras =>
    have hname := s.closed_visits.relation_of_table hmet
    simp only [sourceEntry] at h
    cases href : (CteCatalog.ofStatement s).reference? (TableKey.ofName name) with
    | none =>
      rw [href] at h
      obtain rfl := Option.some.inj h
      refine ⟨?_, fun hnone => by simp [ScopeEntry.physical] at hnone⟩
      intro key hkey
      obtain rfl := Option.some.inj hkey
      exact ⟨mem_relationKeys.mpr ⟨name, hname, rfl⟩, href⟩
    | some relations =>
      rw [href] at h
      obtain rfl := Option.some.inj h
      refine ⟨fun key hkey => CteCatalog.physical_of_cteBase s.closed_visits hkey, fun _ => ?_⟩
      obtain ⟨hdefined, hrefers⟩ := refersToDefinition_of_reference? hplain hname href
      cases label with
      | none => exact Or.inr (Or.inl hdefined)
      | some label => exact Or.inr (Or.inr ⟨name, arguments, label, extras, hmet, hrefers, rfl⟩)
  | derived lateral query label extras =>
    cases label with
    | none => simp [sourceEntry, aliasName] at h
    | some label =>
      obtain rfl := Option.some.inj h
      have hquery := s.closed_visits.enter_of_derived hmet
      exact ⟨fun key hkey => CteCatalog.physical_of_singleBase s.closed_visits hquery hkey,
        fun _ => Or.inl ⟨lateral, query, label, extras, hmet, rfl⟩⟩
  | joined tree label => simp [sourceEntry] at h
  | other layout parts label => simp [sourceEntry] at h

/-- The global scope of the statement is grounded. -/
theorem grounded_ofStatement : (Scope.ofStatement (.ofStatement s) s).Grounded s.visits := by
  intro item hitem
  have hmem := Scope.mem_of_mem_ofList hitem
  rw [Scope.globalItems_eq, List.mem_append] at hmem
  rcases hmem with hmem | hmem
  · obtain ⟨source, hsource, hentry⟩ := List.mem_filterMap.mp hmem
    exact grounded_of_sourceEntry hplain (Scope.mem_orderedSources.mp hsource) hentry
  · obtain ⟨name, hname, rfl⟩ := List.mem_map.mp hmem
    exact ⟨fun key hkey => CteCatalog.physical_of_cteBase s.closed_visits hkey,
      fun _ => Or.inr (Or.inl (CteCatalog.mem_names_ofVisits.mp hname))⟩

/-- The scopes of a SELECT of the statement are grounded. -/
theorem grounded_ofSelect {select : Select} (hsub : select.visits ⊆ s.visits) :
    Scopes.Grounded s.visits
      ⟨.ofSelect (.ofStatement s) select, .ofStatement (.ofStatement s) s⟩ := by
  refine ⟨?_, grounded_ofStatement hplain⟩
  intro item hitem
  obtain ⟨source, hsource, hentry⟩ := List.mem_filterMap.mp (Scope.mem_of_mem_ofList hitem)
  exact grounded_of_sourceEntry hplain
    (hsub (Scope.source_mem_of_mem_fromSources hsource)) hentry

end Statement

namespace Scopes.Grounded

variable {visits : List Visit} {scopes : Scopes}

theorem lookup (h : scopes.Grounded visits) {name : String} {entry : ScopeEntry}
    (hentry : scopes.lookup name = some entry) : entry.Grounded visits := by
  rcases Option.or_eq_some_iff.mp hentry with hinner | ⟨-, houter⟩
  · exact h.inner _ (Scope.mem_entries_of_get? hinner)
  · exact h.outer _ (Scope.mem_entries_of_get? houter)

theorem sole (h : scopes.Grounded visits) {entry : ScopeEntry}
    (hentry : scopes.sole = some entry) : entry.Grounded visits := by
  rcases Option.or_eq_some_iff.mp hentry with hinner | ⟨-, houter⟩
  · obtain ⟨name, hmem⟩ := Scope.mem_entries_of_sole hinner
    exact h.inner _ hmem
  · obtain ⟨name, hmem⟩ := Scope.mem_entries_of_sole houter
    exact h.outer _ hmem

/-- A reference is resolved to a grounded entry only. -/
theorem resolve (h : scopes.Grounded visits) {qualifier fallback : Option String}
    {entry : ScopeEntry} (hentry : scopes.resolve qualifier fallback = .found entry) :
    entry.Grounded visits := by
  unfold Scopes.resolve at hentry
  cases qualifier with
  | some qualifier =>
    cases hlookup : scopes.lookup qualifier with
    | some other =>
      simp only [hlookup, Resolution.found.injEq] at hentry
      exact hentry ▸ h.lookup hlookup
    | none => simp [hlookup] at hentry
  | none =>
    cases hfallback : fallback.bind scopes.lookup with
    | some other =>
      simp only [hfallback, Resolution.found.injEq] at hentry
      obtain ⟨name, -, hlookup⟩ := Option.bind_eq_some_iff.mp hfallback
      exact hentry ▸ h.lookup hlookup
    | none =>
      simp only [hfallback, Scopes.resolveUnqualified] at hentry
      cases hsole : scopes.sole with
      | some other =>
        simp only [hsole, Resolution.found.injEq] at hentry
        exact hentry ▸ h.sole hsole
      | none =>
        simp only [hsole] at hentry
        split at hentry <;> simp at hentry

/-- A column of a select list is resolved to a grounded entry only. -/
theorem projection (h : scopes.Grounded visits) {enclosing : Option String} {ref : ColumnRef}
    {entry : ScopeEntry} (hentry : projectionResolution scopes enclosing ref = .found entry) :
    entry.Grounded visits := by
  unfold projectionResolution at hentry
  split at hentry
  · cases henclosing : enclosing.bind scopes.lookup with
    | some other =>
      simp only [henclosing, Resolution.found.injEq] at hentry
      obtain ⟨name, -, hlookup⟩ := Option.bind_eq_some_iff.mp henclosing
      exact hentry ▸ h.lookup hlookup
    | none => simp [henclosing] at hentry
  · exact h.resolve hentry

end Scopes.Grounded

section Rows

variable {s : Statement} {scopes : Scopes} {tags : Tags}

/-- A row that reports a reference can be traced where the entry it is resolved to is grounded. -/
theorem traceable_of_reports {row : Row} {ref : ColumnRef} {resolution : Resolution}
    (hentry : ∀ entry, resolution = .found entry → entry.Grounded s.visits)
    (h : row.Reports ref resolution) : Traceable s row := by
  have hsource := h.source
  cases resolution with
  | found entry =>
    have hgrounded := hentry entry rfl
    have hnames := h.namesEntry
    unfold Row.NamesEntry at hnames
    cases hbase : entry.base with
    | some key =>
      rw [hbase] at hnames
      exact traceable_of_physical (hgrounded.base key hbase) hnames.1 hnames.2
    | none =>
      rw [hbase] at hnames
      obtain ⟨hplace, hderived⟩ := hnames
      refine .derived ?_ (by rw [hplace]) (by rw [hplace]) hderived
      rw [hplace]
      exact hgrounded.label hbase
  | invalidAlias => exact .unnamed (by rw [hsource]; rfl) (by rw [hsource]; rfl)
  | ambiguous => exact .unnamed (by rw [hsource]; rfl) (by rw [hsource]; rfl)
  | unresolved => exact .unnamed (by rw [hsource]; rfl) (by rw [hsource]; rfl)

/-- A source names nothing, or a physical table with its database. -/
def RowSource.Grounded (visits : List Visit) (source : RowSource) : Prop :=
  (source.database = "" ∧ source.table = "") ∨
    ∃ key, Physical visits key ∧ source.database = key.database ∧ source.table = key.table

theorem ScopeEntry.Grounded.source {visits : List Visit} {entry : ScopeEntry}
    (h : entry.Grounded visits) : entry.source.Grounded visits := by
  cases hbase : entry.base with
  | some key =>
    refine Or.inr ⟨key, h.base key hbase, ?_, ?_⟩
    · simp [ScopeEntry.source, ScopeEntry.database, hbase]
    · simp [ScopeEntry.source, ScopeEntry.table, hbase]
  | none =>
    refine Or.inl ⟨?_, ?_⟩
    · simp [ScopeEntry.source, ScopeEntry.database, hbase]
    · simp [ScopeEntry.source, ScopeEntry.table, hbase]

/-- The row of a star can be traced, given that its source can or is the placeholder. -/
theorem traceable_of_star {source : RowSource} {derived : Bool}
    (h : source.Grounded s.visits ∨
      (source.table = derivedPlaceholder ∧ source.database = "" ∧ derived = true)) :
    Traceable s ⟨source, "*", "", tags, .allColumnsSelected ::
      ((if source.database.isEmpty then [.databaseNotSpecifiedInQuery] else []) ++
        (if derived then [.tableNameDerived] else []))⟩ := by
  rcases h with (⟨hdatabase, htable⟩ | ⟨key, hkey, hdatabase, htable⟩) |
    ⟨htable, hdatabase, hderived⟩
  · exact .unnamed hdatabase htable
  · exact traceable_of_physical hkey hdatabase htable
  · exact .placeholder htable hdatabase rfl (by simp [Row.has, hderived])

/-- The alias of the enclosing subquery fills in the table and its database together: a source with
a table keeps its own, and a source without one has no database. -/
theorem grounded_enclosedSource (hplain : ∀ name, .relation name ∈ s.visits → HasPlainParts name)
    (hscopes : scopes.Grounded s.visits) (enclosing : String) {source : RowSource} (derived : Bool)
    (h : source.Grounded s.visits) :
    let result := enclosedSource scopes enclosing source derived
    result.1.Grounded s.visits ∨
      (result.1.table = derivedPlaceholder ∧ result.1.database = "" ∧ result.2 = true) := by
  obtain ⟨database, table, tableAlias⟩ := source
  have hlabel : (if tableAlias.isEmpty then
      ({ database, table, tableAlias := enclosing } : RowSource)
        else ⟨database, table, tableAlias⟩) =
          ⟨database, table, if tableAlias.isEmpty then enclosing else tableAlias⟩ := by
    split <;> rfl
  simp only [enclosedSource, hlabel]
  -- A source without a table takes table and database from one entry; any other keeps both.
  rcases h with ⟨rfl, rfl⟩ | ⟨key, hkey, rfl, rfl⟩
  · cases hbase : (scopes.outer.get? enclosing).bind (·.base) with
    | some key =>
      obtain ⟨entry, hentry, hkey⟩ := Option.bind_eq_some_iff.mp hbase
      have hgrounded := hscopes.outer _ (Scope.mem_entries_of_get? hentry)
      exact Or.inl (Or.inr ⟨key, hgrounded.base key hkey, rfl, rfl⟩)
    | none => exact Or.inr ⟨rfl, rfl, rfl⟩
  · have hne : key.table.isEmpty = false := by
      rw [← Bool.not_eq_true, String.isEmpty_iff]
      exact table_ne_empty_of_physical hplain hkey
    simp only [hne]
    exact Or.inl (Or.inr ⟨key, hkey, rfl, rfl⟩)

theorem traceable_starRow (hplain : ∀ name, .relation name ∈ s.visits → HasPlainParts name)
    (hscopes : scopes.Grounded s.visits) (enclosing qualifier : Option String) :
    Traceable s (starRow tags scopes enclosing qualifier) := by
  have hunnamed : RowSource.Grounded s.visits {} := Or.inl ⟨rfl, rfl⟩
  unfold starRow
  cases hres : scopes.resolve qualifier none with
  | invalidAlias => exact .unnamed rfl rfl
  | found entry =>
    have hentry := (hscopes.resolve hres).source
    cases enclosing with
    | none => exact traceable_of_star (Or.inl hentry)
    | some enclosing =>
      exact traceable_of_star (grounded_enclosedSource hplain hscopes enclosing _ hentry)
  | ambiguous =>
    cases enclosing with
    | none => exact traceable_of_star (Or.inl hunnamed)
    | some enclosing =>
      exact traceable_of_star (grounded_enclosedSource hplain hscopes enclosing _ hunnamed)
  | unresolved =>
    cases enclosing with
    | none => exact traceable_of_star (Or.inl hunnamed)
    | some enclosing =>
      exact traceable_of_star (grounded_enclosedSource hplain hscopes enclosing _ hunnamed)

/-- The rows of an item of a select list can be traced. -/
theorem traceable_projectionRows (hplain : ∀ name, .relation name ∈ s.visits → HasPlainParts name)
    (hscopes : scopes.Grounded s.visits) (enclosing : Option String) (item : ClassifiedItem) :
    ∀ row ∈ projectionRows tags scopes enclosing item, Traceable s row := by
  intro row hrow
  unfold projectionRows at hrow
  cases hitem : item.projection with
  | star qualifier =>
    simp only [hitem, List.mem_singleton] at hrow
    exact hrow ▸ traceable_starRow hplain hscopes enclosing qualifier
  | column ref =>
    simp only [hitem, List.mem_singleton] at hrow
    exact traceable_of_reports (fun _ => hscopes.projection)
      (hrow ▸ reports_columnRow tags scopes enclosing _ ref)
  | case refs =>
    simp only [hitem, List.mem_map] at hrow
    obtain ⟨ref, -, rfl⟩ := hrow
    exact traceable_of_reports (fun _ => hscopes.projection)
      (reports_derivedRow tags scopes enclosing _ (by decide) ref)
  | derived refs =>
    simp only [hitem, List.mem_map] at hrow
    obtain ⟨ref, -, rfl⟩ := hrow
    exact traceable_of_reports (fun _ => hscopes.projection)
      (reports_derivedRow tags scopes enclosing _ (by decide) ref)
  | functionOnly text =>
    simp only [hitem, List.mem_singleton] at hrow
    exact .unnamed (by rw [hrow]) (by rw [hrow])
  | literal => simp [hitem] at hrow

/-- The row of a column of a clause can be traced if the source that is given for it is a physical
table. -/
theorem traceable_clauseRow (hscopes : scopes.Grounded s.visits) (fallback : Option String)
    {remarks : List Remark} (hremarks : ∀ remark ∈ remarks, remark.tellsFailure = false)
    {given : Option RowSource}
    (hgiven : ∀ source, given = some source → source.Grounded s.visits) (ref : ColumnRef) :
    Traceable s (clauseRow tags scopes fallback remarks given ref) := by
  have hresolved := traceable_of_reports (fun _ => hscopes.resolve)
    (reports_clauseRow tags scopes fallback hremarks ref)
  cases given with
  | none => exact hresolved
  | some source =>
    unfold clauseRow
    simp only
    split
    · exact hresolved
    · rcases hgiven source rfl with ⟨hdatabase, htable⟩ | ⟨key, hkey, hdatabase, htable⟩
      · exact .unnamed hdatabase htable
      · exact traceable_of_physical hkey hdatabase htable

/-- The rows of the filter of a joined subquery can be traced. -/
theorem traceable_joinedFilterRows (hscopes : scopes.Grounded s.visits) (kind : JoinKind)
    {relation : Source} (hsub : relation.visits ⊆ s.visits) :
    ∀ row ∈ joinedFilterRows tags (.ofStatement s) scopes kind relation, Traceable s row := by
  intro row hrow
  match relation, hsub, hrow with
  | .derived lateral query (some label) extras, hsub, hrow =>
    have hquery := s.closed_visits.enter_of_derived (hsub (Source.source_mem_visits _))
    simp only [joinedFilterRows] at hrow
    split at hrow
    · simp at hrow
    · obtain ⟨ref, -, rfl⟩ := List.mem_map.mp hrow
      refine traceable_clauseRow hscopes _ (by simp [Remark.tellsFailure]) ?_ ref
      intro source hsource
      obtain ⟨key, hkey, rfl⟩ := Option.map_eq_some_iff.mp hsource
      exact Or.inr ⟨key, CteCatalog.physical_of_singleBase s.closed_visits hquery hkey, rfl, rfl⟩
  | .derived _ _ none _, _, hrow => simp [joinedFilterRows] at hrow
  | .table .., _, hrow => simp [joinedFilterRows] at hrow
  | .joined .., _, hrow => simp [joinedFilterRows] at hrow
  | .other .., _, hrow => simp [joinedFilterRows] at hrow

/-- The rows of the restriction of a join can be traced. -/
theorem traceable_constraintRows (hscopes : scopes.Grounded s.visits) (kind : JoinKind)
    (left right : Option String) (constraint : JoinConstraint) :
    ∀ row ∈ constraintRows tags scopes kind left right constraint, Traceable s row := by
  intro row hrow
  cases constraint with
  | on predicate =>
    obtain ⟨ref, -, rfl⟩ := List.mem_map.mp hrow
    exact traceable_clauseRow hscopes _ (by simp [Remark.tellsFailure]) (by simp) ref
  | «using» names =>
    obtain ⟨name, -, hrow⟩ := List.mem_flatMap.mp hrow
    obtain ⟨partner, -, rfl⟩ := List.mem_map.mp hrow
    exact traceable_clauseRow hscopes _ (by simp [Remark.tellsFailure]) (by simp) _
  | natural => simp [constraintRows] at hrow
  | none => simp [constraintRows] at hrow

/-- The rows of a join can be traced. -/
theorem traceable_joinRows (hscopes : scopes.Grounded s.visits) (left : Option String)
    {join : Join} (hsub : join.visits ⊆ s.visits) :
    ∀ row ∈ joinRows tags (.ofStatement s) scopes left join, Traceable s row := by
  intro row hrow
  rcases List.mem_append.mp hrow with hrow | hrow
  · exact traceable_constraintRows hscopes _ left _ _ row hrow
  · have hrelation := List.Subset.trans join.relation_visits_subset hsub
    exact traceable_joinedFilterRows hscopes _ hrelation row hrow

/-- The rows of a site that stands in the statement can be traced. -/
theorem traceable_siteRows (hplain : ∀ name, .relation name ∈ s.visits → HasPlainParts name)
    {site : SelectSite} (hsite : site.Within s.visits) :
    ∀ row ∈ site.rowsIn s tags, Traceable s row := by
  have hsub := hsite.select.visits_subset s.closed_visits
  have hscopes : (site.scopesIn s).Grounded s.visits := grounded_ofSelect hplain hsub
  intro row hrow
  rcases SelectSite.mem_rowsIn.mp hrow with ⟨item, -, hrow⟩ | ⟨-, ⟨remark, e⟩, hclause, hrow⟩ |
    ⟨⟨left, join⟩, hjoin, hrow⟩
  · exact traceable_projectionRows hplain hscopes site.enclosing _ row hrow
  · obtain ⟨ref, -, rfl⟩ := List.mem_map.mp hrow
    have hremark := tellsFailure_of_mem_selectClauses hclause
    exact traceable_clauseRow hscopes _ (by simpa using hremark) (by simp) ref
  · have hjoinSub := List.Subset.trans (within_fromJoins hjoin).1 hsub
    exact traceable_joinRows hscopes left hjoinSub row hrow

/-- The row of a whole dataset can be traced. -/
theorem traceable_datasetRows {q : Query} (hq : .enter q ∈ s.visits) :
    ∀ row ∈ datasetRows tags (.ofStatement s) q, Traceable s row := by
  intro row hrow
  obtain ⟨⟨query, name⟩, hdataset, rfl⟩ := List.mem_map.mp hrow
  obtain ⟨lateral, label, extras, hmet, rfl⟩ :=
    source_mem_of_mem_datasets s.closed_visits hq hdataset
  have hquery := s.closed_visits.enter_of_derived hmet
  cases hbase : (CteCatalog.ofStatement s).singleBase query with
  | some key =>
    exact traceable_of_physical (CteCatalog.physical_of_singleBase s.closed_visits hquery hbase)
      (by simp [datasetRow, hbase]) (by simp [datasetRow, hbase])
  | none =>
    refine .derived ?_ ?_ ?_ ?_
    · exact Or.inl ⟨lateral, query, label, extras, hmet, by simp [datasetRow, hbase]⟩
    all_goals simp [datasetRow, hbase, Row.has]

end Rows

/-- Every row of a statement whose tables have plain names can be traced to the statement. -/
theorem traceable_of_mem_statementRows (s : Statement) (tags : Tags) (maxDepth : Nat)
    (hplain : ∀ name, .relation name ∈ s.visits → HasPlainParts name) :
    ∀ row ∈ statementRows tags maxDepth s, Traceable s row := by
  intro row hrow
  rcases mem_statementRows.mp hrow with ⟨q, hq, hrow⟩ | ⟨site, hsite, hrow⟩
  · exact traceable_datasetRows (enter_mem_of_mem_statementQueries hq) row hrow
  · exact traceable_siteRows hplain (within_of_mem_statementSites hsite) row hrow

/-- `SELECT * FROM (SELECT * FROM db.t, u) AS w`. -/
def starOfTwoTables : Statement :=
  .query (.ofBody (.select (.plain [.star []]
    [.subquery (.plain [.star []] [.bare ["db", "t"], .bare ["u"]] none) "w"] none)))

theorem traceable_starOfTwoTables :
    (∀ name, .relation name ∈ starOfTwoTables.visits → HasPlainParts name) ∧
      ⟨⟨"", "__DERIVED__", "w"⟩, "*", "", ⟨"", "", ""⟩,
        [.allColumnsSelected, .databaseNotSpecifiedInQuery, .tableNameDerived]⟩ ∈
          statementRows ⟨"", "", ""⟩ 10 starOfTwoTables ∧
      ∀ row ∈ statementRows ⟨"", "", ""⟩ 10 starOfTwoTables, Traceable starOfTwoTables row := by
  have hplain : ∀ name, .relation name ∈ starOfTwoTables.visits → HasPlainParts name := by
    intro name hname
    simp only [starOfTwoTables, Statement.visits, Query.visits_ofBody, Body.visits,
      Select.visits_plain, Source.visits_subquery, Source.visits_bare, visitItems,
      SelectItem.visits, visitNodes, visitOptional, List.flatMap_cons, List.flatMap_nil,
      List.mem_append, List.mem_cons, List.not_mem_nil, Visit.relation.injEq, reduceCtorEq,
      false_or, or_false] at hname
    rcases hname with rfl | rfl
    · exact ⟨by decide, by decide⟩
    · exact ⟨by decide, by decide⟩
  exact ⟨hplain, by decide, traceable_of_mem_statementRows starOfTwoTables _ _ hplain⟩

end ColumnLineage.Lineage
