import ColumnLineage.Proofs.Coherence
import ColumnLineage.Proofs.Agreement

/-!
# What select lists leave in an output

Every item of a select list leaves its rows in the output, but for rows that are placeholders.
Where names are not empty these are the stars of a SELECT that no source stands behind, or only a
table whose name is computed, and what is named like a star and has neither source nor alias.

## Main definitions

* `NamesNonempty`: the names of tables, aliases and definitions are not empty.
* `Nameless`: the entry of a table whose name is computed, without an alias.
* `Unplaced`: a star with nothing that tells whose columns it stands for.
* `LeavesRows`: what an item leaves in an output.

## Main statements

* `isPlaceholderStar_starRow_iff`: which stars are placeholders.
* `leavesRows_of_mem_items`: what the items of the SELECTs leave that the traversal reaches.
* `not_always_leavesRows`: stars and columns named like them may leave nothing.
-/

namespace ColumnLineage.Lineage

open Sql

/-- The names of tables, of aliases and of definitions in some visits are not empty. -/
structure NamesNonempty (visits : List Visit) : Prop where
  tables : ∀ name, .relation name ∈ visits → "" ∉ name.values
  aliases : ∀ source, .source source ∈ visits → ∀ label ∈ sourceAlias source, label ≠ ""
  definitions : "" ∉ definedNames visits

/-- No name that a step meets is empty. -/
def meetsNames : Visit → Bool
  | .relation name => !name.values.contains ""
  | .source source => sourceAlias source != some ""
  | .enter q => q.ctes.all fun cte => cte.label.name.value != ""
  | .expr _ => true
  | .leave => true

/-- Whether names are not empty can be told step by step. -/
theorem NamesNonempty.of_all {visits : List Visit} (h : visits.all meetsNames) :
    NamesNonempty visits := by
  rw [List.all_eq_true] at h
  constructor
  · intro name hname
    simpa [meetsNames] using h _ hname
  · rintro source hsource label hlabel rfl
    have hne := h _ hsource
    rw [meetsNames, hlabel] at hne
    simp at hne
  · intro hdefined
    obtain ⟨v, hv, hname⟩ := List.mem_flatMap.mp hdefined
    cases v with
    | enter q =>
      obtain ⟨cte, hcte, hempty⟩ := List.mem_map.mp hname
      have hall := h _ hv
      simp only [meetsNames, List.all_eq_true] at hall
      simpa [hempty] using hall cte hcte
    | _ => simp at hname

/-- An entry is that of a table without an alias whose name is computed. -/
def Nameless (visits : List Visit) (entry : ScopeEntry) : Prop :=
  ∃ name arguments extras, .source (.table name arguments none extras) ∈ visits ∧
    name.values = [] ∧ entry = .physical (.ofName name) none

/-- An entry names something, or it is that of a table without a name and stands under no name. -/
def Told (visits : List Visit) (item : String × ScopeEntry) : Prop :=
  item.2.source ≠ {} ∨ item.1 = "" ∧ Nameless visits item.2

theorem Nameless.source {visits : List Visit} {entry : ScopeEntry} (h : Nameless visits entry) :
    entry.source = {} := by
  obtain ⟨name, arguments, extras, -, hvalues, rfl⟩ := h
  simp [ScopeEntry.source, ScopeEntry.physical, ScopeEntry.database, ScopeEntry.table,
    TableKey.ofName_eq, hvalues]

theorem ScopeEntry.source_ne_of_label {entry : ScopeEntry} (h : entry.label ≠ "") :
    entry.source ≠ {} := by
  intro hempty
  exact h (congrArg RowSource.tableAlias hempty)

section Scopes

variable {s : Statement} (hnames : NamesNonempty s.visits)

include hnames

/-- The name of a table is not empty, unless it is computed. -/
theorem NamesNonempty.table_ne {name : ObjectName} (hmet : .relation name ∈ s.visits)
    (hvalues : name.values ≠ []) : (TableKey.ofName name).table ≠ "" := by
  have hlast : (TableKey.ofName name).table ∈ name.values := by
    simp only [TableKey.ofName_eq, List.getLastD_eq_getLast?]
    rw [List.getLast?_eq_some_getLast hvalues]
    exact List.getLast_mem hvalues
  exact fun hempty => hnames.tables name hmet (hempty ▸ hlast)

/-- What a source of the statement stands for names something, but for a table without a name. -/
theorem told_of_sourceEntry {source : Source} (hmet : .source source ∈ s.visits)
    {item : String × ScopeEntry} (h : sourceEntry (.ofStatement s) source = some item) :
    Told s.visits item := by
  have halias := hnames.aliases source hmet
  cases source with
  | table name arguments label extras =>
    have hname := s.closed_visits.relation_of_table hmet
    simp only [sourceEntry] at h
    cases href : (CteCatalog.ofStatement s).reference? (TableKey.ofName name) with
    | some relations =>
      rw [href] at h
      obtain rfl := Option.some.inj h
      -- A reference to a definition goes by its alias, or by the name of the definition.
      refine Or.inl (ScopeEntry.source_ne_of_label ?_)
      cases label with
      | some label => exact halias _ rfl
      | none =>
        obtain ⟨-, hrelations⟩ := CteCatalog.relations?_of_reference? href
        have hsome := Option.isSome_iff_exists.mpr ⟨relations, hrelations⟩
        have hdefined := CteCatalog.mem_names_ofVisits.mp
          (CteCatalog.relations?_isSome_iff.mp hsome)
        exact fun hempty => hnames.definitions (hempty ▸ hdefined)
    | none =>
      rw [href] at h
      obtain rfl := Option.some.inj h
      by_cases hvalues : name.values = []
      · cases label with
        | some label =>
          -- The alias is no repetition of the empty name.
          refine Or.inl (ScopeEntry.source_ne_of_label ?_)
          have hne : label.name.value ≠ "" := halias _ rfl
          simp [ScopeEntry.physical, aliasName, TableKey.ofName_eq, hvalues, hne]
        | none =>
          refine Or.inr ⟨?_, name, arguments, extras, hmet, hvalues, rfl⟩
          simp [aliasName, TableKey.ofName_eq, hvalues]
      · refine Or.inl fun hempty => ?_
        exact hnames.table_ne hname hvalues (congrArg RowSource.table hempty)
  | derived lateral query label extras =>
    cases label with
    | none => simp [sourceEntry, aliasName] at h
    | some label =>
      obtain rfl := Option.some.inj h
      exact Or.inl (ScopeEntry.source_ne_of_label (halias _ rfl))
  | joined tree label => simp [sourceEntry] at h
  | other layout parts label => simp [sourceEntry] at h

theorem told_ofStatement : ∀ item ∈ (Scope.ofStatement (.ofStatement s) s).entries,
    Told s.visits item := by
  intro item hitem
  have hmem := Scope.mem_of_mem_ofList hitem
  rw [Scope.globalItems_eq, List.mem_append] at hmem
  rcases hmem with hmem | hmem
  · obtain ⟨source, hsource, hentry⟩ := List.mem_filterMap.mp hmem
    exact told_of_sourceEntry hnames (Scope.mem_orderedSources.mp hsource) hentry
  · obtain ⟨name, hname, rfl⟩ := List.mem_map.mp hmem
    refine Or.inl (ScopeEntry.source_ne_of_label fun hempty => ?_)
    exact hnames.definitions (hempty ▸ CteCatalog.mem_names_ofVisits.mp hname)

theorem told_ofSelect {select : Select} (hsub : select.visits ⊆ s.visits) :
    ∀ item ∈ (Scope.ofSelect (.ofStatement s) select).entries, Told s.visits item := by
  intro item hitem
  obtain ⟨source, hsource, hentry⟩ := List.mem_filterMap.mp (Scope.mem_of_mem_ofList hitem)
  exact told_of_sourceEntry hnames (hsub (Scope.source_mem_of_mem_fromSources hsource)) hentry

end Scopes

/-- All entries of two scopes name something, but for those of tables without a name. -/
def Scopes.Told (visits : List Visit) (scopes : Scopes) : Prop :=
  ∀ item ∈ scopes.inner.entries ++ scopes.outer.entries, Lineage.Told visits item

theorem told_scopesIn {s : Statement} (hnames : NamesNonempty s.visits) {maxDepth : Nat}
    {site : SelectSite} (hsite : site ∈ statementSites maxDepth s) :
    (site.scopesIn s).Told s.visits := by
  have hsub := (within_of_mem_statementSites hsite).select.visits_subset s.closed_visits
  intro item hitem
  rcases List.mem_append.mp hitem with hinner | houter
  · exact told_ofSelect hnames hsub item hinner
  · exact told_ofStatement hnames item houter

namespace Scopes.Told

variable {visits : List Visit} {scopes : Scopes} (h : scopes.Told visits)

include h

/-- What is found under a name names something. -/
theorem lookup {name : String} {entry : ScopeEntry} (hname : name ≠ "")
    (hentry : scopes.lookup name = some entry) : entry.source ≠ {} := by
  have hmem : (name, entry) ∈ scopes.inner.entries ++ scopes.outer.entries := by
    rcases Option.or_eq_some_iff.mp hentry with hinner | ⟨-, houter⟩
    · exact List.mem_append_left _ (Scope.mem_entries_of_get? hinner)
    · exact List.mem_append_right _ (Scope.mem_entries_of_get? houter)
  exact (h _ hmem).resolve_right fun hnameless => hname hnameless.1

/-- The only source names something, or it is a table without a name. -/
theorem sole {entry : ScopeEntry} (hentry : scopes.sole = some entry) :
    entry.source = {} ↔ Nameless visits entry := by
  have hmem : ∃ name, (name, entry) ∈ scopes.inner.entries ++ scopes.outer.entries := by
    rcases Option.or_eq_some_iff.mp hentry with hinner | ⟨-, houter⟩
    · obtain ⟨name, hmem⟩ := Scope.mem_entries_of_sole hinner
      exact ⟨name, List.mem_append_left _ hmem⟩
    · obtain ⟨name, hmem⟩ := Scope.mem_entries_of_sole houter
      exact ⟨name, List.mem_append_right _ hmem⟩
  obtain ⟨name, hmem⟩ := hmem
  refine ⟨fun hempty => ?_, Nameless.source⟩
  exact ((h _ hmem).resolve_left (not_not_intro hempty)).2

end Scopes.Told

section Stars

theorem Row.isPlaceholderStar_iff {row : Row} : row.isPlaceholderStar ↔
    row.column = "*" ∧ row.source = {} ∧ row.columnAlias = "" := by
  obtain ⟨⟨database, table, tableAlias⟩, column, columnAlias, tags, remarks⟩ := row
  simp [Row.isPlaceholderStar, and_assoc]

/-- A star has nothing that tells whose columns it stands for: no qualifier, no enclosing subquery,
and no only source but a table without a name. -/
def Unplaced (visits : List Visit) (scopes : Scopes) (enclosing qualifier : Option String) : Prop :=
  qualifier = none ∧ enclosing = none ∧ ∀ entry, scopes.sole = some entry → Nameless visits entry

/-- A star in a subquery has at least the alias of the subquery. -/
theorem tableAlias_enclosedSource (scopes : Scopes) {enclosing : String} (hne : enclosing ≠ "")
    (source : RowSource) (derived : Bool) :
    (enclosedSource scopes enclosing source derived).1.tableAlias ≠ "" := by
  unfold enclosedSource
  cases hempty : source.tableAlias.isEmpty with
  | true =>
    simp only [if_true]
    split
    · exact hne
    · split <;> exact hne
  | false =>
    have hsome : source.tableAlias ≠ "" := by simpa using hempty
    simp only [Bool.false_eq_true, if_false]
    split
    · exact hsome
    · split <;> exact hsome

theorem starRow_shape (tags : Tags) (scopes : Scopes) (enclosing qualifier : Option String) :
    (starRow tags scopes enclosing qualifier).column = "*" ∧
      (starRow tags scopes enclosing qualifier).columnAlias = "" := by
  unfold starRow
  cases scopes.resolve qualifier none <;> exact ⟨rfl, rfl⟩

/-- What the row of a star that stands in no subquery says of its source. -/
theorem source_starRow (tags : Tags) (scopes : Scopes) (qualifier : Option String) :
    (starRow tags scopes none qualifier).source = match scopes.resolve qualifier none with
      | .found entry => entry.source
      | .invalidAlias => { tableAlias := qualifier.getD "" }
      | .ambiguous | .unresolved => {} := by
  unfold starRow
  cases scopes.resolve qualifier none <;> rfl

/-- The row of a star that stands in a subquery, or whose qualifier names nothing, has an alias. -/
theorem tableAlias_starRow (tags : Tags) (scopes : Scopes) {enclosing : String}
    (henclosing : enclosing ≠ "") {qualifier : Option String}
    (hqualifier : ∀ name ∈ qualifier, name ≠ "") :
    (starRow tags scopes (some enclosing) qualifier).source.tableAlias ≠ "" := by
  unfold starRow
  cases hresolve : scopes.resolve qualifier none with
  | invalidAlias =>
    cases qualifier with
    | some name => exact hqualifier name rfl
    | none =>
      simp only [Scopes.resolve, Option.bind_none, Scopes.resolveUnqualified] at hresolve
      split at hresolve
      · simp at hresolve
      · split at hresolve <;> simp at hresolve
  | found entry => exact tableAlias_enclosedSource scopes henclosing _ _
  | ambiguous => exact tableAlias_enclosedSource scopes henclosing _ _
  | unresolved => exact tableAlias_enclosedSource scopes henclosing _ _

/-- The stars that are placeholders. -/
theorem isPlaceholderStar_starRow_iff {visits : List Visit} {scopes : Scopes}
    (htold : scopes.Told visits) (tags : Tags) {enclosing qualifier : Option String}
    (henclosing : ∀ label ∈ enclosing, label ≠ "") (hqualifier : ∀ name ∈ qualifier, name ≠ "") :
    (starRow tags scopes enclosing qualifier).isPlaceholderStar ↔
      Unplaced visits scopes enclosing qualifier := by
  obtain ⟨hcolumn, halias⟩ := starRow_shape tags scopes enclosing qualifier
  rw [Row.isPlaceholderStar_iff, hcolumn, halias]
  simp only [true_and, and_true]
  cases enclosing with
  | some label =>
    -- In a subquery the star has at least the alias of the subquery.
    have hlabel := tableAlias_starRow tags scopes (henclosing label rfl) hqualifier
    refine ⟨fun hempty => absurd (congrArg RowSource.tableAlias hempty) hlabel, fun hunplaced => ?_⟩
    exact nomatch hunplaced.2.1
  | none =>
    rw [source_starRow]
    cases qualifier with
    | some name =>
      -- A qualifier that names nothing is kept as the alias.
      refine ⟨fun hempty => ?_, fun hunplaced => nomatch hunplaced.1⟩
      cases hlookup : scopes.lookup name with
      | none =>
        simp only [Scopes.resolve, hlookup] at hempty
        exact absurd (congrArg RowSource.tableAlias hempty) (hqualifier name rfl)
      | some entry =>
        simp only [Scopes.resolve, hlookup] at hempty
        exact absurd hempty (htold.lookup (hqualifier name rfl) hlookup)
    | none =>
      -- What is left is whether the only source, if there is one, names something.
      simp only [Scopes.resolve, Option.bind_none, Scopes.resolveUnqualified, Unplaced, true_and]
      cases hsole : scopes.sole with
      | some entry => simpa using htold.sole hsole
      | none =>
        simp only [reduceCtorEq, false_imp_iff, implies_true, iff_true]
        by_cases hseveral : scopes.candidates > 1 <;> simp [hseveral]

end Stars

section Items

/-- The name that an item of a select list gives its columns. -/
def itemLabel (item : SelectItem) : String :=
  (ClassifiedItem.ofItem item).label.getD ""

variable {tags : Tags} {scopes : Scopes} {enclosing : Option String} {item : SelectItem} {row : Row}

/-- An item without an expression has the row of a star. -/
theorem projectionRows_of_star (tags : Tags) (scopes : Scopes) (enclosing : Option String)
    (h : selectExprs.itemExpr? item = none) :
    projectionRows tags scopes enclosing (.ofItem item) =
      [starRow tags scopes enclosing (starQualifier item)] := by
  cases item with
  | star options => rfl
  | qualifiedStar name options => rfl
  | exprStar e options => rfl
  | expr e => simp [selectExprs.itemExpr?] at h
  | aliased e label => simp [selectExprs.itemExpr?] at h

theorem projection_of_itemExpr {e : Expr} (h : selectExprs.itemExpr? item = some e) :
    (ClassifiedItem.ofItem item).projection = .ofExpr e := by
  cases item with
  | expr other => rw [← Option.some.inj h]; rfl
  | aliased other label => rw [← Option.some.inj h]; rfl
  | _ => simp [selectExprs.itemExpr?] at h

theorem starQualifier_of_itemExpr {e : Expr} (h : selectExprs.itemExpr? item = some e) :
    starQualifier item = none := by
  unfold starQualifier
  rw [projection_of_itemExpr h]
  cases href : ColumnRef.ofExpr (unwrapped e) with
  | some ref => simp [Projection.ofExpr, href]
  | none =>
    cases hrefs : columnRefs (unwrapped e) with
    | nil =>
      by_cases hcall : isFunctionLike (unwrapped e) <;>
        simp [Projection.ofExpr, href, hrefs, hcall]
    | cons ref more =>
      by_cases hcase : isCase (unwrapped e) <;> simp [Projection.ofExpr, href, hrefs, hcase]

/-- The qualifier of a star is not empty. -/
theorem starQualifier_ne (item : SelectItem) : ∀ name ∈ starQualifier item, name ≠ "" := by
  have hstarOf : ∀ qualifier, ∀ name ∈ (if qualifier.isEmpty then none else some qualifier),
      name ≠ "" := by
    intro qualifier name hname
    split at hname
    · simp at hname
    · next hsome =>
      obtain rfl : qualifier = name := by simpa using hname
      simpa using hsome
  cases item with
  | star options => exact fun name hname => nomatch hname
  | qualifiedStar name options => exact hstarOf _
  | exprStar e options => exact hstarOf _
  | expr e =>
    rw [starQualifier_of_itemExpr rfl]
    exact fun name hname => nomatch hname
  | aliased e label =>
    rw [starQualifier_of_itemExpr rfl]
    exact fun name hname => nomatch hname

/-- What an expression that reads no columns gives out. -/
theorem projection_of_no_refs {e : Expr} (h : columnRefs e = []) :
    Projection.ofExpr e = if isFunctionLike (unwrapped e) then .functionOnly (unwrapped e).text
      else .literal := by
  have hrefs : columnRefs (unwrapped e) = [] := (columnRefs_unwrapped e).trans h
  have hnone : ColumnRef.ofExpr (unwrapped e) = none := by
    cases href : ColumnRef.ofExpr (unwrapped e) with
    | none => rfl
    | some ref => simp [columnRefs_of_ofExpr href] at hrefs
  simp only [Projection.ofExpr, hnone, hrefs]

/-- An expression that reads no columns has the row of a call, or no row. -/
theorem projectionRows_of_no_refs (tags : Tags) (scopes : Scopes) (enclosing : Option String)
    {e : Expr} (hitem : selectExprs.itemExpr? item = some e) (hrefs : columnRefs e = []) :
    projectionRows tags scopes enclosing (.ofItem item) =
      if isFunctionLike (unwrapped e) then
        [⟨{}, (unwrapped e).text, itemLabel item, tags, [.derivedExpression, .functionExpression]⟩]
      else [] := by
  unfold projectionRows itemLabel
  rw [projection_of_itemExpr hitem, projection_of_no_refs hrefs]
  by_cases hcall : isFunctionLike (unwrapped e) <;> simp [hcall]

/-- The rows of an item that reads columns have its name. -/
theorem columnAlias_of_mem_projectionRows {e : Expr}
    (hitem : selectExprs.itemExpr? item = some e) (hrefs : columnRefs e ≠ [])
    (h : row ∈ projectionRows tags scopes enclosing (.ofItem item)) :
    row.columnAlias = itemLabel item := by
  rw [← Projection.refs_ofExpr] at hrefs
  simp only [projectionRows, projection_of_itemExpr hitem] at h
  cases hprojection : Projection.ofExpr e with
  | column ref =>
    rw [hprojection] at h
    rw [List.mem_singleton.mp h]
    rfl
  | case refs =>
    rw [hprojection] at h
    obtain ⟨ref, -, rfl⟩ := List.mem_map.mp h
    rfl
  | derived refs =>
    rw [hprojection] at h
    obtain ⟨ref, -, rfl⟩ := List.mem_map.mp h
    rfl
  | star qualifier => simp [hprojection, Projection.refs] at hrefs
  | functionOnly text => simp [hprojection, Projection.refs] at hrefs
  | literal => simp [hprojection, Projection.refs] at hrefs

theorem exists_of_forall₂ {α β : Type} {R : α → β → Prop} {left : List α} {right : List β}
    (h : List.Forall₂ R left right) {a : α} (ha : a ∈ left) : ∃ b ∈ right, R a b := by
  induction h with
  | nil => simp at ha
  | cons hr _ ih =>
    rcases List.mem_cons.mp ha with rfl | ha
    · exact ⟨_, List.mem_cons_self, hr⟩
    · obtain ⟨b, hb, hr⟩ := ih ha
      exact ⟨b, List.mem_cons_of_mem _ hb, hr⟩

/-- Nothing tells a column from a star: it is named like one, and it has neither a name in the
query's output nor a source. -/
def LooksLikeStar (scopes : Scopes) (enclosing : Option String) (item : SelectItem)
    (ref : ColumnRef) : Prop :=
  ref.column = "*" ∧ (projectionResolution scopes enclosing ref).source ref.qualifier = {} ∧
    itemLabel item = ""

/-- The row of a reference is a placeholder if nothing tells the column from a star. -/
theorem isPlaceholderStar_iff_of_reports {e : Expr} (hitem : selectExprs.itemExpr? item = some e)
    {ref : ColumnRef} (href : ref ∈ columnRefs e)
    (hrow : row ∈ projectionRows tags scopes enclosing (.ofItem item))
    (hreports : row.Reports ref (projectionResolution scopes enclosing ref)) :
    row.isPlaceholderStar ↔ LooksLikeStar scopes enclosing item ref := by
  have halias := columnAlias_of_mem_projectionRows hitem (List.ne_nil_of_mem href) hrow
  rw [Row.isPlaceholderStar_iff, hreports.column, hreports.source, halias]
  rfl

end Items

/-- The items of a select list that leave nothing. -/
inductive LeavesNothing (visits : List Visit) (scopes : Scopes) (enclosing : Option String)
    (item : SelectItem) : Prop
  /-- A star with nothing that tells whose columns it stands for. -/
  | star (noExpr : selectExprs.itemExpr? item = none)
    (unplaced : Unplaced visits scopes enclosing (starQualifier item))
  /-- An expression all of whose columns are named like stars and have nothing else. -/
  | columns (e : Expr) (expr : selectExprs.itemExpr? item = some e) (reads : columnRefs e ≠ [])
    (like : ∀ ref ∈ columnRefs e, LooksLikeStar scopes enclosing item ref)
  /-- An expression without columns that is no call. -/
  | literal (e : Expr) (expr : selectExprs.itemExpr? item = some e) (reads : columnRefs e = [])
    (noCall : isFunctionLike (unwrapped e) = false)
  /-- A call whose whole text is a star; no call is written so. -/
  | call (e : Expr) (expr : selectExprs.itemExpr? item = some e) (reads : columnRefs e = [])
    (call : isFunctionLike (unwrapped e)) (text : (unwrapped e).text = "*")
    (label : itemLabel item = "")

/-- The items all of whose rows are placeholders. -/
theorem all_placeholders_iff {visits : List Visit} {tags : Tags} {scopes : Scopes}
    {enclosing : Option String} {item : SelectItem}
    (hstar : (starRow tags scopes enclosing (starQualifier item)).isPlaceholderStar ↔
      Unplaced visits scopes enclosing (starQualifier item)) :
    (∀ row ∈ projectionRows tags scopes enclosing (.ofItem item), row.isPlaceholderStar) ↔
      LeavesNothing visits scopes enclosing item := by
  constructor
  · intro hrows
    cases he : selectExprs.itemExpr? item with
    | none =>
      rw [projectionRows_of_star tags scopes enclosing he] at hrows
      exact .star he (hstar.mp (hrows _ (List.mem_singleton_self _)))
    | some e =>
      by_cases hrefs : columnRefs e = []
      · rw [projectionRows_of_no_refs tags scopes enclosing he hrefs] at hrows
        by_cases hcall : isFunctionLike (unwrapped e)
        · rw [if_pos hcall] at hrows
          obtain ⟨htext, -, hlabel⟩ :=
            Row.isPlaceholderStar_iff.mp (hrows _ (List.mem_singleton_self _))
          exact .call e he hrefs hcall htext hlabel
        · exact .literal e he hrefs (Bool.eq_false_iff.mpr hcall)
      · refine .columns e he hrefs fun ref href => ?_
        obtain ⟨row, hrow, hreports⟩ :=
          exists_of_forall₂ (reports_projectionRows tags scopes enclosing he hrefs) href
        exact (isPlaceholderStar_iff_of_reports he href hrow hreports).mp (hrows row hrow)
  · intro hnothing row hrow
    cases hnothing with
    | star he hunplaced =>
      rw [projectionRows_of_star tags scopes enclosing he] at hrow
      rw [List.mem_singleton.mp hrow]
      exact hstar.mpr hunplaced
    | columns e he hrefs hlike =>
      obtain ⟨ref, href, hreports⟩ :=
        exists_of_forall₂ (reports_projectionRows tags scopes enclosing he hrefs).flip hrow
      exact (isPlaceholderStar_iff_of_reports he href hrow hreports).mpr (hlike ref href)
    | literal e he hrefs hcall => simp [projectionRows_of_no_refs, he, hrefs, hcall] at hrow
    | call e he hrefs hcall htext hlabel =>
      rw [projectionRows_of_no_refs tags scopes enclosing he hrefs, if_pos hcall] at hrow
      rw [List.mem_singleton.mp hrow]
      exact Row.isPlaceholderStar_iff.mpr ⟨htext, rfl, hlabel⟩

/-- What an item of a select list leaves in an output. -/
structure LeavesRows (s : Statement) (tags : Tags) (site : SelectSite) (item : SelectItem)
    (output : List Row) : Prop where
  /-- Each column of an expression leaves a row that says what it is resolved to. -/
  columns : ∀ e, selectExprs.itemExpr? item = some e → ∀ ref ∈ columnRefs e,
    ¬ LooksLikeStar (site.scopesIn s) site.enclosing item ref → ∃ row ∈ output,
      row.Reports ref (projectionResolution (site.scopesIn s) site.enclosing ref) ∧
        row.columnAlias = itemLabel item
  /-- A call without columns leaves a row with its text. -/
  call : ∀ e, selectExprs.itemExpr? item = some e → columnRefs e = [] →
    isFunctionLike (unwrapped e) → ((unwrapped e).text ≠ "*" ∨ itemLabel item ≠ "") →
      ⟨{}, (unwrapped e).text, itemLabel item, tags,
        [.derivedExpression, .functionExpression]⟩ ∈ output
  /-- A star leaves its row unless nothing tells whose columns it stands for. -/
  star : selectExprs.itemExpr? item = none →
    (starRow tags (site.scopesIn s) site.enclosing (starQualifier item) ∈ output ↔
      ¬ Unplaced s.visits (site.scopesIn s) site.enclosing (starQualifier item))
  nothing : (∀ row ∈ projectionRows tags (site.scopesIn s) site.enclosing (.ofItem item),
    row ∉ output) ↔ LeavesNothing s.visits (site.scopesIn s) site.enclosing item

section Output

variable {tags : Tags} {maxDepth : Nat} {statements : List Statement} {s : Statement}
  {site : SelectSite} {item : SelectItem}

/-- A row of an item is in the output if it is no placeholder. -/
theorem mem_output_iff_of_mem_projectionRows (hs : s ∈ statements)
    (hsite : site ∈ statementSites maxDepth s) (hitem : item ∈ site.select.items) {row : Row}
    (hrow : row ∈ projectionRows tags (site.scopesIn s) site.enclosing (.ofItem item)) :
    row ∈ deduplicate (statements.flatMap (statementRows tags maxDepth)) ↔
      ¬ row.isPlaceholderStar := by
  rw [mem_output, Bool.not_eq_true]
  exact and_iff_right ⟨s, hs, SelectSite.projectionRows_subset hsite hitem hrow⟩

/-- The alias of the enclosing subquery is not empty. -/
theorem enclosing_ne (hnames : NamesNonempty s.visits) (hsite : site ∈ statementSites maxDepth s) :
    ∀ label ∈ site.enclosing, label ≠ "" := by
  intro label hlabel
  obtain ⟨lateral, query, name, extras, hsource, rfl, -⟩ :=
    (within_of_mem_statementSites hsite).enclosing label hlabel
  exact hnames.aliases _ hsource _ rfl

/-- The items of the SELECTs that the traversal reaches leave their rows in the output. -/
theorem leavesRows_of_mem_items (tags : Tags) (maxDepth : Nat) (statements : List Statement)
    (s : Statement) (hs : s ∈ statements) (hnames : NamesNonempty s.visits) (site : SelectSite)
    (hsite : site ∈ statementSites maxDepth s) (item : SelectItem)
    (hitem : item ∈ site.select.items) :
    LeavesRows s tags site item
      (deduplicate (statements.flatMap (statementRows tags maxDepth))) := by
  have hkept : ∀ row ∈ projectionRows tags (site.scopesIn s) site.enclosing (.ofItem item),
      row ∈ deduplicate (statements.flatMap (statementRows tags maxDepth)) ↔
        ¬ row.isPlaceholderStar :=
    fun row hrow => mem_output_iff_of_mem_projectionRows hs hsite hitem hrow
  have hstar := isPlaceholderStar_starRow_iff (told_scopesIn hnames hsite) tags
    (enclosing_ne hnames hsite) (starQualifier_ne item)
  constructor
  case columns =>
    intro e he ref href hother
    have hforall := reports_projectionRows tags (site.scopesIn s) site.enclosing he
      (List.ne_nil_of_mem href)
    obtain ⟨row, hrow, hreports⟩ := exists_of_forall₂ hforall href
    have hplaceholder := isPlaceholderStar_iff_of_reports he href hrow hreports
    exact ⟨row, (hkept row hrow).mpr (hplaceholder.not.mpr hother), hreports,
      columnAlias_of_mem_projectionRows he (List.ne_nil_of_mem href) hrow⟩
  case call =>
    intro e he hrefs hcall hother
    have hrows := projectionRows_of_no_refs tags (site.scopesIn s) site.enclosing he hrefs
    rw [if_pos hcall] at hrows
    refine (hkept _ (hrows ▸ List.mem_singleton_self _)).mpr ?_
    rw [Row.isPlaceholderStar_iff]
    tauto
  case star =>
    intro he
    have hrows := projectionRows_of_star tags (site.scopesIn s) site.enclosing he
    rw [hkept _ (hrows ▸ List.mem_singleton_self _), hstar]
  case nothing =>
    have hnone : (∀ row ∈ projectionRows tags (site.scopesIn s) site.enclosing (.ofItem item),
        row ∉ deduplicate (statements.flatMap (statementRows tags maxDepth))) ↔
          ∀ row ∈ projectionRows tags (site.scopesIn s) site.enclosing (.ofItem item),
            row.isPlaceholderStar :=
      forall₂_congr fun row hrow => (hkept row hrow).not.trans not_not
    rw [hnone]
    exact all_placeholders_iff hstar

end Output

/-- `SELECT a.x, NOW() AS n, * FROM d.t AS a`. -/
def selectOfThree : Select :=
  .plain [.expr (.path [.bare "a", .bare "x"]),
      .aliased (.call (.ofIdents [.bare "NOW"]) [.text "()"] []) (.bare "n"), .star []]
    [.table (.ofIdents [.bare "d", .bare "t"]) [] (some ⟨true, .bare "a", []⟩) []] none

/-- A statement that is a SELECT alone. -/
def statementOfSelect (select : Select) : Statement :=
  .query (.ofBody (.select select))

theorem leavesRows_selectOfThree :
    NamesNonempty (statementOfSelect selectOfThree).visits ∧
      ⟨selectOfThree, none, false⟩ ∈ statementSites 10 (statementOfSelect selectOfThree) ∧
      ∀ item ∈ selectOfThree.items,
        LeavesRows (statementOfSelect selectOfThree) ⟨"", "", "v"⟩ ⟨selectOfThree, none, false⟩ item
          (deduplicate ([statementOfSelect selectOfThree].flatMap
            (statementRows ⟨"", "", "v"⟩ 10))) := by
  have hnames : NamesNonempty (statementOfSelect selectOfThree).visits := .of_all (by decide)
  have hsite : ⟨selectOfThree, none, false⟩ ∈
      statementSites 10 (statementOfSelect selectOfThree) := List.mem_cons_self
  exact ⟨hnames, hsite, fun item hitem =>
    leavesRows_of_mem_items ⟨"", "", "v"⟩ 10 [statementOfSelect selectOfThree] _
      (List.mem_singleton_self _) hnames _ hsite item hitem⟩

/-- `SELECT * FROM IDENTIFIER('t')`. -/
def starOfComputed : Select :=
  .plain [.star []] [.table ⟨[.computed "IDENTIFIER('t')"]⟩ [] none []] none

/-- `SELECT "*" FROM db.a, db.b`. -/
def columnNamedStar : Select :=
  .plain [.expr (.column ⟨"*", some '"'⟩)] [.bare ["db", "a"], .bare ["db", "b"]] none

/-- `SELECT * REPLACE (x AS y) FROM t`. -/
def starReplacingColumn : Select :=
  .plain [.star [.phrase [.text "REPLACE (", .part 0, .text " AS y)"]
    [.expr (.column (.bare "x"))]]] [.bare ["t"]] none

/-- Items of a select list do not always leave rows.  A star with an only source may leave none, an
item with a column may leave none, and no row is left for the columns that the options of a star
read. -/
theorem not_always_leavesRows :
    (¬ ∀ s, NamesNonempty s.visits → ∀ site ∈ statementSites 10 s, ∀ item ∈ site.select.items,
      selectExprs.itemExpr? item = none →
        ¬ (starQualifier item = none ∧ site.enclosing = none ∧ (site.scopesIn s).sole = none) →
          ∃ row ∈ deduplicate (statementRows ⟨"", "", ""⟩ 10 s), row.column = "*") ∧
    (¬ ∀ s, NamesNonempty s.visits → ∀ site ∈ statementSites 10 s, ∀ item ∈ site.select.items,
      (∀ row ∈ projectionRows ⟨"", "", ""⟩ (site.scopesIn s) site.enclosing (.ofItem item),
        row ∉ deduplicate (statementRows ⟨"", "", ""⟩ 10 s)) →
          selectExprs.itemExpr? item = none ∨ ∃ e, selectExprs.itemExpr? item = some e ∧
            columnRefs e = [] ∧ isFunctionLike (unwrapped e) = false) ∧
    (¬ ∀ s, NamesNonempty s.visits → ∀ site ∈ statementSites 10 s, ∀ item ∈ site.select.items,
      ∀ ref ∈ outerColumns 0 item.visits, ref.column ≠ "*" →
        ∃ row ∈ deduplicate (statementRows ⟨"", "", ""⟩ 10 s), row.column = ref.column) := by
  refine ⟨fun h => ?_, fun h => ?_, fun h => ?_⟩
  · obtain ⟨row, hrow, -⟩ := h (statementOfSelect starOfComputed) (.of_all (by decide))
      ⟨starOfComputed, none, false⟩ List.mem_cons_self (.star []) List.mem_cons_self rfl (by decide)
    have hnone : deduplicate (statementRows ⟨"", "", ""⟩ 10 (statementOfSelect starOfComputed)) =
        [] := by decide
    simp [hnone] at hrow
  · have hnone := h (statementOfSelect columnNamedStar) (.of_all (by decide))
      ⟨columnNamedStar, none, false⟩ List.mem_cons_self _ List.mem_cons_self (by decide)
    rcases hnone with hstar | ⟨e, he, hrefs, -⟩
    · simp [selectExprs.itemExpr?] at hstar
    · obtain rfl : Expr.column ⟨"*", some '"'⟩ = e := Option.some.inj he
      exact absurd hrefs (by decide)
  · obtain ⟨row, hrow, hcolumn⟩ := h (statementOfSelect starReplacingColumn) (.of_all (by decide))
      ⟨starReplacingColumn, none, false⟩ List.mem_cons_self _ List.mem_cons_self ⟨none, "x"⟩
      (by decide) (by decide)
    have hstars : ∀ row ∈ deduplicate (statementRows ⟨"", "", ""⟩ 10
        (statementOfSelect starReplacingColumn)), row.column = "*" := by decide
    rw [hstars row hrow] at hcolumn
    exact absurd hcolumn (by decide)

end ColumnLineage.Lineage
