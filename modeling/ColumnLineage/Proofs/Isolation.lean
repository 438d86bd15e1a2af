import ColumnLineage.Proofs.Agreement

/-!
# Set operators keep their branches apart

Two bodies that share no names give the same rows under a set operator as each of them alone.  Both
branches are looked up in one global scope and one catalog; a name of a branch is found there as it
is found in the branch alone, and no reference without a qualifier is left to the global scope where
every SELECT has a source of its own.

## Main definitions

* `Extends`: a statement looks up the names of another one as this one does.
* `HasSources`: every SELECT of a body has a source.

## Main statements

* `Extends.rowsIn`: a site has the same rows in a statement that extends its own.
* `statementRows_combined`: the rows of a set operator are those of its branches.
-/

namespace ColumnLineage.Lineage

open Sql

/-- A statement looks up the names of a part as the part does, among definitions and sources. -/
structure Extends (s part : Statement) : Prop where
  definitions : ∀ name ∈ namesIn part.visits,
    (definitionsIn s.visits).lookup name = (definitionsIn part.visits).lookup name
  sources : ∀ (c : CteCatalog), ∀ name ∈ namesIn part.visits,
    ((Scope.orderedSources s.visits).filterMap (sourceEntry c)).lookup name =
      ((Scope.orderedSources part.visits).filterMap (sourceEntry c)).lookup name

/-- Names that stand for themselves are looked up by being among them. -/
theorem lookup_map_self {β : Type} (names : List String) (f : String → β) (name : String) :
    (names.map fun n => (n, f n)).lookup name = if name ∈ names then some (f name) else none := by
  induction names with
  | nil => rfl
  | cons first more ih =>
    rw [List.map_cons, List.lookup_cons]
    by_cases hname : name = first
    · simp [hname]
    · rw [beq_false_of_ne hname, ih]
      simp [hname]

namespace Extends

variable {s part : Statement}

section Catalog

theorem relations? (h : Extends s part) {name : String} (hname : name ∈ namesIn part.visits) :
    (CteCatalog.ofStatement s).relations? name = (CteCatalog.ofStatement part).relations? name := by
  unfold CteCatalog.ofStatement
  rw [CteCatalog.relations?_ofVisits, CteCatalog.relations?_ofVisits, h.definitions name hname]

/-- The tables that a definition of a statement reads are met in it. -/
theorem subset_relationKeys {name : String} {relations : List TableKey}
    (hrel : (CteCatalog.ofStatement part).relations? name = some relations) :
    relations ⊆ relationKeys part.visits := by
  unfold CteCatalog.ofStatement at hrel
  rw [CteCatalog.relations?_ofVisits] at hrel
  exact mem_relationKeys_of_definition part.closed_visits (mem_of_lookup_eq_some hrel)

/-- Both catalogs find the same tables behind the tables of the part. -/
theorem expand (h : Extends s part) (visiting : List String) {keys : List TableKey}
    (hkeys : keys ⊆ relationKeys part.visits) :
    (CteCatalog.ofStatement s).expand visiting keys =
      (CteCatalog.ofStatement part).expand visiting keys := by
  refine CteCatalog.expand_congr (N := fun name => name ∈ namesIn part.visits)
    (fun name hname => h.relations? hname) ?_ visiting keys ?_
  · intro name relations _ hrel key hkey
    exact mem_namesIn_of_mem_relationKeys (subset_relationKeys hrel hkey)
  · exact fun key hkey => mem_namesIn_of_mem_relationKeys (hkeys hkey)

theorem singleBase (h : Extends s part) {q : Query} (hq : .enter q ∈ part.visits) :
    (CteCatalog.ofStatement s).singleBase q = (CteCatalog.ofStatement part).singleBase q := by
  unfold CteCatalog.singleBase CteCatalog.baseTables
  rw [h.expand [] (relationKeys_subset (part.closed_visits.query hq))]

theorem cteBase (h : Extends s part) {name : String} (hname : name ∈ namesIn part.visits) :
    (CteCatalog.ofStatement s).cteBase name = (CteCatalog.ofStatement part).cteBase name := by
  unfold CteCatalog.cteBase
  rw [h.relations? hname]
  cases hrel : (CteCatalog.ofStatement part).relations? name with
  | none => rfl
  | some relations =>
    simp only
    rw [h.expand [name] (subset_relationKeys hrel)]

theorem mem_names_iff (h : Extends s part) {name : String} (hname : name ∈ namesIn part.visits) :
    name ∈ (CteCatalog.ofStatement s).names ↔ name ∈ (CteCatalog.ofStatement part).names := by
  rw [← CteCatalog.relations?_isSome_iff, ← CteCatalog.relations?_isSome_iff, h.relations? hname]

end Catalog

section Scope

/-- A source of the part stands for the same in both statements. -/
theorem sourceEntry (h : Extends s part) {source : Source} (hmet : .source source ∈ part.visits) :
    sourceEntry (.ofStatement s) source = sourceEntry (.ofStatement part) source := by
  cases source with
  | table name arguments label extras =>
    have hname : (TableKey.ofName name).table ∈ namesIn part.visits :=
      mem_namesIn (part.closed_visits.relation_of_table hmet) (List.mem_singleton_self _)
    have href : (CteCatalog.ofStatement s).reference? (.ofName name) =
        (CteCatalog.ofStatement part).reference? (.ofName name) := by
      unfold CteCatalog.reference?
      rw [h.relations? hname]
    simp only [Lineage.sourceEntry, href, h.cteBase hname]
  | derived lateral query label extras =>
    simp only [Lineage.sourceEntry, h.singleBase (part.closed_visits.enter_of_derived hmet)]
  | joined tree label => rfl
  | other layout parts label => rfl

/-- The local scope of a SELECT of the part is the same in both statements. -/
theorem ofSelect (h : Extends s part) {select : Select} (hsub : select.visits ⊆ part.visits) :
    Scope.ofSelect (.ofStatement s) select = Scope.ofSelect (.ofStatement part) select := by
  unfold Scope.ofSelect
  congr 1
  refine List.filterMap_congr fun source hsource => ?_
  exact h.sourceEntry (hsub (Scope.source_mem_of_mem_fromSources hsource))

/-- A name of the part stands for the same in both global scopes. -/
theorem get?_ofStatement (h : Extends s part) {name : String} (hname : name ∈ namesIn part.visits) :
    (Scope.ofStatement (.ofStatement s) s).get? name =
      (Scope.ofStatement (.ofStatement part) part).get? name := by
  have hsources : (Scope.orderedSources part.visits).filterMap
      (Lineage.sourceEntry (.ofStatement s)) =
        (Scope.orderedSources part.visits).filterMap (Lineage.sourceEntry (.ofStatement part)) :=
    List.filterMap_congr fun source hsource => h.sourceEntry (Scope.mem_orderedSources.mp hsource)
  simp only [Scope.ofStatement, Scope.get?_ofList, Scope.globalItems_eq, List.lookup_append,
    lookup_map_self, h.sources _ name hname, hsources, h.mem_names_iff hname, h.cteBase hname]

end Scope

section Rows

/-- Where a SELECT has a source of its own, a reference without a qualifier is not left to the
global scope: this one has several names whenever the local scope does. -/
theorem resolveUnqualified_eq {inner a b : Scope} (hne : inner.isEmpty = false)
    (ha : 1 < inner.size → 1 < a.size) (hb : 1 < inner.size → 1 < b.size) :
    Scopes.resolveUnqualified ⟨inner, a⟩ = Scopes.resolveUnqualified ⟨inner, b⟩ := by
  unfold Scopes.resolveUnqualified Scopes.sole Scopes.candidates
  simp only
  cases hsole : inner.sole with
  | some entry => simp
  | none =>
    have hsize : 1 < inner.size := by
      unfold Scope.sole at hsole
      unfold Scope.isEmpty at hne
      unfold Scope.size
      match hentries : inner.entries with
      | [] => simp [hentries] at hne
      | [item] => simp [hentries] at hsole
      | _ :: _ :: _ => simp
    rw [Scope.sole_eq_none_of_one_lt_size (ha hsize), Scope.sole_eq_none_of_one_lt_size (hb hsize),
      hne]
    rfl

/-- The scopes of a SELECT of the part agree on the names of the part. -/
theorem agree (h : Extends s part) {select : Select} (hsub : select.visits ⊆ part.visits)
    (hne : (Scope.ofSelect (.ofStatement part) select).isEmpty = false) :
    Scopes.Agree (fun name => name ∈ namesIn part.visits)
      ⟨.ofSelect (.ofStatement s) select, .ofStatement (.ofStatement s) s⟩
      ⟨.ofSelect (.ofStatement part) select, .ofStatement (.ofStatement part) part⟩ := by
  refine ⟨h.ofSelect hsub, fun name hname => h.get?_ofStatement hname, ?_⟩
  -- Every local name stands in the global scope too, so that with several of them neither scope has
  -- an only source, whatever else the larger statement holds.
  have hlocal : ∀ name ∈ (Scope.ofSelect (.ofStatement part) select).entries.map Prod.fst,
      name ∈ namesIn part.visits ∧
        ((Scope.ofStatement (.ofStatement part) part).get? name).isSome := by
    intro name hname
    obtain ⟨item, hitem, rfl⟩ := List.mem_map.mp hname
    obtain ⟨source, hsource, hentry⟩ := List.mem_filterMap.mp (Scope.mem_of_mem_ofList hitem)
    have hmet := hsub (Scope.source_mem_of_mem_fromSources hsource)
    have hname := scopeName_of_sourceEntry hentry
    exact ⟨mem_namesIn_scopeName part.closed_visits hmet _ hname,
      Scope.get?_ofStatement_isSome hmet hname⟩
  rw [h.ofSelect hsub]
  refine resolveUnqualified_eq hne ?_ ?_
  · refine Scope.one_lt_size_of_names (Scope.nodup_names_ofList _) fun name hname => ?_
    rw [h.get?_ofStatement (hlocal name hname).1]
    exact (hlocal name hname).2
  · exact Scope.one_lt_size_of_names (Scope.nodup_names_ofList _) fun name hname =>
      (hlocal name hname).2

section Site

variable {site : SelectSite} (tags : Tags)

/-- The alias that a site gets occurs where the site stands. -/
theorem mem_namesIn_enclosing (hsite : site.Within part.visits) :
    ∀ n ∈ site.enclosing, n ∈ namesIn part.visits := by
  intro n hn
  obtain ⟨lateral, query, name, extras, hmet, rfl, -⟩ := hsite.enclosing n hn
  exact mem_namesIn_scopeName part.closed_visits hmet _ rfl

/-- The rows of an item ask for the qualifiers of its references and for the enclosing alias. -/
theorem projectionRows_eq (h : Extends s part) (hsite : site.Within part.visits)
    (hne : (Scope.ofSelect (.ofStatement part) site.select).isEmpty = false) {item : SelectItem}
    (hitem : item ∈ site.select.items) :
    projectionRows tags (site.scopesIn s) site.enclosing (.ofItem item) =
      projectionRows tags (site.scopesIn part) site.enclosing (.ofItem item) := by
  have hsub := hsite.select.visits_subset part.closed_visits
  refine projectionRows_congr tags (h.agree hsub hne) (mem_namesIn_enclosing hsite)
    (mem_namesIn_starQualifier hsite.select hitem) fun ref href => ?_
  obtain ⟨e, hexpr, href⟩ := exists_itemExpr_of_mem_refs href
  have hexprSub := List.Subset.trans (itemExpr_visits_subset hexpr)
    (Select.item_visits_subset hitem)
  exact mem_namesIn_of_mem_columnRefs (List.Subset.trans hexprSub hsub) href

/-- The rows of the clauses ask for the same kinds of names. -/
theorem filterRows_eq (h : Extends s part) (hsite : site.Within part.visits)
    (hne : (Scope.ofSelect (.ofStatement part) site.select).isEmpty = false) :
    site.filterRows tags (site.scopesIn s) = site.filterRows tags (site.scopesIn part) := by
  have hsub := hsite.select.visits_subset part.closed_visits
  rw [SelectSite.filterRows_eq, SelectSite.filterRows_eq]
  congr 1
  refine List.flatMap_congr fun clause hclause => ?_
  have hclauseSub := List.Subset.trans (visits_subset_of_mem_selectClauses hclause) hsub
  exact clauseRows_congr tags (h.agree hsub hne) (mem_namesIn_enclosing hsite) clause.1
    fun ref href => mem_namesIn_of_mem_columnRefs hclauseSub href

/-- The rows of a join ask for the names of both its sides, and for the table behind a joined
subquery. -/
theorem joinRows_eq (h : Extends s part) (hsite : site.Within part.visits)
    (hne : (Scope.ofSelect (.ofStatement part) site.select).isEmpty = false)
    {left : Option String} {join : Join} (hlink : (left, join) ∈ fromJoins site.select) :
    joinRows tags (.ofStatement s) (site.scopesIn s) left join =
      joinRows tags (.ofStatement part) (site.scopesIn part) left join := by
  have hsub := hsite.select.visits_subset part.closed_visits
  obtain ⟨hjoin, source, hsource, hleft⟩ := within_fromJoins hlink
  have hinside := List.Subset.trans hjoin hsub
  have hmet := hinside (join.relation_visits_subset join.relation.source_mem_visits)
  have hquery : ∀ lateral query label extras,
      join.relation = .derived lateral query label extras → .enter query ∈ part.visits :=
    fun lateral query label extras hderived =>
      part.closed_visits.enter_of_derived (hderived ▸ hmet)
  refine joinRows_congr tags (h.agree hsub hne) ?_ ?_ ?_ ?_ ?_
  · rw [← hleft]
    exact mem_namesIn_sourceName part.closed_visits (hsub hsource)
  · exact mem_namesIn_sourceName part.closed_visits hmet
  · intro predicate hpredicate ref href
    have hpredicateSub := List.Subset.trans (predicate_visits_subset hpredicate) hinside
    exact mem_namesIn_of_mem_predicate hpredicateSub href
  · intro lateral query label extras hderived
    exact h.singleBase (hquery lateral query label extras hderived)
  · intro lateral query label extras hderived select hfirst filter hfilter ref href
    have hfilterSub : filter.visits ⊆ select.visits :=
      Select.filter_visits_subset (by simp [hfilter])
    have hselectSub := List.Subset.trans (firstSelect_visits_subset query hfirst)
      (part.closed_visits.query (hquery lateral query label extras hderived))
    exact mem_namesIn_of_mem_columnRefs (List.Subset.trans hfilterSub hselectSub) href

/-- A site of the part has the same rows in both statements. -/
theorem rowsIn (h : Extends s part) (hsite : site.Within part.visits)
    (hne : (Scope.ofSelect (.ofStatement part) site.select).isEmpty = false) :
    site.rowsIn s tags = site.rowsIn part tags := by
  have hitems := List.flatMap_congr fun item (hitem : item ∈ site.select.items) =>
    h.projectionRows_eq tags hsite hne hitem
  have hjoins := List.flatMap_congr fun link (hlink : link ∈ fromJoins site.select) =>
    h.joinRows_eq tags hsite hne hlink
  rw [SelectSite.rowsIn_eq, SelectSite.rowsIn_eq, hitems, h.filterRows_eq tags hsite hne, hjoins]

end Site

/-- A query of the part has the same rows of whole datasets in both statements. -/
theorem datasetRows (h : Extends s part) (tags : Tags) {q : Query} (hq : .enter q ∈ part.visits) :
    datasetRows tags (.ofStatement s) q = datasetRows tags (.ofStatement part) q := by
  refine List.map_congr_left fun dataset hdataset => ?_
  obtain ⟨lateral, label, extras, hmet, -⟩ :=
    source_mem_of_mem_datasets part.closed_visits hq hdataset
  simp only [h.singleBase (part.closed_visits.enter_of_derived hmet)]

end Rows

end Extends

/-- A body as a statement of its own. -/
def statementOf (body : Body) : Statement :=
  .query (.ofBody body)

/-- Every SELECT in a body has a source of its own. -/
def HasSources (body : Body) : Prop :=
  ∀ select, Stands (statementOf body).visits select →
    (Scope.ofSelect (.ofStatement (statementOf body)) select).isEmpty = false

/-- The rows of whole datasets of a body alone. -/
def datasetLineage (tags : Tags) (body : Body) : List Row :=
  datasetRows tags (.ofStatement (statementOf body)) (.ofBody body)

/-- The other rows of a body alone. -/
def siteLineage (tags : Tags) (maxDepth : Nat) (body : Body) : List Row :=
  (statementSites maxDepth (statementOf body)).flatMap (·.rowsIn (statementOf body) tags)

section Combined

theorem visits_statementOf (body : Body) :
    (statementOf body).visits = .enter (.ofBody body) :: (body.visits ++ [.leave]) :=
  Query.visits_ofBody body

theorem definitionsIn_statementOf (body : Body) :
    definitionsIn (statementOf body).visits = definitionsIn body.visits := by
  rw [visits_statementOf]
  simp [definitionsIn, definitionsAt, Query.ofBody]

theorem filterMap_source?_statementOf (body : Body) :
    (statementOf body).visits.filterMap Scope.source? = body.visits.filterMap Scope.source? := by
  rw [visits_statementOf]
  simp [List.filterMap_cons, Scope.source?]

theorem mem_namesIn_definedNames {visits : List Visit} {name : String}
    (h : name ∈ definedNames visits) : name ∈ namesIn visits := by
  obtain ⟨v, hv, hname⟩ := List.mem_flatMap.mp h
  cases v with
  | enter q => exact mem_namesIn hv (List.mem_append_left _ hname)
  | _ => simp at hname

/-- A name that does not occur is not found among definitions. -/
theorem lookup_definitionsIn_eq_none {visits : List Visit} {name : String}
    (hname : name ∉ namesIn visits) : (definitionsIn visits).lookup name = none := by
  refine lookup_eq_none_of_not_mem ?_
  rw [map_fst_definitionsIn]
  exact fun h => hname (mem_namesIn_definedNames h)

/-- A name that does not occur is not found among sources. -/
theorem lookup_sources_eq_none {visits : List Visit} (hclosed : Closed visits) (c : CteCatalog)
    {sources : List Source} (hmet : ∀ source ∈ sources, .source source ∈ visits) {name : String}
    (hname : name ∉ namesIn visits) : (sources.filterMap (sourceEntry c)).lookup name = none := by
  refine lookup_eq_none_of_not_mem ?_
  rw [map_fst_filterMap_sourceEntry, List.mem_filterMap]
  rintro ⟨source, hsource, hscope⟩
  exact hname (mem_namesIn_scopeName hclosed (hmet source hsource) name hscope)

variable {left right : Body}

/-- The definitions of a set operator are those of its branches. -/
theorem definitionsIn_combined (op : String) :
    definitionsIn (statementOf (.combined left op right)).visits =
      definitionsIn (statementOf left).visits ++ definitionsIn (statementOf right).visits := by
  rw [definitionsIn_statementOf, definitionsIn_statementOf, definitionsIn_statementOf, Body.visits]
  exact List.flatMap_append

/-- The sources of a set operator are those of its branches, tables in front of subqueries. -/
theorem orderedSources_combined (op : String) :
    Scope.orderedSources (statementOf (.combined left op right)).visits =
      ((left.visits.filterMap Scope.source?).filter (fun source => !Scope.isSubquery source) ++
        (right.visits.filterMap Scope.source?).filter fun source => !Scope.isSubquery source) ++
      ((left.visits.filterMap Scope.source?).filter Scope.isSubquery ++
        (right.visits.filterMap Scope.source?).filter Scope.isSubquery) := by
  unfold Scope.orderedSources
  rw [filterMap_source?_statementOf, Body.visits, List.filterMap_append, List.filter_append,
    List.filter_append]

theorem orderedSources_statementOf (body : Body) :
    Scope.orderedSources (statementOf body).visits =
      (body.visits.filterMap Scope.source?).filter (fun source => !Scope.isSubquery source) ++
        (body.visits.filterMap Scope.source?).filter Scope.isSubquery := by
  unfold Scope.orderedSources
  rw [filterMap_source?_statementOf]

theorem source_mem_of_mem_filter {body : Body} {p : Source → Bool} :
    ∀ source ∈ (body.visits.filterMap Scope.source?).filter p,
      .source source ∈ (statementOf body).visits := by
  intro source hsource
  have hmet := Scope.mem_filterMap_source?.mp (List.mem_filter.mp hsource).1
  exact Query.body_visits_subset (.ofBody body) hmet

/-- A set operator extends its left branch if the right one shares no name with it. -/
theorem extends_left (op : String) (hdisjoint : ∀ name ∈ namesIn (statementOf left).visits,
      name ∉ namesIn (statementOf right).visits) :
    Extends (statementOf (.combined left op right)) (statementOf left) where
  definitions name hname := by
    rw [definitionsIn_combined, List.lookup_append,
      lookup_definitionsIn_eq_none (hdisjoint name hname), Option.or_none]
  sources c name hname := by
    have hnone := fun p => lookup_sources_eq_none (statementOf right).closed_visits c
      (source_mem_of_mem_filter (p := p)) (hdisjoint name hname)
    rw [orderedSources_combined, orderedSources_statementOf]
    simp only [List.filterMap_append, List.lookup_append, hnone, Option.or_none]

/-- A set operator extends its right branch if the left one shares no name with it. -/
theorem extends_right (op : String) (hdisjoint : ∀ name ∈ namesIn (statementOf left).visits,
      name ∉ namesIn (statementOf right).visits) :
    Extends (statementOf (.combined left op right)) (statementOf right) where
  definitions name hname := by
    rw [definitionsIn_combined, List.lookup_append,
      lookup_definitionsIn_eq_none (fun h => hdisjoint name h hname), Option.none_or]
  sources c name hname := by
    have hnone := fun p => lookup_sources_eq_none (statementOf left).closed_visits c
      (source_mem_of_mem_filter (p := p)) (fun h => hdisjoint name h hname)
    rw [orderedSources_combined, orderedSources_statementOf]
    simp only [List.filterMap_append, List.lookup_append, hnone, Option.none_or]

theorem statementSites_statementOf (maxDepth : Nat) (body : Body) :
    statementSites maxDepth (statementOf body) =
      bodySites (sitesWithin maxDepth) none false body := by
  simp [statementSites, statementOf, statementQueries, querySites, Query.ofBody, sitesWithin]

theorem statementRows_statementOf (tags : Tags) (maxDepth : Nat) (body : Body) :
    statementRows tags maxDepth (statementOf body) =
      datasetLineage tags body ++ siteLineage tags maxDepth body := by
  simp [statementRows, statementOf, statementQueries, queryRows, datasetLineage, siteLineage,
    statementSites, SelectSite.rowsIn]

theorem datasetRows_combined (tags : Tags) (c : CteCatalog) (op : String) :
    datasetRows tags c (.ofBody (.combined left op right)) =
      datasetRows tags c (.ofBody left) ++ datasetRows tags c (.ofBody right) := by
  simp [datasetRows, Query.ofBody, outermostSelects, outermostSelectsOf]

/-- The sites of a branch have the same rows where a set operator extends the branch. -/
theorem Extends.flatMap_rowsIn {s : Statement} {body : Body} (h : Extends s (statementOf body))
    (hsources : HasSources body) (tags : Tags) (maxDepth : Nat) :
    (statementSites maxDepth (statementOf body)).flatMap (·.rowsIn s tags) =
      siteLineage tags maxDepth body := by
  refine List.flatMap_congr fun site hsite => ?_
  have hwithin := within_of_mem_statementSites hsite
  exact h.rowsIn tags hwithin (hsources site.select hwithin.select)

end Combined

/-- Where every SELECT has a source of its own and two bodies share no name, the rows of a set
operator are those that its branches have alone: the whole datasets of both, then the other rows of
both. -/
theorem statementRows_combined (left right : Body) (op : String) (tags : Tags) (maxDepth : Nat)
    (hleft : HasSources left) (hright : HasSources right)
    (hdisjoint : ∀ name ∈ namesIn (statementOf left).visits,
      name ∉ namesIn (statementOf right).visits) :
    statementRows tags maxDepth (statementOf (.combined left op right)) =
        datasetLineage tags left ++ datasetLineage tags right ++
          siteLineage tags maxDepth left ++ siteLineage tags maxDepth right ∧
      statementRows tags maxDepth (statementOf left) =
        datasetLineage tags left ++ siteLineage tags maxDepth left ∧
      statementRows tags maxDepth (statementOf right) =
        datasetLineage tags right ++ siteLineage tags maxDepth right := by
  refine ⟨?_, statementRows_statementOf tags maxDepth left,
    statementRows_statementOf tags maxDepth right⟩
  have hl := extends_left op hdisjoint
  have hr := extends_right op hdisjoint
  have hdatasets : datasetLineage tags (.combined left op right) =
      datasetLineage tags left ++ datasetLineage tags right := by
    unfold datasetLineage
    rw [datasetRows_combined, hl.datasetRows tags (Query.enter_mem_visits _),
      hr.datasetRows tags (Query.enter_mem_visits _)]
  have hsites : siteLineage tags maxDepth (.combined left op right) =
      siteLineage tags maxDepth left ++ siteLineage tags maxDepth right := by
    rw [← hl.flatMap_rowsIn hleft, ← hr.flatMap_rowsIn hright]
    unfold siteLineage
    rw [statementSites_statementOf, bodySites, List.flatMap_append, ← statementSites_statementOf,
      ← statementSites_statementOf]
  rw [statementRows_statementOf, hdatasets, hsites, List.append_assoc _ _ (siteLineage _ _ _)]

/-- `SELECT * FROM (SELECT a FROM db.t1) AS w`. -/
def starOfFirst : Body :=
  .select (.plain [.star []]
    [.subquery (.plain [.expr (.column (.bare "a"))] [.bare ["db", "t1"]] none) "w"] none)

/-- `SELECT t2.b FROM db.t2`. -/
def columnOfSecond : Body :=
  .select (.plain [.expr (.path [.bare "t2", .bare "b"])] [.bare ["db", "t2"]] none)

theorem statementRows_starOfFirst_union_columnOfSecond :
    HasSources starOfFirst ∧ HasSources columnOfSecond ∧
      (∀ name ∈ namesIn (statementOf starOfFirst).visits,
        name ∉ namesIn (statementOf columnOfSecond).visits) ∧
      statementRows ⟨"", "", ""⟩ 10 (statementOf (.combined starOfFirst "UNION" columnOfSecond)) =
        datasetLineage ⟨"", "", ""⟩ starOfFirst ++ datasetLineage ⟨"", "", ""⟩ columnOfSecond ++
          siteLineage ⟨"", "", ""⟩ 10 starOfFirst ++
            siteLineage ⟨"", "", ""⟩ 10 columnOfSecond := by
  have hleft : HasSources starOfFirst := by
    rintro select ⟨q, hq, hselect⟩
    simp only [visits_statementOf, starOfFirst, Body.visits, Select.visits_plain, visitItems,
      SelectItem.visits, Source.visits_subquery, Source.visits_bare, Query.visits_ofBody,
      Expr.visits, visitNodes, visitOptional, List.flatMap_cons, List.flatMap_nil, List.mem_append,
      List.mem_cons, List.not_mem_nil, Visit.enter.injEq, reduceCtorEq, false_or, or_false] at hq
    rcases hq with rfl | rfl
    · rw [List.mem_singleton.mp hselect]
      rfl
    · rw [List.mem_singleton.mp hselect]
      rfl
  have hright : HasSources columnOfSecond := by
    rintro select ⟨q, hq, hselect⟩
    simp only [visits_statementOf, columnOfSecond, Body.visits, Select.visits_plain, visitItems,
      SelectItem.visits, Source.visits_bare, Expr.visits, visitOptional, List.flatMap_cons,
      List.flatMap_nil, List.mem_append, List.mem_cons, List.not_mem_nil, Visit.enter.injEq,
      reduceCtorEq, or_false] at hq
    obtain rfl := hq
    rw [List.mem_singleton.mp hselect]
    rfl
  have hdisjoint : ∀ name ∈ namesIn (statementOf starOfFirst).visits,
      name ∉ namesIn (statementOf columnOfSecond).visits := by decide
  exact ⟨hleft, hright, hdisjoint,
    (statementRows_combined starOfFirst columnOfSecond "UNION" _ 10 hleft hright hdisjoint).1⟩

end ColumnLineage.Lineage
