import ColumnLineage.Proofs.References
import ColumnLineage.Proofs.Sources

/-!
# What the traversal reaches

Every SELECT that the traversal reaches is a branch of a query that the statement enters, and the
alias it gets is that of a subquery of the statement.  What holds of everything met in a statement
thus holds of every site.

## Main definitions

* `statementSites`: the sites of a statement.
* `outermostSteps`, `definitionSteps`: where the traversal starts, and its steps to definitions.
* `Query.branches`: the SELECTs of a query that stand in no query of their own.
* `SelectSite.Within`: a site that stands in some visits.

## Main statements

* `within_of_mem_statementSites`: every site of a statement stands in it.
* `mem_statementRows`: a row tells of a whole dataset or belongs to a site.
-/

namespace ColumnLineage.Sql

/-- The SELECTs of a body that stand in no query of their own. -/
def Body.branches : Body → List Select
  | .select s => [s]
  | .query _ => []
  | .combined left _ right => left.branches ++ right.branches
  | .other .. => []

/-- The SELECTs of a query that stand in no query of their own. -/
def Query.branches (q : Query) : List Select :=
  q.body.branches

theorem Body.branch_visits_subset (body : Body) {s : Select} (h : s ∈ body.branches) :
    s.visits ⊆ body.visits :=
  match body, h with
  | .select _, h => by
    rw [List.mem_singleton.mp h]
    exact List.Subset.refl _
  | .query _, h => by simp [Body.branches] at h
  | .combined left _ right, h => by
    rcases List.mem_append.mp h with h | h
    · exact List.Subset.trans (left.branch_visits_subset h) (List.subset_append_left _ _)
    · exact List.Subset.trans (right.branch_visits_subset h) (List.subset_append_right _ _)
  | .other .., h => by simp [Body.branches] at h

theorem Query.branch_visits_subset (q : Query) {s : Select} (h : s ∈ q.branches) :
    s.visits ⊆ q.visits :=
  List.Subset.trans (q.body.branch_visits_subset h) q.body_visits_subset

end ColumnLineage.Sql

namespace ColumnLineage.Lineage

open Sql

/-- Some visits meet a subquery with an alias. -/
def LabelsSubquery (visits : List Visit) (label : String) : Prop :=
  ∃ lateral query name extras, .source (.derived lateral query (some name) extras) ∈ visits ∧
    name.name.value = label

/-- A SELECT is a branch of a query that is entered in some visits. -/
def Stands (visits : List Visit) (select : Select) : Prop :=
  ∃ q, .enter q ∈ visits ∧ select ∈ q.branches

theorem Stands.visits_subset {visits : List Visit} {select : Select} (h : Stands visits select)
    (hclosed : Closed visits) : select.visits ⊆ visits := by
  obtain ⟨q, hq, hbranch⟩ := h
  exact List.Subset.trans (q.branch_visits_subset hbranch) (hclosed.query hq)

/-- Some visits meet a subquery with an alias, and other visits lie in it. -/
def Encloses (visits : List Visit) (label : String) (inside : List Visit) : Prop :=
  ∃ lateral query name extras, .source (.derived lateral query (some name) extras) ∈ visits ∧
    name.name.value = label ∧ inside ⊆ query.visits

theorem Encloses.shrink {visits inside less : List Visit} {label : String}
    (h : Encloses visits label inside) (hsub : less ⊆ inside) : Encloses visits label less := by
  obtain ⟨lateral, query, name, extras, hsource, heq, hinside⟩ := h
  exact ⟨lateral, query, name, extras, hsource, heq, List.Subset.trans hsub hinside⟩

/-- A query to which the traversal goes stands in some visits, and so does the subquery whose alias
it gets. -/
structure Step.Within (visits : List Visit) (step : Step) : Prop where
  query : .enter step.query ∈ visits
  enclosing : ∀ label, step.enclosing = some label → Encloses visits label step.query.visits

/-- A site stands in some visits, and so does the subquery whose alias it gets. -/
structure SelectSite.Within (visits : List Visit) (site : SelectSite) : Prop where
  select : Stands visits site.select
  enclosing : ∀ label, site.enclosing = some label → Encloses visits label site.select.visits

theorem Step.Within.mono {visits more : List Visit} {step : Step} (h : step.Within visits)
    (hsub : visits ⊆ more) : step.Within more := by
  refine ⟨hsub h.query, ?_⟩
  intro label hlabel
  obtain ⟨lateral, query, name, extras, hsource, heq, hinside⟩ := h.enclosing label hlabel
  exact ⟨lateral, query, name, extras, hsub hsource, heq, hinside⟩

mutual

theorem within_of_mem_sourceSteps : ∀ (source : Source) {joined : Bool} {step : Step},
    step ∈ sourceSteps joined source → step.Within source.visits
  | .derived lateral query label extras, _, _, h => by
    rw [List.mem_singleton.mp h]
    have hquery := (Source.closed_visits _).enter_of_derived
      (Source.source_mem_visits (.derived lateral query label extras))
    refine ⟨hquery, ?_⟩
    intro name hname
    cases label with
    | none => simp [aliasName] at hname
    | some label =>
      have hlabel : label.name.value = name := by simpa [aliasName] using hname
      exact ⟨lateral, query, label, extras, List.mem_cons_self, hlabel, List.Subset.refl _⟩
  | .joined tree _, _, _, h => (within_of_mem_treeSteps tree h).mono (List.subset_cons_self _ _)
  | .table .., _, _, h => by simp [sourceSteps] at h
  | .other .., _, _, h => by simp [sourceSteps] at h

/-- The subqueries of a FROM clause stand in it. -/
theorem within_of_mem_treeSteps : ∀ (tree : FromTree) {joined : Bool} {step : Step},
    step ∈ treeSteps joined tree → step.Within tree.visits
  | ⟨relation, joins⟩, _, _, h => by
    rcases List.mem_append.mp h with h | h
    · exact (within_of_mem_sourceSteps relation h).mono (List.subset_append_left _ _)
    · exact (within_of_mem_joinsSteps joins h).mono (List.subset_append_right _ _)

theorem within_of_mem_joinsSteps : ∀ (joins : List Join) {step : Step},
    step ∈ joinsSteps joins → step.Within (visitJoins joins)
  | [], _, h => by simp [joinsSteps] at h
  | join :: more, _, h => by
    rcases List.mem_append.mp h with h | h
    · exact (within_of_mem_joinSteps join h).mono (List.subset_append_left _ _)
    · exact (within_of_mem_joinsSteps more h).mono (List.subset_append_right _ _)

theorem within_of_mem_joinSteps : ∀ (join : Join) {step : Step},
    step ∈ joinSteps join → step.Within join.visits
  | ⟨relation, global, operator, matching, constraint⟩, _, h =>
    (within_of_mem_sourceSteps relation h).mono
      (Join.relation_visits_subset ⟨relation, global, operator, matching, constraint⟩)

end

theorem predicate_visits_subset {join : Join} {predicate : Expr}
    (h : tracedConstraint join = .on predicate) : predicate.visits ⊆ join.visits := by
  obtain ⟨relation, global, operator, matching, constraint⟩ := join
  simp only [tracedConstraint] at h
  split at h
  · subst h
    exact List.subset_append_right _ _
  · simp at h

mutual

theorem predicate_visits_subset_leading : ∀ (source : Source) {e : Expr},
    e ∈ treePredicates.leading source → e.visits ⊆ source.visits
  | .joined tree _, _, h =>
    List.Subset.trans (predicate_visits_subset_tree tree h) (List.subset_cons_self _ _)
  | .table .., _, h => by simp [treePredicates.leading] at h
  | .derived .., _, h => by simp [treePredicates.leading] at h
  | .other .., _, h => by simp [treePredicates.leading] at h

/-- The predicates of the joins of a FROM clause stand in it. -/
theorem predicate_visits_subset_tree : ∀ (tree : FromTree) {e : Expr},
    e ∈ treePredicates tree → e.visits ⊆ tree.visits
  | ⟨relation, joins⟩, e, h => by
    rw [treePredicates] at h
    rcases List.mem_append.mp h with h | h
    · exact List.Subset.trans (predicate_visits_subset_leading relation h)
        (List.subset_append_left _ _)
    · obtain ⟨join, hjoin, hpredicate⟩ := List.mem_filterMap.mp h
      have htraced : tracedConstraint join = .on e := by
        unfold treePredicates.predicate? at hpredicate
        split at hpredicate
        · next predicate heq => rw [heq, Option.some.inj hpredicate]
        · simp at hpredicate
      intro v hv
      refine List.mem_append_right _ ?_
      rw [visitJoins_eq_flatMap]
      exact List.mem_flatMap.mpr ⟨join, hjoin, predicate_visits_subset htraced hv⟩

end

theorem itemExpr_visits_subset {item : SelectItem} {e : Expr}
    (h : selectExprs.itemExpr? item = some e) : e.visits ⊆ item.visits := by
  cases item with
  | expr other =>
    rw [Option.some.inj h]
    exact List.Subset.refl _
  | aliased other label =>
    rw [Option.some.inj h]
    exact List.Subset.refl _
  | _ => simp [selectExprs.itemExpr?] at h

/-- The expressions of a SELECT that may hold queries stand in it. -/
theorem visits_subset_of_mem_selectExprs {s : Select} {e : Expr} (h : e ∈ selectExprs s) :
    e.visits ⊆ s.visits := by
  simp only [selectExprs, List.mem_append] at h
  rcases h with (((h | h) | h) | h) | h
  · obtain ⟨item, hitem, he⟩ := List.mem_filterMap.mp h
    exact List.Subset.trans (itemExpr_visits_subset he) (Select.item_visits_subset hitem)
  · exact Select.filter_visits_subset h
  · exact Select.grouping_visits_subset h
  · exact Select.having_visits_subset h
  · obtain ⟨tree, htree, he⟩ := List.mem_flatMap.mp h
    exact List.Subset.trans (predicate_visits_subset_tree tree he) (Select.tree_visits_subset htree)

/-- The queries to which the traversal goes from a SELECT stand in it. -/
theorem within_of_mem_selectSteps {s : Select} {step : Step} (h : step ∈ selectSteps s) :
    step.Within s.visits := by
  rcases List.mem_append.mp h with h | h
  · obtain ⟨tree, htree, hstep⟩ := List.mem_flatMap.mp h
    exact (within_of_mem_treeSteps tree hstep).mono (Select.tree_visits_subset htree)
  · obtain ⟨q, hq, rfl⟩ := List.mem_map.mp h
    obtain ⟨e, he, hquery⟩ := List.mem_flatMap.mp hq
    refine ⟨visits_subset_of_mem_selectExprs he (enter_mem_of_mem_outermostQueries hquery), ?_⟩
    intro label hlabel
    simp at hlabel

/-- The sites of a body stand where those of the queries one level below do. -/
theorem within_of_mem_bodySites {visits : List Visit} (hclosed : Closed visits)
    {go : Step → List SelectSite}
    (hgo : ∀ step, step.Within visits → ∀ site ∈ go step, site.Within visits)
    {enclosing : Option String} {underJoin : Bool} {q : Query} (hq : .enter q ∈ visits)
    (henclosing : ∀ label, enclosing = some label → Encloses visits label q.visits) (body : Body)
    (hbranches : body.branches ⊆ q.branches) (hsub : body.visits ⊆ q.visits) {site : SelectSite}
    (h : site ∈ bodySites go enclosing underJoin body) : site.Within visits :=
  match body, hbranches, hsub, h with
  | .select s, hbranches, hsub, h => by
    rcases List.mem_cons.mp h with rfl | h
    · exact ⟨⟨q, hq, hbranches (List.mem_singleton_self s)⟩,
        fun label hlabel => (henclosing label hlabel).shrink hsub⟩
    · obtain ⟨step, hstep, hsite⟩ := List.mem_flatMap.mp h
      have hvisits := List.Subset.trans hsub (hclosed.query hq)
      exact hgo step ((within_of_mem_selectSteps hstep).mono hvisits) site hsite
  | .query inner, _, hsub, h =>
    hgo ⟨inner, enclosing, underJoin⟩ ⟨hclosed.query hq (hsub inner.enter_mem_visits),
      fun label hlabel => (henclosing label hlabel).shrink hsub⟩ site h
  | .combined left _ right, hbranches, hsub, h => by
    rcases List.mem_append.mp h with h | h
    · exact within_of_mem_bodySites hclosed hgo hq henclosing left
        (List.Subset.trans (List.subset_append_left _ _) hbranches)
        (List.Subset.trans (List.subset_append_left _ _) hsub) h
    · exact within_of_mem_bodySites hclosed hgo hq henclosing right
        (List.Subset.trans (List.subset_append_right _ _) hbranches)
        (List.Subset.trans (List.subset_append_right _ _) hsub) h
  | .other .., _, _, h => by simp [bodySites] at h

/-- The steps from a query to its definitions. -/
def definitionSteps (step : Step) : List Step :=
  step.query.ctes.map fun cte => ⟨cte.query, step.enclosing, false⟩

theorem map_query_definitionSteps (step : Step) :
    (definitionSteps step).map (·.query) = step.query.ctes.map (·.query) := by
  simp [definitionSteps, Function.comp_def]

/-- The sites of a query are those of its body, then those of its definitions. -/
theorem sitesWithin_succ (levels : Nat) (step : Step) : sitesWithin (levels + 1) step =
    bodySites (sitesWithin levels) step.enclosing step.underJoin step.query.body ++
      (definitionSteps step).flatMap (sitesWithin levels) := by
  obtain ⟨⟨recursive, ctes, body, tail⟩, enclosing, underJoin⟩ := step
  rw [sitesWithin, definitionSteps, List.flatMap_map]

/-- The sites below a query stand where the query does. -/
theorem within_of_mem_sitesWithin {visits : List Visit} (hclosed : Closed visits) (levels : Nat)
    {step : Step} (hstep : step.Within visits) {site : SelectSite}
    (h : site ∈ sitesWithin levels step) : site.Within visits := by
  induction levels generalizing step site with
  | zero => simp [sitesWithin] at h
  | succ levels ih =>
    obtain ⟨⟨recursive, ctes, body, tail⟩, enclosing, underJoin⟩ := step
    rcases List.mem_append.mp h with h | h
    -- The branches of the body are those of this query; a query in the body has its own.
    · have hbody := Query.body_visits_subset ⟨recursive, ctes, body, tail⟩
      exact within_of_mem_bodySites hclosed (fun step hstep site hsite => ih hstep hsite)
        hstep.query hstep.enclosing body (List.Subset.refl _) hbody h
    · obtain ⟨cte, hcte, hsite⟩ := List.mem_flatMap.mp h
      have hinside := Query.cte_visits_subset ⟨recursive, ctes, body, tail⟩ hcte
      have hcteStep : Step.Within visits ⟨cte.query, enclosing, false⟩ :=
        ⟨hclosed.query hstep.query (hinside cte.query.enter_mem_visits),
          fun label hlabel => (hstep.enclosing label hlabel).shrink hinside⟩
      exact ih hcteStep hsite

/-- The sites that the traversal of a statement reaches. -/
def statementSites (maxDepth : Nat) (s : Statement) : List SelectSite :=
  (statementQueries s).flatMap (querySites maxDepth)

/-- The steps with which the traversal of a statement starts. -/
def outermostSteps (s : Statement) : List Step :=
  (statementQueries s).map fun q => ⟨q, none, false⟩

theorem map_query_outermostSteps (s : Statement) :
    (outermostSteps s).map (·.query) = statementQueries s := by
  simp [outermostSteps, Function.comp_def]

theorem statementSites_eq_flatMap (maxDepth : Nat) (s : Statement) :
    statementSites maxDepth s = (outermostSteps s).flatMap (sitesWithin (maxDepth + 1)) := by
  rw [outermostSteps, List.flatMap_map]
  rfl

/-- The scopes of a site of a statement. -/
def SelectSite.scopesIn (s : Statement) (site : SelectSite) : Scopes :=
  site.scopes (.ofStatement s) (.ofStatement (.ofStatement s) s)

/-- The rows of a site of a statement. -/
def SelectSite.rowsIn (s : Statement) (tags : Tags) (site : SelectSite) : List Row :=
  site.rows tags (.ofStatement s) (.ofStatement (.ofStatement s) s)

/-- The queries of a statement are entered in it. -/
theorem enter_mem_of_mem_statementQueries {s : Statement} {q : Query}
    (h : q ∈ statementQueries s) : .enter q ∈ s.visits := by
  cases s with
  | query other =>
    rw [List.mem_singleton.mp h]
    exact other.enter_mem_visits
  | other kind parts => exact enter_mem_of_mem_outermostQueries h

/-- Every site that the traversal reaches stands in the statement. -/
theorem within_of_mem_statementSites {maxDepth : Nat} {s : Statement} {site : SelectSite}
    (h : site ∈ statementSites maxDepth s) : site.Within s.visits := by
  obtain ⟨q, hq, hsite⟩ := List.mem_flatMap.mp h
  refine within_of_mem_sitesWithin s.closed_visits (maxDepth + 1)
    ⟨enter_mem_of_mem_statementQueries hq, ?_⟩ hsite
  intro label hlabel
  simp at hlabel

/-- The sources of a site are met in the statement. -/
theorem source_mem_of_mem_site {maxDepth : Nat} {s : Statement} {site : SelectSite}
    (h : site ∈ statementSites maxDepth s) {source : Source}
    (hsource : source ∈ Scope.fromSources site.select) : .source source ∈ s.visits :=
  (within_of_mem_statementSites h).select.visits_subset s.closed_visits
    (Scope.source_mem_of_mem_fromSources hsource)

mutual

/-- The SELECTs whose rows a query gives out stand in it. -/
theorem visits_subset_of_mem_outermostSelects : ∀ (q : Query) {s : Select},
    s ∈ outermostSelects q → s.visits ⊆ q.visits
  | ⟨recursive, ctes, body, tail⟩, _, h =>
    List.Subset.trans (visits_subset_of_mem_outermostSelectsOf body h)
      (Query.body_visits_subset ⟨recursive, ctes, body, tail⟩)

theorem visits_subset_of_mem_outermostSelectsOf : ∀ (body : Body) {s : Select},
    s ∈ outermostSelectsOf body → s.visits ⊆ body.visits
  | .select _, _, h => by
    rw [List.mem_singleton.mp h]
    exact List.Subset.refl _
  | .query q, _, h => visits_subset_of_mem_outermostSelects q h
  | .combined left _ right, _, h => by
    rcases List.mem_append.mp h with h | h
    · exact List.Subset.trans (visits_subset_of_mem_outermostSelectsOf left h)
        (List.subset_append_left _ _)
    · exact List.Subset.trans (visits_subset_of_mem_outermostSelectsOf right h)
        (List.subset_append_right _ _)
  | .other .., _, h => by simp [outermostSelectsOf] at h

end

mutual

/-- The first SELECT of a query stands in it. -/
theorem firstSelect_visits_subset : ∀ (q : Query) {select : Select},
    firstSelect q = some select → select.visits ⊆ q.visits
  | ⟨recursive, ctes, body, tail⟩, _, h =>
    List.Subset.trans (firstSelectOf_visits_subset body h)
      (Query.body_visits_subset ⟨recursive, ctes, body, tail⟩)

theorem firstSelectOf_visits_subset : ∀ (body : Body) {select : Select},
    firstSelectOf body = some select → select.visits ⊆ body.visits
  | .select s, _, h => by
    rw [Option.some.inj h]
    exact List.Subset.refl _
  | .query q, _, h => firstSelect_visits_subset q h
  | .combined left _ _, _, h =>
    List.Subset.trans (firstSelectOf_visits_subset left h) (List.subset_append_left _ _)
  | .other .., _, h => by simp [firstSelectOf] at h

end

/-- A whole dataset is a subquery with an alias. -/
theorem source_mem_of_wholeDataset? {s : Select} {query : Query} {name : String}
    (h : wholeDataset? s = some (query, name)) : ∃ lateral label extras,
      .source (.derived lateral query (some label) extras) ∈ s.visits ∧
        label.name.value = name := by
  unfold wholeDataset? at h
  split at h
  · next options lateral inner label extras hitems hsources =>
    obtain ⟨rfl, rfl⟩ := Prod.mk.inj (Option.some.inj h)
    refine ⟨lateral, label, extras, ?_, rfl⟩
    have htree := Select.tree_visits_subset (s := s) (by rw [hsources]; exact List.mem_cons_self)
    exact htree (List.mem_append_left _ (Source.source_mem_visits _))
  · simp at h

/-- The whole datasets of a query are subqueries with an alias that are met where the query is. -/
theorem source_mem_of_mem_datasets {visits : List Visit} (hclosed : Closed visits) {q : Query}
    (hq : .enter q ∈ visits) {dataset : Query × String}
    (h : dataset ∈ (outermostSelects q).filterMap wholeDataset?) : ∃ lateral label extras,
      .source (.derived lateral dataset.1 (some label) extras) ∈ visits ∧
        label.name.value = dataset.2 := by
  obtain ⟨select, hselect, hwhole⟩ := List.mem_filterMap.mp h
  obtain ⟨lateral, label, extras, hsource, hlabel⟩ := source_mem_of_wholeDataset? hwhole
  have hmet := hclosed.query hq (visits_subset_of_mem_outermostSelects q hselect hsource)
  exact ⟨lateral, label, extras, hmet, hlabel⟩

/-- A row tells of a whole dataset or belongs to a site. -/
theorem mem_statementRows {tags : Tags} {maxDepth : Nat} {s : Statement} {row : Row} :
    row ∈ statementRows tags maxDepth s ↔
      (∃ q ∈ statementQueries s, row ∈ datasetRows tags (.ofStatement s) q) ∨
        ∃ site ∈ statementSites maxDepth s, row ∈ site.rowsIn s tags := by
  simp only [statementRows, statementSites, queryRows, List.mem_flatMap, List.mem_append]
  constructor
  · rintro ⟨q, hq, h | ⟨site, hsite, hrow⟩⟩
    · exact Or.inl ⟨q, hq, h⟩
    · exact Or.inr ⟨site, ⟨q, hq, hsite⟩, hrow⟩
  · rintro (⟨q, hq, h⟩ | ⟨site, ⟨q, hq, hsite⟩, hrow⟩)
    · exact ⟨q, hq, Or.inl h⟩
    · exact ⟨q, hq, Or.inr ⟨site, hsite, hrow⟩⟩

/-- The rows of a site are among those of its statement. -/
theorem rowsIn_subset {tags : Tags} {maxDepth : Nat} {s : Statement} {site : SelectSite}
    (h : site ∈ statementSites maxDepth s) : site.rowsIn s tags ⊆ statementRows tags maxDepth s :=
  fun _ hrow => mem_statementRows.mpr (Or.inr ⟨site, h, hrow⟩)

end ColumnLineage.Lineage
