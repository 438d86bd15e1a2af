import Mathlib.Algebra.Order.Group.Multiset
import Mathlib.Data.Multiset.Bind
import Mathlib.Tactic.Abel
import ColumnLineage.Proofs.Nesting
import ColumnLineage.Proofs.Reach

/-!
# Which SELECTs are traced

Every SELECT of a statement is traced once or left out.  What is left out stands in a query to which
the traversal does not go: it searches the select list, the filters, the grouping and the predicates
of joins for queries, but not the other clauses, the arguments of tables, names that are computed,
and bodies that are no SELECT, such as an INSERT behind a WITH list.

## Main definitions

* `selectsIn`: the SELECTs in some visits.
* `querySteps`, `queryMissed`: the queries directly in a query to which the traversal goes, and those
  that it misses.
* `skippedSelects`: the SELECTs of a statement that are left out.
* `AllSearched`: no SELECT stands in a query that is missed.

## Main statements

* `coe_outermostQueries_inner`: the queries directly in a query are those of the two kinds.
* `coe_select_sitesWithin`: every SELECT below a query is traced once or left out.
* `sites_perm_selects_iff_allSearched`: when each SELECT is traced exactly once.

## Design notes

Lists are compared as multisets, since the traversal goes through the body of a query before its
definitions, and through FROM clauses before expressions.
-/

namespace ColumnLineage.Lineage

open Sql

/-- The SELECTs in some visits: those of every query that is entered. -/
def selectsIn (visits : List Visit) : List Select :=
  visits.flatMap fun
    | .enter q => q.branches
    | _ => []

/-- The outermost queries in some parts. -/
def queriesIn (parts : List Node) : List Query :=
  outermostQueries (visitNodes parts)

/-- The queries in some expressions. -/
def queriesOf (exprs : List Expr) : List Query :=
  exprs.flatMap fun e => outermostQueries e.visits

/-- The queries in the constraint of a join to which the traversal does not go: those in names behind
USING, and those in a predicate that is not searched. -/
def constraintMissed (searched : Bool) : JoinConstraint → List Query
  | .on predicate => if searched then [] else outermostQueries predicate.visits
  | .using _ inside => queriesIn inside
  | .natural => []
  | .none => []

mutual

/-- The queries in a source to which the traversal does not go: those in the arguments of a table and
behind a source.  The predicates of joins are searched if the source is `leading`. -/
def sourceMissed (leading : Bool) : Source → List Query
  | .table _ arguments _ extras => queriesIn arguments ++ queriesIn extras
  | .derived _ _ _ extras => queriesIn extras
  | .joined tree _ => treeMissed leading tree
  | .other _ parts _ => queriesIn parts

/-- The queries in a source and in what is joined to it to which the traversal does not go. -/
def treeMissed (leading : Bool) : FromTree → List Query
  | ⟨relation, joins⟩ => sourceMissed leading relation ++ joinsMissed leading joins

/-- The queries in some joins to which the traversal does not go. -/
def joinsMissed (leading : Bool) : List Join → List Query
  | [] => []
  | join :: more => joinMissed leading join ++ joinsMissed leading more

/-- The queries in a join to which the traversal does not go: those in the condition of an ASOF join,
and those in a constraint that does not count for lineage or stands in a joined source. -/
def joinMissed (leading : Bool) : Join → List Query
  | ⟨relation, _, operator, matching, constraint⟩ =>
    sourceMissed false relation ++ queriesOf matching.toList ++
      constraintMissed (leading && isTraced operator) constraint

end

/-- The queries in an item of a select list to which the traversal does not go. -/
def itemMissed : SelectItem → List Query
  | .star options => queriesIn options
  | .qualifiedStar _ options => queriesIn options
  | .exprStar e options => outermostQueries e.visits ++ queriesIn options
  | .expr _ => []
  | .aliased _ _ => []

/-- The queries in a SELECT to which the traversal does not go. -/
def selectMissed (s : Select) : List Query :=
  queriesIn s.lead ++ s.items.flatMap itemMissed ++ queriesIn s.target ++
    s.sources.flatMap (treeMissed true) ++ queriesIn s.views ++ queriesIn s.hierarchy ++
    queriesIn s.groupingTail ++ queriesIn s.arrangement ++ queriesIn s.tail

/-- The queries in a body to which the traversal does not go: it goes to no query of rows, tables and
statements. -/
def bodyMissed : Body → List Query
  | .select s => selectMissed s
  | .query _ => []
  | .combined left _ right => bodyMissed left ++ bodyMissed right
  | .other _ parts => queriesIn parts

/-- The queries in a query to which the traversal does not go, such as those behind ORDER BY. -/
def queryMissed (q : Query) : List Query :=
  bodyMissed q.body ++ queriesIn q.tail

/-- The queries to which the traversal goes from a body. -/
def bodySteps : Body → List Query
  | .select s => (selectSteps s).map (·.query)
  | .query q => [q]
  | .combined left _ right => bodySteps left ++ bodySteps right
  | .other .. => []

/-- The queries to which the traversal goes from a query. -/
def querySteps (q : Query) : List Query :=
  bodySteps q.body ++ q.ctes.map (·.query)

section Places

theorem filterMap_cons_eq_append {α β : Type} (f : α → Option β) (a : α) (more : List α) :
    (a :: more).filterMap f = (f a).toList ++ more.filterMap f := by
  cases h : f a <;> simp [h]

theorem coe_queriesOf_append (left right : List Expr) :
    (queriesOf (left ++ right) : Multiset Query) = queriesOf left + queriesOf right := by
  simp [queriesOf, ← Multiset.coe_add]

theorem outermostQueries_visitOptional (e : Option Expr) :
    outermostQueries (visitOptional e) = queriesOf e.toList := by
  cases e with
  | none => rfl
  | some e => simp [queriesOf, visitOptional]

theorem outermostQueries_visitExprs (exprs : List Expr) :
    outermostQueries (visitExprs exprs) = queriesOf exprs := by
  induction exprs with
  | nil => rfl
  | cons e more ih =>
    rw [visitExprs, outermostQueries_append e.balanced_visits, ih]
    simp [queriesOf]

/-- The predicates of joins that are searched. -/
def searchedPredicates (leading : Bool) (predicates : List Expr) : List Expr :=
  if leading then predicates else []

theorem searchedPredicates_append (leading : Bool) (left right : List Expr) :
    searchedPredicates leading (left ++ right) =
      searchedPredicates leading left ++ searchedPredicates leading right := by
  cases leading <;> rfl

mutual

theorem coe_outermostQueries_source : ∀ (leading joined : Bool) (source : Source),
    (outermostQueries source.visits : Multiset Query) =
      ((sourceSteps joined source).map (·.query) : List Query) +
        queriesOf (searchedPredicates leading (treePredicates.leading source)) +
          sourceMissed leading source
  | leading, _, .table name arguments label extras => by
    rw [Source.visits, outermostQueries_plain_cons rfl, outermostQueries_plain_cons rfl,
      outermostQueries_append (balanced_visitNodes arguments)]
    cases leading <;>
      simp [sourceSteps, sourceMissed, treePredicates.leading, searchedPredicates, queriesOf,
        queriesIn]
  | leading, _, .derived lateral query label extras => by
    rw [Source.visits, outermostQueries_plain_cons rfl, outermostQueries_query_append]
    cases leading <;>
      simp [sourceSteps, sourceMissed, treePredicates.leading, searchedPredicates, queriesOf,
        queriesIn]
  | leading, joined, .joined tree label => by
    rw [Source.visits, outermostQueries_plain_cons rfl, coe_outermostQueries_tree leading joined tree]
    rfl
  | leading, _, .other layout parts label => by
    rw [Source.visits, outermostQueries_plain_cons rfl]
    cases leading <;>
      simp [sourceSteps, sourceMissed, treePredicates.leading, searchedPredicates, queriesOf,
        queriesIn]

theorem coe_outermostQueries_tree : ∀ (leading joined : Bool) (tree : FromTree),
    (outermostQueries tree.visits : Multiset Query) =
      ((treeSteps joined tree).map (·.query) : List Query) +
        queriesOf (searchedPredicates leading (treePredicates tree)) + treeMissed leading tree
  | leading, joined, ⟨relation, joins⟩ => by
    rw [FromTree.visits, outermostQueries_append relation.balanced_visits, ← Multiset.coe_add,
      coe_outermostQueries_source leading joined relation, coe_outermostQueries_joins leading joins,
      treeSteps, treePredicates, treeMissed, searchedPredicates_append, List.map_append,
      ← Multiset.coe_add, coe_queriesOf_append, ← Multiset.coe_add]
    abel

theorem coe_outermostQueries_joins : ∀ (leading : Bool) (joins : List Join),
    (outermostQueries (visitJoins joins) : Multiset Query) =
      ((joinsSteps joins).map (·.query) : List Query) +
        queriesOf (searchedPredicates leading (joins.filterMap treePredicates.predicate?)) +
          joinsMissed leading joins
  | leading, [] => by
    cases leading <;>
      simp [visitJoins, joinsSteps, joinsMissed, searchedPredicates, queriesOf, outermostQueries,
        outerQueries]
  | leading, join :: more => by
    rw [visitJoins, outermostQueries_append join.balanced_visits, ← Multiset.coe_add,
      coe_outermostQueries_join leading join, coe_outermostQueries_joins leading more,
      joinsSteps, joinsMissed]
    rw [filterMap_cons_eq_append, searchedPredicates_append, List.map_append, ← Multiset.coe_add,
      coe_queriesOf_append, ← Multiset.coe_add]
    abel

theorem coe_outermostQueries_join : ∀ (leading : Bool) (join : Join),
    (outermostQueries join.visits : Multiset Query) =
      ((joinSteps join).map (·.query) : List Query) +
        queriesOf (searchedPredicates leading (treePredicates.predicate? join).toList) +
          joinMissed leading join
  | leading, ⟨relation, global, operator, matching, constraint⟩ => by
    rw [Join.visits, outermostQueries_append
      (relation.balanced_visits.append (balanced_visitOptional matching)),
      outermostQueries_append relation.balanced_visits, ← Multiset.coe_add, ← Multiset.coe_add,
      coe_outermostQueries_source false true relation, joinSteps, joinMissed,
      outermostQueries_visitOptional]
    cases constraint <;> cases leading <;> cases htraced : isTraced operator <;>
      simp [searchedPredicates, queriesOf, treePredicates.predicate?, tracedConstraint, htraced,
        constraintMissed, queriesIn, JoinConstraint.visits, outermostQueries, outerQueries,
        ← Multiset.coe_add] <;> abel

end

theorem coe_outermostQueries_item (item : SelectItem) :
    (outermostQueries item.visits : Multiset Query) =
      queriesOf (selectExprs.itemExpr? item).toList + itemMissed item := by
  cases item with
  | exprStar e options =>
    rw [SelectItem.visits, outermostQueries_append e.balanced_visits, ← Multiset.coe_add]
    simp [selectExprs.itemExpr?, queriesOf, itemMissed, queriesIn, ← Multiset.coe_add]
  | _ => simp [SelectItem.visits, selectExprs.itemExpr?, queriesOf, itemMissed, queriesIn]

theorem coe_outermostQueries_items (items : List SelectItem) :
    (outermostQueries (visitItems items) : Multiset Query) =
      queriesOf (items.filterMap selectExprs.itemExpr?) + items.flatMap itemMissed := by
  induction items with
  | nil => rfl
  | cons item more ih =>
    rw [visitItems, outermostQueries_append item.balanced_visits, ← Multiset.coe_add, ih,
      coe_outermostQueries_item, filterMap_cons_eq_append, coe_queriesOf_append, List.flatMap_cons,
      ← Multiset.coe_add]
    abel

theorem coe_outermostQueries_trees (trees : List FromTree) :
    (outermostQueries (visitTrees trees) : Multiset Query) =
      ((trees.flatMap (treeSteps false)).map (·.query) : List Query) +
        queriesOf (trees.flatMap treePredicates) + trees.flatMap (treeMissed true) := by
  induction trees with
  | nil => rfl
  | cons tree more ih =>
    rw [visitTrees, outermostQueries_append tree.balanced_visits, ← Multiset.coe_add, ih,
      coe_outermostQueries_tree true false tree, List.flatMap_cons, List.flatMap_cons,
      List.flatMap_cons, List.map_append, coe_queriesOf_append, ← Multiset.coe_add,
      ← Multiset.coe_add]
    simp only [searchedPredicates, if_true]
    abel

/-- A query on the surface of a SELECT is one to which the traversal goes, or one that it misses. -/
theorem coe_outermostQueries_select (s : Select) : (outermostQueries s.visits : Multiset Query) =
    ((selectSteps s).map (·.query) : List Query) + selectMissed s := by
  have hexprs : exprQueries s = queriesOf (selectExprs s) := rfl
  have hsteps : (selectSteps s).map (·.query) =
      (s.sources.flatMap (treeSteps false)).map (·.query) ++ exprQueries s := by
    simp [selectSteps, Function.comp_def]
  rw [hsteps, hexprs]
  obtain ⟨form, lead, items, target, sources, views, filter, hierarchy, grouping, groupingTail,
    arrangement, having, tail⟩ := s
  have hlead := balanced_visitNodes lead
  have hitems := hlead.append (balanced_visitItems items)
  have htarget := hitems.append (balanced_visitNodes target)
  have hsources := htarget.append (balanced_visitTrees sources)
  have hviews := hsources.append (balanced_visitNodes views)
  have hfilter := hviews.append (balanced_visitOptional filter)
  have hhierarchy := hfilter.append (balanced_visitNodes hierarchy)
  have hgrouping := hhierarchy.append (balanced_visitExprs grouping)
  have hgroupingTail := hgrouping.append (balanced_visitNodes groupingTail)
  have harrangement := hgroupingTail.append (balanced_visitNodes arrangement)
  have hhaving := harrangement.append (balanced_visitOptional having)
  rw [Select.visits, outermostQueries_append hhaving, outermostQueries_append harrangement,
    outermostQueries_append hgroupingTail, outermostQueries_append hgrouping,
    outermostQueries_append hhierarchy, outermostQueries_append hfilter,
    outermostQueries_append hviews, outermostQueries_append hsources,
    outermostQueries_append htarget, outermostQueries_append hitems, outermostQueries_append hlead]
  simp only [selectExprs, selectMissed, ← Multiset.coe_add, coe_queriesOf_append,
    coe_outermostQueries_items, coe_outermostQueries_trees, outermostQueries_visitOptional,
    outermostQueries_visitExprs, queriesIn]
  abel

theorem coe_outermostQueries_body (body : Body) :
    (outermostQueries body.visits : Multiset Query) = bodySteps body + bodyMissed body := by
  fun_induction bodySteps body with
  | case1 s => exact coe_outermostQueries_select s
  | case2 q => simp [Body.visits, outermostQueries_query, bodyMissed]
  | case3 left op right ihleft ihright =>
    rw [Body.visits, outermostQueries_append left.balanced_visits, ← Multiset.coe_add, ihleft,
      ihright, bodyMissed, ← Multiset.coe_add, ← Multiset.coe_add]
    abel
  | case4 layout parts => simp [Body.visits, bodyMissed, queriesIn]

/-- The queries that stand directly in a query are those to which the traversal goes, and those that
it misses. -/
theorem coe_outermostQueries_inner (q : Query) :
    (outermostQueries q.inner : Multiset Query) = querySteps q + queryMissed q := by
  rw [Query.inner, outermostQueries_append ((balanced_visitCtes q.ctes).append q.body.balanced_visits),
    outermostQueries_append (balanced_visitCtes q.ctes), outermostQueries_visitCtes,
    ← Multiset.coe_add, ← Multiset.coe_add, coe_outermostQueries_body, querySteps, queryMissed,
    ← Multiset.coe_add, ← Multiset.coe_add, queriesIn]
  abel

end Places

/-- The SELECTs that the traversal of a query leaves out: those in the queries that it misses at any
of its levels, and those below the last level. -/
def skippedWithin : Nat → Query → List Select
  | 0, q => selectsIn q.visits
  | levels + 1, q => (queryMissed q).flatMap (fun missed => selectsIn missed.visits) ++
      (querySteps q).flatMap (skippedWithin levels)

/-- The SELECTs that the traversal of a statement leaves out. -/
def skippedSelects (maxDepth : Nat) (s : Statement) : List Select :=
  (statementQueries s).flatMap (skippedWithin (maxDepth + 1))

section Accounting

theorem selectsIn_append (left right : List Visit) :
    selectsIn (left ++ right) = selectsIn left ++ selectsIn right :=
  List.flatMap_append

theorem selectsIn_query (q : Query) : selectsIn q.visits = q.branches ++ selectsIn q.inner := by
  rw [q.visits_eq]
  simp [selectsIn]

/-- The SELECTs in balanced visits are those of their outermost queries. -/
theorem selectsIn_eq_flatMap {visits : List Visit} (h : Balanced visits) :
    selectsIn visits = (outermostQueries visits).flatMap fun q => selectsIn q.visits := by
  induction h with
  | nil => rfl
  | @plain v more hv _ ih =>
    rw [outermostQueries_plain_cons hv, ← ih]
    cases v <;> simp_all [selectsIn, Visit.isPlain]
  | query q _ _ _ ih =>
    rw [outermostQueries_query_append, selectsIn_append, ih, List.flatMap_cons]

/-- What is collected from the queries on a surface is collected from those to which the traversal
goes and from those that it misses. -/
theorem coe_flatMap_of_coe_eq {all some others : List Query} {β : Type}
    (h : (all : Multiset Query) = some + others) (f : Query → List β) :
    (all.flatMap f : Multiset β) = some.flatMap f + others.flatMap f := by
  rw [Multiset.coe_add, Multiset.coe_eq_coe] at h
  rw [Multiset.coe_add, Multiset.coe_eq_coe, ← List.flatMap_append]
  exact h.flatMap_right f

variable {go : Step → List SelectSite} {skip : Query → List Select}

/-- Going to each of some queries accounts for all their SELECTs if going to one does. -/
theorem coe_select_flatMap (hgo : ∀ step : Step,
      ((go step).map (·.select) : Multiset Select) + skip step.query = selectsIn step.query.visits)
    (steps : List Step) :
    ((steps.flatMap go).map (·.select) : Multiset Select) + (steps.map (·.query)).flatMap skip =
      (steps.map (·.query)).flatMap fun q => selectsIn q.visits := by
  induction steps with
  | nil => rfl
  | cons step more ih =>
    rw [List.flatMap_cons, List.map_append, List.map_cons, List.flatMap_cons, List.flatMap_cons,
      ← Multiset.coe_add, ← Multiset.coe_add, ← Multiset.coe_add, ← hgo step, ← ih]
    abel

/-- The sites of a body are its own SELECTs, and those of the queries to which the traversal goes. -/
theorem coe_select_bodySites (hgo : ∀ step : Step,
      ((go step).map (·.select) : Multiset Select) + skip step.query = selectsIn step.query.visits)
    (enclosing : Option String) (underJoin : Bool) (body : Body) :
    ((bodySites go enclosing underJoin body).map (·.select) : Multiset Select) +
        (bodySteps body).flatMap skip =
      body.branches + (bodySteps body).flatMap fun q => selectsIn q.visits := by
  fun_induction bodySteps body with
  | case1 s =>
    rw [bodySites, Body.branches, List.map_cons, ← Multiset.cons_coe, ← coe_select_flatMap hgo,
      ← Multiset.singleton_add, Multiset.coe_singleton, add_assoc]
  | case2 q =>
    have hquery := hgo ⟨q, enclosing, underJoin⟩
    simpa [bodySites, Body.branches] using hquery
  | case3 left op right ihleft ihright =>
    rw [bodySites, Body.branches, List.map_append, List.flatMap_append, List.flatMap_append,
      ← Multiset.coe_add, ← Multiset.coe_add, ← Multiset.coe_add, ← Multiset.coe_add,
      add_add_add_comm, ihleft, ihright]
    abel
  | case4 layout parts => simp [bodySites, Body.branches]

/-- Every SELECT below a query is traced once or left out. -/
theorem coe_select_sitesWithin (levels : Nat) (step : Step) :
    ((sitesWithin levels step).map (·.select) : Multiset Select) +
      skippedWithin levels step.query = selectsIn step.query.visits := by
  induction levels generalizing step with
  | zero => simp [sitesWithin, skippedWithin]
  | succ levels ih =>
    have hbody := coe_select_bodySites ih step.enclosing step.underJoin step.query.body
    have hctes := coe_select_flatMap ih (definitionSteps step)
    have hplaces := coe_flatMap_of_coe_eq (coe_outermostQueries_inner step.query)
      fun inner => selectsIn inner.visits
    rw [map_query_definitionSteps] at hctes
    rw [sitesWithin_succ, selectsIn_query, selectsIn_eq_flatMap step.query.balanced_inner,
      ← Multiset.coe_add, hplaces, skippedWithin, querySteps, List.map_append, List.flatMap_append,
      List.flatMap_append]
    simp only [← Multiset.coe_add]
    calc _ = (((bodySites (sitesWithin levels) step.enclosing step.underJoin step.query.body).map
                (·.select) : Multiset Select) +
              (bodySteps step.query.body).flatMap (skippedWithin levels)) +
            ((((definitionSteps step).flatMap (sitesWithin levels)).map (·.select) :
                Multiset Select) +
              (step.query.ctes.map (·.query)).flatMap (skippedWithin levels)) +
            (queryMissed step.query).flatMap (fun missed => selectsIn missed.visits) := by abel
      _ = _ := by
        rw [hbody, hctes, Query.branches]
        abel

theorem mem_selectsIn_of_subset {visits more : List Visit} (h : visits ⊆ more) :
    selectsIn visits ⊆ selectsIn more := by
  intro select hselect
  obtain ⟨v, hv, hbranch⟩ := List.mem_flatMap.mp hselect
  exact List.mem_flatMap.mpr ⟨v, h hv, hbranch⟩

/-- A query that stands directly in another one is one to which the traversal goes, or one that it
misses. -/
theorem mem_outermostQueries_inner {q inner : Query} :
    inner ∈ outermostQueries q.inner ↔ inner ∈ querySteps q ∨ inner ∈ queryMissed q := by
  have hmem := congrArg (inner ∈ ·) (coe_outermostQueries_inner q)
  simpa using hmem

/-- A query to which the traversal goes opens fewer queries than the one it comes from. -/
theorem mostOpen_lt_of_mem_querySteps {q inner : Query} (h : inner ∈ querySteps q) :
    mostOpen 0 inner.visits < mostOpen 0 q.visits := by
  have hle := mostOpen_le_of_mem_outermostQueries q.balanced_inner
    (mem_outermostQueries_inner.mpr (Or.inl h))
  rw [mostOpen_query q]
  omega

/-- A query that is entered in the visit of another one is that query, or stands in one that stands
directly in it. -/
theorem eq_or_enter_mem_of_enter_mem {q inner : Query} (h : .enter inner ∈ q.visits) :
    q = inner ∨ ∃ direct ∈ outermostQueries q.inner, .enter inner ∈ direct.visits := by
  rw [q.visits_eq, List.mem_cons, List.mem_append, mem_iff_of_balanced q.balanced_inner] at h
  rcases h with heq | (⟨hplain, -⟩ | hdirect) | hleave
  · exact Or.inl (Visit.enter.inj heq).symm
  · simp [Visit.isPlain] at hplain
  · exact Or.inr hdirect
  · simp at hleave

theorem inner_visits_subset {q inner : Query} (h : inner ∈ outermostQueries q.inner) :
    inner.visits ⊆ q.visits := by
  refine q.closed_visits.query ?_
  rw [q.visits_eq]
  have hmem := enter_mem_of_mem_outermostQueries h
  simp [hmem]

/-- With enough levels, nothing is left out exactly where no query that is missed holds a SELECT. -/
theorem skippedWithin_eq_nil_iff (levels : Nat) (q : Query)
    (hlevels : mostOpen 0 q.visits ≤ levels) :
    skippedWithin levels q = [] ↔ ∀ inner, .enter inner ∈ q.visits →
      ∀ missed ∈ queryMissed inner, selectsIn missed.visits = [] := by
  induction levels generalizing q with
  | zero =>
    rw [mostOpen_query] at hlevels
    omega
  | succ levels ih =>
    have hsteps : ∀ inner ∈ querySteps q, mostOpen 0 inner.visits ≤ levels := by
      intro inner hinner
      have hlt := mostOpen_lt_of_mem_querySteps hinner
      omega
    rw [skippedWithin, List.append_eq_nil_iff, List.flatMap_eq_nil_iff, List.flatMap_eq_nil_iff]
    constructor
    · rintro ⟨hmissed, hskipped⟩ inner hinner missed hmiss
      rcases eq_or_enter_mem_of_enter_mem hinner with rfl | ⟨direct, hdirect, hinside⟩
      · exact hmissed missed hmiss
      · rcases mem_outermostQueries_inner.mp hdirect with hstep | hhidden
        · exact (ih direct (hsteps direct hstep)).mp (hskipped direct hstep) inner hinside missed
            hmiss
        -- What is missed inside a query that is missed itself was counted there.
        · have hsub := List.Subset.trans
            (inner_visits_subset (mem_outermostQueries_inner.mpr (Or.inr hmiss)))
            (direct.closed_visits.query hinside)
          have hnone := mem_selectsIn_of_subset hsub
          rw [hmissed direct hhidden] at hnone
          exact List.subset_nil.mp hnone
    · intro h
      refine ⟨h q q.enter_mem_visits, ?_⟩
      intro inner hinner
      refine (ih inner (hsteps inner hinner)).mpr ?_
      have hsub := inner_visits_subset (mem_outermostQueries_inner.mpr (Or.inl hinner))
      exact fun other hother => h other (hsub hother)

end Accounting

section Statement

/-- Every SELECT of a statement stands where the traversal goes. -/
def AllSearched (s : Statement) : Prop :=
  ∀ q, .enter q ∈ s.visits → ∀ missed ∈ queryMissed q, selectsIn missed.visits = []

variable {s : Statement} {maxDepth : Nat}

theorem coe_select_statementSites (s : Statement) (maxDepth : Nat) :
    ((statementSites maxDepth s).map (·.select) : Multiset Select) + skippedSelects maxDepth s =
      selectsIn s.visits := by
  have hqueries := coe_select_flatMap (coe_select_sitesWithin (maxDepth + 1)) (outermostSteps s)
  rw [map_query_outermostSteps] at hqueries
  rw [selectsIn_eq_flatMap s.balanced_visits, ← statementQueries_eq, statementSites_eq_flatMap,
    skippedSelects, hqueries]

/-- A bound on depth that the nesting of a statement keeps leaves out missed queries only. -/
theorem skippedSelects_eq_nil_iff (hdepth : s.nesting ≤ maxDepth) :
    skippedSelects maxDepth s = [] ↔ AllSearched s := by
  have hlevels : ∀ q ∈ statementQueries s, mostOpen 0 q.visits ≤ maxDepth + 1 := by
    intro q hq
    rw [statementQueries_eq] at hq
    have hle := mostOpen_le_of_mem_outermostQueries s.balanced_visits hq
    unfold Statement.nesting at hdepth
    omega
  rw [skippedSelects, List.flatMap_eq_nil_iff]
  constructor
  · intro h q hq
    rcases (mem_iff_of_balanced s.balanced_visits).mp hq with ⟨hplain, -⟩ | ⟨outer, houter, hinside⟩
    · simp [Visit.isPlain] at hplain
    · rw [← statementQueries_eq] at houter
      exact (skippedWithin_eq_nil_iff _ outer (hlevels outer houter)).mp (h outer houter) q hinside
  · intro h q hq
    refine (skippedWithin_eq_nil_iff _ q (hlevels q hq)).mpr ?_
    have hsub := s.closed_visits.query (enter_mem_of_mem_statementQueries hq)
    exact fun inner hinner => h inner (hsub hinner)

/-- Every SELECT of a statement is traced once or left out; where the bound on depth is not below the
nesting of the statement, each is traced exactly once if and only if no SELECT stands in a place that
the traversal does not search. -/
theorem sites_perm_selects_iff_allSearched (s : Statement) (maxDepth : Nat)
    (hdepth : s.nesting ≤ maxDepth) :
    ((statementSites maxDepth s).map (·.select) ++ skippedSelects maxDepth s).Perm
        (selectsIn s.visits) ∧
      (((statementSites maxDepth s).map (·.select)).Perm (selectsIn s.visits) ↔
        AllSearched s) := by
  have hall := coe_select_statementSites s maxDepth
  refine ⟨Multiset.coe_eq_coe.mp (by rw [← Multiset.coe_add, hall]), ?_⟩
  rw [← skippedSelects_eq_nil_iff hdepth, ← Multiset.coe_eq_coe, ← hall, left_eq_add,
    Multiset.coe_eq_zero]

end Statement

/-- `WITH c AS (SELECT a FROM db.s) INSERT INTO db.t SELECT a FROM c`. -/
def insertBehindDefinition : Statement :=
  .query ⟨false, [.named "c" (.columnOf ["db", "s"])],
    .other [] [.relation (.ofIdents [.bare "db", .bare "t"]), .query (.columnOf ["c"])], []⟩

theorem sites_perm_selects_iff_allSearched_insert :
    insertBehindDefinition.nesting ≤ 1 ∧
      ((statementSites 1 insertBehindDefinition).map (·.select) ++
        skippedSelects 1 insertBehindDefinition).Perm (selectsIn insertBehindDefinition.visits) ∧
      (((statementSites 1 insertBehindDefinition).map (·.select)).Perm
        (selectsIn insertBehindDefinition.visits) ↔ AllSearched insertBehindDefinition) := by
  have hdepth : insertBehindDefinition.nesting ≤ 1 := by decide
  exact ⟨hdepth, sites_perm_selects_iff_allSearched insertBehindDefinition 1 hdepth⟩

/-- Not every SELECT is traced: that of an INSERT behind a WITH list is left out. -/
theorem not_always_sites_perm_selects :
    ¬ ∀ (s : Statement) (maxDepth : Nat), s.nesting ≤ maxDepth →
      ((statementSites maxDepth s).map (·.select)).Perm (selectsIn s.visits) := by
  intro h
  have hlength := (h insertBehindDefinition 1 (by decide)).length_eq
  exact absurd hlength (by decide)

end ColumnLineage.Lineage
