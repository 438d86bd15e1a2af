import Mathlib.Data.List.Flatten
import ColumnLineage.Proofs.Coverage
import ColumnLineage.Proofs.Output

/-!
# The bound on depth

A higher bound on depth adds sites of the traversal and rows of the statement, and changes none of
those that there are.  Once the bound is not below the nesting that the traversal counts, it changes
nothing any more.

## Main definitions

* `Holds`: a query stands one level below another one.
* `Below`, `AtDepth`: how many levels a query stands below another one, or in a statement.
* `tracedNesting`: how many levels the traversal of a statement goes down.

## Main statements

* `tracedNesting_le_iff`: the nesting that the traversal counts is the depth of its deepest query.
* `sitesWithin_sublist`, `sitesWithin_eq`: more levels add sites, up to the last level of a query.
* `mem_select_statementSites`: the SELECTs that a bound lets through are those that are not deeper.
* `statementRows_raised_bound`: what a higher bound does to the rows of a statement.

## Design notes

`Holds` says which queries count as a level without the traversal, and `mem_querySteps` says that
these are the queries to which the traversal goes.  The levels of a query are computed by recursion
on how many queries its visit opens at once.
-/

namespace ColumnLineage.Lineage

open Sql

/-- The queries in parentheses among the branches of a body. -/
def parenthesizedQueries : Body → List Query
  | .select _ => []
  | .query q => [q]
  | .combined left _ right => parenthesizedQueries left ++ parenthesizedQueries right
  | .other .. => []

/-- A query stands one level below another one: as a definition, in parentheses, as a subquery of a
FROM clause, or in an expression.  The branches of set operators stand on the level of the query. -/
inductive Holds (outer inner : Query) : Prop
  | definition {cte : Cte} (h : cte ∈ outer.ctes) (hquery : cte.query = inner)
  | parenthesized (h : inner ∈ parenthesizedQueries outer.body)
  | derived {s : Select} {lateral : Bool} {label : Option Alias} {extras : List Node}
      (hs : s ∈ outer.branches) (h : .derived lateral inner label extras ∈ Scope.fromSources s)
  | expression {s : Select} (hs : s ∈ outer.branches) (h : inner ∈ exprQueries s)

/-- A query stands so many levels below another one. -/
inductive Below : Query → Nat → Query → Prop
  | self (q : Query) : Below q 0 q
  | inside {outer middle inner : Query} {depth : Nat} (hholds : Holds outer middle)
      (h : Below middle depth inner) : Below outer (depth + 1) inner

/-- A query stands in a statement, so many levels below an outermost one. -/
def AtDepth (s : Statement) (depth : Nat) (q : Query) : Prop :=
  ∃ outermost ∈ statementQueries s, Below outermost depth q

/-- How many levels the traversal goes down from a query. -/
def levelsBelow (q : Query) : Nat :=
  ((querySteps q).attach.map fun step => levelsBelow step.val + 1).foldr max 0
termination_by mostOpen 0 q.visits
decreasing_by exact mostOpen_lt_of_mem_querySteps step.property

/-- How many levels the traversal of a statement goes down from its outermost queries. -/
def tracedNesting (s : Statement) : Nat :=
  ((statementQueries s).map levelsBelow).foldr max 0

section Steps

/-- The query of a subquery in a FROM clause. -/
def derivedQuery? : Source → Option Query
  | .derived _ query _ _ => some query
  | _ => none

theorem derivedQuery?_eq_some {source : Source} {q : Query} : derivedQuery? source = some q ↔
    ∃ lateral label extras, source = .derived lateral q label extras := by
  cases source <;> simp [derivedQuery?]

mutual

theorem map_query_sourceSteps : ∀ (joined : Bool) (source : Source),
    (sourceSteps joined source).map (·.query) =
      (Scope.flatSources source).filterMap derivedQuery?
  | _, .derived .. => rfl
  | joined, .joined tree _ => map_query_treeSteps joined tree
  | _, .table .. => rfl
  | _, .other .. => rfl

theorem map_query_treeSteps : ∀ (joined : Bool) (tree : FromTree),
    (treeSteps joined tree).map (·.query) = (Scope.flatTree tree).filterMap derivedQuery?
  | joined, ⟨relation, joins⟩ => by
    rw [treeSteps, Scope.flatTree, List.map_append, List.filterMap_append,
      map_query_sourceSteps joined relation, map_query_joinsSteps joins]

theorem map_query_joinsSteps : ∀ joins : List Join,
    (joinsSteps joins).map (·.query) = (Scope.flatJoins joins).filterMap derivedQuery?
  | [] => rfl
  | ⟨relation, _, _, _, _⟩ :: more => by
    rw [joinsSteps, joinSteps, Scope.flatJoins, Scope.flatJoin, List.map_append,
      List.filterMap_append, map_query_sourceSteps true relation, map_query_joinsSteps more]

end

/-- The traversal goes from a SELECT to its subqueries, and to the queries in its expressions. -/
theorem map_query_selectSteps (s : Select) : (selectSteps s).map (·.query) =
    (Scope.fromSources s).filterMap derivedQuery? ++ exprQueries s := by
  unfold selectSteps Scope.fromSources
  rw [List.map_append, List.map_flatMap, List.filterMap_flatMap]
  simp [map_query_treeSteps, Function.comp_def]

/-- The traversal goes from a body to its queries in parentheses, and from its SELECTs. -/
theorem mem_bodySteps {body : Body} {inner : Query} : inner ∈ bodySteps body ↔
    inner ∈ parenthesizedQueries body ∨
      ∃ s ∈ body.branches, inner ∈ (selectSteps s).map (·.query) := by
  fun_induction bodySteps body with
  | case1 s => simp [parenthesizedQueries, Body.branches]
  | case2 q => simp [parenthesizedQueries, Body.branches]
  | case3 left op right ihleft ihright =>
    rw [List.mem_append, ihleft, ihright, parenthesizedQueries, Body.branches, List.mem_append]
    simp only [List.mem_append, or_and_right, exists_or]
    exact or_or_or_comm
  | case4 layout parts => simp [parenthesizedQueries, Body.branches]

theorem mem_map_query_selectSteps {s : Select} {inner : Query} :
    inner ∈ (selectSteps s).map (·.query) ↔
      (∃ lateral label extras, .derived lateral inner label extras ∈ Scope.fromSources s) ∨
        inner ∈ exprQueries s := by
  rw [map_query_selectSteps, List.mem_append, List.mem_filterMap]
  simp only [derivedQuery?_eq_some]
  constructor
  · rintro (⟨source, hsource, lateral, label, extras, rfl⟩ | h)
    · exact Or.inl ⟨lateral, label, extras, hsource⟩
    · exact Or.inr h
  · rintro (⟨lateral, label, extras, hsource⟩ | h)
    · exact Or.inl ⟨_, hsource, lateral, label, extras, rfl⟩
    · exact Or.inr h

/-- The traversal goes from a query to those that stand one level below it. -/
theorem mem_querySteps {outer inner : Query} : inner ∈ querySteps outer ↔ Holds outer inner := by
  rw [querySteps, List.mem_append, mem_bodySteps, List.mem_map]
  simp only [mem_map_query_selectSteps]
  constructor
  · rintro ((h | ⟨s, hs, ⟨lateral, label, extras, h⟩ | h⟩) | ⟨cte, hcte, hquery⟩)
    · exact .parenthesized h
    · exact .derived hs h
    · exact .expression hs h
    · exact .definition hcte hquery
  · rintro (⟨hcte, hquery⟩ | h | ⟨hs, h⟩ | ⟨hs, h⟩)
    · exact Or.inr ⟨_, hcte, hquery⟩
    · exact Or.inl (Or.inl h)
    · exact Or.inl (Or.inr ⟨_, hs, Or.inl ⟨_, _, _, h⟩⟩)
    · exact Or.inl (Or.inr ⟨_, hs, Or.inr h⟩)

end Steps

section Levels

variable {s : Statement} {q inner : Query} {bound depth : Nat}

theorem foldr_max_le_iff {values : List Nat} :
    values.foldr max 0 ≤ bound ↔ ∀ value ∈ values, value ≤ bound := by
  induction values with
  | nil => simp
  | cons value more ih => rw [List.foldr_cons, Nat.max_le, ih, List.forall_mem_cons]

theorem levelsBelow_le_iff :
    levelsBelow q ≤ bound ↔ ∀ inner, Holds q inner → levelsBelow inner + 1 ≤ bound := by
  rw [levelsBelow, foldr_max_le_iff]
  simp [← mem_querySteps]

theorem levelsBelow_lt_of_holds (h : Holds q inner) : levelsBelow inner < levelsBelow q :=
  levelsBelow_le_iff.mp le_rfl inner h

theorem Below.le_levelsBelow (h : Below q depth inner) : depth ≤ levelsBelow q := by
  induction h with
  | self q => exact Nat.zero_le _
  | inside hholds _ ih =>
    have hlt := levelsBelow_lt_of_holds hholds
    omega

/-- The levels of a query end with the deepest query below it. -/
theorem levelsBelow_le_of_forall_below (q : Query) {bound : Nat}
    (h : ∀ depth inner, Below q depth inner → depth ≤ bound) : levelsBelow q ≤ bound := by
  fun_induction levelsBelow q generalizing bound with
  | case1 q ih =>
    rw [← levelsBelow, levelsBelow_le_iff]
    intro middle hholds
    have hone : 1 ≤ bound := h 1 middle (.inside hholds (.self middle))
    have hdeeper : ∀ depth inner, Below middle depth inner → depth ≤ bound - 1 := by
      intro depth inner hinner
      have hle := h (depth + 1) inner (.inside hholds hinner)
      omega
    have hlevels : levelsBelow middle ≤ bound - 1 :=
      ih ⟨middle, mem_querySteps.mpr hholds⟩ hdeeper
    omega

/-- The traversal goes down fewer levels than the visit of a query opens queries at once. -/
theorem levelsBelow_lt_mostOpen (q : Query) : levelsBelow q < mostOpen 0 q.visits := by
  fun_induction levelsBelow q with
  | case1 q ih =>
    rw [← levelsBelow, mostOpen_query, Nat.lt_succ_iff, levelsBelow_le_iff]
    intro inner hinner
    have hstep := mem_querySteps.mpr hinner
    have hopen := mostOpen_lt_of_mem_querySteps hstep
    have hlevels : levelsBelow inner < mostOpen 0 inner.visits := ih ⟨inner, hstep⟩
    rw [mostOpen_query q] at hopen
    omega

theorem tracedNesting_le_iff_forall_levelsBelow :
    tracedNesting s ≤ bound ↔ ∀ q ∈ statementQueries s, levelsBelow q ≤ bound := by
  rw [tracedNesting, foldr_max_le_iff]
  simp

/-- The nesting that the traversal counts is the depth of the deepest query. -/
theorem tracedNesting_le_iff :
    tracedNesting s ≤ bound ↔ ∀ depth q, AtDepth s depth q → depth ≤ bound := by
  rw [tracedNesting_le_iff_forall_levelsBelow]
  constructor
  · rintro h depth q ⟨outermost, houtermost, hbelow⟩
    exact Nat.le_trans hbelow.le_levelsBelow (h outermost houtermost)
  · intro h outermost houtermost
    refine levelsBelow_le_of_forall_below outermost fun depth q hbelow => ?_
    exact h depth q ⟨outermost, houtermost, hbelow⟩

/-- The traversal goes down no deeper than queries nest. -/
theorem tracedNesting_le_nesting (s : Statement) : tracedNesting s ≤ s.nesting := by
  rw [tracedNesting_le_iff_forall_levelsBelow]
  intro q hq
  rw [statementQueries_eq] at hq
  have hopen := mostOpen_le_of_mem_outermostQueries s.balanced_visits hq
  have hlevels := levelsBelow_lt_mostOpen q
  unfold Statement.nesting
  omega

end Levels

section Sites

variable {go more : Step → List SelectSite}

/-- A body has more sites if each query below it has. -/
theorem bodySites_sublist (hgo : ∀ step, (go step).Sublist (more step))
    (enclosing : Option String) (underJoin : Bool) (body : Body) :
    (bodySites go enclosing underJoin body).Sublist (bodySites more enclosing underJoin body) := by
  fun_induction bodySteps body with
  | case1 s => exact (List.Sublist.flatMap_right _ fun step _ => hgo step).cons_cons _
  | case2 q => exact hgo _
  | case3 left op right ihleft ihright => exact ihleft.append ihright
  | case4 layout parts => exact List.Sublist.refl _

/-- A body has the same sites if each query to which the traversal goes has. -/
theorem bodySites_congr {body : Body}
    (hgo : ∀ step : Step, step.query ∈ bodySteps body → go step = more step)
    (enclosing : Option String) (underJoin : Bool) :
    bodySites go enclosing underJoin body = bodySites more enclosing underJoin body := by
  fun_induction bodySteps body with
  | case1 s =>
    have hsteps := List.flatMap_congr fun step hstep => hgo step (List.mem_map_of_mem hstep)
    rw [bodySites, bodySites, hsteps]
  | case2 q => exact hgo _ (List.mem_singleton_self q)
  | case3 left op right ihleft ihright =>
    rw [bodySites, bodySites, ihleft fun step h => hgo step (List.mem_append_left _ h),
      ihright fun step h => hgo step (List.mem_append_right _ h)]
  | case4 layout parts => rfl

/-- One more level adds sites, and keeps those that there are. -/
theorem sitesWithin_sublist_succ (levels : Nat) (step : Step) :
    (sitesWithin levels step).Sublist (sitesWithin (levels + 1) step) := by
  induction levels generalizing step with
  | zero => exact List.nil_sublist _
  | succ levels ih =>
    have hbody := bodySites_sublist ih step.enclosing step.underJoin step.query.body
    have hctes := List.Sublist.flatMap_right (definitionSteps step) fun inner _ => ih inner
    rw [sitesWithin_succ, sitesWithin_succ]
    exact hbody.append hctes

theorem sitesWithin_sublist {levels more : Nat} (h : levels ≤ more) (step : Step) :
    (sitesWithin levels step).Sublist (sitesWithin more step) := by
  induction h with
  | refl => exact List.Sublist.refl _
  | step _ ih => exact ih.trans (sitesWithin_sublist_succ _ step)

/-- One more level adds nothing below the last level of a query. -/
theorem sitesWithin_succ_eq {levels : Nat} {step : Step} (h : levelsBelow step.query < levels) :
    sitesWithin (levels + 1) step = sitesWithin levels step := by
  induction levels generalizing step with
  | zero => omega
  | succ levels ih =>
    have hgo : ∀ inner : Step, inner.query ∈ querySteps step.query →
        sitesWithin (levels + 1) inner = sitesWithin levels inner := by
      intro inner hinner
      have hlt := levelsBelow_lt_of_holds (mem_querySteps.mp hinner)
      exact ih (by omega)
    have hbody := bodySites_congr (fun inner h => hgo inner (List.mem_append_left _ h))
      step.enclosing step.underJoin
    have hctes : (definitionSteps step).flatMap (sitesWithin (levels + 1)) =
        (definitionSteps step).flatMap (sitesWithin levels) := by
      refine List.flatMap_congr fun inner hinner => hgo inner (List.mem_append_right _ ?_)
      rw [← map_query_definitionSteps]
      exact List.mem_map_of_mem hinner
    rw [sitesWithin_succ, hbody, hctes, sitesWithin_succ]

theorem sitesWithin_eq {levels more : Nat} (hle : levels ≤ more) {step : Step}
    (h : levelsBelow step.query < levels) : sitesWithin more step = sitesWithin levels step := by
  induction hle with
  | refl => rfl
  | step hle ih => rw [sitesWithin_succ_eq (Nat.lt_of_lt_of_le h hle), ih]

end Sites

section Traced

variable {go : Step → List SelectSite} {select : Select} {P : Query → Prop}

theorem mem_select_flatMap
    (hgo : ∀ step : Step, select ∈ (go step).map (·.select) ↔ P step.query) (steps : List Step) :
    select ∈ (steps.flatMap go).map (·.select) ↔ ∃ q ∈ steps.map (·.query), P q := by
  rw [List.map_flatMap, List.mem_flatMap]
  constructor
  · rintro ⟨step, hstep, hselect⟩
    exact ⟨step.query, List.mem_map_of_mem hstep, (hgo step).mp hselect⟩
  · rintro ⟨q, hq, hP⟩
    obtain ⟨step, hstep, rfl⟩ := List.mem_map.mp hq
    exact ⟨step, hstep, (hgo step).mpr hP⟩

/-- The SELECTs traced in a body are its own branches, and those traced in the queries to which the
traversal goes. -/
theorem mem_select_bodySites
    (hgo : ∀ step : Step, select ∈ (go step).map (·.select) ↔ P step.query)
    (enclosing : Option String) (underJoin : Bool) (body : Body) :
    select ∈ (bodySites go enclosing underJoin body).map (·.select) ↔
      select ∈ body.branches ∨ ∃ q ∈ bodySteps body, P q := by
  fun_induction bodySteps body with
  | case1 s =>
    rw [bodySites, List.map_cons, List.mem_cons, mem_select_flatMap hgo, Body.branches,
      List.mem_singleton]
  | case2 q => simp [bodySites, Body.branches, hgo]
  | case3 left op right ihleft ihright =>
    rw [bodySites, List.map_append, List.mem_append, ihleft, ihright, Body.branches,
      List.mem_append]
    simp only [List.mem_append, or_and_right, exists_or]
    exact or_or_or_comm
  | case4 layout parts => simp [bodySites, Body.branches]

/-- A SELECT is a branch of a query that stands fewer than so many levels below another one. -/
def BranchWithin (levels : Nat) (select : Select) (outer : Query) : Prop :=
  ∃ depth < levels, ∃ q, Below outer depth q ∧ select ∈ q.branches

/-- The branches within one more level are those of the query itself, and those within the levels of
the queries to which the traversal goes. -/
theorem branchWithin_succ_iff {levels : Nat} {outer : Query} :
    BranchWithin (levels + 1) select outer ↔
      select ∈ outer.branches ∨ ∃ q ∈ querySteps outer, BranchWithin levels select q := by
  constructor
  · rintro ⟨depth, hdepth, q, hbelow, hselect⟩
    cases hbelow with
    | self => exact Or.inl hselect
    | inside hholds hbelow =>
      have hlevels := Nat.lt_of_succ_lt_succ hdepth
      exact Or.inr ⟨_, mem_querySteps.mpr hholds, _, hlevels, q, hbelow, hselect⟩
  · rintro (hselect | ⟨middle, hmiddle, depth, hdepth, q, hbelow, hselect⟩)
    · exact ⟨0, Nat.succ_pos levels, outer, .self outer, hselect⟩
    · have hholds := mem_querySteps.mp hmiddle
      exact ⟨depth + 1, Nat.succ_lt_succ hdepth, q, .inside hholds hbelow, hselect⟩

/-- The SELECTs traced within some levels of a query are the branches within these levels. -/
theorem mem_select_sitesWithin (levels : Nat) (step : Step) :
    select ∈ (sitesWithin levels step).map (·.select) ↔ BranchWithin levels select step.query := by
  induction levels generalizing step with
  | zero => simp [sitesWithin, BranchWithin]
  | succ levels ih =>
    have hbody := mem_select_bodySites ih step.enclosing step.underJoin step.query.body
    have hctes := mem_select_flatMap ih (definitionSteps step)
    rw [map_query_definitionSteps] at hctes
    rw [sitesWithin_succ, List.map_append, List.mem_append, hbody, hctes, branchWithin_succ_iff,
      or_assoc, querySteps]
    simp only [List.mem_append, or_and_right, exists_or]
    rfl

/-- A bound on depth cuts by depth and by nothing else: it lets through the branches of the queries
that are not deeper. -/
theorem mem_select_statementSites {s : Statement} {maxDepth : Nat} :
    select ∈ (statementSites maxDepth s).map (·.select) ↔
      ∃ depth ≤ maxDepth, ∃ q, AtDepth s depth q ∧ select ∈ q.branches := by
  have hsites := mem_select_flatMap (@mem_select_sitesWithin select (maxDepth + 1))
    (outermostSteps s)
  rw [map_query_outermostSteps] at hsites
  rw [statementSites_eq_flatMap, hsites]
  constructor
  · rintro ⟨outermost, houtermost, depth, hdepth, q, hbelow, hselect⟩
    exact ⟨depth, Nat.le_of_lt_succ hdepth, q, ⟨outermost, houtermost, hbelow⟩, hselect⟩
  · rintro ⟨depth, hdepth, q, ⟨outermost, houtermost, hbelow⟩, hselect⟩
    exact ⟨outermost, houtermost, depth, Nat.lt_succ_of_le hdepth, q, hbelow, hselect⟩

end Traced

section Statement

variable {bound more : Nat}

theorem statementSites_sublist (hle : bound ≤ more) (s : Statement) :
    (statementSites bound s).Sublist (statementSites more s) :=
  List.Sublist.flatMap_right _ fun _ _ => sitesWithin_sublist (Nat.succ_le_succ hle) _

theorem statementRows_sublist (tags : Tags) (hle : bound ≤ more) (s : Statement) :
    (statementRows tags bound s).Sublist (statementRows tags more s) := by
  refine List.Sublist.flatMap_right _ fun q _ => List.Sublist.append_left ?_ _
  exact (sitesWithin_sublist (Nat.succ_le_succ hle) _).flatMap _

theorem querySites_eq (hle : bound ≤ more) {q : Query} (h : levelsBelow q ≤ bound) :
    querySites more q = querySites bound q :=
  sitesWithin_eq (Nat.succ_le_succ hle) (Nat.lt_succ_of_le h)

theorem statementRows_eq (tags : Tags) (hle : bound ≤ more) {s : Statement}
    (h : tracedNesting s ≤ bound) : statementRows tags more s = statementRows tags bound s := by
  refine List.flatMap_congr fun q hq => ?_
  rw [queryRows, queryRows,
    querySites_eq hle (tracedNesting_le_iff_forall_levelsBelow.mp h q hq)]

/-- A higher bound on depth adds sites, and with them rows, between those that there are, so that no
row is lost when repetitions are removed.  It adds nothing where the lower bound is not below the
nesting that the traversal counts. -/
theorem statementRows_raised_bound (tags : Tags) (s : Statement) (hle : bound ≤ more) :
    (statementSites bound s).Sublist (statementSites more s) ∧
      (statementRows tags bound s).Sublist (statementRows tags more s) ∧
      deduplicate (statementRows tags bound s) ⊆ deduplicate (statementRows tags more s) ∧
      (tracedNesting s ≤ bound → statementRows tags more s = statementRows tags bound s) := by
  have hrows := statementRows_sublist tags hle s
  refine ⟨statementSites_sublist hle s, hrows, ?_, statementRows_eq tags hle⟩
  intro row hrow
  obtain ⟨raw, hraw, hkept, heq⟩ := mem_deduplicate.mp hrow
  exact mem_deduplicate.mpr ⟨raw, hrows.subset hraw, hkept, heq⟩

end Statement

/-- `WITH c AS (SELECT a FROM db.s) SELECT a FROM (SELECT a FROM c) AS w UNION (SELECT a FROM t)`. -/
def unionBehindDefinition : Statement :=
  .query ⟨false, [.named "c" (.columnOf ["db", "s"])],
    .combined
      (.select (.plain [.expr (.column (.bare "a"))]
        [.subquery (.plain [.expr (.column (.bare "a"))] [.bare ["c"]] none) "w"] none))
      "UNION" (.query (.columnOf ["t"])), []⟩

theorem statementRows_raised_bound_unionBehindDefinition :
    1 ≤ 5 ∧ tracedNesting unionBehindDefinition ≤ 1 ∧
      (statementSites 1 unionBehindDefinition).Sublist (statementSites 5 unionBehindDefinition) ∧
      (statementRows ⟨"", "", ""⟩ 1 unionBehindDefinition).Sublist
        (statementRows ⟨"", "", ""⟩ 5 unionBehindDefinition) ∧
      deduplicate (statementRows ⟨"", "", ""⟩ 1 unionBehindDefinition) ⊆
        deduplicate (statementRows ⟨"", "", ""⟩ 5 unionBehindDefinition) ∧
      statementRows ⟨"", "", ""⟩ 5 unionBehindDefinition =
        statementRows ⟨"", "", ""⟩ 1 unionBehindDefinition := by
  have hnesting : tracedNesting unionBehindDefinition ≤ 1 :=
    Nat.le_trans (tracedNesting_le_nesting _) (by decide)
  obtain ⟨hsites, hrows, hclean, hsame⟩ :=
    statementRows_raised_bound ⟨"", "", ""⟩ unionBehindDefinition (show 1 ≤ 5 by decide)
  exact ⟨by decide, hnesting, hsites, hrows, hclean, hsame hnesting⟩

/-- A bound of zero leaves out the definition, the subquery and the branch in parentheses. -/
example : (statementRows ⟨"", "", ""⟩ 0 unionBehindDefinition).length = 1 ∧
    (statementRows ⟨"", "", ""⟩ 1 unionBehindDefinition).length = 4 := by
  decide +kernel

end ColumnLineage.Lineage
