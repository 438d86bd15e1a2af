import ColumnLineage.Lineage.Traversal
import ColumnLineage.Proofs.Renaming

/-!
# The traversal of a renamed statement

The traversal looks at no names: it reaches the renamed SELECTs of a renamed statement, whatever
the names are replaced by.

## Main definitions

* `SelectSite.rename`, `Step.rename`: a SELECT where the traversal reaches it, and a query to which
  it goes, renamed.

## Main statements

* `selectSteps_rename`, `sitesWithin_rename`: where the traversal goes.
* `statementQueries_rename`: where it starts.
-/

namespace ColumnLineage.Lineage

open Sql

variable (f : String → String)

/-- A site with the names of its SELECT and the alias of its subquery replaced. -/
def SelectSite.rename (site : SelectSite) : SelectSite :=
  ⟨site.select.rename f, site.enclosing.map f, site.underJoin⟩

/-- A query to which the traversal goes, with its names and its alias replaced. -/
def Step.rename (step : Step) : Step :=
  ⟨step.query.rename f, step.enclosing.map f, step.underJoin⟩

@[simp] theorem aliasName_rename (label : Option Alias) :
    aliasName (label.map (Alias.rename f)) = (aliasName label).map f := by
  cases label <;> rfl

@[simp] theorem tracedConstraint_rename (join : Join) :
    tracedConstraint (join.rename f) = (tracedConstraint join).rename f := by
  obtain ⟨relation, isGlobal, operator, matching, constraint⟩ := join
  simp only [Join.rename, tracedConstraint]
  split <;> rfl

@[simp] theorem itemExpr?_rename (item : SelectItem) :
    selectExprs.itemExpr? (item.rename f) = (selectExprs.itemExpr? item).map (Expr.rename f) := by
  cases item <;> rfl

section Predicates

theorem predicate?_rename (join : Join) : treePredicates.predicate? (join.rename f) =
    (treePredicates.predicate? join).map (Expr.rename f) := by
  unfold treePredicates.predicate?
  rw [tracedConstraint_rename]
  cases tracedConstraint join <;> rfl

mutual

theorem leading_rename : ∀ source : Source, treePredicates.leading (source.rename f) =
    (treePredicates.leading source).map (Expr.rename f)
  | .joined tree _ => by
    rw [Source.rename, treePredicates.leading, treePredicates.leading, treePredicates_rename tree]
  | .table .. => by simp [Source.rename, treePredicates.leading]
  | .derived .. => by simp [Source.rename, treePredicates.leading]
  | .other .. => by simp [Source.rename, treePredicates.leading]

/-- The predicates of the joins of a renamed FROM clause. -/
theorem treePredicates_rename : ∀ tree : FromTree,
    treePredicates (tree.rename f) = (treePredicates tree).map (Expr.rename f)
  | ⟨relation, joins⟩ => by
    have hjoins : (joins.map (Join.rename f)).filterMap treePredicates.predicate? =
        (joins.filterMap treePredicates.predicate?).map (Expr.rename f) :=
      filterMap_renamed (predicate?_rename f)
    rw [FromTree.rename, treePredicates, treePredicates, List.map_append, leading_rename relation,
      renameJoins_eq_map, hjoins]

end

/-- The expressions of a renamed SELECT that may hold queries. -/
theorem selectExprs_rename (s : Select) :
    selectExprs (s.rename f) = (selectExprs s).map (Expr.rename f) := by
  have hitems : (s.items.map (SelectItem.rename f)).filterMap selectExprs.itemExpr? =
      (s.items.filterMap selectExprs.itemExpr?).map (Expr.rename f) :=
    filterMap_renamed (itemExpr?_rename f)
  have htrees : (s.sources.map (FromTree.rename f)).flatMap treePredicates =
      (s.sources.flatMap treePredicates).map (Expr.rename f) :=
    flatMap_renamed fun tree _ => treePredicates_rename f tree
  have hoption : ∀ e : Option Expr,
      (e.map (Expr.rename f)).toList = e.toList.map (Expr.rename f) := by
    intro e
    cases e <;> rfl
  simp only [selectExprs, Select.items_rename, Select.filter_rename, Select.grouping_rename,
    Select.having_rename, Select.sources_rename, hitems, htrees, hoption, List.map_append]

end Predicates

section Steps

mutual

theorem sourceSteps_rename : ∀ (joined : Bool) (source : Source),
    sourceSteps joined (source.rename f) = (sourceSteps joined source).map (Step.rename f)
  | _, .derived _ query label _ => by
    simp only [Source.rename, sourceSteps, aliasName_rename, List.map_singleton, Step.rename]
  | joined, .joined tree _ => treeSteps_rename joined tree
  | _, .table .. => rfl
  | _, .other .. => rfl

theorem treeSteps_rename : ∀ (joined : Bool) (tree : FromTree),
    treeSteps joined (tree.rename f) = (treeSteps joined tree).map (Step.rename f)
  | joined, ⟨relation, joins⟩ => by
    rw [FromTree.rename, treeSteps, treeSteps, List.map_append, sourceSteps_rename joined relation,
      joinsSteps_rename joins]

theorem joinsSteps_rename : ∀ joins : List Join,
    joinsSteps (renameJoins f joins) = (joinsSteps joins).map (Step.rename f)
  | [] => rfl
  | join :: more => by
    rw [renameJoins, joinsSteps, joinsSteps, List.map_append, joinSteps_rename join,
      joinsSteps_rename more]

theorem joinSteps_rename : ∀ join : Join,
    joinSteps (join.rename f) = (joinSteps join).map (Step.rename f)
  | ⟨relation, _, _, _, _⟩ => sourceSteps_rename true relation

end

/-- The queries to which the traversal goes from a renamed SELECT. -/
theorem selectSteps_rename (s : Select) :
    selectSteps (s.rename f) = (selectSteps s).map (Step.rename f) := by
  have hqueries : exprQueries (s.rename f) = (exprQueries s).map (Query.rename f) := by
    unfold exprQueries
    rw [selectExprs_rename]
    refine flatMap_renamed fun e _ => ?_
    rw [e.visits_rename, outermostQueries_rename]
  have htrees : (s.sources.map (FromTree.rename f)).flatMap (treeSteps false) =
      (s.sources.flatMap (treeSteps false)).map (Step.rename f) :=
    flatMap_renamed fun tree _ => treeSteps_rename f false tree
  unfold selectSteps
  rw [hqueries, Select.sources_rename, htrees, List.map_append, List.map_map, List.map_map]
  rfl

/-- The sites of a renamed body, if those of the queries one level below are renamed. -/
theorem bodySites_rename {go : Step → List SelectSite}
    (hgo : ∀ step, go (step.rename f) = (go step).map (SelectSite.rename f))
    (enclosing : Option String) (underJoin : Bool) (body : Body) :
    bodySites go (enclosing.map f) underJoin (body.rename f) =
      (bodySites go enclosing underJoin body).map (SelectSite.rename f) := by
  fun_induction bodySites go enclosing underJoin body with
  | case1 s =>
    have hsteps : ((selectSteps s).map (Step.rename f)).flatMap go =
        ((selectSteps s).flatMap go).map (SelectSite.rename f) :=
      flatMap_renamed fun step _ => hgo step
    rw [Body.rename, bodySites, selectSteps_rename, hsteps, List.map_cons]
    rfl
  | case2 q => exact hgo ⟨q, enclosing, underJoin⟩
  | case3 left op right ihleft ihright =>
    rw [Body.rename, bodySites, List.map_append, ihleft, ihright]
  | case4 layout parts => rfl

/-- The sites of a renamed query. -/
theorem sitesWithin_rename (levels : Nat) (step : Step) :
    sitesWithin levels (step.rename f) = (sitesWithin levels step).map (SelectSite.rename f) := by
  induction levels generalizing step with
  | zero => rfl
  | succ levels ih =>
    obtain ⟨⟨recursive, ctes, body, tail⟩, enclosing, underJoin⟩ := step
    have hctes : (ctes.map (Cte.rename f)).flatMap
        (fun cte => sitesWithin levels ⟨cte.query, enclosing.map f, false⟩) =
          (ctes.flatMap fun cte => sitesWithin levels ⟨cte.query, enclosing, false⟩).map
            (SelectSite.rename f) := by
      refine flatMap_renamed fun cte _ => ?_
      rw [Cte.query_rename]
      exact ih ⟨cte.query, enclosing, false⟩
    simp only [Step.rename, Query.rename, sitesWithin, renameCtes_eq_map, hctes, List.map_append,
      bodySites_rename f ih enclosing underJoin body]

theorem querySites_rename (maxDepth : Nat) (q : Query) :
    querySites maxDepth (q.rename f) = (querySites maxDepth q).map (SelectSite.rename f) :=
  sitesWithin_rename f (maxDepth + 1) ⟨q, none, false⟩

end Steps

section Queries

mutual

theorem firstSelect_rename : ∀ q : Query,
    firstSelect (q.rename f) = (firstSelect q).map (Select.rename f)
  | ⟨_, _, body, _⟩ => firstSelectOf_rename body

theorem firstSelectOf_rename : ∀ body : Body,
    firstSelectOf (body.rename f) = (firstSelectOf body).map (Select.rename f)
  | .select _ => rfl
  | .query q => firstSelect_rename q
  | .combined left _ _ => firstSelectOf_rename left
  | .other .. => rfl

end

mutual

theorem outermostSelects_rename : ∀ q : Query,
    outermostSelects (q.rename f) = (outermostSelects q).map (Select.rename f)
  | ⟨_, _, body, _⟩ => outermostSelectsOf_rename body

theorem outermostSelectsOf_rename : ∀ body : Body,
    outermostSelectsOf (body.rename f) = (outermostSelectsOf body).map (Select.rename f)
  | .select _ => rfl
  | .query q => outermostSelects_rename q
  | .combined left _ right => by
    rw [Body.rename, outermostSelectsOf, outermostSelectsOf, List.map_append,
      outermostSelectsOf_rename left, outermostSelectsOf_rename right]
  | .other .. => rfl

end

/-- The subquery that a renamed SELECT gives out as a whole. -/
theorem wholeDataset?_rename (s : Select) :
    wholeDataset? (s.rename f) = (wholeDataset? s).map (Prod.map (Query.rename f) f) := by
  unfold wholeDataset?
  rw [Select.items_rename, Select.sources_rename]
  match s.items with
  | [] => rfl
  | [.star options] =>
    match s.sources with
    | [] => rfl
    | [⟨relation, joins⟩] =>
      cases relation with
      | derived lateral query label extras => cases label <;> cases joins <;> rfl
      | _ => rfl
    | ⟨relation, joins⟩ :: _ :: _ =>
      cases relation with
      | derived lateral query label extras => cases label <;> cases joins <;> rfl
      | _ => rfl
  | [.qualifiedStar name options] => rfl
  | [.exprStar e options] => rfl
  | [.expr e] => rfl
  | [.aliased e label] => rfl
  | item :: _ :: _ => cases item <;> rfl

/-- The queries of a renamed statement that have rows. -/
theorem statementQueries_rename (s : Statement) :
    statementQueries (s.rename f) = (statementQueries s).map (Query.rename f) := by
  cases s with
  | query q => rfl
  | other kind parts =>
    simp only [Statement.rename, statementQueries, visitNodes_rename, outermostQueries_rename]

end Queries

end ColumnLineage.Lineage
