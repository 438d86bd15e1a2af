import ColumnLineage.Lineage.Attribution

/-!
# Traversal

Lineage goes through the SELECTs of a statement one by one: the branches of set operators, the
bodies of definitions, the subqueries of FROM clauses and those in expressions.  How deep it goes is
bounded.

## Main definitions

* `SelectSite`: a SELECT where the traversal reaches it.
* `sitesWithin`: the sites of a query, down to a number of levels.
* `SelectSite.rows`: the rows of a site.
* `statementRows`: the rows of a statement.

## Design notes

The traversal yields the list of its sites first, so that what is reached can be told apart from the
rows each site gives.
-/

namespace ColumnLineage.Lineage

open Sql

/-- A SELECT where the traversal reaches it. -/
structure SelectSite where
  select : Select
  /-- The alias of the subquery that the SELECT belongs to. -/
  enclosing : Option String
  /-- The SELECT is the body of a joined subquery, whose filter its join accounts for. -/
  underJoin : Bool

/-- The predicates of the joins of a source: those of a join in parentheses at its start, then its
own. -/
def treePredicates : FromTree → List Expr
  | ⟨relation, joins⟩ => leading relation ++ joins.filterMap predicate?
where
  /-- The predicates of a join in parentheses. -/
  leading : Source → List Expr
    | .joined tree _ => treePredicates tree
    | _ => []
  /-- The predicate of a join. -/
  predicate? (join : Join) : Option Expr :=
    match tracedConstraint join with
    | .on predicate => some predicate
    | _ => none

/-- The expressions of a SELECT that may hold queries. -/
def selectExprs (s : Select) : List Expr :=
  s.items.filterMap itemExpr? ++ s.filter.toList ++ s.grouping ++ s.having.toList ++
    s.sources.flatMap treePredicates
where
  /-- The expression of an item of a select list. -/
  itemExpr? : SelectItem → Option Expr
    | .expr e | .aliased e _ => some e
    | _ => none

/-- The queries in the expressions of a SELECT. -/
def exprQueries (s : Select) : List Query :=
  (selectExprs s).flatMap fun e => outermostQueries e.visits

/-- A query to which the traversal goes, with the alias it gets and whether it is joined. -/
structure Step where
  query : Query
  enclosing : Option String
  underJoin : Bool

mutual

/-- The subqueries of a source. -/
def sourceSteps (joined : Bool) : Source → List Step
  | .derived _ query label _ => [⟨query, aliasName label, joined⟩]
  | .joined tree _ => treeSteps joined tree
  | .table .. => []
  | .other .. => []

/-- The subqueries of a source and of what is joined to it. -/
def treeSteps (joined : Bool) : FromTree → List Step
  | ⟨relation, joins⟩ => sourceSteps joined relation ++ joinsSteps joins

/-- The subqueries of some joins. -/
def joinsSteps : List Join → List Step
  | [] => []
  | join :: more => joinSteps join ++ joinsSteps more

/-- The subqueries of a join. -/
def joinSteps : Join → List Step
  | ⟨relation, _, _, _, _⟩ => sourceSteps true relation

end

/-- The queries to which the traversal goes from a SELECT. -/
def selectSteps (s : Select) : List Step :=
  s.sources.flatMap (treeSteps false) ++ (exprQueries s).map fun q => ⟨q, none, false⟩

/-- The sites of a body; `go` gives those of the queries one level below. -/
def bodySites (go : Step → List SelectSite) (enclosing : Option String) (underJoin : Bool) :
    Body → List SelectSite
  | .select s => ⟨s, enclosing, underJoin⟩ :: (selectSteps s).flatMap go
  | .query q => go ⟨q, enclosing, underJoin⟩
  | .combined left _ right =>
    bodySites go enclosing underJoin left ++ bodySites go enclosing underJoin right
  | .other .. => []

/-- The sites of a query, down to a number of levels: those of its body, then those of its
definitions. -/
def sitesWithin : Nat → Step → List SelectSite
  | 0, _ => []
  | levels + 1, ⟨⟨_, ctes, body, _⟩, enclosing, underJoin⟩ =>
    bodySites (sitesWithin levels) enclosing underJoin body ++
      ctes.flatMap fun cte => sitesWithin levels ⟨cte.query, enclosing, false⟩

/-- The sites of a whole query; the query itself has depth zero, and depths up to the bound are
traced. -/
def querySites (maxDepth : Nat) (q : Query) : List SelectSite :=
  sitesWithin (maxDepth + 1) ⟨q, none, false⟩

mutual

/-- The rows of the joins in a source. -/
def sourceJoinRows (tags : Tags) (c : CteCatalog) (scopes : Scopes) : Source → List Row
  | .joined tree _ => treeJoinRows tags c scopes tree
  | .table .. => []
  | .derived .. => []
  | .other .. => []

/-- The rows of the joins of a source and of what is joined to it. -/
def treeJoinRows (tags : Tags) (c : CteCatalog) (scopes : Scopes) : FromTree → List Row
  | ⟨relation, joins⟩ =>
    sourceJoinRows tags c scopes relation ++
      joinsRows tags c scopes (sourceName relation) joins

/-- The rows of some joins; `left` is the name of the source in front of them. -/
def joinsRows (tags : Tags) (c : CteCatalog) (scopes : Scopes) (left : Option String) :
    List Join → List Row
  | [] => []
  | join :: more =>
    joinedRows tags c scopes left join ++
      joinsRows tags c scopes (sourceName join.relation) more

/-- The rows of a join and of the joins in its source. -/
def joinedRows (tags : Tags) (c : CteCatalog) (scopes : Scopes) (left : Option String) :
    Join → List Row
  | ⟨relation, global, operator, matching, constraint⟩ =>
    sourceJoinRows tags c scopes relation ++
      joinRows tags c scopes left ⟨relation, global, operator, matching, constraint⟩

end

namespace SelectSite

/-- The scopes of a site. -/
def scopes (c : CteCatalog) (outer : Scope) (site : SelectSite) : Scopes :=
  ⟨.ofSelect c site.select, outer⟩

/-- The rows of the filters and the grouping of a site; the join of a joined subquery accounts for
them. -/
def filterRows (tags : Tags) (scopes : Scopes) (site : SelectSite) : List Row :=
  if site.underJoin then []
  else
    let rows (remark : Remark) (e : Expr) : List Row :=
      clauseRows tags scopes site.enclosing remark e
    site.select.filter.toList.flatMap (rows .whereClauseColumn) ++
      site.select.grouping.flatMap (rows .groupByColumn) ++
      site.select.having.toList.flatMap (rows .havingClauseColumn)

/-- The rows of a site: those of its select list, of its filters and grouping, and of its joins. -/
def rows (tags : Tags) (c : CteCatalog) (outer : Scope) (site : SelectSite) : List Row :=
  let scopes := site.scopes c outer
  site.select.items.flatMap
      (fun item => projectionRows tags scopes site.enclosing (.ofItem item)) ++
    site.filterRows tags scopes ++
    site.select.sources.flatMap (treeJoinRows tags c scopes)

end SelectSite

mutual

/-- The SELECTs whose rows a query gives out: its body, or the branches of its set operators. -/
def outermostSelects : Query → List Select
  | ⟨_, _, body, _⟩ => outermostSelectsOf body

/-- The SELECTs whose rows a body gives out. -/
def outermostSelectsOf : Body → List Select
  | .select s => [s]
  | .query q => outermostSelects q
  | .combined left _ right => outermostSelectsOf left ++ outermostSelectsOf right
  | .other .. => []

end

/-- The subquery with its alias, if all that a SELECT does is to give out all columns of it. -/
def wholeDataset? (s : Select) : Option (Query × String) :=
  match s.items, s.sources with
  | [.star _], [⟨.derived _ query (some label) _, []⟩] => some (query, label.name.value)
  | _, _ => none

/-- The rows of the whole datasets that a query gives out. -/
def datasetRows (tags : Tags) (c : CteCatalog) (q : Query) : List Row :=
  ((outermostSelects q).filterMap wholeDataset?).map fun (query, label) =>
    datasetRow tags label (c.singleBase query)

/-- The rows of a query. -/
def queryRows (tags : Tags) (maxDepth : Nat) (c : CteCatalog) (outer : Scope) (q : Query) :
    List Row :=
  datasetRows tags c q ++ (querySites maxDepth q).flatMap (·.rows tags c outer)

/-- The queries of a statement that have rows. -/
def statementQueries : Statement → List Query
  | .query q => [q]
  | .other _ parts => outermostQueries (visitNodes parts)

/-- The rows of a statement, repetitions included. -/
def statementRows (tags : Tags) (maxDepth : Nat) (s : Statement) : List Row :=
  let c := CteCatalog.ofStatement s
  (statementQueries s).flatMap (queryRows tags maxDepth c (.ofStatement c s))

end ColumnLineage.Lineage
