import ColumnLineage.Sql.Tree

/-!
# Visits

A tree is visited in a fixed order: a node before its parts, the parts in the order of the fields
that hold them.  What an analysis collects from a tree is a function of this one list of visits.

## Main definitions

* `Visit`: one step of a visit.
* `Expr.visits`, `Query.visits`, `Source.visits`, `Statement.visits`: the steps of a whole visit.

## Design notes

Queries are entered and left, so that an analysis can count how many queries enclose a step; all
other nodes are only met.
-/

namespace ColumnLineage.Sql

/-- One step of a visit. -/
inductive Visit where
  /-- A query is entered. -/
  | enter (q : Query)
  /-- The innermost query that was entered is left. -/
  | leave
  /-- An expression is met. -/
  | expr (e : Expr)
  /-- A source of a FROM clause is met. -/
  | source (s : Source)
  /-- The name of a table is met. -/
  | relation (name : ObjectName)

mutual

/-- The visits of an expression. -/
def Expr.visits : Expr → List Visit
  | .column name => [.expr (.column name)]
  | .path names => [.expr (.path names)]
  | .nested inner => .expr (.nested inner) :: inner.visits
  | .binary left op right => .expr (.binary left op right) :: (left.visits ++ right.visits)
  | .call name layout parts => .expr (.call name layout parts) :: visitNodes parts
  | .access root chain => .expr (.access root chain) :: (root.visits ++ visitNodes chain)
  | .phrase kind layout parts => .expr (.phrase kind layout parts) :: visitNodes parts

/-- The visits of a part. -/
def Node.visits : Node → List Visit
  | .expr e => e.visits
  | .query q => q.visits
  | .source s => s.visits
  | .relation name => [.relation name]
  | .phrase _ parts => visitNodes parts

/-- The visits of some parts. -/
def visitNodes : List Node → List Visit
  | [] => []
  | n :: more => n.visits ++ visitNodes more

/-- The visits of some expressions. -/
def visitExprs : List Expr → List Visit
  | [] => []
  | e :: more => e.visits ++ visitExprs more

/-- The visits of an expression that may be absent. -/
def visitOptional : Option Expr → List Visit
  | none => []
  | some e => e.visits

/-- The visits of a query: its definitions, its body, and the clauses behind it. -/
def Query.visits : Query → List Visit
  | ⟨recursive, ctes, body, tail⟩ =>
    .enter ⟨recursive, ctes, body, tail⟩ ::
      (visitCtes ctes ++ body.visits ++ visitNodes tail ++ [.leave])

/-- The visits of a definition. -/
def Cte.visits : Cte → List Visit
  | ⟨_, _, query, _⟩ => query.visits

/-- The visits of some definitions. -/
def visitCtes : List Cte → List Visit
  | [] => []
  | cte :: more => cte.visits ++ visitCtes more

/-- The visits of what a query consists of. -/
def Body.visits : Body → List Visit
  | .select s => s.visits
  | .query q => q.visits
  | .combined left _ right => left.visits ++ right.visits
  | .other _ parts => visitNodes parts

/-- The visits of a SELECT, clause by clause. -/
def Select.visits : Select → List Visit
  | ⟨_, lead, items, target, sources, views, filter, hierarchy, grouping, groupingTail,
      arrangement, having, tail⟩ =>
    visitNodes lead ++ visitItems items ++ visitNodes target ++ visitTrees sources ++
      visitNodes views ++ visitOptional filter ++ visitNodes hierarchy ++ visitExprs grouping ++
      visitNodes groupingTail ++ visitNodes arrangement ++ visitOptional having ++ visitNodes tail

/-- The visits of an item of a select list. -/
def SelectItem.visits : SelectItem → List Visit
  | .star options => visitNodes options
  | .qualifiedStar _ options => visitNodes options
  | .exprStar e options => e.visits ++ visitNodes options
  | .expr e => e.visits
  | .aliased e _ => e.visits

/-- The visits of a select list. -/
def visitItems : List SelectItem → List Visit
  | [] => []
  | item :: more => item.visits ++ visitItems more

/-- The visits of a source and what is joined to it. -/
def FromTree.visits : FromTree → List Visit
  | ⟨relation, joins⟩ => relation.visits ++ visitJoins joins

/-- The visits of a FROM clause. -/
def visitTrees : List FromTree → List Visit
  | [] => []
  | tree :: more => tree.visits ++ visitTrees more

/-- The visits of a source. -/
def Source.visits : Source → List Visit
  | .table name arguments label extras =>
    .source (.table name arguments label extras) :: .relation name ::
      (visitNodes arguments ++ visitNodes extras)
  | .derived lateral query label extras =>
    .source (.derived lateral query label extras) :: (query.visits ++ visitNodes extras)
  | .joined tree label => .source (.joined tree label) :: tree.visits
  | .other layout parts label => .source (.other layout parts label) :: visitNodes parts

/-- The visits of a joined source. -/
def Join.visits : Join → List Visit
  | ⟨relation, _, _, matching, constraint⟩ =>
    relation.visits ++ visitOptional matching ++ constraint.visits

/-- The visits of some joined sources. -/
def visitJoins : List Join → List Visit
  | [] => []
  | join :: more => join.visits ++ visitJoins more

/-- The visits of what restricts a join. -/
def JoinConstraint.visits : JoinConstraint → List Visit
  | .on predicate => predicate.visits
  | .using _ inside => visitNodes inside
  | .natural => []
  | .none => []

end

/-- The visits of a statement. -/
def Statement.visits : Statement → List Visit
  | .query q => q.visits
  | .other _ parts => visitNodes parts

end ColumnLineage.Sql
