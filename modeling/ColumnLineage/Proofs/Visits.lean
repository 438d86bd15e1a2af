import ColumnLineage.Sql.Visit
import Mathlib.Tactic.Tauto

/-!
# What a visit contains

A visit of a tree contains the whole visits of all that it meets, and the visit of a clause contains
those of its items.

## Main definitions

* `Visit.inner`: the visits of what a step meets.
* `Closed`: visits that contain the visits of all that they meet.
* `Query.ofBody`, `Select.plain`, `Query.columnOf`: trees with nothing but the parts that lineage
  reads.

## Design notes

That a visit is closed is the only fact here that follows the whole syntax.  What lies below a query
or a source is reached from it by membership alone.
-/

namespace ColumnLineage.Sql

/-- The visits of what one step of a visit meets. -/
def Visit.inner : Visit → List Visit
  | .enter q => q.visits
  | .leave => []
  | .expr e => e.visits
  | .source s => s.visits
  | .relation name => [.relation name]

/-- Some visits contain the visits of all that they meet. -/
def Closed (visits : List Visit) : Prop :=
  ∀ v ∈ visits, v.inner ⊆ visits

theorem Closed.nil : Closed [] := by
  intro v hv
  simp at hv

theorem Closed.append {left right : List Visit} (hl : Closed left) (hr : Closed right) :
    Closed (left ++ right) := by
  intro v hv
  rcases List.mem_append.mp hv with hv | hv
  · exact List.Subset.trans (hl v hv) (List.subset_append_left left right)
  · exact List.Subset.trans (hr v hv) (List.subset_append_right left right)

/-- A step in front of closed visits keeps them closed if it meets nothing but them. -/
theorem Closed.cons {v : Visit} {visits : List Visit} (h : Closed visits)
    (hv : v.inner ⊆ v :: visits) : Closed (v :: visits) := by
  intro w hw
  rcases List.mem_cons.mp hw with rfl | hw
  · exact hv
  · exact List.Subset.trans (h w hw) (List.subset_cons_self v visits)

theorem Closed.leave : Closed [.leave] :=
  Closed.nil.cons (by simp [Visit.inner])

mutual

theorem Expr.closed_visits : ∀ e : Expr, Closed e.visits
  | .column _ => Closed.nil.cons (List.Subset.refl _)
  | .path _ => Closed.nil.cons (List.Subset.refl _)
  | .nested inner => (Expr.closed_visits inner).cons (List.Subset.refl _)
  | .binary left _ right =>
    ((Expr.closed_visits left).append (Expr.closed_visits right)).cons (List.Subset.refl _)
  | .call _ _ parts => (closed_visitNodes parts).cons (List.Subset.refl _)
  | .access root chain =>
    ((Expr.closed_visits root).append (closed_visitNodes chain)).cons (List.Subset.refl _)
  | .phrase _ _ parts => (closed_visitNodes parts).cons (List.Subset.refl _)

theorem Node.closed_visits : ∀ n : Node, Closed n.visits
  | .expr e => Expr.closed_visits e
  | .query q => Query.closed_visits q
  | .source s => Source.closed_visits s
  | .relation _ => Closed.nil.cons (List.Subset.refl _)
  | .phrase _ parts => closed_visitNodes parts

theorem closed_visitNodes : ∀ parts : List Node, Closed (visitNodes parts)
  | [] => Closed.nil
  | n :: more => (Node.closed_visits n).append (closed_visitNodes more)

theorem closed_visitExprs : ∀ exprs : List Expr, Closed (visitExprs exprs)
  | [] => Closed.nil
  | e :: more => (Expr.closed_visits e).append (closed_visitExprs more)

theorem closed_visitOptional : ∀ e : Option Expr, Closed (visitOptional e)
  | none => Closed.nil
  | some e => Expr.closed_visits e

theorem Query.closed_visits : ∀ q : Query, Closed q.visits
  | ⟨_, ctes, body, tail⟩ =>
    ((((closed_visitCtes ctes).append (Body.closed_visits body)).append
      (closed_visitNodes tail)).append Closed.leave).cons (List.Subset.refl _)

theorem Cte.closed_visits : ∀ cte : Cte, Closed cte.visits
  | ⟨_, _, query, _⟩ => Query.closed_visits query

theorem closed_visitCtes : ∀ ctes : List Cte, Closed (visitCtes ctes)
  | [] => Closed.nil
  | cte :: more => (Cte.closed_visits cte).append (closed_visitCtes more)

theorem Body.closed_visits : ∀ body : Body, Closed body.visits
  | .select s => Select.closed_visits s
  | .query q => Query.closed_visits q
  | .combined left _ right => (Body.closed_visits left).append (Body.closed_visits right)
  | .other _ parts => closed_visitNodes parts

theorem Select.closed_visits : ∀ s : Select, Closed s.visits
  | ⟨_, lead, items, target, sources, views, filter, hierarchy, grouping, groupingTail,
      arrangement, having, tail⟩ =>
    (((((((((((closed_visitNodes lead).append (closed_visitItems items)).append
      (closed_visitNodes target)).append (closed_visitTrees sources)).append
      (closed_visitNodes views)).append (closed_visitOptional filter)).append
      (closed_visitNodes hierarchy)).append (closed_visitExprs grouping)).append
      (closed_visitNodes groupingTail)).append (closed_visitNodes arrangement)).append
      (closed_visitOptional having)).append (closed_visitNodes tail)

theorem SelectItem.closed_visits : ∀ item : SelectItem, Closed item.visits
  | .star options => closed_visitNodes options
  | .qualifiedStar _ options => closed_visitNodes options
  | .exprStar e options => (Expr.closed_visits e).append (closed_visitNodes options)
  | .expr e => Expr.closed_visits e
  | .aliased e _ => Expr.closed_visits e

theorem closed_visitItems : ∀ items : List SelectItem, Closed (visitItems items)
  | [] => Closed.nil
  | item :: more => (SelectItem.closed_visits item).append (closed_visitItems more)

theorem FromTree.closed_visits : ∀ tree : FromTree, Closed tree.visits
  | ⟨relation, joins⟩ => (Source.closed_visits relation).append (closed_visitJoins joins)

theorem closed_visitTrees : ∀ trees : List FromTree, Closed (visitTrees trees)
  | [] => Closed.nil
  | tree :: more => (FromTree.closed_visits tree).append (closed_visitTrees more)

theorem Source.closed_visits : ∀ s : Source, Closed s.visits
  | .table _ arguments _ extras =>
    (((closed_visitNodes arguments).append (closed_visitNodes extras)).cons
      (by simp [Visit.inner])).cons (List.Subset.refl _)
  | .derived _ query _ extras =>
    ((Query.closed_visits query).append (closed_visitNodes extras)).cons (List.Subset.refl _)
  | .joined tree _ => (FromTree.closed_visits tree).cons (List.Subset.refl _)
  | .other _ parts _ => (closed_visitNodes parts).cons (List.Subset.refl _)

theorem Join.closed_visits : ∀ join : Join, Closed join.visits
  | ⟨relation, _, _, matching, constraint⟩ =>
    ((Source.closed_visits relation).append (closed_visitOptional matching)).append
      (JoinConstraint.closed_visits constraint)

theorem closed_visitJoins : ∀ joins : List Join, Closed (visitJoins joins)
  | [] => Closed.nil
  | join :: more => (Join.closed_visits join).append (closed_visitJoins more)

theorem JoinConstraint.closed_visits : ∀ constraint : JoinConstraint, Closed constraint.visits
  | .on predicate => Expr.closed_visits predicate
  | .using _ inside => closed_visitNodes inside
  | .natural => Closed.nil
  | .none => Closed.nil

end

theorem Statement.closed_visits (s : Statement) : Closed s.visits := by
  cases s with
  | query q => exact q.closed_visits
  | other kind parts => exact closed_visitNodes parts

/-- The visits of a query that is entered are among closed visits. -/
theorem Closed.query {visits : List Visit} (h : Closed visits) {q : Query}
    (hq : .enter q ∈ visits) : q.visits ⊆ visits :=
  h _ hq

/-- The visits of a source that is met are among closed visits. -/
theorem Closed.source {visits : List Visit} (h : Closed visits) {s : Source}
    (hs : .source s ∈ visits) : s.visits ⊆ visits :=
  h _ hs

theorem Query.enter_mem_visits (q : Query) : .enter q ∈ q.visits := by
  cases q with
  | mk => exact List.mem_cons_self

theorem Source.source_mem_visits (s : Source) : .source s ∈ s.visits := by
  cases s <;> exact List.mem_cons_self

/-- A subquery is entered where it is met as a source. -/
theorem Closed.enter_of_derived {visits : List Visit} (h : Closed visits) {lateral : Bool}
    {query : Query} {label : Option Alias} {extras : List Node}
    (hs : .source (.derived lateral query label extras) ∈ visits) : .enter query ∈ visits := by
  refine h.source hs (List.mem_cons_of_mem _ ?_)
  exact List.mem_append_left _ query.enter_mem_visits

/-- The name of a table is met where the table is met as a source. -/
theorem Closed.relation_of_table {visits : List Visit} (h : Closed visits) {name : ObjectName}
    {arguments extras : List Node} {label : Option Alias}
    (hs : .source (.table name arguments label extras) ∈ visits) : .relation name ∈ visits :=
  h.source hs (List.mem_cons_of_mem _ List.mem_cons_self)

theorem Query.body_visits_subset (q : Query) : q.body.visits ⊆ q.visits := by
  obtain ⟨recursive, ctes, body, tail⟩ := q
  intro v hv
  simp [Query.visits, hv]

theorem visitNodes_append (left right : List Node) :
    visitNodes (left ++ right) = visitNodes left ++ visitNodes right := by
  induction left with
  | nil => rfl
  | cons n more ih => rw [List.cons_append, visitNodes, visitNodes, ih, List.append_assoc]

theorem visitExprs_eq_flatMap (exprs : List Expr) :
    visitExprs exprs = exprs.flatMap Expr.visits := by
  induction exprs with
  | nil => rfl
  | cons e more ih => rw [visitExprs, ih, List.flatMap_cons]

theorem visitOptional_eq_flatMap (e : Option Expr) :
    visitOptional e = e.toList.flatMap Expr.visits := by
  cases e with
  | none => rfl
  | some e => simp [visitOptional]

theorem visitCtes_eq_flatMap (ctes : List Cte) :
    visitCtes ctes = ctes.flatMap (·.query.visits) := by
  induction ctes with
  | nil => rfl
  | cons cte more ih =>
    obtain ⟨label, materialized, query, origin⟩ := cte
    rw [visitCtes, ih, List.flatMap_cons, Cte.visits]

theorem visitItems_eq_flatMap (items : List SelectItem) :
    visitItems items = items.flatMap SelectItem.visits := by
  induction items with
  | nil => rfl
  | cons item more ih => rw [visitItems, ih, List.flatMap_cons]

theorem visitTrees_eq_flatMap (trees : List FromTree) :
    visitTrees trees = trees.flatMap FromTree.visits := by
  induction trees with
  | nil => rfl
  | cons tree more ih => rw [visitTrees, ih, List.flatMap_cons]

theorem visitJoins_eq_flatMap (joins : List Join) :
    visitJoins joins = joins.flatMap Join.visits := by
  induction joins with
  | nil => rfl
  | cons join more ih => rw [visitJoins, ih, List.flatMap_cons]

theorem Query.cte_visits_subset (q : Query) {cte : Cte} (h : cte ∈ q.ctes) :
    cte.query.visits ⊆ q.visits := by
  obtain ⟨recursive, ctes, body, tail⟩ := q
  intro v hv
  have hctes : v ∈ visitCtes ctes := by
    rw [visitCtes_eq_flatMap]
    exact List.mem_flatMap.mpr ⟨cte, h, hv⟩
  simp [Query.visits, hctes]

theorem Join.relation_visits_subset (join : Join) : join.relation.visits ⊆ join.visits := by
  obtain ⟨relation, global, operator, matching, constraint⟩ := join
  intro v hv
  simp [Join.visits, hv]

namespace Select

variable {s : Select}

/-- The clauses that lineage reads are visited with their SELECT. -/
theorem clauses_visits_subset (s : Select) :
    visitItems s.items ++ visitTrees s.sources ++ visitOptional s.filter ++ visitExprs s.grouping ++
      visitOptional s.having ⊆ s.visits := by
  obtain ⟨form, lead, items, target, sources, views, filter, hierarchy, grouping, groupingTail,
    arrangement, having, tail⟩ := s
  intro v hv
  simp only [List.mem_append] at hv
  simp only [Select.visits, List.mem_append]
  tauto

theorem item_visits_subset {item : SelectItem} (h : item ∈ s.items) : item.visits ⊆ s.visits := by
  intro v hv
  have hitems : v ∈ visitItems s.items := by
    rw [visitItems_eq_flatMap]
    exact List.mem_flatMap.mpr ⟨item, h, hv⟩
  exact clauses_visits_subset s (by simp [hitems])

theorem tree_visits_subset {tree : FromTree} (h : tree ∈ s.sources) : tree.visits ⊆ s.visits := by
  intro v hv
  have htrees : v ∈ visitTrees s.sources := by
    rw [visitTrees_eq_flatMap]
    exact List.mem_flatMap.mpr ⟨tree, h, hv⟩
  exact clauses_visits_subset s (by simp [htrees])

theorem filter_visits_subset {e : Expr} (h : e ∈ s.filter.toList) : e.visits ⊆ s.visits := by
  intro v hv
  have hfilter : v ∈ visitOptional s.filter := by
    rw [visitOptional_eq_flatMap]
    exact List.mem_flatMap.mpr ⟨e, h, hv⟩
  exact clauses_visits_subset s (by simp [hfilter])

theorem grouping_visits_subset {e : Expr} (h : e ∈ s.grouping) : e.visits ⊆ s.visits := by
  intro v hv
  have hgrouping : v ∈ visitExprs s.grouping := by
    rw [visitExprs_eq_flatMap]
    exact List.mem_flatMap.mpr ⟨e, h, hv⟩
  exact clauses_visits_subset s (by simp [hgrouping])

theorem having_visits_subset {e : Expr} (h : e ∈ s.having.toList) : e.visits ⊆ s.visits := by
  intro v hv
  have hhaving : v ∈ visitOptional s.having := by
    rw [visitOptional_eq_flatMap]
    exact List.mem_flatMap.mpr ⟨e, h, hv⟩
  exact clauses_visits_subset s (by simp [hhaving])

end Select

/-- A name without a quote. -/
def Ident.bare (value : String) : Ident :=
  ⟨value, none⟩

/-- A query that is a body alone. -/
def Query.ofBody (body : Body) : Query :=
  ⟨false, [], body, []⟩

/-- A SELECT with a select list, a FROM clause and a filter alone. -/
def Select.plain (items : List SelectItem) (sources : List Source) (filter : Option Expr) :
    Select where
  form := .plain
  lead := []
  items := items
  target := []
  sources := sources.map (⟨·, []⟩)
  views := []
  filter := filter
  hierarchy := []
  grouping := []
  groupingTail := []
  arrangement := []
  having := none
  tail := []

/-- A table by the parts of its name. -/
def Source.bare (parts : List String) : Source :=
  .table (.ofIdents (parts.map .bare)) [] none []

/-- A subquery with an alias. -/
def Source.subquery (select : Select) (label : String) : Source :=
  .derived false (.ofBody (.select select)) (some ⟨true, .bare label, []⟩) []

/-- `SELECT a FROM …` over one table. -/
def Query.columnOf (parts : List String) : Query :=
  .ofBody (.select (.plain [.expr (.column (.bare "a"))] [.bare parts] none))

/-- A definition of a query. -/
def Cte.named (name : String) (q : Query) : Cte :=
  ⟨⟨false, .bare name, []⟩, "", q, none⟩

theorem Query.visits_ofBody (body : Body) :
    (Query.ofBody body).visits = .enter (.ofBody body) :: (body.visits ++ [.leave]) := by
  simp [ofBody, visits, visitCtes, visitNodes]

theorem Select.visits_plain (items : List SelectItem) (sources : List Source)
    (filter : Option Expr) : (Select.plain items sources filter).visits =
      visitItems items ++ sources.flatMap Source.visits ++ visitOptional filter := by
  have hsources : visitTrees (sources.map (⟨·, []⟩)) = sources.flatMap Source.visits := by
    rw [visitTrees_eq_flatMap, List.flatMap_map]
    congr 1
    funext source
    simp [FromTree.visits, visitJoins]
  simp [plain, visits, visitNodes, visitExprs, visitOptional, hsources]

theorem Source.visits_bare (parts : List String) : (Source.bare parts).visits =
    [.source (.bare parts), .relation (.ofIdents (parts.map .bare))] := by
  simp [bare, visits, visitNodes]

theorem Source.visits_subquery (select : Select) (label : String) :
    (Source.subquery select label).visits =
      .source (.subquery select label) :: (Query.ofBody (.select select)).visits := by
  simp [subquery, visits, visitNodes]

end ColumnLineage.Sql
