import ColumnLineage.Proofs.References
import ColumnLineage.Lineage.Traversal

/-!
# How queries nest

A visit enters and leaves queries like parentheses.  What it meets outside all nested queries is its
surface, on which a nested query is a single step.

## Main definitions

* `Balanced`: visits in which every query that is entered is visited as a whole.
* `surface`: the steps outside nested queries.
* `mostOpen`: how many queries are open at once.
* `Statement.nesting`: how many queries enclose the most deeply nested one.

## Main statements

* `Query.balanced_visits`, `Statement.balanced_visits`: the visits of a tree are balanced.
* `surface_append`: the surface of balanced visits is taken piece by piece.
* `mem_iff_of_balanced`: what is met is met on the surface or in an outermost query.
* `mostOpen_le_of_mem_outermostQueries`: a nested query opens fewer queries than what it stands in.

## Design notes

As with `Closed`, that visits are balanced is the only fact here that follows the whole syntax.
-/

namespace ColumnLineage.Sql

/-- A step that neither enters nor leaves a query. -/
def Visit.isPlain : Visit → Bool
  | .enter _ => false
  | .leave => false
  | _ => true

/-- What is visited between entering a query and leaving it. -/
def Query.inner (q : Query) : List Visit :=
  visitCtes q.ctes ++ q.body.visits ++ visitNodes q.tail

theorem Query.visits_eq (q : Query) : q.visits = .enter q :: (q.inner ++ [.leave]) := by
  cases q
  simp [Query.visits, Query.inner]

/-- Visits in which every query that is entered is visited as a whole. -/
inductive Balanced : List Visit → Prop
  | nil : Balanced []
  | plain {v : Visit} {more : List Visit} (hv : v.isPlain) (h : Balanced more) :
      Balanced (v :: more)
  | query (q : Query) {more : List Visit} (hinner : Balanced q.inner) (h : Balanced more) :
      Balanced (q.visits ++ more)

theorem Balanced.append {left right : List Visit} (hl : Balanced left) (hr : Balanced right) :
    Balanced (left ++ right) := by
  induction hl with
  | nil => exact hr
  | plain hv _ ih => exact .plain hv ih
  | query q hinner _ _ ih =>
    rw [List.append_assoc]
    exact .query q hinner ih

theorem Balanced.ofQuery {q : Query} (h : Balanced q.inner) : Balanced q.visits := by
  rw [← List.append_nil q.visits]
  exact .query q h .nil

mutual

theorem Expr.balanced_visits : ∀ e : Expr, Balanced e.visits
  | .column _ => .plain rfl .nil
  | .path _ => .plain rfl .nil
  | .nested inner => .plain rfl (Expr.balanced_visits inner)
  | .binary left _ right =>
    .plain rfl ((Expr.balanced_visits left).append (Expr.balanced_visits right))
  | .call _ _ parts => .plain rfl (balanced_visitNodes parts)
  | .access root chain =>
    .plain rfl ((Expr.balanced_visits root).append (balanced_visitNodes chain))
  | .phrase _ _ parts => .plain rfl (balanced_visitNodes parts)

theorem Node.balanced_visits : ∀ n : Node, Balanced n.visits
  | .expr e => Expr.balanced_visits e
  | .query q => Query.balanced_visits q
  | .source s => Source.balanced_visits s
  | .relation _ => .plain rfl .nil
  | .phrase _ parts => balanced_visitNodes parts

theorem balanced_visitNodes : ∀ parts : List Node, Balanced (visitNodes parts)
  | [] => .nil
  | n :: more => (Node.balanced_visits n).append (balanced_visitNodes more)

theorem balanced_visitExprs : ∀ exprs : List Expr, Balanced (visitExprs exprs)
  | [] => .nil
  | e :: more => (Expr.balanced_visits e).append (balanced_visitExprs more)

theorem balanced_visitOptional : ∀ e : Option Expr, Balanced (visitOptional e)
  | none => .nil
  | some e => Expr.balanced_visits e

theorem Query.balanced_visits : ∀ q : Query, Balanced q.visits
  | ⟨_, ctes, body, tail⟩ => .ofQuery
    (((balanced_visitCtes ctes).append (Body.balanced_visits body)).append
      (balanced_visitNodes tail))

theorem Cte.balanced_visits : ∀ cte : Cte, Balanced cte.visits
  | ⟨_, _, query, _⟩ => Query.balanced_visits query

theorem balanced_visitCtes : ∀ ctes : List Cte, Balanced (visitCtes ctes)
  | [] => .nil
  | cte :: more => (Cte.balanced_visits cte).append (balanced_visitCtes more)

theorem Body.balanced_visits : ∀ body : Body, Balanced body.visits
  | .select s => Select.balanced_visits s
  | .query q => Query.balanced_visits q
  | .combined left _ right => (Body.balanced_visits left).append (Body.balanced_visits right)
  | .other _ parts => balanced_visitNodes parts

theorem Select.balanced_visits : ∀ s : Select, Balanced s.visits
  | ⟨_, lead, items, target, sources, views, filter, hierarchy, grouping, groupingTail,
      arrangement, having, tail⟩ =>
    (((((((((((balanced_visitNodes lead).append (balanced_visitItems items)).append
      (balanced_visitNodes target)).append (balanced_visitTrees sources)).append
      (balanced_visitNodes views)).append (balanced_visitOptional filter)).append
      (balanced_visitNodes hierarchy)).append (balanced_visitExprs grouping)).append
      (balanced_visitNodes groupingTail)).append (balanced_visitNodes arrangement)).append
      (balanced_visitOptional having)).append (balanced_visitNodes tail)

theorem SelectItem.balanced_visits : ∀ item : SelectItem, Balanced item.visits
  | .star options => balanced_visitNodes options
  | .qualifiedStar _ options => balanced_visitNodes options
  | .exprStar e options => (Expr.balanced_visits e).append (balanced_visitNodes options)
  | .expr e => Expr.balanced_visits e
  | .aliased e _ => Expr.balanced_visits e

theorem balanced_visitItems : ∀ items : List SelectItem, Balanced (visitItems items)
  | [] => .nil
  | item :: more => (SelectItem.balanced_visits item).append (balanced_visitItems more)

theorem FromTree.balanced_visits : ∀ tree : FromTree, Balanced tree.visits
  | ⟨relation, joins⟩ => (Source.balanced_visits relation).append (balanced_visitJoins joins)

theorem balanced_visitTrees : ∀ trees : List FromTree, Balanced (visitTrees trees)
  | [] => .nil
  | tree :: more => (FromTree.balanced_visits tree).append (balanced_visitTrees more)

theorem Source.balanced_visits : ∀ s : Source, Balanced s.visits
  | .table _ arguments _ extras =>
    .plain rfl (.plain rfl ((balanced_visitNodes arguments).append (balanced_visitNodes extras)))
  | .derived _ query _ extras =>
    .plain rfl ((Query.balanced_visits query).append (balanced_visitNodes extras))
  | .joined tree _ => .plain rfl (FromTree.balanced_visits tree)
  | .other _ parts _ => .plain rfl (balanced_visitNodes parts)

theorem Join.balanced_visits : ∀ join : Join, Balanced join.visits
  | ⟨relation, _, _, matching, constraint⟩ =>
    ((Source.balanced_visits relation).append (balanced_visitOptional matching)).append
      (JoinConstraint.balanced_visits constraint)

theorem balanced_visitJoins : ∀ joins : List Join, Balanced (visitJoins joins)
  | [] => .nil
  | join :: more => (Join.balanced_visits join).append (balanced_visitJoins more)

theorem JoinConstraint.balanced_visits : ∀ constraint : JoinConstraint,
    Balanced constraint.visits
  | .on predicate => Expr.balanced_visits predicate
  | .using _ inside => balanced_visitNodes inside
  | .natural => .nil
  | .none => .nil

end

theorem Statement.balanced_visits (s : Statement) : Balanced s.visits := by
  cases s with
  | query q => exact q.balanced_visits
  | other kind parts => exact balanced_visitNodes parts

theorem Query.balanced_inner (q : Query) : Balanced q.inner :=
  ((balanced_visitCtes q.ctes).append q.body.balanced_visits).append (balanced_visitNodes q.tail)

/-- The steps of some visits outside nested queries, where a nested query is entered and nothing
more; `depth` queries are open in front. -/
def surfaceFrom : Nat → List Visit → List Visit
  | _, [] => []
  | depth, .enter q :: more =>
    if depth = 0 then .enter q :: surfaceFrom (depth + 1) more else surfaceFrom (depth + 1) more
  | depth, .leave :: more => surfaceFrom (depth - 1) more
  | depth, v :: more => if depth = 0 then v :: surfaceFrom depth more else surfaceFrom depth more

/-- The steps of some visits outside nested queries. -/
def surface (visits : List Visit) : List Visit :=
  surfaceFrom 0 visits

/-- The query that a step enters. -/
def Visit.entered? : Visit → Option Query
  | .enter q => some q
  | _ => none

/-- Nothing of a nested query is on the surface. -/
theorem surfaceFrom_balanced_append {visits : List Visit} (h : Balanced visits) (depth : Nat)
    (rest : List Visit) : surfaceFrom (depth + 1) (visits ++ rest) = surfaceFrom (depth + 1) rest := by
  induction h generalizing depth rest with
  | nil => rfl
  | @plain v more hv _ ih => cases v <;> simp_all [surfaceFrom, Visit.isPlain]
  | query q _ _ ihinner ih => simp [q.visits_eq, surfaceFrom, ihinner, ih]

/-- A nested query is one step of the surface. -/
theorem surface_query_append (q : Query) (rest : List Visit) :
    surface (q.visits ++ rest) = .enter q :: surface rest := by
  simp [surface, q.visits_eq, surfaceFrom, surfaceFrom_balanced_append q.balanced_inner]

theorem surface_plain_cons {v : Visit} (hv : v.isPlain) (more : List Visit) :
    surface (v :: more) = v :: surface more := by
  cases v <;> simp_all [surface, surfaceFrom, Visit.isPlain]

/-- The surface of balanced visits is taken piece by piece. -/
theorem surface_append {visits : List Visit} (h : Balanced visits) (rest : List Visit) :
    surface (visits ++ rest) = surface visits ++ surface rest := by
  induction h with
  | nil => rfl
  | plain hv _ ih =>
    rw [List.cons_append, surface_plain_cons hv, surface_plain_cons hv, ih, List.cons_append]
  | query q _ _ _ ih =>
    rw [List.append_assoc, surface_query_append, surface_query_append, ih, List.cons_append]

/-- How many queries some visits open at once; `depth` queries are open in front. -/
def mostOpen : Nat → List Visit → Nat
  | depth, [] => depth
  | depth, .enter _ :: more => mostOpen (depth + 1) more
  | depth, .leave :: more => max depth (mostOpen (depth - 1) more)
  | depth, .expr _ :: more | depth, .source _ :: more | depth, .relation _ :: more =>
    mostOpen depth more

/-- How many queries enclose the most deeply nested query of a statement. -/
def Statement.nesting (s : Statement) : Nat :=
  mostOpen 0 s.visits - 1

theorem le_mostOpen (depth : Nat) (visits : List Visit) : depth ≤ mostOpen depth visits := by
  fun_induction mostOpen depth visits <;> omega

/-- Balanced visits open as many queries as they do alone, above those that are open in front. -/
theorem mostOpen_balanced_append {visits : List Visit} (h : Balanced visits) (depth : Nat)
    (rest : List Visit) :
    mostOpen depth (visits ++ rest) = max (depth + mostOpen 0 visits) (mostOpen depth rest) := by
  induction h generalizing depth rest with
  | nil =>
    have hle := le_mostOpen depth rest
    simp [mostOpen]
    omega
  | @plain v more hv _ ih => cases v <;> simp_all [mostOpen, Visit.isPlain]
  | query q _ _ ihinner ih =>
    have hle := le_mostOpen depth rest
    simp [q.visits_eq, mostOpen, ihinner, ih]
    omega

theorem mostOpen_query (q : Query) : mostOpen 0 q.visits = mostOpen 0 q.inner + 1 := by
  simp [q.visits_eq, mostOpen, mostOpen_balanced_append q.balanced_inner]
  omega

end ColumnLineage.Sql

namespace ColumnLineage.Lineage

open Sql

theorem outerQueries_eq_filterMap (depth : Nat) (visits : List Visit) :
    outerQueries depth visits = (surfaceFrom depth visits).filterMap Visit.entered? := by
  induction visits generalizing depth with
  | nil => rfl
  | cons v more ih =>
    cases v <;> by_cases hdepth : depth = 0 <;>
      simp [outerQueries, surfaceFrom, hdepth, ih, Visit.entered?, List.filterMap_cons]

theorem outermostQueries_eq_filterMap (visits : List Visit) :
    outermostQueries visits = (surface visits).filterMap Visit.entered? :=
  outerQueries_eq_filterMap 0 visits

theorem outermostQueries_append {visits : List Visit} (h : Balanced visits) (rest : List Visit) :
    outermostQueries (visits ++ rest) = outermostQueries visits ++ outermostQueries rest := by
  simp only [outermostQueries_eq_filterMap, surface_append h, List.filterMap_append]

theorem outermostQueries_query_append (q : Query) (rest : List Visit) :
    outermostQueries (q.visits ++ rest) = q :: outermostQueries rest := by
  rw [outermostQueries_eq_filterMap, outermostQueries_eq_filterMap, surface_query_append]
  rfl

theorem outermostQueries_plain_cons {v : Visit} (hv : v.isPlain) (more : List Visit) :
    outermostQueries (v :: more) = outermostQueries more := by
  rw [outermostQueries_eq_filterMap, outermostQueries_eq_filterMap, surface_plain_cons hv,
    List.filterMap_cons_none]
  cases v <;> simp_all [Visit.isPlain, Visit.entered?]

theorem outermostQueries_query (q : Query) : outermostQueries q.visits = [q] := by
  simpa [outermostQueries, outerQueries] using outermostQueries_query_append q []

theorem outermostQueries_visitCtes (ctes : List Cte) :
    outermostQueries (visitCtes ctes) = ctes.map (·.query) := by
  induction ctes with
  | nil => rfl
  | cons cte more ih =>
    obtain ⟨label, materialized, query, origin⟩ := cte
    rw [visitCtes, Cte.visits, outermostQueries_query_append, ih, List.map_cons]

/-- The queries of a statement that have rows are its outermost ones. -/
theorem statementQueries_eq (s : Statement) : statementQueries s = outermostQueries s.visits := by
  cases s with
  | query q => exact (outermostQueries_query q).symm
  | other kind parts => rfl

/-- What is met in balanced visits is met on the surface or in an outermost query. -/
theorem mem_iff_of_balanced {visits : List Visit} (h : Balanced visits) {v : Visit} :
    v ∈ visits ↔
      (v.isPlain ∧ v ∈ surface visits) ∨ ∃ q ∈ outermostQueries visits, v ∈ q.visits := by
  induction h with
  | nil => simp [surface, surfaceFrom, outermostQueries, outerQueries]
  | @plain first more hfirst _ ih =>
    rw [surface_plain_cons hfirst, outermostQueries_plain_cons hfirst, List.mem_cons, ih,
      List.mem_cons]
    constructor
    · rintro (rfl | h | h)
      · exact Or.inl ⟨hfirst, Or.inl rfl⟩
      · exact Or.inl ⟨h.1, Or.inr h.2⟩
      · exact Or.inr h
    · rintro (⟨hv, rfl | h⟩ | h)
      · exact Or.inl rfl
      · exact Or.inr (Or.inl ⟨hv, h⟩)
      · exact Or.inr (Or.inr h)
  | @query q more _ _ _ ih =>
    rw [surface_query_append, outermostQueries_query_append, List.mem_append, ih, List.mem_cons]
    simp only [List.mem_cons, exists_eq_or_imp]
    constructor
    · rintro (h | ⟨hv, h⟩ | h)
      · exact Or.inr (Or.inl h)
      · exact Or.inl ⟨hv, Or.inr h⟩
      · exact Or.inr (Or.inr h)
    · rintro (⟨hv, rfl | h⟩ | h | h)
      · simp [Visit.isPlain] at hv
      · exact Or.inr (Or.inl ⟨hv, h⟩)
      · exact Or.inl h
      · exact Or.inr (Or.inr h)

/-- A nested query opens no more queries than what it stands in. -/
theorem mostOpen_le_of_mem_outermostQueries {visits : List Visit} (h : Balanced visits)
    {q : Query} (hq : q ∈ outermostQueries visits) : mostOpen 0 q.visits ≤ mostOpen 0 visits := by
  induction h with
  | nil => simp [outermostQueries, outerQueries] at hq
  | @plain v more hv _ ih =>
    rw [outermostQueries_plain_cons hv] at hq
    have hle := ih hq
    cases v <;> simp_all [mostOpen, Visit.isPlain]
  | @query other more _ _ _ ih =>
    rw [outermostQueries_query_append, List.mem_cons] at hq
    rw [mostOpen_balanced_append other.balanced_visits]
    rcases hq with rfl | hq
    · omega
    · have hle := ih hq
      omega

end ColumnLineage.Lineage
