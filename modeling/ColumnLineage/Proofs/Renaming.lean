import ColumnLineage.Proofs.References
import Mathlib.Data.List.Basic

/-!
# Renaming the names of a tree

Renaming replaces each part of the names of tables, the names of aliases and definitions, the names
that column references and stars consist of, and those of joins, and leaves everything else as it
is: the names of functions, and whatever a layout writes.

## Main definitions

* `Expr.rename`, `Query.rename`, `Statement.rename`: a tree with its names replaced.
* `Visit.rename`, `ColumnRef.rename`: a step of a visit, and a reference.
* `MeetsNoNames`: visits in which only expressions are met, none of them a reference.

## Main statements

* `Statement.visits_rename`: the visit of a renamed tree is the renamed visit.
* `columnRefs_rename`, `outermostQueries_rename`, `equalityOperands_rename`: so is what is collected
  from it.
* `rename_eq_self`: an expression that holds no names is left as it is.
-/

namespace ColumnLineage.Sql

section Lists

variable {α α' β β' : Type} {g : α → α'} {h : β → β'} {l : List α}

/-- What is collected from the elements of a list is renamed if it is so for each of them. -/
theorem flatMap_renamed {p : α → List β} {p' : α' → List β'}
    (hrenamed : ∀ a ∈ l, p' (g a) = (p a).map h) : (l.map g).flatMap p' = (l.flatMap p).map h := by
  rw [List.flatMap_map, List.map_flatMap]
  exact List.flatMap_congr hrenamed

theorem filterMap_renamed {p : α → Option β} {p' : α' → Option β'}
    (hrenamed : ∀ a, p' (g a) = (p a).map h) : (l.map g).filterMap p' = (l.filterMap p).map h := by
  rw [List.filterMap_map, List.map_filterMap]
  exact List.filterMap_congr fun a _ => hrenamed a

end Lists

variable (f : String → String)

def Ident.rename (name : Ident) : Ident :=
  ⟨f name.value, name.quote⟩

/-- A computed part is no name. -/
def NamePart.rename : NamePart → NamePart
  | .ident name => .ident (name.rename f)
  | .computed text => .computed text

def ObjectName.rename (name : ObjectName) : ObjectName :=
  ⟨name.parts.map (NamePart.rename f)⟩

def Alias.rename (label : Alias) : Alias :=
  ⟨label.explicit, label.name.rename f, label.columns⟩

mutual

/-- An expression with its columns and the queries in it renamed. -/
def Expr.rename : Expr → Expr
  | .column name => .column (name.rename f)
  | .path names => .path (names.map (Ident.rename f))
  | .nested inner => .nested inner.rename
  | .binary left op right => .binary left.rename op right.rename
  | .call name layout parts => .call name layout (renameNodes parts)
  | .access root chain => .access root.rename (renameNodes chain)
  | .phrase kind layout parts => .phrase kind layout (renameNodes parts)

def Node.rename : Node → Node
  | .expr e => .expr e.rename
  | .query q => .query q.rename
  | .source s => .source s.rename
  | .relation name => .relation (name.rename f)
  | .phrase layout parts => .phrase layout (renameNodes parts)

def renameNodes : List Node → List Node
  | [] => []
  | n :: more => n.rename :: renameNodes more

def renameExprs : List Expr → List Expr
  | [] => []
  | e :: more => e.rename :: renameExprs more

def renameOptional : Option Expr → Option Expr
  | none => none
  | some e => some e.rename

def Query.rename : Query → Query
  | ⟨recursive, ctes, body, tail⟩ => ⟨recursive, renameCtes ctes, body.rename, renameNodes tail⟩

def Cte.rename : Cte → Cte
  | ⟨label, materialized, query, origin⟩ =>
    ⟨label.rename f, materialized, query.rename, origin.map (Ident.rename f)⟩

def renameCtes : List Cte → List Cte
  | [] => []
  | cte :: more => cte.rename :: renameCtes more

def Body.rename : Body → Body
  | .select s => .select s.rename
  | .query q => .query q.rename
  | .combined left op right => .combined left.rename op right.rename
  | .other layout parts => .other layout (renameNodes parts)

def Select.rename : Select → Select
  | ⟨form, lead, items, target, sources, views, filter, hierarchy, grouping, groupingTail,
      arrangement, having, tail⟩ =>
    ⟨form, renameNodes lead, renameItems items, renameNodes target, renameTrees sources,
      renameNodes views, renameOptional filter, renameNodes hierarchy, renameExprs grouping,
      renameNodes groupingTail, renameNodes arrangement, renameOptional having, renameNodes tail⟩

def SelectItem.rename : SelectItem → SelectItem
  | .star options => .star (renameNodes options)
  | .qualifiedStar name options => .qualifiedStar (name.rename f) (renameNodes options)
  | .exprStar e options => .exprStar e.rename (renameNodes options)
  | .expr e => .expr e.rename
  | .aliased e label => .aliased e.rename (label.rename f)

def renameItems : List SelectItem → List SelectItem
  | [] => []
  | item :: more => item.rename :: renameItems more

def FromTree.rename : FromTree → FromTree
  | ⟨relation, joins⟩ => ⟨relation.rename, renameJoins joins⟩

def renameTrees : List FromTree → List FromTree
  | [] => []
  | tree :: more => tree.rename :: renameTrees more

def Source.rename : Source → Source
  | .table name arguments label extras =>
    .table (name.rename f) (renameNodes arguments) (label.map (Alias.rename f)) (renameNodes extras)
  | .derived lateral query label extras =>
    .derived lateral query.rename (label.map (Alias.rename f)) (renameNodes extras)
  | .joined tree label => .joined tree.rename (label.map (Alias.rename f))
  | .other layout parts label => .other layout (renameNodes parts) (label.map (Alias.rename f))

def Join.rename : Join → Join
  | ⟨relation, isGlobal, operator, matching, constraint⟩ =>
    ⟨relation.rename, isGlobal, operator, renameOptional matching, constraint.rename⟩

def renameJoins : List Join → List Join
  | [] => []
  | join :: more => join.rename :: renameJoins more

def JoinConstraint.rename : JoinConstraint → JoinConstraint
  | .on predicate => .on predicate.rename
  | .using names inside => .using (names.map (ObjectName.rename f)) (renameNodes inside)
  | .natural => .natural
  | .none => .none

end

/-- A statement with its names replaced. -/
def Statement.rename : Statement → Statement
  | .query q => .query (q.rename f)
  | .other kind parts => .other kind (renameNodes f parts)

/-- A step of a visit with what it meets renamed. -/
def Visit.rename : Visit → Visit
  | .enter q => .enter (q.rename f)
  | .leave => .leave
  | .expr e => .expr (e.rename f)
  | .source s => .source (s.rename f)
  | .relation name => .relation (name.rename f)

section Visits

mutual

theorem Expr.visits_rename : ∀ e : Expr, (e.rename f).visits = e.visits.map (Visit.rename f)
  | .column _ => rfl
  | .path _ => rfl
  | .nested inner => by
    simp [Expr.rename, Expr.visits, Visit.rename, inner.visits_rename]
  | .binary left _ right => by
    simp [Expr.rename, Expr.visits, Visit.rename, left.visits_rename, right.visits_rename]
  | .call _ _ parts => by simp [Expr.rename, Expr.visits, Visit.rename, visitNodes_rename parts]
  | .access root chain => by
    simp [Expr.rename, Expr.visits, Visit.rename, root.visits_rename, visitNodes_rename chain]
  | .phrase _ _ parts => by simp [Expr.rename, Expr.visits, Visit.rename, visitNodes_rename parts]

theorem Node.visits_rename : ∀ n : Node, (n.rename f).visits = n.visits.map (Visit.rename f)
  | .expr e => by rw [Node.rename, Node.visits, Node.visits, e.visits_rename]
  | .query q => by rw [Node.rename, Node.visits, Node.visits, q.visits_rename]
  | .source s => by rw [Node.rename, Node.visits, Node.visits, s.visits_rename]
  | .relation _ => rfl
  | .phrase _ parts => by rw [Node.rename, Node.visits, Node.visits, visitNodes_rename parts]

theorem visitNodes_rename : ∀ parts : List Node,
    visitNodes (renameNodes f parts) = (visitNodes parts).map (Visit.rename f)
  | [] => rfl
  | n :: more => by
    rw [renameNodes, visitNodes, visitNodes, List.map_append, n.visits_rename,
      visitNodes_rename more]

theorem visitExprs_rename : ∀ exprs : List Expr,
    visitExprs (renameExprs f exprs) = (visitExprs exprs).map (Visit.rename f)
  | [] => rfl
  | e :: more => by
    rw [renameExprs, visitExprs, visitExprs, List.map_append, e.visits_rename,
      visitExprs_rename more]

theorem visitOptional_rename : ∀ e : Option Expr,
    visitOptional (renameOptional f e) = (visitOptional e).map (Visit.rename f)
  | none => rfl
  | some e => e.visits_rename

theorem Query.visits_rename : ∀ q : Query, (q.rename f).visits = q.visits.map (Visit.rename f)
  | ⟨_, ctes, body, tail⟩ => by
    simp [Query.rename, Query.visits, Visit.rename, visitCtes_rename ctes, body.visits_rename,
      visitNodes_rename tail]

theorem Cte.visits_rename : ∀ cte : Cte, (cte.rename f).visits = cte.visits.map (Visit.rename f)
  | ⟨_, _, query, _⟩ => query.visits_rename

theorem visitCtes_rename : ∀ ctes : List Cte,
    visitCtes (renameCtes f ctes) = (visitCtes ctes).map (Visit.rename f)
  | [] => rfl
  | cte :: more => by
    rw [renameCtes, visitCtes, visitCtes, List.map_append, cte.visits_rename,
      visitCtes_rename more]

theorem Body.visits_rename : ∀ body : Body,
    (body.rename f).visits = body.visits.map (Visit.rename f)
  | .select s => by rw [Body.rename, Body.visits, Body.visits, s.visits_rename]
  | .query q => by rw [Body.rename, Body.visits, Body.visits, q.visits_rename]
  | .combined left _ right => by
    rw [Body.rename, Body.visits, Body.visits, List.map_append, left.visits_rename,
      right.visits_rename]
  | .other _ parts => by rw [Body.rename, Body.visits, Body.visits, visitNodes_rename parts]

theorem Select.visits_rename : ∀ s : Select, (s.rename f).visits = s.visits.map (Visit.rename f)
  | ⟨_, lead, items, target, sources, views, filter, hierarchy, grouping, groupingTail,
      arrangement, having, tail⟩ => by
    simp only [Select.rename, Select.visits, List.map_append, visitNodes_rename,
      visitItems_rename items, visitTrees_rename sources, visitOptional_rename,
      visitExprs_rename grouping]

theorem SelectItem.visits_rename : ∀ item : SelectItem,
    (item.rename f).visits = item.visits.map (Visit.rename f)
  | .star options => visitNodes_rename options
  | .qualifiedStar _ options => visitNodes_rename options
  | .exprStar e options => by
    rw [SelectItem.rename, SelectItem.visits, SelectItem.visits, List.map_append, e.visits_rename,
      visitNodes_rename options]
  | .expr e => e.visits_rename
  | .aliased e _ => e.visits_rename

theorem visitItems_rename : ∀ items : List SelectItem,
    visitItems (renameItems f items) = (visitItems items).map (Visit.rename f)
  | [] => rfl
  | item :: more => by
    rw [renameItems, visitItems, visitItems, List.map_append, item.visits_rename,
      visitItems_rename more]

theorem FromTree.visits_rename : ∀ tree : FromTree,
    (tree.rename f).visits = tree.visits.map (Visit.rename f)
  | ⟨relation, joins⟩ => by
    rw [FromTree.rename, FromTree.visits, FromTree.visits, List.map_append, relation.visits_rename,
      visitJoins_rename joins]

theorem visitTrees_rename : ∀ trees : List FromTree,
    visitTrees (renameTrees f trees) = (visitTrees trees).map (Visit.rename f)
  | [] => rfl
  | tree :: more => by
    rw [renameTrees, visitTrees, visitTrees, List.map_append, tree.visits_rename,
      visitTrees_rename more]

theorem Source.visits_rename : ∀ s : Source, (s.rename f).visits = s.visits.map (Visit.rename f)
  | .table _ arguments _ extras => by
    simp [Source.rename, Source.visits, Visit.rename, visitNodes_rename arguments,
      visitNodes_rename extras]
  | .derived _ query _ extras => by
    simp [Source.rename, Source.visits, Visit.rename, query.visits_rename,
      visitNodes_rename extras]
  | .joined tree _ => by
    simp [Source.rename, Source.visits, Visit.rename, tree.visits_rename]
  | .other _ parts _ => by
    simp [Source.rename, Source.visits, Visit.rename, visitNodes_rename parts]

theorem Join.visits_rename : ∀ join : Join,
    (join.rename f).visits = join.visits.map (Visit.rename f)
  | ⟨relation, _, _, matching, constraint⟩ => by
    rw [Join.rename, Join.visits, Join.visits, List.map_append, List.map_append,
      relation.visits_rename, visitOptional_rename matching, constraint.visits_rename]

theorem visitJoins_rename : ∀ joins : List Join,
    visitJoins (renameJoins f joins) = (visitJoins joins).map (Visit.rename f)
  | [] => rfl
  | join :: more => by
    rw [renameJoins, visitJoins, visitJoins, List.map_append, join.visits_rename,
      visitJoins_rename more]

theorem JoinConstraint.visits_rename : ∀ constraint : JoinConstraint,
    (constraint.rename f).visits = constraint.visits.map (Visit.rename f)
  | .on predicate => predicate.visits_rename
  | .using _ inside => visitNodes_rename inside
  | .natural => rfl
  | .none => rfl

end

/-- The visit of a renamed statement is the renamed visit. -/
theorem Statement.visits_rename (s : Statement) :
    (s.rename f).visits = s.visits.map (Visit.rename f) := by
  cases s with
  | query q => exact q.visits_rename f
  | other kind parts => exact visitNodes_rename f parts

end Visits

section Fields

@[simp] theorem renameExprs_eq_map (exprs : List Expr) :
    renameExprs f exprs = exprs.map (Expr.rename f) := by
  induction exprs with
  | nil => rfl
  | cons e more ih => rw [renameExprs, ih, List.map_cons]

@[simp] theorem renameOptional_eq_map (e : Option Expr) :
    renameOptional f e = e.map (Expr.rename f) := by
  cases e <;> rfl

@[simp] theorem renameCtes_eq_map (ctes : List Cte) :
    renameCtes f ctes = ctes.map (Cte.rename f) := by
  induction ctes with
  | nil => rfl
  | cons cte more ih => rw [renameCtes, ih, List.map_cons]

@[simp] theorem renameItems_eq_map (items : List SelectItem) :
    renameItems f items = items.map (SelectItem.rename f) := by
  induction items with
  | nil => rfl
  | cons item more ih => rw [renameItems, ih, List.map_cons]

@[simp] theorem renameTrees_eq_map (trees : List FromTree) :
    renameTrees f trees = trees.map (FromTree.rename f) := by
  induction trees with
  | nil => rfl
  | cons tree more ih => rw [renameTrees, ih, List.map_cons]

@[simp] theorem renameJoins_eq_map (joins : List Join) :
    renameJoins f joins = joins.map (Join.rename f) := by
  induction joins with
  | nil => rfl
  | cons join more ih => rw [renameJoins, ih, List.map_cons]

@[simp] theorem Query.ctes_rename (q : Query) : (q.rename f).ctes = q.ctes.map (Cte.rename f) := by
  obtain ⟨recursive, ctes, body, tail⟩ := q
  simp [Query.rename]

@[simp] theorem Cte.query_rename (cte : Cte) : (cte.rename f).query = cte.query.rename f := by
  obtain ⟨label, materialized, query, origin⟩ := cte
  rfl

@[simp] theorem Cte.name_rename (cte : Cte) :
    (cte.rename f).label.name.value = f cte.label.name.value := by
  obtain ⟨label, materialized, query, origin⟩ := cte
  rfl

@[simp] theorem Join.relation_rename (join : Join) :
    (join.rename f).relation = join.relation.rename f := by
  cases join
  rfl

@[simp] theorem Join.operator_rename (join : Join) :
    (join.rename f).operator = join.operator := by
  cases join
  rfl

namespace Select

variable (s : Select)

@[simp] theorem items_rename : (s.rename f).items = s.items.map (SelectItem.rename f) := by
  cases s
  simp [Select.rename]

@[simp] theorem sources_rename : (s.rename f).sources = s.sources.map (FromTree.rename f) := by
  cases s
  simp [Select.rename]

@[simp] theorem filter_rename : (s.rename f).filter = s.filter.map (Expr.rename f) := by
  cases s
  simp [Select.rename]

@[simp] theorem grouping_rename : (s.rename f).grouping = s.grouping.map (Expr.rename f) := by
  cases s
  simp [Select.rename]

@[simp] theorem having_rename : (s.rename f).having = s.having.map (Expr.rename f) := by
  cases s
  simp [Select.rename]

end Select

/-- The parts of a name that are no computed ones are renamed. -/
@[simp] theorem ObjectName.values_rename (name : ObjectName) :
    (name.rename f).values = name.values.map f := by
  refine filterMap_renamed fun part => ?_
  cases part <;> rfl

end Fields

end ColumnLineage.Sql

namespace ColumnLineage.Lineage

open Sql

variable (f : String → String)

/-- A reference with its column and its qualifier renamed. -/
def ColumnRef.rename (ref : ColumnRef) : ColumnRef :=
  ⟨ref.qualifier.map f, f ref.column⟩

theorem ColumnRef.ofNames_rename (names : List Ident) :
    ofNames (names.map (Ident.rename f)) = (ofNames names).map (ColumnRef.rename f) := by
  unfold ofNames
  rw [← List.map_reverse]
  match names.reverse with
  | [] => rfl
  | [_] => rfl
  | _ :: _ :: _ => rfl

theorem ColumnRef.eq_nil_of_ofNames {names : List Ident} (h : ofNames names = none) :
    names = [] := by
  unfold ofNames at h
  split at h
  · next hnil => exact List.reverse_eq_nil_iff.mp hnil
  · simp at h
  · simp at h

theorem ColumnRef.ofExpr_rename (e : Expr) :
    ofExpr (e.rename f) = (ofExpr e).map (ColumnRef.rename f) := by
  cases e with
  | path names => exact ofNames_rename f names
  | _ => rfl

theorem outerColumns_rename (depth : Nat) (visits : List Visit) :
    outerColumns depth (visits.map (Visit.rename f)) =
      (outerColumns depth visits).map (ColumnRef.rename f) := by
  induction visits generalizing depth with
  | nil => rfl
  | cons v more ih =>
    cases v with
    | enter q => exact ih (depth + 1)
    | leave => exact ih (depth - 1)
    | expr e =>
      simp only [List.map_cons, Visit.rename, outerColumns, ColumnRef.ofExpr_rename]
      split
      · cases ColumnRef.ofExpr e <;> simp [ih]
      · exact ih depth
    | source s => exact ih depth
    | relation name => exact ih depth

theorem outerQueries_rename (depth : Nat) (visits : List Visit) :
    outerQueries depth (visits.map (Visit.rename f)) =
      (outerQueries depth visits).map (Query.rename f) := by
  induction visits generalizing depth with
  | nil => rfl
  | cons v more ih =>
    cases v with
    | enter q =>
      simp only [List.map_cons, Visit.rename, outerQueries, ih]
      split <;> rfl
    | leave => exact ih (depth - 1)
    | expr e => exact ih depth
    | source s => exact ih depth
    | relation name => exact ih depth

@[simp] theorem columnRefs_rename (e : Expr) :
    columnRefs (e.rename f) = (columnRefs e).map (ColumnRef.rename f) := by
  rw [columnRefs, columnRefs, e.visits_rename, outerColumns_rename]

@[simp] theorem outermostQueries_rename (visits : List Visit) :
    outermostQueries (visits.map (Visit.rename f)) =
      (outermostQueries visits).map (Query.rename f) :=
  outerQueries_rename f 0 visits

@[simp] theorem unwrapped_rename (e : Expr) : unwrapped (e.rename f) = (unwrapped e).rename f := by
  fun_induction unwrapped e with
  | case1 inner ih => exact ih
  | case2 e hne => cases e <;> first | rfl | exact absurd rfl (hne _)

theorem pendingOperands_rename (pending : List Expr) :
    pendingOperands (pending.map (Expr.rename f)) =
      (pendingOperands pending).map (ColumnRef.rename f) := by
  fun_induction pendingOperands pending with
  | case1 => simp [pendingOperands]
  | case2 inner pending ih => simpa [Expr.rename, pendingOperands] using ih
  | case3 left right pending ih => simpa [Expr.rename, pendingOperands] using ih
  | case4 left right pending ih => simpa [Expr.rename, pendingOperands] using ih
  | case5 left right pending ih =>
    have hside : ∀ e, (ColumnRef.ofExpr (unwrapped (e.rename f))).toList =
        (ColumnRef.ofExpr (unwrapped e)).toList.map (ColumnRef.rename f) := by
      intro e
      rw [unwrapped_rename, ColumnRef.ofExpr_rename]
      cases ColumnRef.ofExpr (unwrapped e) <;> rfl
    simp only [List.map_cons, Expr.rename, pendingOperands, hside, ih, List.map_append]
  | case6 e pending hnested hand hor heq ih =>
    cases e with
    | nested inner => exact absurd rfl (hnested inner)
    | binary left op right =>
      cases op with
      | and => exact absurd rfl (hand left right)
      | or => exact absurd rfl (hor left right)
      | eq => exact absurd rfl (heq left right)
      | other spelling => simpa [Expr.rename, pendingOperands] using ih
    | _ => simpa [Expr.rename, pendingOperands] using ih

@[simp] theorem equalityOperands_rename (predicate : Expr) :
    equalityOperands (predicate.rename f) =
      (equalityOperands predicate).map (ColumnRef.rename f) :=
  pendingOperands_rename f [predicate]

@[simp] theorem isCase_rename (e : Expr) : isCase (e.rename f) = isCase e := by
  cases e with
  | phrase kind layout parts => cases kind <;> rfl
  | _ => rfl

@[simp] theorem isFunctionLike_rename (e : Expr) :
    isFunctionLike (e.rename f) = isFunctionLike e := by
  cases e with
  | phrase kind layout parts => cases kind <;> rfl
  | _ => rfl

/-- Only expressions are met in some visits, and none of them is a reference. -/
def MeetsNoNames (visits : List Visit) : Prop :=
  ∀ v ∈ visits, ∃ e, v = .expr e ∧ ColumnRef.ofExpr e = none

theorem MeetsNoNames.mono {visits less : List Visit} (h : MeetsNoNames visits)
    (hsub : less ⊆ visits) : MeetsNoNames less :=
  fun v hv => h v (hsub hv)

mutual

/-- An expression that holds no names is left as it is. -/
theorem Expr.rename_eq_self : ∀ e : Expr, MeetsNoNames e.visits → e.rename f = e
  | .column name, h => by
    obtain ⟨e, he, hnone⟩ := h _ List.mem_cons_self
    obtain rfl := Visit.expr.inj he
    simp [ColumnRef.ofExpr] at hnone
  | .path names, h => by
    obtain ⟨e, he, hnone⟩ := h _ List.mem_cons_self
    obtain rfl := Visit.expr.inj he
    rw [ColumnRef.eq_nil_of_ofNames hnone]
    rfl
  | .nested inner, h => by
    rw [Expr.rename, Expr.rename_eq_self inner (h.mono (List.subset_cons_self _ _))]
  | .binary left op right, h => by
    have hparts := h.mono (List.subset_cons_self _ _)
    rw [Expr.rename, Expr.rename_eq_self left (hparts.mono (List.subset_append_left _ _)),
      Expr.rename_eq_self right (hparts.mono (List.subset_append_right _ _))]
  | .call name layout parts, h => by
    rw [Expr.rename, renameNodes_eq_self parts (h.mono (List.subset_cons_self _ _))]
  | .access root chain, h => by
    have hparts := h.mono (List.subset_cons_self _ _)
    rw [Expr.rename, Expr.rename_eq_self root (hparts.mono (List.subset_append_left _ _)),
      renameNodes_eq_self chain (hparts.mono (List.subset_append_right _ _))]
  | .phrase kind layout parts, h => by
    rw [Expr.rename, renameNodes_eq_self parts (h.mono (List.subset_cons_self _ _))]

theorem Node.rename_eq_self : ∀ n : Node, MeetsNoNames n.visits → n.rename f = n
  | .expr e, h => by rw [Node.rename, Expr.rename_eq_self e h]
  | .query q, h => by
    obtain ⟨e, he, -⟩ := h _ q.enter_mem_visits
    exact Visit.noConfusion he
  | .source s, h => by
    obtain ⟨e, he, -⟩ := h _ s.source_mem_visits
    exact Visit.noConfusion he
  | .relation name, h => by
    obtain ⟨e, he, -⟩ := h _ List.mem_cons_self
    exact Visit.noConfusion he
  | .phrase layout parts, h => by rw [Node.rename, renameNodes_eq_self parts h]

theorem renameNodes_eq_self : ∀ parts : List Node, MeetsNoNames (visitNodes parts) →
    renameNodes f parts = parts
  | [], _ => rfl
  | n :: more, h => by
    rw [renameNodes, Node.rename_eq_self n (h.mono (List.subset_append_left _ _)),
      renameNodes_eq_self more (h.mono (List.subset_append_right _ _))]

end

end ColumnLineage.Lineage
