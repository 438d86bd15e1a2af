import ColumnLineage.Proofs.Nesting

/-!
# The columns of an expression

An expression is made of the references that stand in it outside every nested query, and of its
outermost nested queries.  A reference that a visit meets is one of the former or stands in exactly
one of the latter.

## Main definitions

* `exprPieces`: what an expression is made of, from left to right.
* `metRefs`: the references that some visits meet.
* `openAfter`: how many queries are open behind some visits, as they are counted.
* `VisitsTree`: the visits of a tree of any kind.

## Main statements

* `exprPieces_eq`: an expression is made of what is on the surface of its visit.
* `metRefs_of_balanced`: the references met are those of each piece.
* `Balanced.openAfter_eq`, `Balanced.lt_openAfter`: whole trees are counted exactly.
* `surfaceFrom_append`: what is on the surface depends on the number of open queries alone.
* `ownsColumns`: which references and which queries an expression owns.
-/

namespace ColumnLineage.Sql

/-- How many queries are open behind some visits, if `depth` are open in front. -/
def openAfter : Nat → List Visit → Nat
  | depth, [] => depth
  | depth, .enter _ :: more => openAfter (depth + 1) more
  | depth, .leave :: more => openAfter (depth - 1) more
  | depth, .expr _ :: more | depth, .source _ :: more | depth, .relation _ :: more =>
    openAfter depth more

theorem openAfter_append (depth : Nat) (front more : List Visit) :
    openAfter depth (front ++ more) = openAfter (openAfter depth front) more := by
  induction front generalizing depth with
  | nil => rfl
  | cons v front ih => cases v <;> exact ih _

theorem openAfter_plain_cons {v : Visit} (hv : v.isPlain) (depth : Nat) (more : List Visit) :
    openAfter depth (v :: more) = openAfter depth more := by
  cases v <;> simp_all [openAfter, Visit.isPlain]

namespace Balanced

variable {visits : List Visit}

/-- Whole trees leave as many queries open as they find. -/
theorem openAfter_eq (h : Balanced visits) (depth : Nat) : openAfter depth visits = depth := by
  induction h generalizing depth with
  | nil => rfl
  | plain hv _ ih => rw [openAfter_plain_cons hv, ih]
  | query q _ _ ihinner ih =>
    rw [openAfter_append, ih, q.visits_eq, openAfter, openAfter_append, ihinner]
    rfl

/-- In whole trees a query is left only where one was entered. -/
theorem lt_openAfter (h : Balanced visits) {front more : List Visit}
    (heq : visits = front ++ .leave :: more) (depth : Nat) : depth < openAfter depth front := by
  induction h generalizing depth front more with
  | nil => simp at heq
  | @plain v rest hv _ ih =>
    cases front with
    | nil =>
      obtain ⟨rfl, -⟩ := List.cons.inj heq
      simp [Visit.isPlain] at hv
    | cons first front =>
      obtain ⟨rfl, hrest⟩ := List.cons.inj heq
      rw [openAfter_plain_cons hv]
      exact ih hrest depth
  | @query q rest hinner _ ihinner ih =>
    rw [q.visits_eq, List.cons_append, List.append_assoc] at heq
    cases front with
    | nil => simp at heq
    | cons first front =>
      obtain ⟨rfl, hbehind⟩ := List.cons.inj heq
      rw [openAfter]
      -- The query left is one inside, this one, or one behind it.
      rcases List.append_eq_append_iff.mp hbehind with
        ⟨behind, rfl, hmore⟩ | ⟨inside, hinside, hmore⟩
      · rw [openAfter_append, hinner.openAfter_eq]
        cases behind with
        | nil => exact Nat.lt_succ_self depth
        | cons last behind =>
          obtain ⟨rfl, hrest⟩ := List.cons.inj hmore
          exact ih hrest depth
      · cases inside with
        | nil =>
          rw [List.append_nil] at hinside
          rw [← hinside, hinner.openAfter_eq]
          exact Nat.lt_succ_self depth
        | cons last inside =>
          obtain ⟨rfl, -⟩ := List.cons.inj hmore
          exact Nat.lt_of_succ_lt (ihinner hinside (depth + 1))

end Balanced

/-- The visits of a tree of any kind. -/
inductive VisitsTree : List Visit → Prop
  | expr (e : Expr) : VisitsTree e.visits
  | node (n : Node) : VisitsTree n.visits
  | query (q : Query) : VisitsTree q.visits
  | cte (cte : Cte) : VisitsTree cte.visits
  | body (body : Body) : VisitsTree body.visits
  | select (s : Select) : VisitsTree s.visits
  | item (item : SelectItem) : VisitsTree item.visits
  | tree (tree : FromTree) : VisitsTree tree.visits
  | source (s : Source) : VisitsTree s.visits
  | join (join : Join) : VisitsTree join.visits
  | constraint (constraint : JoinConstraint) : VisitsTree constraint.visits

theorem VisitsTree.balanced {visits : List Visit} (h : VisitsTree visits) : Balanced visits := by
  cases h with
  | expr e => exact e.balanced_visits
  | node n => exact n.balanced_visits
  | query q => exact q.balanced_visits
  | cte cte => exact cte.balanced_visits
  | body body => exact body.balanced_visits
  | select s => exact s.balanced_visits
  | item item => exact item.balanced_visits
  | tree tree => exact tree.balanced_visits
  | source s => exact s.balanced_visits
  | join join => exact join.balanced_visits
  | constraint constraint => exact constraint.balanced_visits

end ColumnLineage.Sql

namespace ColumnLineage.Lineage

open Sql

/-- A part of an expression: a reference outside every nested query, or an outermost query. -/
inductive Piece where
  | reference (ref : ColumnRef)
  | query (q : Query)

namespace Piece

/-- The reference that a piece is. -/
def reference? : Piece → Option ColumnRef
  | .reference ref => some ref
  | .query _ => none

/-- The query that a piece is. -/
def query? : Piece → Option Query
  | .reference _ => none
  | .query q => some q

end Piece

mutual

/-- What an expression is made of, from left to right. -/
def exprPieces : Expr → List Piece
  | .column name => [.reference (.simple name.value)]
  | .path names => (ColumnRef.ofNames names).toList.map .reference
  | .nested inner => exprPieces inner
  | .binary left _ right => exprPieces left ++ exprPieces right
  | .call _ _ parts => nodesPieces parts
  | .access root chain => exprPieces root ++ nodesPieces chain
  | .phrase _ _ parts => nodesPieces parts

/-- The pieces of a part. -/
def nodePieces : Node → List Piece
  | .expr e => exprPieces e
  | .query q => [.query q]
  | .source s => sourcePieces s
  | .relation _ => []
  | .phrase _ parts => nodesPieces parts

/-- The pieces of some parts. -/
def nodesPieces : List Node → List Piece
  | [] => []
  | n :: more => nodePieces n ++ nodesPieces more

/-- The pieces of an expression that may be absent. -/
def optionalPieces : Option Expr → List Piece
  | none => []
  | some e => exprPieces e

/-- The pieces of a source that stands in an expression. -/
def sourcePieces : Source → List Piece
  | .table _ arguments _ extras => nodesPieces arguments ++ nodesPieces extras
  | .derived _ query _ extras => .query query :: nodesPieces extras
  | .joined tree _ => treePieces tree
  | .other _ parts _ => nodesPieces parts

/-- The pieces of a source and what is joined to it. -/
def treePieces : FromTree → List Piece
  | ⟨relation, joins⟩ => sourcePieces relation ++ joinsPieces joins

/-- The pieces of some joins. -/
def joinsPieces : List Join → List Piece
  | [] => []
  | join :: more => joinPieces join ++ joinsPieces more

/-- The pieces of a join. -/
def joinPieces : Join → List Piece
  | ⟨relation, _, _, matching, constraint⟩ =>
    sourcePieces relation ++ optionalPieces matching ++ constraintPieces constraint

/-- The pieces of what restricts a join. -/
def constraintPieces : JoinConstraint → List Piece
  | .on predicate => exprPieces predicate
  | .using _ inside => nodesPieces inside
  | .natural => []
  | .none => []

end

section Surface

/-- The reference that a step meets. -/
def Visit.ref? : Visit → Option ColumnRef
  | .expr e => ColumnRef.ofExpr e
  | _ => none

/-- The piece that a step on the surface is. -/
def Visit.piece? : Visit → Option Piece
  | .enter q => some (.query q)
  | .expr e => (ColumnRef.ofExpr e).map .reference
  | _ => none

/-- The pieces on the surface of some visits. -/
def piecesIn (visits : List Visit) : List Piece :=
  (surface visits).filterMap Visit.piece?

theorem piecesIn_append {visits : List Visit} (h : Balanced visits) (rest : List Visit) :
    piecesIn (visits ++ rest) = piecesIn visits ++ piecesIn rest := by
  simp only [piecesIn, surface_append h, List.filterMap_append]

theorem piecesIn_query_append (q : Query) (rest : List Visit) :
    piecesIn (q.visits ++ rest) = .query q :: piecesIn rest := by
  rw [piecesIn, surface_query_append]
  rfl

theorem piecesIn_expr_cons (e : Expr) (more : List Visit) : piecesIn (.expr e :: more) =
    (ColumnRef.ofExpr e).toList.map .reference ++ piecesIn more := by
  rw [piecesIn, surface_plain_cons rfl, List.filterMap_cons]
  cases href : ColumnRef.ofExpr e <;> simp [Visit.piece?, href, piecesIn]

theorem piecesIn_source_cons (s : Source) (more : List Visit) :
    piecesIn (.source s :: more) = piecesIn more := by
  rw [piecesIn, surface_plain_cons rfl]
  rfl

theorem piecesIn_relation_cons (name : ObjectName) (more : List Visit) :
    piecesIn (.relation name :: more) = piecesIn more := by
  rw [piecesIn, surface_plain_cons rfl]
  rfl

mutual

/-- An expression is made of what is on the surface of its visit. -/
theorem exprPieces_eq : ∀ e : Expr, exprPieces e = piecesIn e.visits
  | .column _ => rfl
  | .path names => by
    rw [exprPieces, Expr.visits, piecesIn_expr_cons]
    exact (List.append_nil _).symm
  | .nested inner => by
    rw [exprPieces, Expr.visits, piecesIn_expr_cons, exprPieces_eq inner]
    rfl
  | .binary left _ right => by
    rw [exprPieces, Expr.visits, piecesIn_expr_cons, piecesIn_append left.balanced_visits,
      exprPieces_eq left, exprPieces_eq right]
    rfl
  | .call _ _ parts => by
    rw [exprPieces, Expr.visits, piecesIn_expr_cons, nodesPieces_eq parts]
    rfl
  | .access root chain => by
    rw [exprPieces, Expr.visits, piecesIn_expr_cons, piecesIn_append root.balanced_visits,
      exprPieces_eq root, nodesPieces_eq chain]
    rfl
  | .phrase _ _ parts => by
    rw [exprPieces, Expr.visits, piecesIn_expr_cons, nodesPieces_eq parts]
    rfl

theorem nodePieces_eq : ∀ n : Node, nodePieces n = piecesIn n.visits
  | .expr e => exprPieces_eq e
  | .query q => by
    rw [nodePieces, Node.visits, ← List.append_nil q.visits, piecesIn_query_append]
    rfl
  | .source s => sourcePieces_eq s
  | .relation _ => rfl
  | .phrase _ parts => nodesPieces_eq parts

theorem nodesPieces_eq : ∀ parts : List Node, nodesPieces parts = piecesIn (visitNodes parts)
  | [] => rfl
  | n :: more => by
    rw [nodesPieces, visitNodes, piecesIn_append n.balanced_visits, nodePieces_eq n,
      nodesPieces_eq more]

theorem optionalPieces_eq : ∀ e : Option Expr, optionalPieces e = piecesIn (visitOptional e)
  | none => rfl
  | some e => exprPieces_eq e

theorem sourcePieces_eq : ∀ s : Source, sourcePieces s = piecesIn s.visits
  | .table _ arguments _ extras => by
    rw [sourcePieces, Source.visits, piecesIn_source_cons, piecesIn_relation_cons,
      piecesIn_append (balanced_visitNodes arguments), nodesPieces_eq arguments,
      nodesPieces_eq extras]
  | .derived _ query _ extras => by
    rw [sourcePieces, Source.visits, piecesIn_source_cons, piecesIn_query_append,
      nodesPieces_eq extras]
  | .joined tree _ => by
    rw [sourcePieces, Source.visits, piecesIn_source_cons, treePieces_eq tree]
  | .other _ parts _ => by
    rw [sourcePieces, Source.visits, piecesIn_source_cons, nodesPieces_eq parts]

theorem treePieces_eq : ∀ tree : FromTree, treePieces tree = piecesIn tree.visits
  | ⟨relation, joins⟩ => by
    rw [treePieces, FromTree.visits, piecesIn_append relation.balanced_visits,
      sourcePieces_eq relation, joinsPieces_eq joins]

theorem joinsPieces_eq : ∀ joins : List Join, joinsPieces joins = piecesIn (visitJoins joins)
  | [] => rfl
  | join :: more => by
    rw [joinsPieces, visitJoins, piecesIn_append join.balanced_visits, joinPieces_eq join,
      joinsPieces_eq more]

theorem joinPieces_eq : ∀ join : Join, joinPieces join = piecesIn join.visits
  | ⟨relation, _, _, matching, constraint⟩ => by
    have hsource := relation.balanced_visits.append (balanced_visitOptional matching)
    rw [joinPieces, Join.visits, piecesIn_append hsource,
      piecesIn_append relation.balanced_visits, sourcePieces_eq relation,
      optionalPieces_eq matching, constraintPieces_eq constraint]

theorem constraintPieces_eq : ∀ constraint : JoinConstraint,
    constraintPieces constraint = piecesIn constraint.visits
  | .on predicate => exprPieces_eq predicate
  | .using _ inside => nodesPieces_eq inside
  | .natural => rfl
  | .none => rfl

end

theorem outerColumns_eq_filterMap (depth : Nat) (visits : List Visit) :
    outerColumns depth visits = (surfaceFrom depth visits).filterMap Visit.ref? := by
  induction visits generalizing depth with
  | nil => rfl
  | cons v more ih =>
    by_cases hdepth : depth = 0
    · cases v with
      | expr e =>
        cases href : ColumnRef.ofExpr e <;>
          simp [outerColumns, surfaceFrom, hdepth, ih, Visit.ref?, href]
      | _ => simp [outerColumns, surfaceFrom, hdepth, ih, Visit.ref?, List.filterMap_cons]
    · cases v <;> simp [outerColumns, surfaceFrom, hdepth, ih]

/-- What is collected on the surface of an expression is collected among its pieces. -/
theorem filterMap_surface (e : Expr) {β : Type} {collect : Visit → Option β}
    {part : Piece → Option β} (h : ∀ v, collect v = (Visit.piece? v).bind part) :
    (surface e.visits).filterMap collect = (exprPieces e).filterMap part := by
  rw [exprPieces_eq, piecesIn, List.filterMap_filterMap, funext h]

/-- The references of an expression are those among its pieces. -/
theorem columnRefs_eq_filterMap (e : Expr) :
    columnRefs e = (exprPieces e).filterMap Piece.reference? := by
  refine (outerColumns_eq_filterMap 0 e.visits).trans (filterMap_surface e fun v => ?_)
  cases v with
  | expr e =>
    cases href : ColumnRef.ofExpr e <;>
      simp [Visit.ref?, Visit.piece?, href, Piece.reference?]
  | _ => rfl

/-- The outermost queries of an expression are those among its pieces. -/
theorem outermostQueries_eq_pieces (e : Expr) :
    outermostQueries e.visits = (exprPieces e).filterMap Piece.query? := by
  refine (outermostQueries_eq_filterMap e.visits).trans (filterMap_surface e fun v => ?_)
  cases v with
  | expr e =>
    cases href : ColumnRef.ofExpr e <;>
      simp [Visit.entered?, Visit.piece?, href, Piece.query?]
  | _ => rfl

end Surface

section Partition

/-- The references that some visits meet, those inside queries included. -/
def metRefs (visits : List Visit) : List ColumnRef :=
  visits.filterMap Visit.ref?

/-- The references that a piece holds. -/
def Piece.refs : Piece → List ColumnRef
  | .reference ref => [ref]
  | .query q => metRefs q.visits

/-- The references met in balanced visits are those of their pieces, one piece after the other. -/
theorem metRefs_of_balanced {visits : List Visit} (h : Balanced visits) :
    metRefs visits = (piecesIn visits).flatMap Piece.refs := by
  induction h with
  | nil => rfl
  | @plain v more hv _ ih =>
    cases v with
    | expr e =>
      rw [piecesIn_expr_cons, List.flatMap_append, ← ih]
      cases href : ColumnRef.ofExpr e <;> simp [metRefs, Visit.ref?, href, Piece.refs]
    | source s => rw [piecesIn_source_cons, ← ih]; rfl
    | relation name => rw [piecesIn_relation_cons, ← ih]; rfl
    | enter q => simp [Visit.isPlain] at hv
    | leave => simp [Visit.isPlain] at hv
  | query q _ _ _ ih =>
    rw [piecesIn_query_append, List.flatMap_cons, ← ih]
    exact List.filterMap_append

/-- What some pieces hold are the references among them and what the queries among them hold. -/
theorem refs_perm (pieces : List Piece) : (pieces.flatMap Piece.refs).Perm
    (pieces.filterMap Piece.reference? ++
      (pieces.filterMap Piece.query?).flatMap fun q => metRefs q.visits) := by
  induction pieces with
  | nil => exact .refl _
  | cons piece more ih =>
    cases piece with
    | reference ref => exact ih.cons ref
    | query q =>
      have hq : (metRefs q.visits ++ more.flatMap Piece.refs).Perm
          (metRefs q.visits ++ (more.filterMap Piece.reference? ++
            (more.filterMap Piece.query?).flatMap fun q => metRefs q.visits)) := ih.append_left _
      exact hq.trans (List.perm_append_comm_assoc _ _ _)

end Partition

section Counting

/-- What is on the surface behind some visits depends on the number of queries that these leave
open. -/
theorem surfaceFrom_append (depth : Nat) (front more : List Visit) :
    surfaceFrom depth (front ++ more) =
      surfaceFrom depth front ++ surfaceFrom (openAfter depth front) more := by
  induction front generalizing depth with
  | nil => rfl
  | cons v front ih =>
    cases v <;> by_cases hdepth : depth = 0 <;> simp [surfaceFrom, openAfter, hdepth, ih]

theorem outerColumns_append (depth : Nat) (front more : List Visit) :
    outerColumns depth (front ++ more) =
      outerColumns depth front ++ outerColumns (openAfter depth front) more := by
  simp only [outerColumns_eq_filterMap, surfaceFrom_append, List.filterMap_append]

theorem outerQueries_append (depth : Nat) (front more : List Visit) :
    outerQueries depth (front ++ more) =
      outerQueries depth front ++ outerQueries (openAfter depth front) more := by
  simp only [outerQueries_eq_filterMap, surfaceFrom_append, List.filterMap_append]

/-- An expression owns the references and the queries among its pieces, and those who collect them
count the open queries exactly. -/
structure OwnsColumns (e : Expr) : Prop where
  columns : columnRefs e = (exprPieces e).filterMap Piece.reference?
  queries : outermostQueries e.visits = (exprPieces e).filterMap Piece.query?
  /-- The references that a visit meets are those of each piece, one piece after the other. -/
  pieces : metRefs e.visits = (exprPieces e).flatMap Piece.refs
  /-- Each of them is one of the expression's own or stands in one of its outermost queries. -/
  partition : (metRefs e.visits).Perm
    (columnRefs e ++ (outermostQueries e.visits).flatMap fun q => metRefs q.visits)
  /-- Anywhere in a visit, what is still collected depends on the number of open queries. -/
  counted : ∀ front more, e.visits = front ++ more →
    columnRefs e = outerColumns 0 front ++ outerColumns (openAfter 0 front) more ∧
      outermostQueries e.visits = outerQueries 0 front ++ outerQueries (openAfter 0 front) more
  /-- The number is the same in front of a tree and behind it. -/
  restored : ∀ depth front tree, VisitsTree tree → front ++ tree <+: e.visits →
    openAfter depth (front ++ tree) = openAfter depth front
  /-- Where a query is left, the number is above the one at the start. -/
  unsaturated : ∀ depth front more, e.visits = front ++ .leave :: more →
    depth < openAfter depth front

/-- Every reference that stands in an expression is the expression's own or belongs to exactly one
of its outermost queries. -/
theorem ownsColumns (e : Expr) : OwnsColumns e where
  columns := columnRefs_eq_filterMap e
  queries := outermostQueries_eq_pieces e
  pieces := by
    rw [exprPieces_eq]
    exact metRefs_of_balanced e.balanced_visits
  partition := by
    rw [columnRefs_eq_filterMap, outermostQueries_eq_pieces, metRefs_of_balanced e.balanced_visits,
      ← exprPieces_eq]
    exact refs_perm (exprPieces e)
  counted := by
    intro front more hvisits
    rw [columnRefs, outermostQueries, hvisits]
    exact ⟨outerColumns_append 0 front more, outerQueries_append 0 front more⟩
  restored := by
    intro depth front tree htree _
    rw [openAfter_append, htree.balanced.openAfter_eq]
  unsaturated := by
    intro depth front more hleave
    exact e.balanced_visits.lt_openAfter hleave depth

end Counting

end ColumnLineage.Lineage
