import ColumnLineage.Lineage.Projection
import ColumnLineage.Proofs.Visits

/-!
# References and where they stand

Every reference that an analysis collects is a name that stands in the tree, and every query that it
goes to is entered there.

## Main definitions

* `Mentions`: some visits meet a reference.
* `equalities`: the comparisons in the predicate of a join.
* `Projection.refs`: the references of an item of a select list.

## Main statements

* `Projection.refs_ofExpr`: an item reads the references of its expression, in visiting order.
* `mentions_of_mem_columnRefs`: references stand in the tree.
* `equalityOperands_eq_flatMap`: the columns that a predicate compares, comparison by comparison.
* `enter_mem_of_mem_outermostQueries`: the outermost queries are entered in the tree.
-/

namespace ColumnLineage.Lineage

open Sql

/-- Some visits meet an expression that is a reference. -/
def Mentions (visits : List Visit) (ref : ColumnRef) : Prop :=
  ∃ e, .expr e ∈ visits ∧ ColumnRef.ofExpr e = some ref

theorem Mentions.mono {visits more : List Visit} {ref : ColumnRef} (h : Mentions visits ref)
    (hsub : visits ⊆ more) : Mentions more ref := by
  obtain ⟨e, he, href⟩ := h
  exact ⟨e, hsub he, href⟩

theorem mentions_of_mem_outerColumns {depth : Nat} {visits : List Visit} {ref : ColumnRef}
    (h : ref ∈ outerColumns depth visits) : Mentions visits ref := by
  fun_induction outerColumns depth visits with
  | case1 => simp at h
  | case2 depth q more ih => exact (ih h).mono (List.subset_cons_self _ _)
  | case3 depth more ih => exact (ih h).mono (List.subset_cons_self _ _)
  | case4 e more ih =>
    rcases List.mem_append.mp h with h | h
    · exact ⟨e, List.mem_cons_self, by simpa using h⟩
    · exact (ih h).mono (List.subset_cons_self _ _)
  | case5 depth e more hdepth ih => exact (ih h).mono (List.subset_cons_self _ _)
  | case6 depth s more ih => exact (ih h).mono (List.subset_cons_self _ _)
  | case7 depth name more ih => exact (ih h).mono (List.subset_cons_self _ _)

/-- A column reference of an expression stands in the expression. -/
theorem mentions_of_mem_columnRefs {e : Expr} {ref : ColumnRef} (h : ref ∈ columnRefs e) :
    Mentions e.visits ref :=
  mentions_of_mem_outerColumns h

theorem enter_mem_of_mem_outerQueries {depth : Nat} {visits : List Visit} {q : Query}
    (h : q ∈ outerQueries depth visits) : .enter q ∈ visits := by
  fun_induction outerQueries depth visits with
  | case1 => simp at h
  | case2 entered more ih =>
    rcases List.mem_cons.mp h with rfl | h
    · exact List.mem_cons_self
    · exact List.mem_cons_of_mem _ (ih h)
  | case3 depth entered more hdepth ih => exact List.mem_cons_of_mem _ (ih h)
  | case4 depth more ih => exact List.mem_cons_of_mem _ (ih h)
  | case5 depth e more ih => exact List.mem_cons_of_mem _ (ih h)
  | case6 depth s more ih => exact List.mem_cons_of_mem _ (ih h)
  | case7 depth name more ih => exact List.mem_cons_of_mem _ (ih h)

/-- The outermost queries of some visits are entered in them. -/
theorem enter_mem_of_mem_outermostQueries {visits : List Visit} {q : Query}
    (h : q ∈ outermostQueries visits) : .enter q ∈ visits :=
  enter_mem_of_mem_outerQueries h

theorem unwrapped_visits_subset (e : Expr) : (unwrapped e).visits ⊆ e.visits := by
  fun_induction unwrapped e with
  | case1 inner ih => exact List.Subset.trans ih (List.subset_cons_self _ _)
  | case2 e => exact List.Subset.refl _

/-- An expression that is a reference has no other references in it. -/
theorem columnRefs_of_ofExpr {e : Expr} {ref : ColumnRef} (h : ColumnRef.ofExpr e = some ref) :
    columnRefs e = [ref] := by
  cases e with
  | column name => simp [columnRefs, Expr.visits, outerColumns, h]
  | path names => simp [columnRefs, Expr.visits, outerColumns, h]
  | _ => simp [ColumnRef.ofExpr] at h

/-- Parentheses add no references. -/
theorem columnRefs_unwrapped (e : Expr) : columnRefs (unwrapped e) = columnRefs e := by
  fun_induction unwrapped e with
  | case1 inner ih => simpa [columnRefs, Expr.visits, outerColumns, ColumnRef.ofExpr] using ih
  | case2 e => rfl

section Comparisons

/-- The comparisons by equality that are reached from a predicate through AND, OR and parentheses,
from left to right. -/
def equalities : Expr → List (Expr × Expr)
  | .nested inner => equalities inner
  | .binary left .and right => equalities left ++ equalities right
  | .binary left .or right => equalities left ++ equalities right
  | .binary left .eq right => [(left, right)]
  | _ => []

/-- The sides of a comparison that are columns, parentheses aside. -/
def comparedColumns (comparison : Expr × Expr) : List ColumnRef :=
  [comparison.1, comparison.2].filterMap fun side => ColumnRef.ofExpr (unwrapped side)

theorem comparedColumns_eq (left right : Expr) : comparedColumns (left, right) =
    (ColumnRef.ofExpr (unwrapped left)).toList ++
      (ColumnRef.ofExpr (unwrapped right)).toList := by
  unfold comparedColumns
  cases hleft : ColumnRef.ofExpr (unwrapped left) <;>
    cases hright : ColumnRef.ofExpr (unwrapped right) <;> simp [hleft, hright]

/-- The columns compared in some predicates, one predicate after the other. -/
theorem pendingOperands_eq_flatMap (pending : List Expr) : pendingOperands pending =
    pending.flatMap fun e => (equalities e).flatMap comparedColumns := by
  fun_induction pendingOperands pending with
  | case1 => rfl
  | case2 inner pending ih => simpa [equalities] using ih
  | case3 left right pending ih => simpa [equalities] using ih
  | case4 left right pending ih => simpa [equalities] using ih
  | case5 left right pending ih => simp [equalities, comparedColumns_eq, ih]
  | case6 e pending _ _ _ _ ih => simpa [equalities] using ih

/-- The columns that a predicate compares are those of its comparisons, from left to right. -/
theorem equalityOperands_eq_flatMap (e : Expr) :
    equalityOperands e = (equalities e).flatMap comparedColumns := by
  rw [equalityOperands, pendingOperands_eq_flatMap, List.flatMap_singleton]

end Comparisons

/-- The references that an item of a select list reads. -/
def Projection.refs : Projection → List ColumnRef
  | .column ref => [ref]
  | .case refs => refs
  | .derived refs => refs
  | .star _ => []
  | .functionOnly _ => []
  | .literal => []

/-- An expression of a select list reads all its references outside nested queries. -/
theorem Projection.refs_ofExpr (e : Expr) : (Projection.ofExpr e).refs = columnRefs e := by
  rw [← columnRefs_unwrapped e]
  unfold Projection.ofExpr
  cases href : ColumnRef.ofExpr (unwrapped e) with
  | some ref => simp [href, Projection.refs, columnRefs_of_ofExpr href]
  | none =>
    cases hrefs : columnRefs (unwrapped e) with
    | nil => by_cases hf : isFunctionLike (unwrapped e) <;> simp [href, hf, hrefs, Projection.refs]
    | cons ref more =>
      by_cases hc : isCase (unwrapped e) <;> simp [href, hc, hrefs, Projection.refs]

end ColumnLineage.Lineage
