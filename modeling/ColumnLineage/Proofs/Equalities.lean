import ColumnLineage.Proofs.Output
import ColumnLineage.Proofs.Ownership

/-!
# Columns that a join compares

The columns that the predicate of a join compares by equality come out a second time, behind all its
references.  They are found by a loop over a stack of predicates to take apart, and each of them is
a reference of the predicate, so that the output is the same without them.

## Main definitions

* `OperandLoop`: a state of the loop, with its rounds.
* `joinRowsWith`: the rows of a join, where it is left open which columns come out again.

## Main statements

* `OperandLoop.next_keeps`: what a round of the loop keeps.
* `OperandLoop.ends_iff`: the loop comes to an end, with the columns that are compared.
* `equalityOperands_sublist`: these columns are references of the predicate.
* `equalities_redundant`: the output is the same without the second rows.
-/

namespace ColumnLineage.Lineage

open Sql

/-- A loop that takes predicates apart: those on its stack, the top first, and what is found. -/
structure OperandLoop where
  pending : List Expr
  found : List ColumnRef

namespace OperandLoop

/-- One round of the loop: the predicate on top is replaced by its operands if it is one of AND, OR
and parentheses, and else is done with.  There is no round without a predicate. -/
def next : OperandLoop → Option OperandLoop
  | ⟨[], _⟩ => none
  | ⟨.nested inner :: pending, found⟩ => some ⟨inner :: pending, found⟩
  | ⟨.binary left .and right :: pending, found⟩ => some ⟨left :: right :: pending, found⟩
  | ⟨.binary left .or right :: pending, found⟩ => some ⟨left :: right :: pending, found⟩
  | ⟨.binary left .eq right :: pending, found⟩ =>
    some ⟨pending, found ++ comparedColumns (left, right)⟩
  | ⟨_ :: pending, found⟩ => some ⟨pending, found⟩

/-- The loop comes to an end after some rounds, with some columns found. -/
inductive Ends : Nat → OperandLoop → List ColumnRef → Prop
  | empty (found : List ColumnRef) : Ends 0 ⟨[], found⟩ found
  | round {rounds : Nat} {loop after : OperandLoop} {last : List ColumnRef}
      (hnext : loop.next = some after) (h : Ends rounds after last) : Ends (rounds + 1) loop last

/-- There is one end at most. -/
theorem Ends.unique {rounds others : Nat} {loop : OperandLoop} {last other : List ColumnRef}
    (h : Ends rounds loop last) (hother : Ends others loop other) :
    rounds = others ∧ last = other := by
  induction h generalizing others with
  | empty found =>
    cases hother with
    | empty => exact ⟨rfl, rfl⟩
    | round hnext _ => simp [next] at hnext
  | round hnext _ ih =>
    cases hother with
    | empty => simp [next] at hnext
    | round hothers hmore =>
      obtain rfl := Option.some.inj (hnext.symm.trans hothers)
      obtain ⟨rfl, rfl⟩ := ih hmore
      exact ⟨rfl, rfl⟩

/-- A round takes one step of those in which the predicates are taken apart, and what is found and
what is still to be found stay the same together. -/
theorem next_keeps {loop after : OperandLoop} (h : loop.next = some after) :
    pendingSize loop.pending = pendingSize after.pending + 1 ∧
      loop.found ++ pendingOperands loop.pending =
        after.found ++ pendingOperands after.pending := by
  simp only [pendingOperands_eq_flatMap]
  unfold next at h
  split at h
  case h_1 => simp at h
  case h_2 | h_3 | h_4 =>
    obtain rfl := Option.some.inj h
    simp only [pendingSize, splitSize, List.flatMap_cons, equalities, List.flatMap_append,
      List.append_assoc, and_true]
    omega
  case h_5 left right pending found =>
    obtain rfl := Option.some.inj h
    refine ⟨Nat.add_comm _ _, ?_⟩
    simp only [List.flatMap_cons, equalities, List.flatMap_nil, List.append_nil, List.append_assoc]
  case h_6 e pending found hnested hand hor heq =>
    obtain rfl := Option.some.inj h
    have hsize : splitSize e = 1 := by
      unfold splitSize
      split <;> simp_all
    have hnone : equalities e = [] := by
      unfold equalities
      split <;> simp_all
    rw [pendingSize, hsize, List.flatMap_cons, hnone]
    exact ⟨Nat.add_comm _ _, rfl⟩

/-- There is a round as long as there is a predicate. -/
theorem next_isSome (e : Expr) (pending : List Expr) (found : List ColumnRef) :
    (next ⟨e :: pending, found⟩).isSome := by
  unfold next
  split <;> simp_all

/-- The loop takes one round for each step in which its predicates are taken apart. -/
theorem ends_pendingSize (rounds : Nat) (loop : OperandLoop)
    (hrounds : pendingSize loop.pending = rounds) :
    Ends rounds loop (loop.found ++ pendingOperands loop.pending) := by
  induction rounds generalizing loop with
  | zero =>
    obtain ⟨pending, found⟩ := loop
    cases pending with
    | nil =>
      rw [pendingOperands_eq_flatMap, List.flatMap_nil, List.append_nil]
      exact .empty found
    | cons e pending =>
      have hpos := splitSize_pos e
      rw [pendingSize] at hrounds
      omega
  | succ rounds ih =>
    obtain ⟨pending, found⟩ := loop
    cases pending with
    | nil => simp [pendingSize] at hrounds
    | cons e pending =>
      obtain ⟨after, hafter⟩ := Option.isSome_iff_exists.mp (next_isSome e pending found)
      obtain ⟨hsize, hfound⟩ := next_keeps hafter
      rw [hfound]
      exact .round hafter (ih after (Nat.succ.inj (hsize.symm.trans hrounds)))

/-- Started with a predicate, the loop comes to its end, and there it has found what the predicate
compares. -/
theorem ends_iff {rounds : Nat} {e : Expr} {result : List ColumnRef} :
    Ends rounds ⟨[e], []⟩ result ↔ rounds = splitSize e ∧ result = equalityOperands e := by
  have h : Ends (splitSize e) ⟨[e], []⟩ (equalityOperands e) := ends_pendingSize _ ⟨[e], []⟩ rfl
  constructor
  · intro hends
    exact hends.unique h
  · rintro ⟨rfl, rfl⟩
    exact h

end OperandLoop

section References

theorem columnRefs_nested (inner : Expr) : columnRefs (.nested inner) = columnRefs inner := by
  rw [columnRefs_eq_filterMap, columnRefs_eq_filterMap, exprPieces]

theorem columnRefs_binary (left : Expr) (operator : BinaryOperator) (right : Expr) :
    columnRefs (.binary left operator right) = columnRefs left ++ columnRefs right := by
  rw [columnRefs_eq_filterMap, exprPieces, List.filterMap_append, columnRefs_eq_filterMap left,
    columnRefs_eq_filterMap right]

/-- A side of a comparison that is a column is the reference of that side. -/
theorem side_sublist (side : Expr) :
    (ColumnRef.ofExpr (unwrapped side)).toList.Sublist (columnRefs side) := by
  cases href : ColumnRef.ofExpr (unwrapped side) with
  | none => exact List.nil_sublist _
  | some ref =>
    rw [← columnRefs_unwrapped, columnRefs_of_ofExpr href]
    exact List.Sublist.refl _

/-- The columns that a predicate compares are among its references, in the same order. -/
theorem equalityOperands_sublist (e : Expr) : (equalityOperands e).Sublist (columnRefs e) := by
  rw [equalityOperands_eq_flatMap]
  fun_induction equalities e with
  | case1 inner ih =>
    rw [columnRefs_nested]
    exact ih
  | case2 left right ihleft ihright =>
    rw [columnRefs_binary, List.flatMap_append]
    exact ihleft.append ihright
  | case3 left right ihleft ihright =>
    rw [columnRefs_binary, List.flatMap_append]
    exact ihleft.append ihright
  | case4 left right =>
    rw [columnRefs_binary, List.flatMap_singleton, comparedColumns_eq]
    exact (side_sublist left).append (side_sublist right)
  | case5 e _ _ _ _ => exact List.nil_sublist _

end References

section Rows

/-- The rows of the restriction of a join where `again` tells which columns of a predicate come out
a second time. -/
def constraintRowsWith (again : Expr → List ColumnRef) (tags : Tags) (scopes : Scopes)
    (kind : JoinKind) (left right : Option String) : JoinConstraint → List Row
  | .on predicate =>
    (columnRefs predicate ++ again predicate).map
      (clauseRow tags scopes right [.joinOnClauseColumn, .joinType kind] none)
  | constraint => constraintRows tags scopes kind left right constraint

/-- The rows of a join where `again` tells which columns of its predicate come out a second time. -/
def joinRowsWith (again : Expr → List ColumnRef) (tags : Tags) (c : CteCatalog) (scopes : Scopes)
    (left : Option String) (join : Join) : List Row :=
  let kind := joinKind join.operator
  constraintRowsWith again tags scopes kind left (sourceName join.relation)
      (tracedConstraint join) ++
    joinedFilterRows tags c scopes kind join.relation

variable (tags : Tags) (c : CteCatalog) (scopes : Scopes) (left : Option String) (join : Join)

theorem joinRowsWith_equalityOperands :
    joinRowsWith equalityOperands tags c scopes left join = joinRows tags c scopes left join := by
  unfold joinRowsWith joinRows
  cases tracedConstraint join <;> rfl

/-- Whatever references of a predicate come out a second time, the output is the same. -/
theorem deduplicate_joinRowsWith {again : Expr → List ColumnRef}
    (hagain : ∀ e, again e ⊆ columnRefs e) (before after : List Row) :
    deduplicate (before ++ joinRowsWith again tags c scopes left join ++ after) =
      deduplicate (before ++ joinRowsWith (fun _ => []) tags c scopes left join ++ after) := by
  unfold joinRowsWith
  cases tracedConstraint join with
  | on predicate =>
    have hsub := List.map_subset
      (clauseRow tags scopes (sourceName join.relation)
        [.joinOnClauseColumn, .joinType (joinKind join.operator)] none) (hagain predicate)
    have hrows := deduplicate_append_again (List.subset_append_of_subset_right before hsub)
      (joinedFilterRows tags c scopes (joinKind join.operator) join.relation ++ after)
    simpa only [constraintRowsWith, List.map_append, List.map_nil, List.append_nil,
      List.append_assoc] using hrows
  | _ => rfl

/-- The loop that looks for comparisons comes to an end with what reading the predicate gives, and
what it finds are references of the predicate. -/
structure FindsEqualities (e : Expr) : Prop where
  loop : ∀ rounds result,
    OperandLoop.Ends rounds ⟨[e], []⟩ result ↔ rounds = splitSize e ∧ result = equalityOperands e
  reading : equalityOperands e = (equalities e).flatMap comparedColumns
  reported : (equalityOperands e).Sublist (columnRefs e)

/-- The columns that a predicate compares are found completely, and the output is the same if they
do not come out again. -/
theorem equalities_redundant : (∀ e, FindsEqualities e) ∧
    ∀ (tags : Tags) (c : CteCatalog) (scopes : Scopes) (left : Option String) (join : Join)
      (before after : List Row),
      deduplicate (before ++ joinRows tags c scopes left join ++ after) =
        deduplicate (before ++ joinRowsWith (fun _ => []) tags c scopes left join ++ after) := by
  constructor
  · intro e
    exact {
      loop := fun _ _ => OperandLoop.ends_iff
      reading := equalityOperands_eq_flatMap e
      reported := equalityOperands_sublist e }
  · intro tags c scopes left join before after
    rw [← joinRowsWith_equalityOperands]
    exact deduplicate_joinRowsWith tags c scopes left join
      (fun e => (equalityOperands_sublist e).subset) before after

end Rows

end ColumnLineage.Lineage
