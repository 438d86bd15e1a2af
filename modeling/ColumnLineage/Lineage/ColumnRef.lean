import ColumnLineage.Sql.Visit

/-!
# Column references

The columns an expression reads are the names in it that stand outside every nested query.  Names
inside a nested query belong to the scopes of that query.

## Main definitions

* `ColumnRef`: a column with its qualifier.
* `columnRefs`: the references of an expression, in visiting order.
* `outermostQueries`: the queries in a tree that no other query of the tree encloses.
* `equalityOperands`: the columns a join predicate compares.
-/

namespace ColumnLineage.Lineage

open Sql

/-- A column as it is referred to. -/
structure ColumnRef where
  /-- The table or alias in front of the name. -/
  qualifier : Option String
  column : String
deriving DecidableEq, Repr

namespace ColumnRef

/-- A column without qualifier. -/
def simple (column : String) : ColumnRef :=
  ⟨none, column⟩

/-- The reference that names with periods between them make: the last is the column, and the one in
front of it the qualifier. -/
def ofNames (names : List Ident) : Option ColumnRef :=
  match names.reverse with
  | [] => none
  | [column] => some (simple column.value)
  | column :: qualifier :: _ => some ⟨some qualifier.value, column.value⟩

/-- The reference that an expression is, if it is one. -/
def ofExpr : Expr → Option ColumnRef
  | .column name => some (simple name.value)
  | .path names => ofNames names
  | _ => none

/-- A reference as it is written. -/
def text (ref : ColumnRef) : String :=
  match ref.qualifier with
  | some qualifier => qualifier ++ "." ++ ref.column
  | none => ref.column

end ColumnRef

/-- The references met in some visits while no query is open; `depth` queries are open in front. -/
def outerColumns : Nat → List Visit → List ColumnRef
  | _, [] => []
  | depth, .enter _ :: more => outerColumns (depth + 1) more
  | depth, .leave :: more => outerColumns (depth - 1) more
  | depth, .expr e :: more =>
    if depth = 0 then (ColumnRef.ofExpr e).toList ++ outerColumns depth more
    else outerColumns depth more
  | depth, .source _ :: more | depth, .relation _ :: more => outerColumns depth more

/-- The queries entered in some visits while no other query is open. -/
def outerQueries : Nat → List Visit → List Query
  | _, [] => []
  | depth, .enter q :: more =>
    if depth = 0 then q :: outerQueries (depth + 1) more else outerQueries (depth + 1) more
  | depth, .leave :: more => outerQueries (depth - 1) more
  | depth, .expr _ :: more | depth, .source _ :: more | depth, .relation _ :: more =>
    outerQueries depth more

/-- The column references of an expression outside its nested queries, in visiting order. -/
def columnRefs (e : Expr) : List ColumnRef :=
  outerColumns 0 e.visits

/-- The queries in some visits that no other query encloses. -/
def outermostQueries (visits : List Visit) : List Query :=
  outerQueries 0 visits

/-- An expression without the parentheses around it. -/
def unwrapped : Expr → Expr
  | .nested inner => unwrapped inner
  | e => e

/-- The number of steps that taking an expression apart at AND, OR and parentheses needs. -/
def splitSize : Expr → Nat
  | .nested inner => splitSize inner + 1
  | .binary left .and right => splitSize left + splitSize right + 1
  | .binary left .or right => splitSize left + splitSize right + 1
  | _ => 1

theorem splitSize_pos (e : Expr) : 0 < splitSize e := by
  fun_cases splitSize e <;> simp

/-- A bound on the steps that take predicates apart. -/
def pendingSize : List Expr → Nat
  | [] => 0
  | e :: pending => splitSize e + pendingSize pending

/-- The columns compared in some predicates that wait to be taken apart, the first one first. -/
def pendingOperands : List Expr → List ColumnRef
  | [] => []
  | .nested inner :: pending => pendingOperands (inner :: pending)
  | .binary left .and right :: pending => pendingOperands (left :: right :: pending)
  | .binary left .or right :: pending => pendingOperands (left :: right :: pending)
  | .binary left .eq right :: pending =>
    (ColumnRef.ofExpr (unwrapped left)).toList ++ (ColumnRef.ofExpr (unwrapped right)).toList ++
      pendingOperands pending
  | _ :: pending => pendingOperands pending
termination_by pending => pendingSize pending
decreasing_by
  all_goals simp [pendingSize, splitSize]
  · omega
  · omega
  · exact splitSize_pos _

/-- The columns that a join predicate compares by equality, below AND, OR and parentheses. -/
def equalityOperands (predicate : Expr) : List ColumnRef :=
  pendingOperands [predicate]

end ColumnLineage.Lineage
