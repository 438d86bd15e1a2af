import ColumnLineage.Lineage.ColumnRef
import ColumnLineage.Sql.Written

/-!
# Projections

What a query gives out: all columns, one column, an expression that reads columns, or something
that reads none.

## Main definitions

* `Projection`: what an item of a select list is.
* `Projection.ofExpr`, `ClassifiedItem.ofItem`: the classification.
-/

namespace ColumnLineage.Lineage

open Sql

/-- What an item of a select list is. -/
inductive Projection where
  /-- All columns, or all columns of one source. -/
  | star (qualifier : Option String)
  | column (ref : ColumnRef)
  /-- A CASE expression with the columns it reads. -/
  | case (refs : List ColumnRef)
  /-- Another expression with the columns it reads. -/
  | derived (refs : List ColumnRef)
  /-- A call that reads no columns, by its written form. -/
  | functionOnly (text : String)
  /-- An expression that reads no columns. -/
  | literal
deriving DecidableEq, Repr

/-- An item of a select list with its alias. -/
structure ClassifiedItem where
  projection : Projection
  label : Option String
deriving DecidableEq, Repr

/-- An expression is written like a call. -/
def isFunctionLike : Expr → Bool
  | .call .. => true
  | .phrase .functionLike _ _ => true
  | _ => false

/-- An expression is a CASE. -/
def isCase : Expr → Bool
  | .phrase .case _ _ => true
  | _ => false

namespace Projection

/-- The projection of an expression. -/
def ofExpr (e : Expr) : Projection :=
  let e := unwrapped e
  match ColumnRef.ofExpr e with
  | some ref => column ref
  | none =>
    match columnRefs e with
    | [] => if isFunctionLike e then functionOnly e.text else literal
    | refs => if isCase e then case refs else derived refs

/-- The projection of a star with a name in front; an empty name is none. -/
def starOf (qualifier : String) : Projection :=
  star (if qualifier.isEmpty then none else some qualifier)

end Projection

/-- The classification of an item of a select list. -/
def ClassifiedItem.ofItem : SelectItem → ClassifiedItem
  | .star _ => ⟨.star none, none⟩
  | .qualifiedStar name _ => ⟨.starOf (name.values.getLastD ""), none⟩
  | .exprStar e _ => ⟨.starOf e.text, none⟩
  | .expr e => ⟨.ofExpr e, none⟩
  | .aliased e label => ⟨.ofExpr e, some label.value⟩

end ColumnLineage.Lineage
