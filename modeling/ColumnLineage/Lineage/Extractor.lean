import ColumnLineage.Lineage.Traversal
import ColumnLineage.Sql.Reader

/-!
# Extraction

The lineage of a text: the text is read with one dialect, or with a second one where the first
refuses it, and the rows of its statements are put together.

## Main definitions

* `Options`: the dialects and the bound on depth.
* `extract`: the rows of a text.
* `projectionOfText`: what an expression that stands alone gives out.
-/

namespace ColumnLineage.Lineage

open Sql

/-- How lineage is extracted. -/
structure Options where
  /-- The dialect tried first. -/
  dialect : Dialect := .generic
  /-- The dialect tried where the first one refuses a text. -/
  fallback : Option Dialect := some .spark
  /-- Queries nested more deeply are not traced. -/
  maxDepth : Nat := 10
deriving DecidableEq, Repr, Inhabited

/-- The largest number of units a reader can have. -/
def maxUnits : Nat := Nat.pow 2 64 - 1

/-- The units a reader needs for queries of a depth: two for each level, and some for what the
innermost query holds. -/
def readerLimit (maxDepth : Nat) : Nat :=
  min (min (maxDepth * 2) maxUnits + 6) maxUnits

namespace Options

/-- The reader of the dialect tried first. -/
def reader (o : Options) : Reader :=
  ⟨o.dialect, readerLimit o.maxDepth⟩

/-- The reader of the second dialect; the same dialect is not tried twice. -/
def secondReader (o : Options) : Option Reader :=
  match o.fallback with
  | some dialect => if dialect = o.dialect then none else some ⟨dialect, readerLimit o.maxDepth⟩
  | none => none

end Options

/-- The statements of a text. -/
def readStatements (o : Options) (text : String) : Except ReadFailure (List Statement) :=
  o.reader.readOr o.secondReader text

/-- The lineage of a text; one row tells of a text without statements. -/
def extract (o : Options) (text : String) (tags : Tags) : List Row :=
  match readStatements o text with
  | .ok statements => deduplicate (statements.flatMap (statementRows tags o.maxDepth))
  | .error _ => [.techFailure tags]

/-- What an expression that stands alone gives out.  Nothing is found where the text makes a query of
another form. -/
def projectionOfText (dialect : Dialect) (text : String) :
    Except ReadFailure (Option Projection) := do
  match ← (Reader.ofDialect dialect).read ("SELECT " ++ text) with
  | .query ⟨_, _, .select select, _⟩ :: _ =>
    match select.items with
    | .expr e :: _ => return some (.ofExpr e)
    | .aliased e _ :: _ => return some (.ofExpr e)
    | _ => return none
  | _ => return none

end ColumnLineage.Lineage
