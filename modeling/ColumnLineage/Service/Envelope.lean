import ColumnLineage.Lineage.Wire

/-!
# Envelopes

An answer carries its rows together with their number, a message, and whether all went well.

## Main definitions

* `Envelope`: an answer.
* `Envelope.of`, `Envelope.failure`: answers with rows and without.
-/

namespace ColumnLineage.Service

open Json Lineage

/-- An answer. -/
structure Envelope where
  success : Bool
  message : String
  totalRecords : Nat
  rows : List Row
deriving DecidableEq, Repr

namespace Envelope

/-- An answer with some rows. -/
def of (success : Bool) (message : String) (rows : List Row) : Envelope :=
  ⟨success, message, rows.length, rows⟩

/-- An answer that has only a complaint. -/
def failure (message : String) : Envelope :=
  of false message []

/-- The object of an answer. -/
def toJson (e : Envelope) : Value :=
  .object
    [("success", .boolean e.success),
      ("message", .string e.message),
      ("total_records", .integer e.totalRecords),
      ("lineage_data", .array (e.rows.map Row.toJson))]

end Envelope

end ColumnLineage.Service
