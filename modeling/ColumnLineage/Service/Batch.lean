import ColumnLineage.Service.Envelope
import ColumnLineage.Service.QueryKind
import ColumnLineage.Service.Request
import ColumnLineage.Service.ViewQuery

/-!
# Batches

The queries of many views are traced one after the other, and their rows make up one answer.
Queries that are not SQL are skipped; the answer tells of them and of those that have no lineage.

## Main definitions

* `ViewOutcome`: what became of one view.
* `runBatch`: the answer for some views.
* `runMetadata`: the answer for the views of a document.
* `respondSingle`: the answer for one text.
-/

namespace ColumnLineage.Service

open Json Lineage

/-- What became of a view. -/
inductive ViewOutcome where
  /-- The query is not SQL. -/
  | skipped (viewName : String)
  /-- The query was traced. -/
  | traced (viewName : String) (rows : List Row)

/-- Some row tells of a text without statements. -/
def isTechFailure (rows : List Row) : Bool :=
  rows.any fun row => row.has .techFailure

namespace ViewOutcome

/-- What becomes of a view. -/
def ofView (options : Options) (request : Request) (view : ViewQuery) : ViewOutcome :=
  if (QueryKind.detect view.sql).isSql then
    traced view.viewName (extract options view.sql (request.tagsFor view.viewName))
  else skipped view.viewName

/-- The rows of a view. -/
def rows : ViewOutcome → List Row
  | skipped _ => []
  | traced _ rows => rows

/-- The name of a view that was skipped. -/
def skippedName? : ViewOutcome → Option String
  | skipped name => some name
  | traced .. => none

/-- The name of a view whose query has no statements. -/
def failedName? : ViewOutcome → Option String
  | skipped _ => none
  | traced name rows => if isTechFailure rows then some name else none

/-- The view was traced. -/
def isTraced : ViewOutcome → Bool
  | skipped _ => false
  | traced .. => true

end ViewOutcome

/-- One or more of something. -/
def plural (count : Nat) (one many : String) : String :=
  if count == 1 then one else many

/-- The message about queries that were traced. -/
def successMessage (count : Nat) : String :=
  s!"Successfully extracted lineage for {count} SQL " ++ plural count "query" "queries"

/-- What a batch counts. -/
structure BatchSummary where
  processed : Nat
  failed : List String
  skipped : List String
deriving DecidableEq, Repr

namespace BatchSummary

/-- The counts of some outcomes. -/
def ofOutcomes (outcomes : List ViewOutcome) : BatchSummary where
  processed := outcomes.countP ViewOutcome.isTraced
  failed := outcomes.filterMap ViewOutcome.failedName?
  skipped := outcomes.filterMap ViewOutcome.skippedName?

/-- The message of an answer. -/
def message (s : BatchSummary) : String :=
  let failed := s.failed.length
  let skipped := s.skipped.length
  successMessage (s.processed - failed) ++
    (if failed == 0 then ""
      else s!"; {failed} failed to parse: " ++ ", ".intercalate s.failed) ++
    (if skipped == 0 then ""
      else s!"; skipped {skipped} non-SQL " ++ plural skipped "view" "views" ++ ": " ++
        ", ".intercalate s.skipped)

end BatchSummary

/-- The answer for some views. -/
def runBatch (options : Options) (request : Request) (views : List ViewQuery) : Envelope :=
  let outcomes := views.map (ViewOutcome.ofView options request)
  let summary := BatchSummary.ofOutcomes outcomes
  .of summary.failed.isEmpty summary.message (deduplicate (outcomes.flatMap ViewOutcome.rows))

/-- The answer for the views of a document that a request asks for. -/
def runMetadata (options : Options) (request : Request) (keys : MetadataKeys) (document : Value) :
    Envelope :=
  match request.validate with
  | .error e => .failure e.message
  | .ok () => runBatch options request (findViewQueries keys request.viewFilter document)

/-- The answer for one text. -/
def respondSingle (options : Options) (text : String) (tags : Tags) : Envelope :=
  let rows := extract options text tags
  if isTechFailure rows then .of false s!"Failed to parse SQL for view '{tags.viewName}'" rows
  else .of true (successMessage 1) rows

end ColumnLineage.Service
