import ColumnLineage.Proofs.Failures

/-!
# A batch is its views

The answer for many views has, for each view, the rows that the view has alone: its rows carry its
name, so that putting the rows of all views together neither merges nor reorders rows of different
views.  A filter on names thus chooses rows of the answer for all views, and changes none.

## Main definitions

* `sqlViews`: the views whose query is SQL.
* `rowsAlone`: the rows that some views have alone, one view after the other.

## Main statements

* `filter_rows_runBatch`: the rows of some names are the answer for the views of these names.
* `runBatch_eq_views`: the answer for some views, view by view.
* `rows_runMetadata_filtered`: the answer for the views that a request lists.
-/

namespace ColumnLineage.Service

open Json Lineage

/-- The views whose query is SQL. -/
def sqlViews (views : List ViewQuery) : List ViewQuery :=
  views.filter fun view => (QueryKind.detect view.sql).isSql

/-- Choosing views by their names and by their queries may be done in either order. -/
theorem sqlViews_filter (p : ViewQuery → Bool) (views : List ViewQuery) :
    sqlViews (views.filter p) = (sqlViews views).filter p := by
  unfold sqlViews
  simp only [List.filter_filter, Bool.and_comm]

section Batches

variable (o : Options) (request : Request)

/-- The rows that some views have alone, one view after the other. -/
def rowsAlone (views : List ViewQuery) : List Row :=
  views.flatMap fun view => extract o view.sql (request.tagsFor view.viewName)

/-- A view that is skipped has no rows. -/
theorem flatMap_rows_outcomes (views : List ViewQuery) :
    (views.map (ViewOutcome.ofView o request)).flatMap ViewOutcome.rows =
      rowsAlone o request (sqlViews views) := by
  unfold rowsAlone sqlViews
  induction views with
  | nil => rfl
  | cons view more ih =>
    rw [List.map_cons, List.flatMap_cons, ih]
    cases hsql : (QueryKind.detect view.sql).isSql with
    | true => simp only [rows_of_sql hsql, List.filter_cons, hsql, if_true, List.flatMap_cons]
    | false => simp only [rows_of_other hsql, List.filter_cons, hsql, Bool.false_eq_true, if_false,
        List.nil_append]

/-- The answer for some views has the rows of those whose query is SQL. -/
theorem rows_runBatch (views : List ViewQuery) :
    (runBatch o request views).rows = deduplicate (rowsAlone o request (sqlViews views)) := by
  have hrows : (runBatch o request views).rows =
      deduplicate ((views.map (ViewOutcome.ofView o request)).flatMap ViewOutcome.rows) := rfl
  rw [hrows, flatMap_rows_outcomes]

/-- Only repetitions are left to remove from rows that were put out already. -/
theorem deduplicate_rowsAlone (views : List ViewQuery) :
    deduplicate (rowsAlone o request views) = (rowsAlone o request views).eraseDups := by
  refine deduplicate_eq_eraseDups fun row hrow => ?_
  obtain ⟨view, -, hrow⟩ := List.mem_flatMap.mp hrow
  exact plain_of_mem_extract hrow

/-- Every row of a view tells the name of the view, so that it is chosen if the view is. -/
theorem filter_rowsAlone (p : String → Bool) (views : List ViewQuery) :
    (rowsAlone o request views).filter (fun row => p row.tags.viewName) =
      rowsAlone o request (views.filter fun view => p view.viewName) := by
  unfold rowsAlone
  rw [List.filter_flatMap]
  induction views with
  | nil => rw [List.filter_nil, List.flatMap_nil, List.flatMap_nil]
  | cons view more ih =>
    have hname : ∀ row ∈ extract o view.sql (request.tagsFor view.viewName),
        p row.tags.viewName = p view.viewName := by
      intro row hrow
      rw [tags_of_mem_extract hrow, Request.tagsFor]
    rw [List.flatMap_cons, ih, List.filter_congr hname]
    cases hp : p view.viewName with
    | true => simp only [List.filter_cons, hp, if_true, List.flatMap_cons, List.filter_true]
    | false => simp only [List.filter_cons, hp, Bool.false_eq_true, if_false, List.filter_false,
        List.nil_append]

/-- The rows of some names in the answer for all views are the answer for the views of these
names. -/
theorem filter_rows_runBatch (p : String → Bool) (views : List ViewQuery) :
    (runBatch o request views).rows.filter (fun row => p row.tags.viewName) =
      (runBatch o request (views.filter fun view => p view.viewName)).rows := by
  rw [rows_runBatch, rows_runBatch, deduplicate_rowsAlone, deduplicate_rowsAlone, filter_eraseDups,
    filter_rowsAlone, sqlViews_filter]

/-- Views of different names share no row. -/
theorem nodup_rowsAlone {views : List ViewQuery} (h : (views.map (·.viewName)).Nodup) :
    (rowsAlone o request views).Nodup := by
  refine List.nodup_flatMap.mpr ⟨fun view _ => nodup_extract o view.sql _, ?_⟩
  refine List.Pairwise.imp ?_ (List.pairwise_map.mp h)
  intro view other hne row hrow hother
  have htags := (tags_of_mem_extract hrow).symm.trans (tags_of_mem_extract hother)
  exact hne (congrArg Tags.viewName htags)

/-- The answer for some views is a success unless one of its rows tells of a failure. -/
theorem success_runBatch (views : List ViewQuery) :
    (runBatch o request views).success = !isTechFailure (runBatch o request views).rows := by
  have hiff : (runBatch o request views).success = false ↔
      isTechFailure (runBatch o request views).rows = true := by
    rw [(tells_runBatch o request views).success, isTechFailure, List.any_eq_true]
  generalize isTechFailure (runBatch o request views).rows = failed at hiff ⊢
  cases failed <;> simpa using hiff

/-- The answer for one text has the rows of the text, and it is a success unless one of them tells
of a failure. -/
theorem respondSingle_eq (text : String) (tags : Tags) :
    (respondSingle o text tags).success = !isTechFailure (extract o text tags) ∧
      (respondSingle o text tags).totalRecords = (extract o text tags).length ∧
      (respondSingle o text tags).rows = extract o text tags := by
  unfold respondSingle
  generalize extract o text tags = rows
  cases hfailed : isTechFailure rows with
  | true => simp [Envelope.of, hfailed]
  | false => simp [Envelope.of, hfailed]

/-- The answer for some views, view by view: the rows of a name are those of the views of this name
put together; where no name is repeated, all rows are those of the single views, one view after the
other; and a view alone has the answer that its text has. -/
theorem runBatch_eq_views (views : List ViewQuery) :
    (∀ name, (runBatch o request views).rows.filter (fun row => row.tags.viewName = name) =
      deduplicate (((sqlViews views).filter fun view => view.viewName = name).flatMap fun view =>
        extract o view.sql (request.tagsFor name))) ∧
    (((sqlViews views).map (·.viewName)).Nodup → (runBatch o request views).rows =
      (sqlViews views).flatMap fun view =>
        extract o view.sql (request.tagsFor view.viewName)) ∧
    ∀ view, sqlViews views = [view] →
      (runBatch o request views).success =
          (respondSingle o view.sql (request.tagsFor view.viewName)).success ∧
        (runBatch o request views).totalRecords =
          (respondSingle o view.sql (request.tagsFor view.viewName)).totalRecords ∧
        (runBatch o request views).rows =
          (respondSingle o view.sql (request.tagsFor view.viewName)).rows := by
  refine ⟨fun name => ?_, fun hdistinct => ?_, fun view hone => ?_⟩
  · have hnamed : rowsAlone o request ((sqlViews views).filter fun view => view.viewName = name) =
        ((sqlViews views).filter fun view => view.viewName = name).flatMap fun view =>
          extract o view.sql (request.tagsFor name) := by
      refine List.flatMap_congr fun view hview => ?_
      rw [of_decide_eq_true (List.mem_filter.mp hview).2]
    have hfilter := filter_rows_runBatch o request (fun other => decide (other = name)) views
    rw [hfilter, rows_runBatch, sqlViews_filter, hnamed]
  · rw [rows_runBatch, deduplicate_rowsAlone,
      eraseDups_eq_self (nodup_rowsAlone o request hdistinct), rowsAlone]
  · have hrows : (runBatch o request views).rows =
        extract o view.sql (request.tagsFor view.viewName) := by
      rw [rows_runBatch, hone, deduplicate_rowsAlone, rowsAlone, List.flatMap_singleton,
        eraseDups_eq_self (nodup_extract o view.sql _)]
    have htotal := (tells_runBatch o request views).totalRecords
    obtain ⟨hsuccess, hlength, halone⟩ :=
      respondSingle_eq o view.sql (request.tagsFor view.viewName)
    rw [success_runBatch, htotal, hrows, hsuccess, hlength, halone]
    exact ⟨rfl, rfl, rfl⟩

/-- What a batch does depends on what is written on its rows, and not on the views that are asked
for. -/
theorem runBatch_viewNames (names : List String) (views : List ViewQuery) :
    runBatch o { request with viewNames := names } views = runBatch o request views :=
  rfl

end Batches

/-- Two views of different names, between them a view whose query is no SQL. -/
def viewsOfTwoNames : List ViewQuery :=
  [⟨"a", "SELECT x FROM db.t"⟩, ⟨"a", "db.t.find()"⟩, ⟨"b", "SELECT FROM"⟩]

/-- The names are distinct once the view that is skipped is left out, and of the first two views only
one has lineage. -/
theorem runBatch_eq_views_viewsOfTwoNames :
    ((sqlViews viewsOfTwoNames).map (·.viewName)).Nodup ∧
      (runBatch {} {} viewsOfTwoNames).rows =
        ((sqlViews viewsOfTwoNames).flatMap fun view =>
          extract {} view.sql (({} : Request).tagsFor view.viewName)) ∧
      sqlViews (viewsOfTwoNames.take 2) = [⟨"a", "SELECT x FROM db.t"⟩] ∧
      (runBatch {} {} (viewsOfTwoNames.take 2)).rows =
        (respondSingle {} "SELECT x FROM db.t" (({} : Request).tagsFor "a")).rows := by
  have hdistinct : ((sqlViews viewsOfTwoNames).map (·.viewName)).Nodup := by decide +kernel
  have hone : sqlViews (viewsOfTwoNames.take 2) = [⟨"a", "SELECT x FROM db.t"⟩] := by
    decide +kernel
  obtain ⟨-, halone, -⟩ := runBatch_eq_views {} {} viewsOfTwoNames
  obtain ⟨-, -, hsingle⟩ := runBatch_eq_views {} {} (viewsOfTwoNames.take 2)
  exact ⟨hdistinct, halone hdistinct, hone, (hsingle _ hone).2.2⟩

/-- A filter chooses views by their names. -/
theorem findViewQueries_of_filter (keys : MetadataKeys) {filter : List String} (h : filter ≠ [])
    (document : Value) : findViewQueries keys filter document =
      (findViewQueries keys [] document).filter fun view => filter.contains view.viewName := by
  unfold findViewQueries
  rw [if_neg (by simpa using h), if_pos List.isEmpty_nil]

/-- The views that a request lists have the same rows, in the same order, as in the answer for all
views. -/
theorem rows_runMetadata_filtered (o : Options) (request : Request) (names : List String)
    (keys : MetadataKeys) (document : Value) (hlisted : request.viewFilter ≠ [])
    (hall : ({ request with viewNames := names } : Request).viewFilter = []) :
    (runMetadata o request keys document).rows =
      (runMetadata o { request with viewNames := names } keys document).rows.filter fun row =>
        row.tags.viewName ∈ request.viewFilter := by
  have hvalid : ({ request with viewNames := names } : Request).validate = request.validate := rfl
  unfold runMetadata
  rw [hvalid]
  cases request.validate with
  | error failure => rfl
  | ok _ =>
    have hfilter := filter_rows_runBatch o request
      (fun name => decide (name ∈ request.viewFilter)) (findViewQueries keys [] document)
    simp only [hall, runBatch_viewNames, hfilter, findViewQueries_of_filter keys hlisted,
      List.contains_eq_mem]

/-- A document in which several views have one name.  Another one, inside a list, has a query that cannot
be read, and the last one has a query that is no SQL. -/
def documentOfViews : Value :=
  .object
    [("first", .object [("view_name", .string " a "), ("sql_query", .string "SELECT x FROM db.t")]),
      ("more", .array
        [.object [("view_name", .string "b"), ("sql_query", .string "SELECT FROM")],
          .object [("view_name", .string "a"), ("sql_query", .string "SELECT x, y FROM db.t")]]),
      ("last", .object [("view_name", .string "a"), ("sql_query", .string "db.t.find()")])]

/-- A request for the views of one name. -/
def requestOfFirst : Request where
  regulation := "r"
  viewNames := ["", "a ", " "]

theorem rows_runMetadata_documentOfViews :
    requestOfFirst.viewFilter ≠ [] ∧
      ({ requestOfFirst with viewNames := [" "] } : Request).viewFilter = [] ∧
      (runMetadata {} requestOfFirst {} documentOfViews).rows =
        (runMetadata {} { requestOfFirst with viewNames := [" "] } {} documentOfViews).rows.filter
          fun row => row.tags.viewName ∈ requestOfFirst.viewFilter := by
  have hlisted : requestOfFirst.viewFilter ≠ [] := by decide +kernel
  have hall : ({ requestOfFirst with viewNames := [" "] } : Request).viewFilter = [] := by
    decide +kernel
  exact ⟨hlisted, hall,
    rows_runMetadata_filtered {} requestOfFirst [" "] {} documentOfViews hlisted hall⟩

end ColumnLineage.Service
