import ColumnLineage.Proofs.Coherence
import ColumnLineage.Service.Batch
import Mathlib.Data.Finset.Card

/-!
# Failures are told

A text that no dialect reads has one row, which says so, and no other text has such a row.  The
answer for many views counts each view once, and it tells of a failure if and only if the query of
some view cannot be read.

## Main definitions

* `Reader.Accepts`, `Reader.Refuses`: what a reader makes of a text.
* `Unreadable`, `ReadsAs`: what becomes of a text with both dialects.
* `Fate`: what becomes of a view.
* `Tells`: what an answer says about the views of a batch.

## Main statements

* `readStatements_eq_ok_iff`, `unreadable_iff`: reading a text with both dialects.
* `tells_runBatch`: what the answer for some views says.
* `failures_told`: failures are told for each text and for each batch.
-/

namespace ColumnLineage.Sql.Reader

variable {r : Reader} {text : String}

/-- A reader finds statements in a text without the blanks around it. -/
def Accepts (r : Reader) (text : String) (statements : List Statement) : Prop :=
  r.parse (Text.trim text) = .ok statements

/-- A reader refuses a text without the blanks around it. -/
def Refuses (r : Reader) (text : String) : Prop :=
  ∃ failure, r.parse (Text.trim text) = .error failure

theorem accepts_or_refuses (r : Reader) (text : String) :
    (∃ statements, r.Accepts text statements) ∨ r.Refuses text := by
  unfold Accepts Refuses
  cases r.parse (Text.trim text) with
  | ok statements => exact Or.inl ⟨statements, rfl⟩
  | error failure => exact Or.inr ⟨failure, rfl⟩

theorem read_of_blank (r : Reader) (h : Text.trim text = "") : r.read text = .error .empty := by
  simp [read, h]

theorem read_of_accepts {statements : List Statement} (hsome : Text.trim text ≠ "")
    (h : r.Accepts text statements) : r.read text = .ok statements := by
  have hparse : r.parse (Text.trim text) = .ok statements := h
  simp [read, hsome, hparse]

theorem read_of_refuses (hsome : Text.trim text ≠ "") (h : r.Refuses text) :
    ∃ complaint, r.read text = .error (.refused r.dialect complaint) := by
  obtain ⟨failure, hparse⟩ := h
  exact ⟨failure.message, by simp [read, hsome, hparse]⟩

end ColumnLineage.Sql.Reader

namespace ColumnLineage.Lineage

open Sql

/-- No dialect reads a text: it is blank, or the first dialect refuses it, and so does the second
one if it is another. -/
inductive Unreadable (o : Options) (text : String) : Prop
  | blank (h : Text.trim text = "")
  | refused (first : o.reader.Refuses text)
    (second : ∀ dialect, o.fallback = some dialect → dialect ≠ o.dialect →
      Reader.Refuses ⟨dialect, readerLimit o.maxDepth⟩ text)

/-- The statements of a text are those of the first dialect, or where it refuses the text those of
the second one. -/
inductive ReadsAs (o : Options) (text : String) (statements : List Statement) : Prop
  | first (hsome : Text.trim text ≠ "") (accepted : o.reader.Accepts text statements)
  | second (dialect : Dialect) (hsome : Text.trim text ≠ "") (refused : o.reader.Refuses text)
    (fallback : o.fallback = some dialect) (other : dialect ≠ o.dialect)
    (accepted : Reader.Accepts ⟨dialect, readerLimit o.maxDepth⟩ text statements)

section Reading

variable {o : Options} {text : String}

/-- A second reader is one of another dialect. -/
theorem Options.secondReader_eq_some_iff {second : Reader} :
    o.secondReader = some second ↔ ∃ dialect, o.fallback = some dialect ∧ dialect ≠ o.dialect ∧
      second = ⟨dialect, readerLimit o.maxDepth⟩ := by
  unfold secondReader
  cases o.fallback with
  | none => simp
  | some dialect =>
    by_cases hsame : dialect = o.dialect
    · simp [hsame]
    · simp [hsame, eq_comm]

theorem ReadsAs.readStatements {statements : List Statement} (h : ReadsAs o text statements) :
    readStatements o text = .ok statements := by
  unfold Lineage.readStatements Reader.readOr
  cases h with
  | first hsome accepted => rw [Reader.read_of_accepts hsome accepted]
  | second dialect hsome refused fallback other accepted =>
    obtain ⟨complaint, hread⟩ := Reader.read_of_refuses hsome refused
    rw [hread, Options.secondReader_eq_some_iff.mpr ⟨dialect, fallback, other, rfl⟩]
    exact Reader.read_of_accepts hsome accepted

theorem Unreadable.readStatements (h : Unreadable o text) :
    ∃ failure, readStatements o text = .error failure := by
  by_cases hblank : Text.trim text = ""
  · refine ⟨.empty, ?_⟩
    unfold Lineage.readStatements Reader.readOr
    rw [Reader.read_of_blank _ hblank]
  cases h with
  | blank h => exact absurd h hblank
  | refused first second =>
    obtain ⟨complaint, hread⟩ := Reader.read_of_refuses hblank first
    unfold Lineage.readStatements Reader.readOr
    rw [hread]
    cases hsecond : o.secondReader with
    | none => exact ⟨_, rfl⟩
    | some reader =>
      obtain ⟨dialect, fallback, other, rfl⟩ := Options.secondReader_eq_some_iff.mp hsecond
      obtain ⟨complaint, hread⟩ := Reader.read_of_refuses hblank (second dialect fallback other)
      exact ⟨_, hread⟩

/-- A text has statements, or no dialect reads it. -/
theorem unreadable_or_readsAs (o : Options) (text : String) :
    Unreadable o text ∨ ∃ statements, ReadsAs o text statements := by
  by_cases hsome : Text.trim text = ""
  · exact Or.inl (.blank hsome)
  rcases o.reader.accepts_or_refuses text with ⟨statements, haccepts⟩ | hrefuses
  · exact Or.inr ⟨statements, .first hsome haccepts⟩
  by_cases hsecond : ∃ dialect, o.fallback = some dialect ∧ dialect ≠ o.dialect ∧
      ∃ statements, Reader.Accepts ⟨dialect, readerLimit o.maxDepth⟩ text statements
  · obtain ⟨dialect, fallback, other, statements, haccepts⟩ := hsecond
    exact Or.inr ⟨statements, .second dialect hsome hrefuses fallback other haccepts⟩
  · refine Or.inl (.refused hrefuses fun dialect fallback other => ?_)
    refine (Reader.accepts_or_refuses _ text).resolve_left fun haccepts => ?_
    exact hsecond ⟨dialect, fallback, other, haccepts⟩

theorem readStatements_eq_ok_iff {statements : List Statement} :
    readStatements o text = .ok statements ↔ ReadsAs o text statements := by
  refine ⟨fun hread => ?_, ReadsAs.readStatements⟩
  rcases unreadable_or_readsAs o text with hnone | ⟨others, hreads⟩
  · obtain ⟨failure, herror⟩ := hnone.readStatements
    simp [hread] at herror
  · have heq := hreads.readStatements
    rw [hread, Except.ok.injEq] at heq
    rwa [heq]

theorem unreadable_iff : Unreadable o text ↔ ∃ failure, readStatements o text = .error failure := by
  refine ⟨Unreadable.readStatements, fun ⟨failure, hread⟩ => ?_⟩
  refine (unreadable_or_readsAs o text).resolve_right fun ⟨statements, hreads⟩ => ?_
  simp [hreads.readStatements] at hread

/-- A text that cannot be read has one row, which says so. -/
theorem extract_of_unreadable (h : Unreadable o text) (tags : Tags) :
    extract o text tags = [.techFailure tags] := by
  obtain ⟨failure, hread⟩ := h.readStatements
  simp [extract, hread]

/-- A text that can be read has the rows of its statements. -/
theorem extract_of_readsAs {statements : List Statement} (h : ReadsAs o text statements)
    (tags : Tags) :
    extract o text tags = deduplicate (statements.flatMap (statementRows tags o.maxDepth)) :=
  extract_of_readStatements h.readStatements tags

/-- No row of a text that can be read says that it cannot. -/
theorem not_techFailure_of_readsAs {statements : List Statement} (h : ReadsAs o text statements)
    {tags : Tags} {row : Row} (hrow : row ∈ extract o text tags) : ¬ row.has .techFailure :=
  (coherent_of_mem_extract h.readStatements hrow).1.read

/-- The rows of a text carry the tags that they are asked for. -/
theorem tags_of_mem_extract {tags : Tags} {row : Row} (hrow : row ∈ extract o text tags) :
    row.tags = tags := by
  rcases unreadable_or_readsAs o text with hnone | ⟨statements, hreads⟩
  · rw [extract_of_unreadable hnone] at hrow
    rw [List.mem_singleton.mp hrow]
    rfl
  · exact (coherent_of_mem_extract hreads.readStatements hrow).1.tagged

/-- The rows of a text are in normal form and no placeholders. -/
theorem plain_of_mem_extract {tags : Tags} {row : Row} (hrow : row ∈ extract o text tags) :
    row.normalized = row ∧ row.isPlaceholderStar = false := by
  rcases unreadable_or_readsAs o text with hnone | ⟨statements, hreads⟩
  · rw [extract_of_unreadable hnone] at hrow
    rw [List.mem_singleton.mp hrow]
    exact ⟨Row.normalized_eq_self (List.nodup_singleton _), rfl⟩
  · have hcoherent := coherent_of_mem_extract hreads.readStatements hrow
    exact ⟨Row.normalized_eq_self hcoherent.1.nodup, hcoherent.2⟩

/-- A text has each of its rows once. -/
theorem nodup_extract (o : Options) (text : String) (tags : Tags) :
    (extract o text tags).Nodup := by
  rcases unreadable_or_readsAs o text with hnone | ⟨statements, hreads⟩
  · rw [extract_of_unreadable hnone]
    exact List.nodup_singleton _
  · rw [extract_of_readsAs hreads]
    exact nodup_deduplicate _

end Reading

end ColumnLineage.Lineage

namespace ColumnLineage.Service

open Lineage Sql

/-- What becomes of a view. -/
inductive Fate where
  | succeeded
  | failed
  | skipped
deriving DecidableEq, Repr

/-- A view has a fate: its query is no SQL, or no dialect reads it, or it has statements. -/
inductive Fares (o : Options) (view : ViewQuery) : Fate → Prop
  | succeeded (sql : (QueryKind.detect view.sql).isSql) {statements : List Statement}
    (reads : ReadsAs o view.sql statements) : Fares o view .succeeded
  | failed (sql : (QueryKind.detect view.sql).isSql) (unreadable : Unreadable o view.sql) :
    Fares o view .failed
  | skipped (other : (QueryKind.detect view.sql).isSql = false) : Fares o view .skipped

/-- The fate of a view. -/
def Fate.ofView (o : Options) (view : ViewQuery) : Fate :=
  if (QueryKind.detect view.sql).isSql then
    if (readStatements o view.sql).toOption.isSome then succeeded else failed
  else skipped

section Fates

variable {o : Options} {view : ViewQuery} {fate : Fate}

theorem fares_ofView (o : Options) (view : ViewQuery) : Fares o view (.ofView o view) := by
  unfold Fate.ofView
  cases hkind : (QueryKind.detect view.sql).isSql with
  | false => exact .skipped hkind
  | true =>
    rcases unreadable_or_readsAs o view.sql with hnone | ⟨statements, hreads⟩
    · obtain ⟨failure, hread⟩ := hnone.readStatements
      simpa [hread, Except.toOption] using Fares.failed hkind hnone
    · simpa [hreads.readStatements, Except.toOption] using Fares.succeeded hkind hreads

/-- A view has one fate. -/
theorem Fares.eq_ofView (h : Fares o view fate) : fate = .ofView o view := by
  unfold Fate.ofView
  cases h with
  | succeeded sql reads => simp [sql, reads.readStatements, Except.toOption]
  | failed sql unreadable =>
    obtain ⟨failure, hread⟩ := unreadable.readStatements
    simp [sql, hread, Except.toOption]
  | skipped other => simp [other]

theorem ofView_eq_failed_iff (o : Options) :
    Fate.ofView o view = .failed ↔ (QueryKind.detect view.sql).isSql ∧ Unreadable o view.sql := by
  constructor
  · intro hfate
    have hfares := fares_ofView o view
    rw [hfate] at hfares
    cases hfares with
    | failed sql unreadable => exact ⟨sql, unreadable⟩
  · rintro ⟨hsql, hnone⟩
    exact (Fares.failed hsql hnone).eq_ofView.symm

/-- A view whose query is SQL is traced. -/
theorem outcome_of_sql (hsql : (QueryKind.detect view.sql).isSql) (request : Request) :
    ViewOutcome.ofView o request view =
      .traced view.viewName (extract o view.sql (request.tagsFor view.viewName)) := by
  simp [ViewOutcome.ofView, hsql]

theorem outcome_of_other (hother : (QueryKind.detect view.sql).isSql = false) (request : Request) :
    ViewOutcome.ofView o request view = .skipped view.viewName := by
  simp [ViewOutcome.ofView, hother]

theorem rows_of_sql (hsql : (QueryKind.detect view.sql).isSql) (request : Request) :
    (ViewOutcome.ofView o request view).rows =
      extract o view.sql (request.tagsFor view.viewName) := by
  rw [outcome_of_sql hsql, ViewOutcome.rows]

theorem rows_of_other (hother : (QueryKind.detect view.sql).isSql = false) (request : Request) :
    (ViewOutcome.ofView o request view).rows = [] := by
  rw [outcome_of_other hother, ViewOutcome.rows]

/-- The rows of a view are in normal form and no placeholders. -/
theorem Fares.plain (h : Fares o view fate) (request : Request) {row : Row}
    (hrow : row ∈ (ViewOutcome.ofView o request view).rows) :
    row.normalized = row ∧ row.isPlaceholderStar = false := by
  cases h with
  | succeeded sql reads =>
    rw [rows_of_sql sql] at hrow
    exact plain_of_mem_extract hrow
  | failed sql unreadable =>
    rw [rows_of_sql sql] at hrow
    exact plain_of_mem_extract hrow
  | skipped other => simp [rows_of_other other] at hrow

/-- The rows of a view that tell of a failure: one if it failed. -/
theorem Fares.failureRows (h : Fares o view fate) (request : Request) :
    (ViewOutcome.ofView o request view).rows.filter (·.has .techFailure) =
      if fate = .failed then [.techFailure (request.tagsFor view.viewName)] else [] := by
  cases h with
  | succeeded sql reads =>
    rw [rows_of_sql sql]
    refine List.filter_eq_nil_iff.mpr fun row hrow => ?_
    exact not_techFailure_of_readsAs reads hrow
  | failed sql unreadable =>
    rw [rows_of_sql sql, extract_of_unreadable unreadable]
    rfl
  | skipped other =>
    rw [rows_of_other other]
    rfl

/-- A view is traced unless it is skipped. -/
theorem Fares.isTraced (h : Fares o view fate) (request : Request) :
    (ViewOutcome.ofView o request view).isTraced = decide (fate ≠ .skipped) := by
  cases h with
  | succeeded sql reads => rw [outcome_of_sql sql]; rfl
  | failed sql unreadable => rw [outcome_of_sql sql]; rfl
  | skipped other => rw [outcome_of_other other]; rfl

theorem Fares.skippedName? (h : Fares o view fate) (request : Request) :
    (ViewOutcome.ofView o request view).skippedName? =
      if fate = .skipped then some view.viewName else none := by
  cases h with
  | succeeded sql reads => rw [outcome_of_sql sql]; rfl
  | failed sql unreadable => rw [outcome_of_sql sql]; rfl
  | skipped other => rw [outcome_of_other other]; rfl

theorem Fares.failedName? (h : Fares o view fate) (request : Request) :
    (ViewOutcome.ofView o request view).failedName? =
      if fate = .failed then some view.viewName else none := by
  cases h with
  | succeeded sql reads =>
    have hnone : isTechFailure (extract o view.sql (request.tagsFor view.viewName)) = false := by
      refine List.any_eq_false.mpr fun row hrow => ?_
      exact not_techFailure_of_readsAs reads hrow
    simp [outcome_of_sql sql, ViewOutcome.failedName?, hnone]
  | failed sql unreadable =>
    rw [outcome_of_sql sql, extract_of_unreadable unreadable]
    rfl
  | skipped other =>
    rw [outcome_of_other other]
    rfl

end Fates

section Batches

variable (o : Options) (request : Request)

/-- The views of a batch that have a fate. -/
def faring (fate : Fate) (views : List ViewQuery) : List ViewQuery :=
  views.filter fun view => Fate.ofView o view = fate

/-- The names of the views of a batch that have a fate. -/
def namesFaring (fate : Fate) (views : List ViewQuery) : List String :=
  (faring o fate views).map (·.viewName)

/-- What a batch counts: each view for its fate. -/
theorem ofOutcomes_ofView (views : List ViewQuery) :
    BatchSummary.ofOutcomes (views.map (ViewOutcome.ofView o request)) =
      { processed := (faring o .succeeded views).length + (faring o .failed views).length
        failed := namesFaring o .failed views
        skipped := namesFaring o .skipped views } := by
  induction views with
  | nil => rfl
  | cons view more ih =>
    have htraced := (fares_ofView o view).isTraced request
    have hfailed := (fares_ofView o view).failedName? request
    have hskipped := (fares_ofView o view).skippedName? request
    simp only [BatchSummary.ofOutcomes, BatchSummary.mk.injEq, namesFaring, faring] at ih ⊢
    obtain ⟨ihTraced, ihFailed, ihSkipped⟩ := ih
    cases hfate : Fate.ofView o view with
    | succeeded =>
      simp [hfate, htraced, hfailed, hskipped, ihTraced, ihFailed, ihSkipped]
      omega
    | failed =>
      simp [hfate, htraced, hfailed, hskipped, ihTraced, ihFailed, ihSkipped]
      omega
    | skipped => simp [hfate, htraced, hfailed, hskipped, ihTraced, ihFailed, ihSkipped]

/-- Each view of a batch has one of the three fates. -/
theorem length_faring (views : List ViewQuery) :
    (faring o .succeeded views).length + (faring o .failed views).length +
      (faring o .skipped views).length = views.length := by
  induction views with
  | nil => rfl
  | cons view more ih =>
    unfold faring at ih ⊢
    cases hfate : Fate.ofView o view <;> simp [hfate] <;> omega

/-- The rows of some views that tell of a failure: one for each view that failed. -/
theorem failureRows_views (views : List ViewQuery) :
    ((views.map (ViewOutcome.ofView o request)).flatMap ViewOutcome.rows).filter
        (·.has .techFailure) =
      (namesFaring o .failed views).map fun name => .techFailure (request.tagsFor name) := by
  rw [List.filter_flatMap, List.flatMap_map]
  -- By the views: the rows of each tell of a failure as its fate says.
  induction views with
  | nil => rfl
  | cons view more ih =>
    have hrows := (fares_ofView o view).failureRows request
    simp only [namesFaring, faring] at ih ⊢
    cases hfate : Fate.ofView o view with
    | succeeded => simpa [hfate, hrows] using ih
    | failed => simpa [hfate, hrows] using ih
    | skipped => simpa [hfate, hrows] using ih

/-- The rows of an answer that tell of a failure: one for each name among the views that failed. -/
theorem failureRows_runBatch (views : List ViewQuery) :
    (runBatch o request views).rows.filter (·.has .techFailure) =
      (namesFaring o .failed views).eraseDups.map fun name =>
        .techFailure (request.tagsFor name) := by
  have hplain : ∀ row ∈ (views.map (ViewOutcome.ofView o request)).flatMap ViewOutcome.rows,
      row.normalized = row ∧ row.isPlaceholderStar = false := by
    intro row hrow
    obtain ⟨outcome, houtcome, hrow⟩ := List.mem_flatMap.mp hrow
    obtain ⟨view, -, rfl⟩ := List.mem_map.mp houtcome
    exact (fares_ofView o view).plain request hrow
  -- The tags of a view tell its name, so that rows of different names are different.
  have hinjective : ∀ name ∈ namesFaring o .failed views, ∀ other ∈ namesFaring o .failed views,
      Row.techFailure (request.tagsFor name) = Row.techFailure (request.tagsFor other) →
        name = other := by
    intro name _ other _ heq
    simpa [Row.techFailure, Request.tagsFor] using heq
  have hrows : (runBatch o request views).rows =
      deduplicate ((views.map (ViewOutcome.ofView o request)).flatMap ViewOutcome.rows) := rfl
  rw [hrows, deduplicate_eq_eraseDups hplain, filter_eraseDups, failureRows_views,
    eraseDups_map hinjective]

/-- Some row of an answer tells of a failure if and only if some view failed. -/
theorem exists_failureRow_iff (views : List ViewQuery) :
    (∃ row ∈ (runBatch o request views).rows, row.has .techFailure) ↔
      namesFaring o .failed views ≠ [] := by
  have hrows := failureRows_runBatch o request views
  constructor
  · rintro ⟨row, hrow, hhas⟩ hnone
    have hmem : row ∈ (runBatch o request views).rows.filter (·.has .techFailure) :=
      List.mem_filter.mpr ⟨hrow, hhas⟩
    simp [hrows, hnone] at hmem
  · intro hsome
    obtain ⟨name, hname⟩ := List.exists_mem_of_ne_nil _ hsome
    have hmem : .techFailure (request.tagsFor name) ∈
        (runBatch o request views).rows.filter (·.has .techFailure) := by
      rw [hrows]
      exact List.mem_map_of_mem (List.mem_eraseDups.mpr hname)
    exact ⟨_, (List.mem_filter.mp hmem).1, (List.mem_filter.mp hmem).2⟩

theorem namesFaring_failed_ne_nil_iff (views : List ViewQuery) :
    namesFaring o .failed views ≠ [] ↔
      ∃ view ∈ views, (QueryKind.detect view.sql).isSql ∧ Unreadable o view.sql := by
  constructor
  · intro hsome
    obtain ⟨name, hname⟩ := List.exists_mem_of_ne_nil _ hsome
    obtain ⟨view, hview, -⟩ := List.mem_map.mp hname
    obtain ⟨hview, hfate⟩ := List.mem_filter.mp hview
    exact ⟨view, hview, (ofView_eq_failed_iff o).mp (of_decide_eq_true hfate)⟩
  · rintro ⟨view, hview, hfailed⟩
    have hfate := decide_eq_true ((ofView_eq_failed_iff o).mpr hfailed)
    exact List.ne_nil_of_mem (List.mem_map_of_mem (List.mem_filter.mpr ⟨hview, hfate⟩))

theorem plural_eq (count : Nat) (one many : String) :
    plural count one many = if count = 1 then one else many := by
  simp [plural]

theorem successMessage_eq (count : Nat) :
    successMessage count = s!"Successfully extracted lineage for {count} SQL " ++
      (if count = 1 then "query" else "queries") := by
  unfold successMessage
  rw [plural_eq]

/-- What an answer says about the views of a batch, each of which is counted for its fate. -/
structure Tells (views : List ViewQuery) (answer : Envelope) : Prop where
  onceEach : (faring o .succeeded views).length + (faring o .failed views).length +
    (faring o .skipped views).length = views.length
  /-- What is subtracted for the message is no more than what it is subtracted from. -/
  within : let summary := BatchSummary.ofOutcomes (views.map (ViewOutcome.ofView o request))
    summary.failed.length ≤ summary.processed ∧
      summary.processed - summary.failed.length = (faring o .succeeded views).length
  message :
    let succeeded := (faring o .succeeded views).length
    let failed := namesFaring o .failed views
    let skipped := namesFaring o .skipped views
    answer.message = s!"Successfully extracted lineage for {succeeded} SQL " ++
      (if succeeded = 1 then "query" else "queries") ++
      (if failed.length = 0 then ""
        else s!"; {failed.length} failed to parse: " ++ ", ".intercalate failed) ++
      (if skipped.length = 0 then ""
        else s!"; skipped {skipped.length} non-SQL " ++
          (if skipped.length = 1 then "view" else "views") ++ ": " ++ ", ".intercalate skipped)
  totalRecords : answer.totalRecords = answer.rows.length
  success : answer.success = false ↔ ∃ row ∈ answer.rows, row.has .techFailure
  failure : (∃ row ∈ answer.rows, row.has .techFailure) ↔
    ∃ view ∈ views, (QueryKind.detect view.sql).isSql ∧ Unreadable o view.sql
  failureRows : answer.rows.countP (·.has .techFailure) =
    (namesFaring o .failed views).toFinset.card

/-- The answer for some views tells what became of them. -/
theorem tells_runBatch (views : List ViewQuery) :
    Tells o request views (runBatch o request views) := by
  have hsummary := ofOutcomes_ofView o request views
  have hsucceeded : (faring o .succeeded views).length + (faring o .failed views).length -
      (namesFaring o .failed views).length = (faring o .succeeded views).length := by
    rw [namesFaring, List.length_map, Nat.add_sub_cancel]
  constructor
  case onceEach => exact length_faring o views
  case within =>
    rw [hsummary]
    refine ⟨?_, hsucceeded⟩
    rw [namesFaring, List.length_map]
    exact Nat.le_add_left _ _
  case message =>
    have hmessage : (runBatch o request views).message =
        (BatchSummary.ofOutcomes (views.map (ViewOutcome.ofView o request))).message := rfl
    rw [hmessage, hsummary, BatchSummary.message, hsucceeded, successMessage_eq]
    simp only [plural_eq, beq_iff_eq]
  case totalRecords => rfl
  case success =>
    have hsuccess : (runBatch o request views).success =
        (BatchSummary.ofOutcomes (views.map (ViewOutcome.ofView o request))).failed.isEmpty := rfl
    rw [exists_failureRow_iff, hsuccess, hsummary, List.isEmpty_eq_false_iff]
  case failure => rw [exists_failureRow_iff, namesFaring_failed_ne_nil_iff]
  case failureRows =>
    -- The rows are as many as the names without repetitions, and so is the set of the names.
    have hnames : (namesFaring o .failed views).toFinset =
        (namesFaring o .failed views).eraseDups.toFinset := by
      ext name
      simp
    rw [List.countP_eq_length_filter, failureRows_runBatch, List.length_map, hnames,
      List.toFinset_card_of_nodup (nodup_eraseDups _)]

end Batches

/-- Failures are told for each text and for each batch.  A text that no dialect reads has one row,
which says so; any other has the rows of its statements, none of which says so.  Each view of a
batch has one fate, and the answer tells of these. -/
theorem failures_told (o : Options) :
    (∀ text tags, Unreadable o text →
      extract o text tags = [⟨⟨"", "", ""⟩, "", "", tags, [.techFailure]⟩]) ∧
    (∀ text tags, ¬ Unreadable o text → ∃ statements, ReadsAs o text statements ∧
      extract o text tags = deduplicate (statements.flatMap (statementRows tags o.maxDepth)) ∧
      ∀ row ∈ extract o text tags, ¬ row.has .techFailure) ∧
    (∀ view fate, Fares o view fate ↔ fate = .ofView o view) ∧
    ∀ request views, Tells o request views (runBatch o request views) := by
  refine ⟨?_, ?_, ?_, tells_runBatch o⟩
  · intro text tags hnone
    exact extract_of_unreadable hnone tags
  · intro text tags hsome
    obtain ⟨statements, hreads⟩ := (unreadable_or_readsAs o text).resolve_left hsome
    exact ⟨statements, hreads, extract_of_readsAs hreads tags,
      fun row hrow => not_techFailure_of_readsAs hreads hrow⟩
  · intro view fate
    refine ⟨Fares.eq_ofView, fun hfate => ?_⟩
    rw [hfate]
    exact fares_ofView o view

end ColumnLineage.Service
