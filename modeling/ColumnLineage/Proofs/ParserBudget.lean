import ColumnLineage.Proofs.Failures
import ColumnLineage.Proofs.WrappedQueries

/-!
# The budget of the parser and the bound on depth

Queries are traced down to a depth, and the reader is given units for texts of this depth.  The two
bounds are told apart by nested queries over one table: down to the depth, the reader finds all of
them and each has its row; one level deeper the reader still finds them, but the innermost one is
not traced any more; even deeper the reader refuses the text.

## Main definitions

* `wrappedRow`: the row of a query whose source has an alias and stands for the table.

## Main statements

* `statementRows_wrapped`: the rows of a wrapped query, one for each of the outermost levels.
* `extract_wrapped`: the rows of a wrapped text.
* `innermost_traced`: the innermost query is traced down to the depth, and never below it.
-/

namespace ColumnLineage.Sql

theorem Query.visits_columnFrom (source : Source) : (Query.columnFrom source).visits =
    .enter (.columnFrom source) :: .expr (.column (.bare "a")) :: (source.visits ++ [.leave]) := by
  rw [columnFrom, Select.columnFrom, visits_ofBody, Body.visits, Select.visits_plain]
  simp [visitItems, SelectItem.visits, Expr.visits, visitOptional]

theorem Source.visits_labelled (q : Query) (label : String) :
    (Source.labelled q label).visits = .source (.labelled q label) :: q.visits := by
  simp [labelled, visits, visitNodes]

/-- A wrapped text is larger than the number of units that it needs. -/
theorem unitsFor_le_utf8ByteSize (labels : List String) :
    unitsFor labels ≤ (wrapped labels).utf8ByteSize := by
  induction labels with
  | nil => decide
  | cons label inner ih =>
    have happend (a b c d : String) : (a ++ b ++ c ++ d).utf8ByteSize =
        a.utf8ByteSize + b.utf8ByteSize + c.utf8ByteSize + d.utf8ByteSize := by
      simp only [String.utf8ByteSize_append]
    have hsize : (wrapped (label :: inner)).utf8ByteSize =
        15 + (wrapped inner).utf8ByteSize + 2 + label.utf8ByteSize := happend _ _ _ _
    rw [hsize]
    simp only [unitsFor, List.length_cons] at ih ⊢
    omega

theorem Reader.parse_wrapped (r : Reader) {labels : List String}
    (hlabels : ∀ label ∈ labels, IsAlias label) : r.parse (Text.trim (wrapped labels)) =
      if unitsFor labels ≤ r.limit then .ok [.query (wrappedQuery labels)]
      else .error .budget := by
  rw [trim_wrapped hlabels, parse, ofText_wrapped hlabels]
  exact parseStatements_wrapped hlabels _ _

end ColumnLineage.Sql

namespace ColumnLineage.Lineage

open Sql

/-- The row of a query that selects the column of a source with an alias, or without one where the
alias is empty, behind which the table stands. -/
def wrappedRow (tags : Tags) (label : String) : Row :=
  ⟨⟨"db", "t", label⟩, "a", "", tags, [.columnSelectedWithDatabase]⟩

section Traversal

theorem ofVisits_wrappedQuery (labels : List String) (c : CteCatalog) :
    (wrappedQuery labels).visits.foldl CteCatalog.ofVisit c = c := by
  induction labels with
  | nil => rfl
  | cons label inner ih =>
    rw [wrappedQuery, Query.visits_columnFrom, Source.visits_labelled]
    simp [List.foldl_append, CteCatalog.ofVisit, ih, Query.columnFrom, Query.ofBody]

theorem relationKeys_wrappedQuery (labels : List String) :
    relationKeys (wrappedQuery labels).visits = [⟨"db", "t"⟩] := by
  have htables : (wrappedQuery labels).visits.filterMap Visit.table? = [⟨"db", "t"⟩] := by
    induction labels with
    | nil => rfl
    | cons label inner ih =>
      rw [wrappedQuery, Query.visits_columnFrom, Source.visits_labelled]
      simp [List.filterMap_cons, Visit.table?, ih]
  rw [relationKeys, htables]
  rfl

theorem singleBase_wrappedQuery (labels : List String) :
    CteCatalog.singleBase ⟨[]⟩ (wrappedQuery labels) = some ⟨"db", "t"⟩ := by
  rw [CteCatalog.singleBase, CteCatalog.baseTables, relationKeys_wrappedQuery]
  rfl

variable (tags : Tags) (outer : Scope)

/-- A SELECT over a source behind which the table stands has one row. -/
theorem rows_columnFrom {source : Source} {name : String} {kind : SourceKind} {label : String}
    (hentry : sourceEntry ⟨[]⟩ source = some (name, ⟨kind, some ⟨"db", "t"⟩, label⟩))
    (hflat : Scope.flatSources source = [source])
    (hjoins : ∀ scopes, sourceJoinRows tags ⟨[]⟩ scopes source = []) (enclosing : Option String) :
    SelectSite.rows tags ⟨[]⟩ outer ⟨.columnFrom source, enclosing, false⟩ =
      [wrappedRow tags label] := by
  let scopes : Scopes := ⟨.ofSelect ⟨[]⟩ (.columnFrom source), outer⟩
  have hsole : scopes.inner.sole = some ⟨kind, some ⟨"db", "t"⟩, label⟩ := by
    have hitems : ((Select.columnFrom source).sources.flatMap Scope.flatTree).filterMap
        (sourceEntry ⟨[]⟩) = [(name, ⟨kind, some ⟨"db", "t"⟩, label⟩)] := by
      simp [Select.columnFrom, Select.plain, Scope.flatTree, Scope.flatJoins, hflat, hentry]
    change (Scope.ofSelect ⟨[]⟩ (.columnFrom source)).sole = _
    rw [Scope.ofSelect, hitems]
    rfl
  have hitem : projectionRows tags scopes enclosing (.ofItem (.expr (.column (.bare "a")))) =
      [wrappedRow tags label] := by
    change [columnRow tags scopes enclosing "" (.simple "a")] = _
    rw [columnRow, projectionResolution_of_sole hsole enclosing rfl]
    rfl
  have htree : treeJoinRows tags ⟨[]⟩ scopes ⟨source, []⟩ = [] := by
    rw [treeJoinRows, hjoins, joinsRows, List.append_nil]
  -- The SELECT has one item, no clauses and one source without joins.
  change projectionRows tags scopes enclosing (.ofItem (.expr (.column (.bare "a")))) ++ [] ++ [] ++
    (treeJoinRows tags ⟨[]⟩ scopes ⟨source, []⟩ ++ []) = _
  rw [hitem, htree]
  rfl

/-- The rows of a wrapped query down to a number of levels: the source of each level stands for the
table, that of the innermost level without an alias. -/
theorem rows_wrappedQuery (labels : List String) (levels : Nat) (enclosing : Option String) :
    (sitesWithin levels ⟨wrappedQuery labels, enclosing, false⟩).flatMap
        (·.rows tags ⟨[]⟩ outer) = ((labels ++ [""]).take levels).map (wrappedRow tags) := by
  induction levels generalizing labels enclosing with
  | zero => rfl
  | succ levels ih =>
    cases labels with
    | nil =>
      have hsites : sitesWithin (levels + 1) ⟨wrappedQuery [], enclosing, false⟩ =
          [⟨.columnFrom (.bare ["db", "t"]), enclosing, false⟩] := rfl
      have hentry : sourceEntry ⟨[]⟩ (.bare ["db", "t"]) =
          some ("t", ⟨.table, some ⟨"db", "t"⟩, ""⟩) := rfl
      have hrows := rows_columnFrom tags outer hentry rfl (fun _ => rfl) enclosing
      rw [hsites, List.flatMap_singleton, hrows, List.nil_append, List.take_succ_cons,
        List.take_nil]
      rfl
    | cons label inner =>
      have hsites : sitesWithin (levels + 1) ⟨wrappedQuery (label :: inner), enclosing, false⟩ =
          ⟨.columnFrom (.labelled (wrappedQuery inner) label), enclosing, false⟩ ::
            sitesWithin levels ⟨wrappedQuery inner, some label, false⟩ := by
        rw [wrappedQuery, Query.columnFrom, Query.ofBody, sitesWithin, bodySites,
          List.flatMap_nil, List.append_nil]
        exact congrArg _ (List.append_nil _)
      have hentry : sourceEntry ⟨[]⟩ (.labelled (wrappedQuery inner) label) =
          some (label, ⟨.subquery, some ⟨"db", "t"⟩, label⟩) := by
        rw [← singleBase_wrappedQuery inner]
        rfl
      have hrows := rows_columnFrom tags outer hentry rfl (fun _ => rfl) enclosing
      rw [hsites, List.flatMap_cons, hrows, ih]
      rfl

/-- The rows of a wrapped query, one for each level that is traced. -/
theorem statementRows_wrapped (maxDepth : Nat) (labels : List String) :
    statementRows tags maxDepth (.query (wrappedQuery labels)) =
      ((labels ++ [""]).take (maxDepth + 1)).map (wrappedRow tags) := by
  have hcatalog : CteCatalog.ofStatement (.query (wrappedQuery labels)) = ⟨[]⟩ :=
    ofVisits_wrappedQuery labels ⟨[]⟩
  have hdatasets : datasetRows tags ⟨[]⟩ (wrappedQuery labels) = [] := by
    cases labels <;> rfl
  rw [statementRows, hcatalog, statementQueries, List.flatMap_singleton, queryRows, hdatasets,
    List.nil_append]
  exact rows_wrappedQuery tags _ labels (maxDepth + 1) none

end Traversal

section Units

variable {labels : List String} {maxDepth : Nat}

/-- The units of a reader suffice for texts one level deeper than what is traced.  A text that needs
more units than there can be has more bytes than there can be. -/
theorem unitsFor_le_readerLimit (hdepth : labels.length ≤ maxDepth + 1)
    (hsize : (wrapped labels).utf8ByteSize ≤ maxUnits) :
    unitsFor labels ≤ readerLimit maxDepth := by
  have hunits := unitsFor_le_utf8ByteSize labels
  simp only [readerLimit, unitsFor] at hunits ⊢
  omega

theorem readerLimit_lt_unitsFor (hdepth : maxDepth + 1 < labels.length) :
    readerLimit maxDepth < unitsFor labels := by
  simp only [readerLimit, unitsFor]
  omega

end Units

section Texts

variable (o : Options) (tags : Tags) {labels : List String}
  (hlabels : ∀ label ∈ labels, IsAlias label)

include hlabels

/-- The rows of a wrapped text: one for each level that is traced, if the reader has the units for
it. -/
theorem extract_wrapped : extract o (wrapped labels) tags =
    if unitsFor labels ≤ readerLimit o.maxDepth then
      deduplicate (((labels ++ [""]).take (o.maxDepth + 1)).map (wrappedRow tags))
    else [.techFailure tags] := by
  have hparse (dialect : Dialect) :=
    Reader.parse_wrapped ⟨dialect, readerLimit o.maxDepth⟩ hlabels
  by_cases hunits : unitsFor labels ≤ readerLimit o.maxDepth
  · have hsome : Text.trim (wrapped labels) ≠ "" := by
      intro hblank
      have hfirst := (ends_wrapped hlabels).1
      rw [← trim_wrapped hlabels, hblank] at hfirst
      contradiction
    have hreads : ReadsAs o (wrapped labels) [.query (wrappedQuery labels)] :=
      .first hsome ((hparse o.dialect).trans (if_pos hunits))
    rw [if_pos hunits, extract_of_readsAs hreads, List.flatMap_singleton, statementRows_wrapped]
  · have hrefuses (dialect : Dialect) :
        Reader.Refuses ⟨dialect, readerLimit o.maxDepth⟩ (wrapped labels) :=
      ⟨.budget, (hparse dialect).trans (if_neg hunits)⟩
    rw [if_neg hunits]
    exact extract_of_unreadable (.refused (hrefuses o.dialect) fun dialect _ _ => hrefuses dialect)
      tags

/-- The rows of a wrapped text that a reader has the units for. -/
theorem mem_extract_wrapped (hunits : unitsFor labels ≤ readerLimit o.maxDepth) {row : Row} :
    row ∈ extract o (wrapped labels) tags ↔
      ∃ label ∈ (labels ++ [""]).take (o.maxDepth + 1), wrappedRow tags label = row := by
  have hplain : ∀ row ∈ ((labels ++ [""]).take (o.maxDepth + 1)).map (wrappedRow tags),
      row.normalized = row ∧ row.isPlaceholderStar = false := by
    intro row hrow
    obtain ⟨label, -, rfl⟩ := List.mem_map.mp hrow
    exact ⟨Row.normalized_eq_self (List.nodup_singleton _), rfl⟩
  rw [extract_wrapped o tags hlabels, if_pos hunits, deduplicate_eq_eraseDups hplain,
    List.mem_eraseDups, List.mem_map]

end Texts

/-- The budget of the parser fits the bound on depth, in all dialects: down to the bound a nested
query over one table is read, and the innermost query has its row.  One level deeper the text is
still read, and each query but the innermost one has its row; even deeper the text is refused.  So
no text nested below the bound has the row of its innermost query. -/
theorem innermost_traced (o : Options) (tags : Tags) {labels : List String}
    (hlabels : ∀ label ∈ labels, IsAlias label) :
    (labels.length ≤ o.maxDepth → (wrapped labels).utf8ByteSize ≤ maxUnits →
      (∀ row ∈ extract o (wrapped labels) tags, ¬ row.has .techFailure) ∧
        (⟨⟨"db", "t", ""⟩, "a", "", tags, [.columnSelectedWithDatabase]⟩ : Row) ∈
          extract o (wrapped labels) tags) ∧
    (o.maxDepth < labels.length →
      ∀ row ∈ extract o (wrapped labels) tags, row.source ≠ ⟨"db", "t", ""⟩) ∧
    (labels.length = o.maxDepth + 1 → (wrapped labels).utf8ByteSize ≤ maxUnits →
      ∀ row, row ∈ extract o (wrapped labels) tags ↔ row ∈ labels.map (wrappedRow tags)) ∧
    (o.maxDepth + 1 < labels.length → extract o (wrapped labels) tags = [.techFailure tags]) := by
  -- Below the bound no level is taken but those with an alias.
  have htake (hdepth : o.maxDepth < labels.length) :
      (labels ++ [""]).take (o.maxDepth + 1) = labels.take (o.maxDepth + 1) :=
    List.take_append_of_le_length hdepth
  have hrefused (hunits : ¬ unitsFor labels ≤ readerLimit o.maxDepth) :
      extract o (wrapped labels) tags = [.techFailure tags] :=
    (extract_wrapped o tags hlabels).trans (if_neg hunits)
  refine ⟨fun hdepth hsize => ?within, fun hdepth row hrow => ?below, fun hdepth hsize row => ?next,
    fun hdepth => hrefused (Nat.not_le_of_lt (readerLimit_lt_unitsFor hdepth))⟩
  case within =>
    have hunits := unitsFor_le_readerLimit (Nat.le_succ_of_le hdepth) hsize
    have hall : (labels ++ [""]).take (o.maxDepth + 1) = labels ++ [""] :=
      List.take_of_length_le (by simpa using hdepth)
    refine ⟨fun row hrow => ?_, ?_⟩
    · obtain ⟨label, -, rfl⟩ := (mem_extract_wrapped o tags hlabels hunits).mp hrow
      exact Bool.false_ne_true
    · refine (mem_extract_wrapped o tags hlabels hunits).mpr ⟨"", ?_, rfl⟩
      rw [hall]
      exact List.mem_append_right _ (List.mem_singleton_self _)
  case below =>
    by_cases hunits : unitsFor labels ≤ readerLimit o.maxDepth
    · obtain ⟨label, hlabel, rfl⟩ := (mem_extract_wrapped o tags hlabels hunits).mp hrow
      rw [htake hdepth] at hlabel
      have halias := hlabels label (List.mem_of_mem_take hlabel)
      exact fun hsource => halias.toIsName.ne_empty (RowSource.mk.inj hsource).2.2
    · rw [hrefused hunits] at hrow
      rw [List.mem_singleton.mp hrow]
      simp [Row.techFailure]
  case next =>
    have hunits := unitsFor_le_readerLimit hdepth.le hsize
    rw [mem_extract_wrapped o tags hlabels hunits, htake (by omega), ← hdepth, List.take_length,
      List.mem_map]

/-- The generic dialect with a bound of two levels. -/
def twoLevels : Options := { maxDepth := 2 }

theorem innermost_traced_twoLevels :
    ((∀ row ∈ extract twoLevels (wrapped (numbered 2)) default, ¬ row.has .techFailure) ∧
      (⟨⟨"db", "t", ""⟩, "a", "", default, [.columnSelectedWithDatabase]⟩ : Row) ∈
        extract twoLevels (wrapped (numbered 2)) default) ∧
    (∀ row ∈ extract twoLevels (wrapped (numbered 3)) default, row.source ≠ ⟨"db", "t", ""⟩) ∧
    (∀ row, row ∈ extract twoLevels (wrapped (numbered 3)) default ↔
      row ∈ (numbered 3).map (wrappedRow default)) ∧
    extract twoLevels (wrapped (numbered 4)) default = [.techFailure default] := by
  have hlabels (n : Nat) : ∀ label ∈ numbered n, IsAlias label := fun _ => isAlias_of_mem_numbered
  have htwoSize : (wrapped (numbered 2)).utf8ByteSize ≤ maxUnits := by decide
  have hthreeSize : (wrapped (numbered 3)).utf8ByteSize ≤ maxUnits := by decide
  have htwo := innermost_traced twoLevels default (hlabels 2)
  have hthree := innermost_traced twoLevels default (hlabels 3)
  have hfour := innermost_traced twoLevels default (hlabels 4)
  rw [length_numbered] at htwo hthree hfour
  exact ⟨htwo.1 (by decide) htwoSize, hthree.2.1 (by decide), hthree.2.2.1 rfl hthreeSize,
    hfour.2.2.2 (by decide)⟩

end ColumnLineage.Lineage
