import ColumnLineage.Proofs.Bases
import ColumnLineage.Proofs.Output
import ColumnLineage.Proofs.Reach

/-!
# Whole datasets

A query whose branches give out all columns of a subquery tells of the subqueries first, one row for
each such branch, before the rows of any site.

## Main definitions

* `Leaves`: the branches of a body.
* `WholeOf`: a SELECT gives out all columns of a subquery and does nothing else.
* `TellsDataset`: what the row of a whole dataset says.
* `DatasetsFirst`: the rows of a query begin with those of its whole datasets.

## Main statements

* `leaves_iff`: the branches of a body are the SELECTs whose rows it gives out.
* `wholeOf_iff`: a SELECT of this kind is recognised.
* `tellsDataset_datasetRow`: the row has the only table to which the subquery leads.
* `datasetsFirst_query`: whole datasets come first, once for each branch.
-/

namespace ColumnLineage.Lineage

open Sql

section Branches

/-- The branches of a body: the SELECTs at the leaves of its set operators and parentheses, from
left to right. -/
inductive Leaves : Body → List Select → Prop
  | select (s : Select) : Leaves (.select s) [s]
  | query {q : Query} {found : List Select} (h : Leaves q.body found) : Leaves (.query q) found
  | combined {left right : Body} {op : String} {front back : List Select}
    (hleft : Leaves left front) (hright : Leaves right back) :
    Leaves (.combined left op right) (front ++ back)
  | other (layout : Layout) (parts : List Node) : Leaves (.other layout parts) []

mutual

theorem leaves_outermostSelects : ∀ q : Query, Leaves q.body (outermostSelects q)
  | ⟨_, _, body, _⟩ => leaves_outermostSelectsOf body

theorem leaves_outermostSelectsOf : ∀ body : Body, Leaves body (outermostSelectsOf body)
  | .select s => .select s
  | .query q => .query (leaves_outermostSelects q)
  | .combined left _ right =>
    .combined (leaves_outermostSelectsOf left) (leaves_outermostSelectsOf right)
  | .other layout parts => .other layout parts

end

theorem outermostSelects_eq (q : Query) : outermostSelects q = outermostSelectsOf q.body := by
  cases q with
  | mk => rfl

/-- The SELECTs whose rows a body gives out are its branches. -/
theorem leaves_iff {body : Body} {found : List Select} :
    Leaves body found ↔ found = outermostSelectsOf body := by
  constructor
  · intro h
    induction h with
    | select s => rfl
    | query _ ih => rw [ih, outermostSelectsOf, outermostSelects_eq]
    | combined _ _ ihleft ihright => rw [ihleft, ihright, outermostSelectsOf]
    | other layout parts => rfl
  · rintro rfl
    exact leaves_outermostSelectsOf body

end Branches

section Rows

/-- A SELECT gives out all columns of a subquery with an alias and does nothing else. -/
def WholeOf (select : Select) (inner : Query) (name : String) : Prop :=
  (∃ options, select.items = [.star options]) ∧
    ∃ lateral label extras,
      select.sources = [⟨.derived lateral inner (some label) extras, []⟩] ∧ label.name.value = name

theorem wholeOf_iff {select : Select} {inner : Query} {name : String} :
    WholeOf select inner name ↔ wholeDataset? select = some (inner, name) := by
  constructor
  · rintro ⟨⟨options, hitems⟩, lateral, label, extras, hsources, rfl⟩
    simp [wholeDataset?, hitems, hsources]
  · intro h
    unfold wholeDataset? at h
    split at h
    · next options lateral query label extras hitems hsources =>
      obtain ⟨rfl, rfl⟩ := Prod.mk.inj (Option.some.inj h)
      exact ⟨⟨options, hitems⟩, lateral, label, extras, hsources, rfl⟩
    · simp at h

/-- A row tells of a whole dataset: it has the only table to which the references of the subquery
lead, with the alias beside it, or the alias in place of the table if there is no such table. -/
structure TellsDataset (s : Statement) (tags : Tags) (inner : Query) (name : String) (row : Row) :
    Prop where
  single : ∀ key, (∀ base, QueryLeads (unqualifiedDefinition? s) inner base ↔ base = key) →
    row.source = ⟨key.database, key.table, name⟩
  none : (¬ ∃ key, ∀ base, QueryLeads (unqualifiedDefinition? s) inner base ↔ base = key) →
    row.source = ⟨"", name, ""⟩
  column : row.column = "*"
  columnAlias : row.columnAlias = ""
  tags : row.tags = tags
  remarks : row.remarks = [.allColumnsSelected, .tableNameDerived]

theorem tellsDataset_datasetRow (s : Statement) (tags : Tags) (inner : Query) (name : String) :
    TellsDataset s tags inner name
      (datasetRow tags name ((CteCatalog.ofStatement s).singleBase inner)) where
  single key hkey := by
    have hbase := (onlyTable_queryLeads s inner key).mpr hkey
    simp [datasetRow, hbase]
  none hnone := by
    cases hbase : (CteCatalog.ofStatement s).singleBase inner with
    | none => rfl
    | some key => exact absurd ⟨key, (onlyTable_queryLeads s inner key).mp hbase⟩ hnone
  column := rfl
  columnAlias := rfl
  tags := rfl
  remarks := rfl

/-- The rows that a branch of a statement adds in front: one if it gives out a whole dataset. -/
inductive BranchRows (s : Statement) (tags : Tags) : Select → List Row → Prop
  | whole {select : Select} {inner : Query} {name : String} {row : Row}
    (hwhole : WholeOf select inner name) (hrow : TellsDataset s tags inner name row) :
    BranchRows s tags select [row]
  | none {select : Select} (hnone : ∀ inner name, ¬ WholeOf select inner name) :
    BranchRows s tags select []

/-- The rows that a branch adds in front, as they are computed. -/
def branchRows (c : CteCatalog) (tags : Tags) (select : Select) : List Row :=
  (wholeDataset? select).toList.map fun (inner, name) => datasetRow tags name (c.singleBase inner)

theorem branchRows_of_wholeOf {c : CteCatalog} {tags : Tags} {select : Select} {inner : Query}
    {name : String} (h : WholeOf select inner name) :
    branchRows c tags select = [datasetRow tags name (c.singleBase inner)] := by
  rw [branchRows, wholeOf_iff.mp h]
  rfl

theorem branchRows_eq_nil {c : CteCatalog} {tags : Tags} {select : Select}
    (h : ∀ inner name, ¬ WholeOf select inner name) : branchRows c tags select = [] := by
  have hnone : wholeDataset? select = Option.none := by
    refine Option.eq_none_iff_forall_ne_some.mpr fun dataset hsome => ?_
    exact h dataset.1 dataset.2 (wholeOf_iff.mpr hsome)
  rw [branchRows, hnone]
  rfl

theorem branchRows_spec (s : Statement) (tags : Tags) (select : Select) :
    BranchRows s tags select (branchRows (.ofStatement s) tags select) := by
  by_cases h : ∃ inner name, WholeOf select inner name
  · obtain ⟨inner, name, hwhole⟩ := h
    rw [branchRows_of_wholeOf hwhole]
    exact .whole hwhole (tellsDataset_datasetRow s tags inner name)
  · have hnone : ∀ inner name, ¬ WholeOf select inner name := fun inner name hwhole =>
      h ⟨inner, name, hwhole⟩
    rw [branchRows_eq_nil hnone]
    exact .none hnone

/-- The rows of whole datasets are those of each branch, one branch after the other. -/
theorem datasetRows_eq_flatMap (tags : Tags) (c : CteCatalog) (q : Query) :
    datasetRows tags c q = (outermostSelects q).flatMap (branchRows c tags) := by
  rw [datasetRows, List.filterMap_eq_flatMap_toList, List.map_flatMap]
  rfl

/-- The row of a dataset with a name comes first in the output if it comes first at all. -/
theorem head?_deduplicate_datasetRow {rows : List Row} {tags : Tags} {name : String}
    {base : Option TableKey} (hname : name ≠ "")
    (h : rows.head? = some (datasetRow tags name base)) :
    (deduplicate rows).head? = some (datasetRow tags name base) := by
  have hnormal : (datasetRow tags name base).normalized = datasetRow tags name base :=
    Row.normalized_eq_self (by simp [datasetRow])
  have hplain : (datasetRow tags name base).isPlaceholderStar = false := by
    cases base <;> simp [datasetRow, Row.isPlaceholderStar, hname]
  exact head?_deduplicate h hnormal hplain

-- With an empty alias and without a single table, the row of a dataset is a placeholder.
example (tags : Tags) : deduplicate [datasetRow tags "" none] = [] := rfl

/-- The rows of a query are those of its branches and behind them those of its sites. -/
theorem statementRows_query (tags : Tags) (maxDepth : Nat) (q : Query) {leaves : List Select}
    (h : Leaves q.body leaves) : statementRows tags maxDepth (.query q) =
      leaves.flatMap (branchRows (.ofStatement (.query q)) tags) ++
        (statementSites maxDepth (.query q)).flatMap fun site => site.rowsIn (.query q) tags := by
  rw [leaves_iff.mp h, ← outermostSelects_eq, ← datasetRows_eq_flatMap]
  simp only [statementRows, statementSites, statementQueries, List.flatMap_singleton]
  rfl

end Rows

/-- The rows of a query begin with those of its whole datasets, in the order of its branches, and
behind them come the rows of its sites. -/
structure DatasetsFirst (q : Query) (tags : Tags) (maxDepth : Nat) : Prop where
  branches : ∃ leaves, Leaves q.body leaves
  rows : ∀ leaves, Leaves q.body leaves → ∃ found,
    List.Forall₂ (BranchRows (.query q) tags) leaves found ∧
      statementRows tags maxDepth (.query q) = found.flatten ++
        (statementSites maxDepth (.query q)).flatMap fun site => site.rowsIn (.query q) tags
  /-- The first whole dataset with an alias is also the first row of the output. -/
  first : ∀ before select after, Leaves q.body (before ++ select :: after) →
    (∀ earlier ∈ before, ∀ inner name, ¬ WholeOf earlier inner name) →
    ∀ inner name, WholeOf select inner name → name ≠ "" →
      ∃ row, TellsDataset (.query q) tags inner name row ∧
        (statementRows tags maxDepth (.query q)).head? = some row ∧
        (deduplicate (statementRows tags maxDepth (.query q))).head? = some row

/-- Whole datasets come first, once for each branch. -/
theorem datasetsFirst_query (q : Query) (tags : Tags) (maxDepth : Nat) :
    DatasetsFirst q tags maxDepth where
  branches := ⟨_, leaves_outermostSelectsOf q.body⟩
  rows leaves hleaves := by
    refine ⟨leaves.map (branchRows (.ofStatement (.query q)) tags), ?_, ?_⟩
    · exact List.forall₂_map_right_iff.mpr
        (List.forall₂_same.mpr fun select _ => branchRows_spec (.query q) tags select)
    · rw [statementRows_query tags maxDepth q hleaves, List.flatMap_def]
  first before select after hleaves hbefore inner name hwhole hname := by
    have hnone : before.flatMap (branchRows (.ofStatement (.query q)) tags) = [] :=
      List.flatMap_eq_nil_iff.mpr fun earlier hearlier =>
        branchRows_eq_nil (hbefore earlier hearlier)
    have hhead : (statementRows tags maxDepth (.query q)).head? =
        some (datasetRow tags name ((CteCatalog.ofStatement (.query q)).singleBase inner)) := by
      rw [statementRows_query tags maxDepth q hleaves, List.flatMap_append, hnone,
        List.flatMap_cons, branchRows_of_wholeOf hwhole]
      rfl
    exact ⟨_, tellsDataset_datasetRow (.query q) tags inner name, hhead,
      head?_deduplicate_datasetRow hname hhead⟩

end ColumnLineage.Lineage
