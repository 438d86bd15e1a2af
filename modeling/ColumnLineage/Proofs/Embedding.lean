import ColumnLineage.Proofs.Catalog
import ColumnLineage.Proofs.Nesting
import ColumnLineage.Proofs.Reach

/-!
# Queries inside statements

INSERT INTO, CREATE VIEW and CREATE TABLE take a query as it stands.  Such a statement has the rows of
its query: the traversal starts from the same query, and neither the table that is filled or named nor
what else stands beside the query adds a definition or a source.

## Main definitions

* `Sourceless`: visits that enter no query and meet no source.
* `Keeps`: a statement that names a table and holds a query, without other queries and sources.

## Main statements

* `Keeps.statementQueries_eq`: the query is the only one from which the traversal starts.
* `Keeps.ofStatement_catalog`, `Keeps.ofStatement_scope`: names mean what they mean in the query.
* `statementRows_keeps`: the statement has the rows of its query.
-/

namespace ColumnLineage.Lineage

open Sql

/-- Some visits enter no query and meet no source. -/
def Sourceless (visits : List Visit) : Prop :=
  ∀ v ∈ visits, (∀ q, v ≠ .enter q) ∧ ∀ source, v ≠ .source source

/-- A statement names a table and holds a query: INSERT INTO the table that it fills, CREATE VIEW and
CREATE TABLE the one that they define.  What stands in front of the query, such as columns, and what
stands behind it, such as settings, has no queries and sources. -/
inductive Keeps (q : Query) : Statement → Prop
  | named (kind : StatementKind) (name : ObjectName) {front back : List Node}
      (hfront : Sourceless (visitNodes front)) (hback : Sourceless (visitNodes back)) :
      Keeps q (.other kind (.relation name :: front ++ .query q :: back))

namespace Sourceless

variable {visits : List Visit}

theorem outermostQueries_eq_nil (h : Sourceless visits) : outermostQueries visits = [] := by
  refine List.eq_nil_iff_forall_not_mem.mpr fun q hq => ?_
  have henter := enter_mem_of_mem_outermostQueries hq
  exact (h _ henter).1 q rfl

theorem definitionsIn_eq_nil (h : Sourceless visits) : definitionsIn visits = [] := by
  refine List.flatMap_eq_nil_iff.mpr fun v hv => ?_
  cases v with
  | enter q => exact absurd rfl ((h _ hv).1 q)
  | _ => rfl

theorem filterMap_source?_eq_nil (h : Sourceless visits) :
    visits.filterMap Scope.source? = [] := by
  refine List.filterMap_eq_nil_iff.mpr fun v hv => ?_
  cases v with
  | source other => exact absurd rfl ((h _ hv).2 other)
  | _ => rfl

/-- The name of a table in front adds neither a query nor a source. -/
theorem relation_cons (h : Sourceless visits) (name : ObjectName) :
    Sourceless (.relation name :: visits) := by
  intro v hv
  rcases List.mem_cons.mp hv with rfl | hv
  · exact ⟨fun q => nofun, fun source => nofun⟩
  · exact h v hv

end Sourceless

namespace Keeps

variable {q : Query} {s : Statement}

/-- The visit of the query stands in the visit of the statement, with nothing beside it that lineage
reads. -/
theorem exists_visits_eq (h : Keeps q s) : ∃ before after,
    s.visits = before ++ (q.visits ++ after) ∧
      Balanced before ∧ Sourceless before ∧ Sourceless after := by
  cases h with
  | @named kind name front back hfront hback =>
    have hquery : visitNodes (.query q :: back) = q.visits ++ visitNodes back := by
      rw [visitNodes, Node.visits]
    refine ⟨visitNodes (.relation name :: front), visitNodes back, ?_,
      balanced_visitNodes _, hfront.relation_cons name, hback⟩
    rw [Statement.visits, visitNodes_append, hquery]

/-- The traversal of the statement starts from its query, and from no other. -/
theorem statementQueries_eq (h : Keeps q s) : statementQueries s = [q] := by
  obtain ⟨before, after, hvisits, hbalanced, hbefore, hafter⟩ := h.exists_visits_eq
  calc statementQueries s
      = outermostQueries (before ++ (q.visits ++ after)) := by
        rw [Lineage.statementQueries_eq, hvisits]
    _ = outermostQueries before ++ q :: outermostQueries after := by
        rw [outermostQueries_append hbalanced, outermostQueries_query_append]
    _ = [q] := by
        rw [hbefore.outermostQueries_eq_nil, hafter.outermostQueries_eq_nil, List.nil_append]

/-- The statement defines what its query defines. -/
theorem definitionsIn_eq (h : Keeps q s) : definitionsIn s.visits = definitionsIn q.visits := by
  obtain ⟨before, after, hvisits, -, hbefore, hafter⟩ := h.exists_visits_eq
  have happend : definitionsIn s.visits =
      definitionsIn before ++ (definitionsIn q.visits ++ definitionsIn after) := by
    rw [hvisits]
    simp [definitionsIn]
  rw [happend, hbefore.definitionsIn_eq_nil, hafter.definitionsIn_eq_nil, List.nil_append,
    List.append_nil]

/-- The statement has the sources of its query. -/
theorem orderedSources_eq (h : Keeps q s) :
    Scope.orderedSources s.visits = Scope.orderedSources q.visits := by
  obtain ⟨before, after, hvisits, -, hbefore, hafter⟩ := h.exists_visits_eq
  have hsources : s.visits.filterMap Scope.source? = q.visits.filterMap Scope.source? := by
    rw [hvisits, List.filterMap_append, List.filterMap_append, hbefore.filterMap_source?_eq_nil,
      hafter.filterMap_source?_eq_nil, List.nil_append, List.append_nil]
  rw [Scope.orderedSources, Scope.orderedSources, hsources]

/-- The catalog of the statement is that of its query. -/
theorem ofStatement_catalog (h : Keeps q s) :
    CteCatalog.ofStatement s = CteCatalog.ofStatement (.query q) := by
  have hfirst (visits : List Visit) :
      CteCatalog.ofVisits visits = ⟨firstEntries (definitionsIn visits)⟩ :=
    congrArg CteCatalog.mk (CteCatalog.definitions_ofVisits visits)
  rw [CteCatalog.ofStatement, CteCatalog.ofStatement, hfirst, hfirst, h.definitionsIn_eq]
  rfl

/-- The global scope of the statement is that of its query: it has no entry for the table that the
statement names. -/
theorem ofStatement_scope (h : Keeps q s) (c : CteCatalog) :
    Scope.ofStatement c s = Scope.ofStatement c (.query q) := by
  have hitems : Scope.globalItems c s = Scope.globalItems c (.query q) := by
    rw [Scope.globalItems_eq, Scope.globalItems_eq, h.orderedSources_eq]
    rfl
  rw [Scope.ofStatement, Scope.ofStatement, hitems]

end Keeps

/-- A statement that keeps a query has its definitions, its scope, its sites at every bound on depth,
and its rows. -/
theorem statementRows_keeps {q : Query} {s : Statement} (h : Keeps q s) (tags : Tags)
    (maxDepth : Nat) :
    CteCatalog.ofStatement s = CteCatalog.ofStatement (.query q) ∧
      (∀ c, Scope.ofStatement c s = Scope.ofStatement c (.query q)) ∧
      statementSites maxDepth s = statementSites maxDepth (.query q) ∧
      statementRows tags maxDepth s = statementRows tags maxDepth (.query q) := by
  have hqueries : statementQueries s = statementQueries (.query q) := h.statementQueries_eq
  refine ⟨h.ofStatement_catalog, h.ofStatement_scope, ?_, ?_⟩
  · rw [statementSites, statementSites, hqueries]
  · rw [statementRows, statementRows, hqueries, h.ofStatement_catalog, h.ofStatement_scope]

/-- `WITH c AS (SELECT a FROM db.s) SELECT * FROM (SELECT a FROM c) AS w`. -/
def starOfDefinition : Query :=
  ⟨false, [.named "c" (.columnOf ["db", "s"])],
    .select (.plain [.star []]
      [.subquery (.plain [.expr (.column (.bare "a"))] [.bare ["c"]] none) "w"] none), []⟩

/-- `INSERT INTO c PARTITION (p) WITH c AS …`, where the table has the name of the definition. -/
def insertNamedLikeDefinition : Statement :=
  .other .insert [.relation (.ofIdents [.bare "c"]), .query starOfDefinition,
    .expr (.column (.bare "p"))]

theorem statementRows_keeps_insertNamedLikeDefinition :
    Keeps starOfDefinition insertNamedLikeDefinition ∧
      statementRows ⟨"", "", ""⟩ 10 insertNamedLikeDefinition =
        statementRows ⟨"", "", ""⟩ 10 (.query starOfDefinition) := by
  have hfront : Sourceless (visitNodes []) := nofun
  have hback : Sourceless (visitNodes [.expr (.column (.bare "p"))]) := by
    intro v hv
    rw [List.mem_singleton.mp hv]
    exact ⟨fun q => nofun, fun source => nofun⟩
  have hkeeps : Keeps starOfDefinition insertNamedLikeDefinition :=
    .named .insert (.ofIdents [.bare "c"]) hfront hback
  obtain ⟨-, -, -, hrows⟩ := statementRows_keeps hkeeps ⟨"", "", ""⟩ 10
  exact ⟨hkeeps, hrows⟩

end ColumnLineage.Lineage
