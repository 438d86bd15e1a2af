import Mathlib.Data.List.Induction
import ColumnLineage.Proofs.Nesting
import ColumnLineage.Proofs.Reachability
import ColumnLineage.Proofs.Sources

/-!
# The scope of definitions

By the rules of WITH lists, a definition is in force in the body of its query and in the later
definitions of its list, and in its own query if the list is recursive.  Lineage keeps one catalog
for a whole statement instead: a name stands for its first definition, wherever this one stands.
The two agree at a reference if, from there on, the definition in force is always the first one of
its name, or there is neither.

## Main definitions

* `Definition`: a definition in force; a scope is a list of them, the innermost one first.
* `Placed`, `Refers`: where queries and references stand, with the definitions in force there.
* `Means`: the physical tables of a reference by the rules of WITH lists.
* `firstDefinition?`: the first definition of a name in a statement.
* `FollowsScope`: a reference leads to first definitions that are in force where they are used.
* `Expands`: what names stand for.

## Main statements

* `exists_refers_iff`: every table that is read is referred to at some place.
* `FollowsScope.means_iff_behind`: where the two readings of a reference agree.
* `expands_ofStatement`: what names stand for in every statement.
-/

namespace ColumnLineage.Sql

/-- The visits of a query outside its definitions. -/
def Query.rest (q : Query) : List Visit :=
  q.body.visits ++ visitNodes q.tail

theorem Query.inner_eq (q : Query) : q.inner = visitCtes q.ctes ++ q.rest := by
  rw [inner, rest, List.append_assoc]

theorem Query.balanced_rest (q : Query) : Balanced q.rest :=
  q.body.balanced_visits.append (balanced_visitNodes q.tail)

theorem Query.rest_subset (q : Query) : q.rest ⊆ q.visits := by
  intro v hv
  rw [q.visits_eq, q.inner_eq]
  simp [hv]

end ColumnLineage.Sql

namespace ColumnLineage.Lineage

open Sql

/-- A definition of a WITH list. -/
structure Definition where
  /-- The WITH list is recursive. -/
  recursive : Bool
  cte : Cte

namespace Definition

/-- The scope in the query of a definition, given the one in front of the definition. -/
def scope (d : Definition) (outer : List Definition) : List Definition :=
  if d.recursive then d :: outer else outer

/-- The scope behind some definitions of a WITH list. -/
def extend (recursive : Bool) (ctes : List Cte) (outer : List Definition) : List Definition :=
  (ctes.map fun cte => ⟨recursive, cte⟩).reverse ++ outer

/-- The innermost definition of a name, with the scope in front of it. -/
def find? : List Definition → String → Option (Definition × List Definition)
  | [], _ => none
  | d :: outer, name => if d.cte.label.name.value = name then some (d, outer) else find? outer name

/-- The definition in force that a table refers to, if it has no database. -/
def inForce? (scope : List Definition) (key : TableKey) : Option (Definition × List Definition) :=
  if key.database.isEmpty then find? scope key.table else none

end Definition

/-- The scope in a query outside its definitions. -/
def restScope (q : Query) (scope : List Definition) : List Definition :=
  Definition.extend q.recursive q.ctes scope

/-- A query stands in one of some queries that stand in a scope, and has a scope itself. -/
inductive Placed (roots : List Query) (scope : List Definition) : Query → List Definition → Prop
  | root {q : Query} (h : q ∈ roots) : Placed roots scope q scope
  | inside {q inner : Query} {place : List Definition} (h : Placed roots scope q place)
      (hinner : inner ∈ outermostQueries q.rest) :
      Placed roots scope inner (restScope q place)
  | definition {q : Query} {place : List Definition} {front back : List Cte} {cte : Cte}
      (h : Placed roots scope q place) (hctes : q.ctes = front ++ cte :: back) :
      Placed roots scope cte.query
        (Definition.scope ⟨q.recursive, cte⟩ (Definition.extend q.recursive front place))

/-- Some visits in a scope refer to a table, at a place with a scope of its own. -/
inductive Refers (visits : List Visit) (scope : List Definition) :
    List Definition → TableKey → Prop
  | outside {name : ObjectName} (h : .relation name ∈ surface visits) :
      Refers visits scope scope (.ofName name)
  | inside {q : Query} {place : List Definition} {name : ObjectName}
      (hq : Placed (outermostQueries visits) scope q place)
      (h : .relation name ∈ surface q.rest) :
      Refers visits scope (restScope q place) (.ofName name)

/-- A physical table is meant by a reference in a scope: the reference itself if no definition is in
force for it, else what a reference in the definition means. -/
inductive Means : List Definition → TableKey → TableKey → Prop
  | physical {scope : List Definition} {key : TableKey}
      (h : Definition.inForce? scope key = none) : Means scope key key
  | definition {scope outer place : List Definition} {key next base : TableKey} {d : Definition}
      (hd : Definition.inForce? scope key = some (d, outer))
      (hnext : Refers d.cte.query.visits (d.scope outer) place next)
      (h : Means place next base) : Means scope key base

section Places

variable {roots : List Query} {scope place : List Definition} {q : Query} {visits : List Visit}

/-- A query that is placed stands in one of the queries that the places start from. -/
theorem Placed.visits_subset (h : Placed roots scope q place) :
    ∃ root ∈ roots, q.visits ⊆ root.visits := by
  induction h with
  | @root q hroot => exact ⟨q, hroot, List.Subset.refl _⟩
  | @inside q inner place _ hinner ih =>
    obtain ⟨root, hroot, hsub⟩ := ih
    have hmet := q.rest_subset (enter_mem_of_mem_outermostQueries hinner)
    exact ⟨root, hroot, List.Subset.trans (q.closed_visits.query hmet) hsub⟩
  | @definition q place front back cte _ hctes ih =>
    obtain ⟨root, hroot, hsub⟩ := ih
    have hcte : cte ∈ q.ctes := by simp [hctes]
    exact ⟨root, hroot, List.Subset.trans (q.cte_visits_subset hcte) hsub⟩

/-- In a query without definitions and nested queries nothing is placed but the query itself. -/
theorem Placed.eq_root {root : Query} (hctes : root.ctes = [])
    (hrest : outermostQueries root.rest = []) (h : Placed [root] scope q place) :
    q = root ∧ place = scope := by
  induction h with
  | root h => exact ⟨List.mem_singleton.mp h, rfl⟩
  | inside _ hinner ih =>
    rw [ih.1, hrest] at hinner
    exact absurd hinner List.not_mem_nil
  | definition _ hlist ih =>
    rw [ih.1, hctes] at hlist
    simp at hlist

/-- What is met in a query that is placed, and is neither an entrance nor an exit, is met outside
the definitions and the nested queries of a query that is placed. -/
theorem Placed.exists_of_mem {v : Visit} (hv : v.isPlain) (h : Placed roots scope q place)
    (hmem : v ∈ q.visits) :
    ∃ inner within, Placed roots scope inner within ∧ v ∈ surface inner.rest := by
  -- The induction is on how deeply queries nest in `q`, which goes down on both ways into it.
  induction hdepth : mostOpen 0 q.visits using Nat.strong_induction_on generalizing q place with
  | _ depth ih =>
    have hless : ∀ direct ∈ outermostQueries q.inner, mostOpen 0 direct.visits < depth := by
      intro direct hdirect
      have hle := mostOpen_le_of_mem_outermostQueries q.balanced_inner hdirect
      rw [mostOpen_query] at hdepth
      omega
    rw [q.inner_eq, outermostQueries_append (balanced_visitCtes q.ctes),
      outermostQueries_visitCtes] at hless
    have hinner : v ∈ visitCtes q.ctes ∨ v ∈ q.rest := by
      rw [q.visits_eq, q.inner_eq] at hmem
      cases v <;> simp_all [Visit.isPlain]
    rcases hinner with hctes | hrest
    · rw [visitCtes_eq_flatMap] at hctes
      obtain ⟨cte, hcte, hmem⟩ := List.mem_flatMap.mp hctes
      obtain ⟨front, back, hlist⟩ := List.append_of_mem hcte
      have hdirect := hless cte.query (List.mem_append_left _ (List.mem_map_of_mem hcte))
      exact ih _ hdirect (.definition h hlist) hmem rfl
    · rcases (mem_iff_of_balanced q.balanced_rest).mp hrest with ⟨-, hsurface⟩ | ⟨direct, hin, hmem⟩
      · exact ⟨q, place, h, hsurface⟩
      · exact ih _ (hless direct (List.mem_append_right _ hin)) (.inside h hin) hmem rfl

/-- Every table that is read is referred to at some place, and nothing else is. -/
theorem exists_refers_iff (hbalanced : Balanced visits) (hclosed : Closed visits)
    (scope : List Definition) {key : TableKey} :
    (∃ place, Refers visits scope place key) ↔ key ∈ relationKeys visits := by
  rw [mem_relationKeys]
  have hsurface : ∀ {more : List Visit} {name : ObjectName}, Balanced more →
      .relation name ∈ surface more → .relation name ∈ more :=
    fun hmore h => (mem_iff_of_balanced hmore).mpr (Or.inl ⟨rfl, h⟩)
  constructor
  · rintro ⟨place, h⟩
    cases h with
    | @outside name h => exact ⟨name, hsurface hbalanced h, rfl⟩
    | @inside q place name hq h =>
      obtain ⟨root, hroot, hsub⟩ := hq.visits_subset
      have hmet := hsub (q.rest_subset (hsurface q.balanced_rest h))
      exact ⟨name, hclosed.query (enter_mem_of_mem_outermostQueries hroot) hmet, rfl⟩
  · rintro ⟨name, hname, rfl⟩
    rcases (mem_iff_of_balanced hbalanced).mp hname with ⟨-, h⟩ | ⟨root, hroot, hmem⟩
    · exact ⟨scope, .outside h⟩
    · have hplaced : Placed (outermostQueries visits) scope root scope := .root hroot
      obtain ⟨q, place, hq, h⟩ := hplaced.exists_of_mem rfl hmem
      exact ⟨restScope q place, .inside hq h⟩

theorem exists_refers_query_iff (q : Query) (scope : List Definition) {key : TableKey} :
    (∃ place, Refers q.visits scope place key) ↔ key ∈ relationKeys q.visits :=
  exists_refers_iff q.balanced_visits q.closed_visits scope

end Places

section First

/-- The definitions that some visits meet. -/
def ctesIn (visits : List Visit) : List Cte :=
  visits.flatMap fun
    | .enter q => q.ctes
    | _ => []

/-- The first definition that a statement meets of the name of a table, if it has no database. -/
def firstDefinition? (s : Statement) (key : TableKey) : Option Cte :=
  if key.database.isEmpty then (ctesIn s.visits).find? (·.label.name.value == key.table) else none

theorem definitionsIn_eq_map (visits : List Visit) : definitionsIn visits =
    (ctesIn visits).map fun cte => (cte.label.name.value, relationKeys cte.query.visits) := by
  unfold definitionsIn ctesIn
  rw [List.map_flatMap]
  congr 1
  funext v
  cases v <;> rfl

theorem lookup_map_eq {β : Type} (name : Cte → String) (f : Cte → β) (ctes : List Cte)
    (n : String) : (ctes.map fun cte => (name cte, f cte)).lookup n =
      (ctes.find? (name · == n)).map f := by
  induction ctes with
  | nil => rfl
  | cons cte more ih =>
    rw [List.map_cons, List.lookup_cons, List.find?_cons, ih, Bool.beq_comm]
    cases name cte == n <;> rfl

/-- The catalog of a statement follows a table to the first definition of its name. -/
theorem reference?_ofStatement (s : Statement) (key : TableKey) :
    (CteCatalog.ofStatement s).reference? key =
      (firstDefinition? s key).map fun cte => relationKeys cte.query.visits := by
  unfold CteCatalog.reference? firstDefinition? CteCatalog.ofStatement
  rw [CteCatalog.relations?_ofVisits, definitionsIn_eq_map, lookup_map_eq]
  split <;> rfl

/-- A reference leads to another one through the definitions that are in force. -/
inductive Reaches : List Definition → TableKey → List Definition → TableKey → Prop
  | self {place : List Definition} {key : TableKey} : Reaches place key place key
  | definition {place outer within last : List Definition} {key next found : TableKey}
      {d : Definition} (hd : Definition.inForce? place key = some (d, outer))
      (hnext : Refers d.cte.query.visits (d.scope outer) within next)
      (h : Reaches within next last found) : Reaches place key last found

/-- At a reference and at all that it leads to, the definition in force is the first one of the name
in the statement, or there is neither. -/
def FollowsScope (s : Statement) (place : List Definition) (key : TableKey) : Prop :=
  ∀ within next, Reaches place key within next →
    (Definition.inForce? within next).map (·.1.cte) = firstDefinition? s next

variable {s : Statement} {place : List Definition} {key base : TableKey}

theorem FollowsScope.next (h : FollowsScope s place key) {d : Definition}
    {outer within : List Definition} {next : TableKey}
    (hd : Definition.inForce? place key = some (d, outer))
    (hnext : Refers d.cte.query.visits (d.scope outer) within next) : FollowsScope s within next :=
  fun last found hreaches => h last found (.definition hd hnext hreaches)

/-- Where the definitions in force are first ones, what a reference means is what stands behind it in
the catalog. -/
theorem FollowsScope.means_iff_behind (h : FollowsScope s place key) :
    Means place key base ↔ (CteCatalog.ofStatement s).Behind key base := by
  constructor
  · intro hmeans
    induction hmeans with
    | @physical scope key hnone =>
      have hfirst := h scope key .self
      rw [hnone, Option.map_none] at hfirst
      exact .physical (by rw [reference?_ofStatement, ← hfirst, Option.map_none])
    | @definition scope outer within key next base d hd hnext _ ih =>
      have hfirst := h scope key .self
      rw [hd, Option.map_some] at hfirst
      have href : (CteCatalog.ofStatement s).reference? key =
          some (relationKeys d.cte.query.visits) := by
        rw [reference?_ofStatement, ← hfirst, Option.map_some]
      have hread := (exists_refers_query_iff d.cte.query (d.scope outer)).mp ⟨within, hnext⟩
      exact .definition href hread (ih (h.next hd hnext))
  · rintro ⟨steps, hbehind⟩
    -- The catalog forgets where a definition stands, so that the place is found again at each step.
    induction hbehind generalizing place with
    | @physical key hnone =>
      have hfirst := h place key .self
      rw [reference?_ofStatement, Option.map_eq_none_iff] at hnone
      rw [hnone, Option.map_eq_none_iff] at hfirst
      exact .physical hfirst
    | @definition steps key next base relations href hread _ ih =>
      have hfirst := h place key .self
      rw [reference?_ofStatement, Option.map_eq_some_iff] at href
      obtain ⟨cte, hcte, rfl⟩ := href
      rw [hcte, Option.map_eq_some_iff] at hfirst
      obtain ⟨⟨d, outer⟩, hd, rfl⟩ := hfirst
      -- The definition in force reads the table at some place, which has a scope of its own.
      obtain ⟨within, hnext⟩ :=
        (exists_refers_query_iff d.cte.query (d.scope outer)).mpr hread
      exact .definition hd hnext (ih (h.next hd hnext))

end First

section Statement

/-- What names stand for in a statement. -/
structure Expands (s : Statement) : Prop where
  /-- A table without a database stands for the first definition of its name, wherever this one is,
  and is physical if its name is defined nowhere. -/
  first : ∀ key, (CteCatalog.ofStatement s).reference? key =
    (firstDefinition? s key).map fun cte => relationKeys cte.query.visits
  /-- A table falls to the only physical table that stands behind it. -/
  table : ∀ name arguments label extras, ∃ found entry,
    sourceEntry (.ofStatement s) (.table name arguments label extras) = some (found, entry) ∧
      OnlyTable ((CteCatalog.ofStatement s).Behind (.ofName name)) entry.base
  /-- A subquery falls to the only physical table behind the tables that it reads. -/
  subquery : ∀ q : Query, OnlyTable (fun base => ∃ key ∈ relationKeys q.visits,
    (CteCatalog.ofStatement s).Behind key base) ((CteCatalog.ofStatement s).singleBase q)
  /-- A defined name falls to the only physical table behind it. -/
  definition : ∀ name ∈ (CteCatalog.ofStatement s).names,
    OnlyTable ((CteCatalog.ofStatement s).Behind ⟨"", name⟩)
      ((CteCatalog.ofStatement s).cteBase name)
  /-- A table falls to the only physical table that it means by the rules of WITH lists where it
  stands, if it leads to first definitions that are in force. -/
  tableInScope : ∀ place name arguments label extras, Refers s.visits [] place (.ofName name) →
    FollowsScope s place (.ofName name) → ∃ found entry,
      sourceEntry (.ofStatement s) (.table name arguments label extras) = some (found, entry) ∧
        OnlyTable (Means place (.ofName name)) entry.base
  /-- So does a subquery with what its references mean. -/
  subqueryInScope : ∀ place q, Placed (outermostQueries s.visits) [] q place →
    (∀ within key, Refers q.visits place within key → FollowsScope s within key) →
      OnlyTable (fun base => ∃ within key, Refers q.visits place within key ∧ Means within key base)
        ((CteCatalog.ofStatement s).singleBase q)

/-- The entry of a table has the only physical table behind it. -/
theorem onlyTable_sourceEntry (c : CteCatalog) (name : ObjectName) (arguments : List Node)
    (label : Option Alias) (extras : List Node) : ∃ found entry,
      sourceEntry c (.table name arguments label extras) = some (found, entry) ∧
        OnlyTable (c.Behind (.ofName name)) entry.base := by
  cases href : c.reference? (.ofName name) with
  | none =>
    have hentry : sourceEntry c (.table name arguments label extras) =
        some ((aliasName label).getD (TableKey.ofName name).table,
          .physical (.ofName name) (aliasName label)) := by simp only [sourceEntry, href]
    refine ⟨_, _, hentry, ?_⟩
    intro key
    simp only [ScopeEntry.physical, Option.some.injEq, CteCatalog.behind_iff_of_physical href]
    exact ⟨fun h => by simp [h], fun h => ((h key).mpr rfl).symm⟩
  | some relations =>
    obtain ⟨hempty, hrelations⟩ := CteCatalog.relations?_of_reference? href
    have hkey : TableKey.ofName name = ⟨"", (TableKey.ofName name).table⟩ := by
      rw [← hempty]
    have hentry : sourceEntry c (.table name arguments label extras) =
        some ((aliasName label).getD (TableKey.ofName name).table,
          ⟨.cte, c.cteBase (TableKey.ofName name).table,
            (aliasName label).getD (TableKey.ofName name).table⟩) := by simp only [sourceEntry, href]
    refine ⟨_, _, hentry, ?_⟩
    rw [hkey]
    exact CteCatalog.onlyTable_cteBase hrelations

/-- In every statement, names stand for the first definition of a name, and for what the rules of
WITH lists say where this is the definition in force. -/
theorem expands_ofStatement (s : Statement) : Expands s where
  first key := reference?_ofStatement s key
  table name arguments label extras := onlyTable_sourceEntry _ name arguments label extras
  subquery q := CteCatalog.onlyTable_singleBase _ q
  definition name hname := by
    obtain ⟨relations, hrelations⟩ :=
      Option.isSome_iff_exists.mp (CteCatalog.relations?_isSome_iff.mpr hname)
    exact CteCatalog.onlyTable_cteBase hrelations
  tableInScope place name arguments label extras _ hfollows := by
    obtain ⟨found, entry, hentry, honly⟩ :=
      onlyTable_sourceEntry (.ofStatement s) name arguments label extras
    exact ⟨found, entry, hentry, honly.congr fun base => hfollows.means_iff_behind.symm⟩
  subqueryInScope place q _ hfollows := by
    refine (CteCatalog.onlyTable_singleBase (.ofStatement s) q).congr ?_
    intro base
    constructor
    · rintro ⟨key, hkey, hbehind⟩
      obtain ⟨within, hrefers⟩ := (exists_refers_query_iff q place).mpr hkey
      exact ⟨within, key, hrefers, (hfollows within key hrefers).means_iff_behind.mpr hbehind⟩
    · rintro ⟨within, key, hrefers, hmeans⟩
      exact ⟨key, (exists_refers_query_iff q place).mp ⟨within, hrefers⟩,
        (hfollows within key hrefers).means_iff_behind.mp hmeans⟩

end Statement

/-- `WITH c AS (SELECT a FROM db.t) SELECT a FROM c`. -/
def readingDefinition : Query :=
  ⟨false, [.named "c" (.columnOf ["db", "t"])], (Query.columnOf ["c"]).body, []⟩

/-- The scope in the body of this query. -/
def scopeReadingDefinition : List Definition :=
  [⟨false, .named "c" (.columnOf ["db", "t"])⟩]

/-- All that such a SELECT refers to is its table. -/
theorem refers_columnOf {parts : List String} {scope place : List Definition} {key : TableKey}
    (h : Refers (Query.columnOf parts).visits scope place key) :
    place = scope ∧ key = .ofName (.ofIdents (parts.map .bare)) := by
  have hsurface : surface (Query.columnOf parts).rest = [.expr (.column (.bare "a")),
      .source (.bare parts), .relation (.ofIdents (parts.map .bare))] := rfl
  cases h with
  | outside h =>
    rw [← List.append_nil (Query.columnOf parts).visits, surface_query_append] at h
    simp [surface, surfaceFrom] at h
  | @inside q inner name hq h =>
    rw [outermostQueries_query] at hq
    obtain ⟨rfl, rfl⟩ := hq.eq_root rfl rfl
    have hname : name = .ofIdents (parts.map .bare) := by simpa [hsurface] using h
    exact ⟨rfl, by rw [hname]⟩

theorem followsScope_readingDefinition :
    FollowsScope (.query readingDefinition) scopeReadingDefinition ⟨"", "c"⟩ := by
  intro within next h
  cases h with
  | self => rfl
  | definition hd hnext h =>
    obtain ⟨rfl, rfl⟩ := Prod.mk.inj (Option.some.inj hd)
    obtain ⟨rfl, rfl⟩ := refers_columnOf hnext
    -- The table that the definition reads has a database, so that it leads to nothing else.
    cases h with
    | self => rfl
    | definition hd _ _ => exact absurd hd.symm (Option.some_ne_none _)

theorem expands_readingDefinition :
    Refers (Statement.query readingDefinition).visits [] scopeReadingDefinition ⟨"", "c"⟩ ∧
      FollowsScope (.query readingDefinition) scopeReadingDefinition ⟨"", "c"⟩ ∧
      ∃ found entry, sourceEntry (.ofStatement (.query readingDefinition)) (.bare ["c"]) =
          some (found, entry) ∧
        OnlyTable (Means scopeReadingDefinition ⟨"", "c"⟩) entry.base := by
  have hsurface : surface readingDefinition.rest = [.expr (.column (.bare "a")),
      .source (.bare ["c"]), .relation (.ofIdents [.bare "c"])] := rfl
  have hname : .relation (.ofIdents [.bare "c"]) ∈ surface readingDefinition.rest := by
    simp [hsurface]
  have hrefers : Refers (Statement.query readingDefinition).visits [] scopeReadingDefinition
      (.ofName (.ofIdents [.bare "c"])) := .inside (.root (List.mem_singleton_self _)) hname
  exact ⟨hrefers, followsScope_readingDefinition,
    (expands_ofStatement (.query readingDefinition)).tableInScope _ _ [] none [] hrefers
      followsScope_readingDefinition⟩

/-- `SELECT a FROM c UNION (WITH c AS (SELECT a FROM db.t) SELECT a FROM c)`. -/
def readingOutsideScope : Query :=
  .ofBody (.combined (Query.columnOf ["c"]).body "UNION" (.query readingDefinition))

/-- Names do not always follow the rules of WITH lists: a definition in one branch of a set operator
is followed from the other branch too. -/
theorem not_always_means : ¬ ∀ (s : Statement) (place : List Definition) (name : ObjectName)
    (arguments : List Node) (label : Option Alias) (extras : List Node),
    Refers s.visits [] place (.ofName name) → ∃ found entry,
      sourceEntry (.ofStatement s) (.table name arguments label extras) = some (found, entry) ∧
        OnlyTable (Means place (.ofName name)) entry.base := by
  intro h
  have hname : .relation (.ofIdents [.bare "c"]) ∈ surface readingOutsideScope.rest := by
    have hsurface : surface readingOutsideScope.rest = [.expr (.column (.bare "a")),
        .source (.bare ["c"]), .relation (.ofIdents [.bare "c"]), .enter readingDefinition] := rfl
    simp [hsurface]
  obtain ⟨found, entry, hentry, honly⟩ := h (.query readingOutsideScope) [] (.ofIdents [.bare "c"])
    [] none [] (.inside (.root (List.mem_singleton_self _)) hname)
  have hmeans : ∀ other, Means [] ⟨"", "c"⟩ other ↔ other = ⟨"", "c"⟩ := by
    intro other
    constructor
    · intro hother
      cases hother with
      | physical _ => rfl
      | definition hd _ _ => simp [Definition.inForce?, Definition.find?] at hd
    · rintro rfl
      exact .physical (by decide)
  have hphysical := (honly ⟨"", "c"⟩).mpr hmeans
  have hfollowed : sourceEntry (.ofStatement (.query readingOutsideScope)) (.bare ["c"]) =
      some ("c", ⟨.cte, some ⟨"db", "t"⟩, "c"⟩) := by decide
  obtain ⟨-, rfl⟩ := Prod.mk.inj (Option.some.inj (hentry.symm.trans hfollowed))
  exact absurd hphysical (by decide)

end ColumnLineage.Lineage
