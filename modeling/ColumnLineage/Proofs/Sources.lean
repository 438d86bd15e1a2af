import ColumnLineage.Lineage.Traversal
import ColumnLineage.Proofs.Catalog

/-!
# Sources and scopes

A scope looks up a name among the sources it is made of.  The sources and the joins of a FROM clause
are met in its visit.

## Main definitions

* `scopeName`: the name under which a scope holds a source.
* `treeJoins`: the joins of a FROM clause, each with the name of the source in front of it.
* `JoinedBehind`, `JoinedIn`: a join that stands in a FROM clause, with the source in front of it.

## Main statements

* `Scope.get?_ofList`: a scope looks up a name among its entries.
* `treeJoinRows_eq_flatMap`: the rows of joins are those of each join.
* `mem_treeJoins_iff`: the joins of a FROM clause are those that stand in it.
-/

namespace ColumnLineage.Lineage

open Sql

/-- The name under which a scope holds a source: its alias, else the name of its table. -/
def scopeName : Source → Option String
  | .table name _ label _ => some ((aliasName label).getD (TableKey.ofName name).table)
  | .derived _ _ label _ => aliasName label
  | .joined .. => none
  | .other .. => none

/-- What a source stands for depends on the catalog, but its name does not. -/
theorem map_fst_sourceEntry (c : CteCatalog) (source : Source) :
    (sourceEntry c source).map Prod.fst = scopeName source := by
  cases source with
  | table name arguments label extras =>
    simp only [sourceEntry, scopeName]
    split <;> rfl
  | derived lateral query label extras => cases label <;> rfl
  | joined tree label => rfl
  | other layout parts label => rfl

theorem scopeName_of_sourceEntry {c : CteCatalog} {source : Source} {name : String}
    {entry : ScopeEntry} (h : sourceEntry c source = some (name, entry)) :
    scopeName source = some name := by
  rw [← map_fst_sourceEntry c, h]
  rfl

theorem exists_sourceEntry {c : CteCatalog} {source : Source} {name : String}
    (h : scopeName source = some name) : ∃ entry, sourceEntry c source = some (name, entry) := by
  rw [← map_fst_sourceEntry c] at h
  obtain ⟨item, hitem, rfl⟩ := Option.map_eq_some_iff.mp h
  exact ⟨item.2, hitem⟩

/-- The names of entries are those of their sources. -/
theorem map_fst_filterMap_sourceEntry (c : CteCatalog) (sources : List Source) :
    (sources.filterMap (sourceEntry c)).map Prod.fst = sources.filterMap scopeName := by
  rw [List.map_filterMap]
  congr 1
  funext source
  exact map_fst_sourceEntry c source

namespace Scope

theorem entries_ofList (items : List (String × ScopeEntry)) :
    (ofList items).entries = firstEntries items := by
  have hfold : ∀ s : Scope, (items.foldl insertIfAbsent s).entries =
      items.foldl keepFirst s.entries := by
    induction items with
    | nil => exact fun s => rfl
    | cons item more ih =>
      intro s
      rw [List.foldl_cons, ih, List.foldl_cons]
      congr 1
      unfold insertIfAbsent keepFirst get?
      split <;> rfl
  exact hfold empty

/-- A name is looked up among the entries that a scope is made of. -/
theorem get?_ofList (items : List (String × ScopeEntry)) (name : String) :
    (ofList items).get? name = items.lookup name := by
  unfold get?
  rw [entries_ofList, lookup_firstEntries]

theorem mem_of_mem_ofList {items : List (String × ScopeEntry)} {item : String × ScopeEntry}
    (h : item ∈ (ofList items).entries) : item ∈ items := by
  rw [entries_ofList] at h
  exact mem_of_mem_firstEntries h

theorem mem_entries_of_get? {s : Scope} {name : String} {entry : ScopeEntry}
    (h : s.get? name = some entry) : (name, entry) ∈ s.entries :=
  mem_of_lookup_eq_some h

theorem mem_entries_of_sole {s : Scope} {entry : ScopeEntry} (h : s.sole = some entry) :
    ∃ name, (name, entry) ∈ s.entries := by
  unfold sole at h
  split at h
  · next item hitem =>
    refine ⟨item.1, ?_⟩
    rw [hitem, ← Option.some.inj h]
    exact List.mem_singleton_self item
  · simp at h

/-- A scope with two names has at least two entries. -/
theorem one_lt_size {s : Scope} {a b : String} (ha : (s.get? a).isSome) (hb : (s.get? b).isSome)
    (hne : a ≠ b) : 1 < s.size := by
  have hmema : a ∈ s.entries.map Prod.fst := lookup_isSome_iff_mem.mp ha
  have hmemb : b ∈ s.entries.map Prod.fst := lookup_isSome_iff_mem.mp hb
  rw [size, ← List.length_map Prod.fst]
  match hnames : s.entries.map Prod.fst with
  | [] => simp [hnames] at hmema
  | [name] =>
    rw [hnames, List.mem_singleton] at hmema hmemb
    exact absurd (hmema.trans hmemb.symm) hne
  | _ :: _ :: _ => simp

theorem nodup_names_ofList (items : List (String × ScopeEntry)) :
    ((ofList items).entries.map Prod.fst).Nodup := by
  rw [entries_ofList]
  exact nodup_firstEntries items

/-- A scope that has each of several names has several entries. -/
theorem one_lt_size_of_names {s more : Scope} (hnodup : (s.entries.map Prod.fst).Nodup)
    (hsub : ∀ name ∈ s.entries.map Prod.fst, (more.get? name).isSome) (h : 1 < s.size) :
    1 < more.size := by
  unfold size at h
  rw [← List.length_map Prod.fst] at h
  match hnames : s.entries.map Prod.fst with
  | [] => simp [hnames] at h
  | [_] => simp [hnames] at h
  | a :: b :: rest =>
    rw [hnames] at hnodup hsub
    have hne : a ≠ b := fun heq => (List.nodup_cons.mp hnodup).1 (heq ▸ List.mem_cons_self)
    exact one_lt_size (hsub a (by simp)) (hsub b (by simp)) hne

theorem sole_eq_none_of_one_lt_size {s : Scope} (h : 1 < s.size) : s.sole = none := by
  unfold sole
  split
  · next item hitem => simp [size, hitem] at h
  · rfl

theorem isEmpty_eq_false_of_one_lt_size {s : Scope} (h : 1 < s.size) : s.isEmpty = false := by
  unfold isEmpty
  rw [List.isEmpty_eq_false_iff]
  rintro hnil
  simp [size, hnil] at h

mutual

/-- The sources that a source consists of are met in its visit. -/
theorem source_mem_of_mem_flatSources : ∀ (relation : Source) {source : Source},
    source ∈ flatSources relation → .source source ∈ relation.visits
  | .joined tree _, _, h => List.mem_cons_of_mem _ (source_mem_of_mem_flatTree tree h)
  | .table .., _, h => by
    rw [List.mem_singleton.mp h]
    exact Source.source_mem_visits _
  | .derived .., _, h => by
    rw [List.mem_singleton.mp h]
    exact Source.source_mem_visits _
  | .other .., _, h => by
    rw [List.mem_singleton.mp h]
    exact Source.source_mem_visits _

/-- The sources of a source and of what is joined to it are met in the visit of both. -/
theorem source_mem_of_mem_flatTree : ∀ (tree : FromTree) {source : Source},
    source ∈ flatTree tree → .source source ∈ tree.visits
  | ⟨relation, joins⟩, _, h => by
    rcases List.mem_append.mp h with h | h
    · exact List.mem_append_left _ (source_mem_of_mem_flatSources relation h)
    · exact List.mem_append_right _ (source_mem_of_mem_flatJoins joins h)

theorem source_mem_of_mem_flatJoins : ∀ (joins : List Join) {source : Source},
    source ∈ flatJoins joins → .source source ∈ visitJoins joins
  | [], _, h => by simp [flatJoins] at h
  | join :: more, _, h => by
    rcases List.mem_append.mp h with h | h
    · exact List.mem_append_left _ (source_mem_of_mem_flatJoin join h)
    · exact List.mem_append_right _ (source_mem_of_mem_flatJoins more h)

theorem source_mem_of_mem_flatJoin : ∀ (join : Join) {source : Source},
    source ∈ flatJoin join → .source source ∈ join.visits
  | ⟨relation, _, _, _, _⟩, _, h => by
    have hrelation := source_mem_of_mem_flatSources relation h
    simp [Join.visits, hrelation]

end

theorem flatTree_eq (tree : FromTree) :
    flatTree tree = flatSources tree.relation ++ flatJoins tree.joins := by
  cases tree with
  | mk => rfl

theorem flatJoin_eq (join : Join) : flatJoin join = flatSources join.relation := by
  cases join with
  | mk => rfl

/-- The sources of the FROM clause of a SELECT. -/
def fromSources (select : Select) : List Source :=
  select.sources.flatMap flatTree

theorem source_mem_of_mem_fromSources {select : Select} {source : Source}
    (h : source ∈ fromSources select) : .source source ∈ select.visits := by
  obtain ⟨tree, htree, hsource⟩ := List.mem_flatMap.mp h
  exact Select.tree_visits_subset htree (source_mem_of_mem_flatTree tree hsource)

/-- A local scope looks up a name among the sources of its FROM clause. -/
theorem get?_ofSelect (c : CteCatalog) (select : Select) (name : String) :
    (ofSelect c select).get? name = ((fromSources select).filterMap (sourceEntry c)).lookup name :=
  get?_ofList _ name

theorem mem_filterMap_source? {visits : List Visit} {source : Source} :
    source ∈ visits.filterMap source? ↔ .source source ∈ visits := by
  rw [List.mem_filterMap]
  constructor
  · rintro ⟨v, hv, hsource⟩
    cases v with
    | source other =>
      have heq : other = source := by simpa [source?] using hsource
      exact heq ▸ hv
    | _ => simp [source?] at hsource
  · intro h
    exact ⟨.source source, h, rfl⟩

/-- The sources in some visits, tables in front of subqueries. -/
def orderedSources (visits : List Visit) : List Source :=
  (visits.filterMap source?).filter (fun source => !isSubquery source) ++
    (visits.filterMap source?).filter isSubquery

theorem mem_orderedSources {visits : List Visit} {source : Source} :
    source ∈ orderedSources visits ↔ .source source ∈ visits := by
  rw [orderedSources, List.mem_append, List.mem_filter, List.mem_filter, mem_filterMap_source?]
  cases isSubquery source <;> simp

theorem globalItems_eq (c : CteCatalog) (s : Statement) :
    globalItems c s = (orderedSources s.visits).filterMap (sourceEntry c) ++
      c.names.map fun name => (name, ⟨.cte, c.cteBase name, name⟩) := by
  rw [globalItems, orderedSources, List.filterMap_append]

/-- An entry that is found among sources is that of a source with the name. -/
theorem exists_source_of_lookup {c : CteCatalog} {sources : List Source} {name : String}
    {entry : ScopeEntry} (h : (sources.filterMap (sourceEntry c)).lookup name = some entry) :
    ∃ source ∈ sources, sourceEntry c source = some (name, entry) :=
  List.mem_filterMap.mp (mem_of_lookup_eq_some h)

/-- A name of a source is found among sources. -/
theorem lookup_sources_isSome {c : CteCatalog} {sources : List Source} {source : Source}
    {name : String} (hsource : source ∈ sources) (hname : scopeName source = some name) :
    ((sources.filterMap (sourceEntry c)).lookup name).isSome := by
  obtain ⟨entry, hentry⟩ := exists_sourceEntry (c := c) hname
  rw [lookup_isSome_iff_mem]
  exact List.mem_map.mpr ⟨(name, entry), List.mem_filterMap.mpr ⟨source, hsource, hentry⟩, rfl⟩

/-- The global scope holds every source that a statement meets, in front of all definitions. -/
theorem get?_ofStatement {c : CteCatalog} {s : Statement} {source : Source} {name : String}
    (hsource : .source source ∈ s.visits) (hname : scopeName source = some name) :
    (ofStatement c s).get? name =
      ((orderedSources s.visits).filterMap (sourceEntry c)).lookup name := by
  obtain ⟨entry, hentry⟩ := Option.isSome_iff_exists.mp
    (lookup_sources_isSome (c := c) (mem_orderedSources.mpr hsource) hname)
  rw [ofStatement, get?_ofList, globalItems_eq, List.lookup_append, hentry, Option.some_or]

theorem get?_ofStatement_isSome {c : CteCatalog} {s : Statement} {source : Source} {name : String}
    (hsource : .source source ∈ s.visits) (hname : scopeName source = some name) :
    ((ofStatement c s).get? name).isSome := by
  rw [get?_ofStatement hsource hname]
  exact lookup_sources_isSome (mem_orderedSources.mpr hsource) hname

end Scope

mutual

/-- The joins in a source, each with the name of the source in front of it. -/
def sourceJoins : Source → List (Option String × Join)
  | .joined tree _ => treeJoins tree
  | .table .. => []
  | .derived .. => []
  | .other .. => []

/-- The joins of a source and of what is joined to it. -/
def treeJoins : FromTree → List (Option String × Join)
  | ⟨relation, joins⟩ => sourceJoins relation ++ joinsBehind (sourceName relation) joins

/-- Some joins with the joins in their sources; `left` is the name of the source in front of
them. -/
def joinsBehind (left : Option String) : List Join → List (Option String × Join)
  | [] => []
  | join :: more => joinsWithin left join ++ joinsBehind (sourceName join.relation) more

/-- A join behind the joins in its source. -/
def joinsWithin (left : Option String) : Join → List (Option String × Join)
  | ⟨relation, global, operator, matching, constraint⟩ =>
    sourceJoins relation ++ [(left, ⟨relation, global, operator, matching, constraint⟩)]

end

section JoinRows

variable (tags : Tags) (c : CteCatalog) (scopes : Scopes)

mutual

theorem sourceJoinRows_eq_flatMap : ∀ source : Source, sourceJoinRows tags c scopes source =
    (sourceJoins source).flatMap fun (left, join) => joinRows tags c scopes left join
  | .joined tree _ => treeJoinRows_eq_flatMap tree
  | .table .. => rfl
  | .derived .. => rfl
  | .other .. => rfl

/-- The rows of the joins of a FROM clause are those of each join, in order. -/
theorem treeJoinRows_eq_flatMap : ∀ tree : FromTree, treeJoinRows tags c scopes tree =
    (treeJoins tree).flatMap fun (left, join) => joinRows tags c scopes left join
  | ⟨relation, joins⟩ => by
    rw [treeJoinRows, treeJoins, List.flatMap_append, sourceJoinRows_eq_flatMap relation,
      joinsRows_eq_flatMap (sourceName relation) joins]

theorem joinsRows_eq_flatMap : ∀ (left : Option String) (joins : List Join),
    joinsRows tags c scopes left joins =
      (joinsBehind left joins).flatMap fun (left, join) => joinRows tags c scopes left join
  | _, [] => rfl
  | left, join :: more => by
    rw [joinsRows, joinsBehind, List.flatMap_append, joinedRows_eq_flatMap left join,
      joinsRows_eq_flatMap (sourceName join.relation) more]

theorem joinedRows_eq_flatMap : ∀ (left : Option String) (join : Join),
    joinedRows tags c scopes left join =
      (joinsWithin left join).flatMap fun (left, join) => joinRows tags c scopes left join
  | left, ⟨relation, _, _, _, _⟩ => by
    rw [joinedRows, joinsWithin, List.flatMap_append, sourceJoinRows_eq_flatMap relation]
    simp

end

end JoinRows

theorem treeJoins_eq (tree : FromTree) : treeJoins tree =
    sourceJoins tree.relation ++ joinsBehind (sourceName tree.relation) tree.joins := by
  cases tree with
  | mk => rfl

theorem joinsWithin_eq (left : Option String) (join : Join) :
    joinsWithin left join = sourceJoins join.relation ++ [(left, join)] := by
  cases join with
  | mk => rfl

/-- A join is among those behind a source `prior` or in parentheses among the sources, and the
source `front` stands directly in front of it. -/
inductive JoinedBehind : Source → List Join → Source → Join → Prop
  | here {prior : Source} {join : Join} {more : List Join} :
    JoinedBehind prior (join :: more) prior join
  | later {prior front : Source} {first join : Join} {more : List Join}
    (h : JoinedBehind first.relation more front join) :
    JoinedBehind prior (first :: more) front join
  | nested {inner : FromTree} {label : Option Alias} {joins : List Join} {front : Source}
    {join : Join} (h : JoinedBehind inner.relation inner.joins front join) :
    JoinedBehind (.joined inner label) joins front join

/-- A join stands in a FROM clause, at any depth, directly behind the source `front`. -/
def JoinedIn (tree : FromTree) (front : Source) (join : Join) : Prop :=
  JoinedBehind tree.relation tree.joins front join

section Joins

variable {tree : FromTree} {prior front : Source} {joins : List Join} {join : Join}

theorem JoinedBehind.mem_joins (h : JoinedBehind prior joins front join) :
    (sourceName front, join) ∈ sourceJoins prior ++ joinsBehind (sourceName prior) joins := by
  induction h with
  | here =>
    rw [joinsBehind, joinsWithin_eq]
    exact List.mem_append_right _ (List.mem_append_left _ List.mem_concat_self)
  | later _ ih =>
    rw [joinsBehind, joinsWithin_eq]
    refine List.mem_append_right _ (List.mem_append.mpr ?_)
    exact (List.mem_append.mp ih).imp_left (List.mem_append_left _)
  | nested _ ih =>
    rw [sourceJoins, treeJoins_eq]
    exact List.mem_append_left _ ih

mutual

theorem exists_joinedBehind_of_source : ∀ (source : Source) (joins : List Join)
    {left : Option String} {join : Join}, (left, join) ∈ sourceJoins source →
      ∃ front, JoinedBehind source joins front join ∧ sourceName front = left
  | .joined tree _, joins, _, _, h => by
    obtain ⟨front, hfront, hname⟩ := exists_joinedIn tree h
    exact ⟨front, .nested hfront, hname⟩
  | .table .., _, _, _, h => by simp [sourceJoins] at h
  | .derived .., _, _, _, h => by simp [sourceJoins] at h
  | .other .., _, _, _, h => by simp [sourceJoins] at h

theorem exists_joinedIn : ∀ (tree : FromTree) {left : Option String} {join : Join},
    (left, join) ∈ treeJoins tree → ∃ front, JoinedIn tree front join ∧ sourceName front = left
  | ⟨relation, joins⟩, _, _, h => by
    rcases List.mem_append.mp h with hinside | hbehind
    · exact exists_joinedBehind_of_source relation joins hinside
    · exact exists_joinedBehind_of_joins joins relation hbehind

theorem exists_joinedBehind_of_joins : ∀ (joins : List Join) (prior : Source)
    {left : Option String} {join : Join}, (left, join) ∈ joinsBehind (sourceName prior) joins →
      ∃ front, JoinedBehind prior joins front join ∧ sourceName front = left
  | [], _, _, _, h => by simp [joinsBehind] at h
  | first :: more, prior, _, _, h => by
    rcases List.mem_append.mp h with hfirst | hmore
    · exact exists_joinedBehind_of_join first prior more hfirst
    · obtain ⟨front, hfront, hname⟩ := exists_joinedBehind_of_joins more first.relation hmore
      exact ⟨front, .later hfront, hname⟩

theorem exists_joinedBehind_of_join : ∀ (first : Join) (prior : Source) (more : List Join)
    {left : Option String} {join : Join}, (left, join) ∈ joinsWithin (sourceName prior) first →
      ∃ front, JoinedBehind prior (first :: more) front join ∧ sourceName front = left
  | ⟨relation, _, _, _, _⟩, prior, more, _, _, h => by
    rcases List.mem_append.mp h with hinside | hself
    · obtain ⟨front, hfront, hname⟩ := exists_joinedBehind_of_source relation more hinside
      exact ⟨front, .later hfront, hname⟩
    · obtain ⟨rfl, rfl⟩ := Prod.mk.inj (List.mem_singleton.mp hself)
      exact ⟨prior, .here, rfl⟩

end

/-- The joins of a FROM clause are those that stand in it, each with the name of the source in front
of it. -/
theorem mem_treeJoins_iff {left : Option String} :
    (left, join) ∈ treeJoins tree ↔
      ∃ front, JoinedIn tree front join ∧ sourceName front = left := by
  constructor
  · exact exists_joinedIn tree
  · rintro ⟨front, hfront, rfl⟩
    rw [treeJoins_eq]
    exact hfront.mem_joins

/-- A join and the source in front of it are met where the sources and joins are met behind which or
in which it stands. -/
theorem JoinedBehind.within (h : JoinedBehind prior joins front join) :
    join.visits ⊆ prior.visits ++ visitJoins joins ∧
      .source front ∈ prior.visits ++ visitJoins joins := by
  induction h with
  | @here prior join more =>
    refine ⟨List.subset_append_of_subset_right _ (List.subset_append_left _ _), ?_⟩
    exact List.mem_append_left _ prior.source_mem_visits
  | @later prior front first join more _ ih =>
    have hsub : first.relation.visits ++ visitJoins more ⊆
        prior.visits ++ visitJoins (first :: more) :=
      List.subset_append_of_subset_right _
        (List.append_subset.mpr
          ⟨List.Subset.trans first.relation_visits_subset (List.subset_append_left _ _),
            List.subset_append_right _ _⟩)
    exact ⟨List.Subset.trans ih.1 hsub, hsub ih.2⟩
  | @nested inner label joins front join _ ih =>
    have hsub : inner.relation.visits ++ visitJoins inner.joins ⊆
        (Source.joined inner label).visits ++ visitJoins joins := by
      refine List.subset_append_of_subset_left _ (List.subset_cons_of_subset _ ?_)
      cases inner with
      | mk => exact List.Subset.refl _
    exact ⟨List.Subset.trans ih.1 hsub, hsub ih.2⟩

end Joins

/-- A name is that of a source in some visits. -/
def NamesSource (visits : List Visit) (left : Option String) : Prop :=
  ∃ source, .source source ∈ visits ∧ sourceName source = left

/-- The joins of a FROM clause and the sources in front of them are met in its visit. -/
theorem within_treeJoins {tree : FromTree} {visits : List Visit} {left : Option String}
    {join : Join} (hsub : tree.visits ⊆ visits) (h : (left, join) ∈ treeJoins tree) :
    join.visits ⊆ visits ∧ NamesSource visits left := by
  obtain ⟨front, hfront, hname⟩ := mem_treeJoins_iff.mp h
  obtain ⟨hjoin, hsource⟩ := hfront.within
  cases tree with
  | mk => exact ⟨List.Subset.trans hjoin hsub, front, hsub hsource, hname⟩

end ColumnLineage.Lineage
