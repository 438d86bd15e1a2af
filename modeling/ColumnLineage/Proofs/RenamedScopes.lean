import ColumnLineage.Proofs.Output
import ColumnLineage.Proofs.RenamedTraversal
import ColumnLineage.Proofs.Sources
import Mathlib.Logic.Equiv.Basic

/-!
# Renamed catalogs and scopes

Names are compared for equality, and told from the empty name, and nothing else is asked of them.
So a renaming that tells names apart carries over to everything that is looked up: to the catalog
of definitions, to scopes, and to what a reference is resolved to.

## Main definitions

* `Renames`: a function that tells names apart and keeps those with a meaning of their own.
* `CteCatalog.rename`, `Scope.rename`, `Resolution.rename`: what is looked up, renamed.

## Main statements

* `Renames.ofStatement_catalog`, `Renames.ofStatement_scope`: the catalog and the scope of a renamed
  statement.
* `Renames.resolve`: the resolution of a renamed reference in renamed scopes.
-/

namespace ColumnLineage.Lineage

open Sql

/-- A function that gives different names to different ones, and keeps the empty name, the name of
all columns and the name of what has no single table. -/
structure Renames (f : String → String) : Prop where
  injective : Function.Injective f
  empty : f "" = ""
  star : f "*" = "*"
  placeholder : f derivedPlaceholder = derivedPlaceholder

/-- The renaming that swaps two names. -/
theorem renames_swap {a b : String} (ha : a ∉ ["", "*", derivedPlaceholder])
    (hb : b ∉ ["", "*", derivedPlaceholder]) : Renames (Equiv.swap a b) := by
  have hkept : ∀ name ∈ ["", "*", derivedPlaceholder], Equiv.swap a b name = name :=
    fun name hname => Equiv.swap_apply_of_ne_of_ne (fun h => ha (h ▸ hname)) fun h => hb (h ▸ hname)
  exact ⟨(Equiv.swap a b).injective, hkept _ (by simp), hkept _ (by simp), hkept _ (by simp)⟩

section Tables

variable (f : String → String)

def TableKey.rename (key : TableKey) : TableKey :=
  ⟨f key.database, f key.table⟩

def CteCatalog.rename (c : CteCatalog) : CteCatalog :=
  ⟨c.definitions.map (Prod.map f (List.map (TableKey.rename f)))⟩

def ScopeEntry.rename (entry : ScopeEntry) : ScopeEntry :=
  ⟨entry.kind, entry.base.map (TableKey.rename f), f entry.label⟩

def Scope.rename (s : Scope) : Scope :=
  ⟨s.entries.map (Prod.map f (ScopeEntry.rename f))⟩

def Scopes.rename (scopes : Scopes) : Scopes :=
  ⟨scopes.inner.rename f, scopes.outer.rename f⟩

def Resolution.rename : Resolution → Resolution
  | .found entry => .found (entry.rename f)
  | .invalidAlias => .invalidAlias
  | .ambiguous => .ambiguous
  | .unresolved => .unresolved

@[simp] theorem ScopeEntry.isDerived_rename (entry : ScopeEntry) :
    (entry.rename f).isDerived = entry.isDerived :=
  Option.isNone_map

theorem CteCatalog.single_rename (keys : List TableKey) :
    CteCatalog.single (keys.map (TableKey.rename f)) =
      (CteCatalog.single keys).map (TableKey.rename f) := by
  match keys with
  | [] => rfl
  | [_] => rfl
  | _ :: _ :: _ => rfl

theorem sourceName_rename (source : Source) :
    sourceName (source.rename f) = (sourceName source).map f := by
  cases source with
  | table name arguments label extras =>
    simp only [Source.rename, sourceName, aliasName_rename, ObjectName.values_rename,
      List.getLast?_map]
    cases aliasName label <;> rfl
  | derived lateral query label extras => exact aliasName_rename f label
  | joined tree label => rfl
  | other layout parts label => rfl

/-- The names of a renamed catalog. -/
theorem CteCatalog.names_rename (c : CteCatalog) : (c.rename f).names = c.names.map f := by
  simp [names, rename]

namespace Scope

theorem sole_rename (s : Scope) : (s.rename f).sole = s.sole.map (ScopeEntry.rename f) := by
  obtain ⟨entries⟩ := s
  match entries with
  | [] => rfl
  | [_] => rfl
  | _ :: _ :: _ => rfl

theorem size_rename (s : Scope) : (s.rename f).size = s.size :=
  List.length_map _

theorem isEmpty_rename (s : Scope) : (s.rename f).isEmpty = s.isEmpty :=
  List.isEmpty_map

mutual

theorem flatSources_rename : ∀ source : Source,
    flatSources (source.rename f) = (flatSources source).map (Source.rename f)
  | .joined tree _ => flatTree_rename tree
  | .table .. => rfl
  | .derived .. => rfl
  | .other .. => rfl

/-- The sources of a renamed FROM clause. -/
theorem flatTree_rename : ∀ tree : FromTree,
    flatTree (tree.rename f) = (flatTree tree).map (Source.rename f)
  | ⟨relation, joins⟩ => by
    rw [FromTree.rename, flatTree, flatTree, List.map_append, flatSources_rename relation,
      flatJoins_rename joins]

theorem flatJoins_rename : ∀ joins : List Join,
    flatJoins (renameJoins f joins) = (flatJoins joins).map (Source.rename f)
  | [] => rfl
  | join :: more => by
    rw [renameJoins, flatJoins, flatJoins, List.map_append, flatJoin_rename join,
      flatJoins_rename more]

theorem flatJoin_rename : ∀ join : Join,
    flatJoin (join.rename f) = (flatJoin join).map (Source.rename f)
  | ⟨relation, _, _, _, _⟩ => flatSources_rename relation

end

theorem fromSources_rename (select : Select) :
    fromSources (select.rename f) = (fromSources select).map (Source.rename f) := by
  unfold fromSources
  rw [Select.sources_rename]
  exact flatMap_renamed fun tree _ => flatTree_rename f tree

theorem orderedSources_rename (visits : List Visit) :
    orderedSources (visits.map (Visit.rename f)) =
      (orderedSources visits).map (Source.rename f) := by
  have hsources : (visits.map (Visit.rename f)).filterMap source? =
      (visits.filterMap source?).map (Source.rename f) := by
    refine filterMap_renamed fun v => ?_
    cases v <;> rfl
  have hkind : ∀ source : Source, isSubquery (source.rename f) = isSubquery source := by
    intro source
    cases source <;> rfl
  unfold orderedSources
  rw [hsources, List.filter_map, List.filter_map, List.map_append]
  simp only [Function.comp_def, hkind]

end Scope

theorem Scopes.resolveUnqualified_rename (scopes : Scopes) :
    (scopes.rename f).resolveUnqualified = scopes.resolveUnqualified.rename f := by
  have hsole : (scopes.rename f).sole = scopes.sole.map (ScopeEntry.rename f) := by
    simp only [Scopes.sole, Scopes.rename, Scope.sole_rename]
    cases scopes.inner.sole <;> rfl
  have hcandidates : (scopes.rename f).candidates = scopes.candidates := by
    simp only [Scopes.candidates, Scopes.rename, Scope.isEmpty_rename, Scope.size_rename]
  unfold Scopes.resolveUnqualified
  rw [hsole, hcandidates]
  cases scopes.sole with
  | some entry => rfl
  | none =>
    simp only [Option.map_none]
    split <;> rfl

end Tables

namespace Renames

variable {f : String → String} (hf : Renames f)

include hf

section Names

theorem beq (a b : String) : (f a == f b) = (a == b) := by
  rw [Bool.eq_iff_iff, beq_iff_eq, beq_iff_eq]
  exact hf.injective.eq_iff

theorem isEmpty (name : String) : (f name).isEmpty = name.isEmpty := by
  rw [Bool.eq_iff_iff, String.isEmpty_iff, String.isEmpty_iff]
  exact ⟨fun h => hf.injective (h.trans hf.empty.symm), fun h => h ▸ hf.empty⟩

theorem getD_empty (name : Option String) : (name.map f).getD "" = f (name.getD "") := by
  cases name with
  | none => exact hf.empty.symm
  | some name => rfl

theorem eq_star (name : String) : (f name == "*") = (name == "*") := by
  rw [← hf.star, hf.beq, hf.star]

theorem contains (names : List String) (name : String) :
    (names.map f).contains (f name) = names.contains name := by
  rw [Bool.eq_iff_iff, List.contains_iff_mem, List.contains_iff_mem]
  exact List.mem_map_of_injective hf.injective

theorem getLastD (names : List String) : (names.map f).getLastD "" = f (names.getLastD "") := by
  have hmap := List.getLastD_map (f := f) (l := names) (a := "")
  rwa [hf.empty] at hmap

theorem lookup {β γ : Type} (g : β → γ) (items : List (String × β)) (name : String) :
    (items.map (Prod.map f g)).lookup (f name) = (items.lookup name).map g := by
  induction items with
  | nil => rfl
  | cons item more ih =>
    obtain ⟨key, value⟩ := item
    simp only [List.map_cons, Prod.map, List.lookup_cons, hf.beq]
    cases name == key with
    | true => rfl
    | false => exact ih

theorem firstEntries {β γ : Type} (g : β → γ) (items : List (String × β)) :
    firstEntries (items.map (Prod.map f g)) = (firstEntries items).map (Prod.map f g) := by
  unfold Lineage.firstEntries
  rw [List.foldl_map]
  change items.foldl _ (List.map (Prod.map f g) []) = _
  -- An entry is kept if its name is not looked up among those before it.
  refine List.foldl_hom (List.map (Prod.map f g)) ?_
  intro entries item
  unfold keepFirst
  rw [Prod.map_fst, hf.lookup, Option.isSome_map]
  split <;> simp

end Names

section Catalog

theorem injective_key : Function.Injective (TableKey.rename f) := by
  rintro ⟨database, table⟩ ⟨other, name⟩ h
  obtain ⟨hdatabase, htable⟩ := TableKey.mk.inj h
  exact congrArg₂ TableKey.mk (hf.injective hdatabase) (hf.injective htable)

theorem ofName (name : ObjectName) :
    TableKey.ofName (name.rename f) = (TableKey.ofName name).rename f := by
  rw [TableKey.ofName_eq, TableKey.ofName_eq, ObjectName.values_rename, ← List.map_dropLast,
    hf.getLastD, hf.getLastD]
  rfl

theorem relationKeys (visits : List Visit) :
    relationKeys (visits.map (Visit.rename f)) =
      (relationKeys visits).map (TableKey.rename f) := by
  unfold Lineage.relationKeys
  -- Tables are told apart before and after, so that the same repetitions are removed.
  rw [← eraseDups_map fun _ _ _ _ h => hf.injective_key h]
  refine congrArg List.eraseDups (filterMap_renamed fun v => ?_)
  cases v with
  | relation name => exact congrArg some (hf.ofName name)
  | _ => rfl

/-- The definitions that are met. -/
theorem definitionsIn (visits : List Visit) :
    definitionsIn (visits.map (Visit.rename f)) =
      (definitionsIn visits).map (Prod.map f (List.map (TableKey.rename f))) := by
  unfold Lineage.definitionsIn
  refine flatMap_renamed fun v _ => ?_
  cases v with
  | enter q =>
    simp only [Visit.rename, definitionsAt, Query.ctes_rename, List.map_map]
    refine List.map_congr_left fun cte _ => ?_
    simp [Query.visits_rename, hf.relationKeys]
  | _ => rfl

theorem ofStatement_catalog (s : Statement) :
    CteCatalog.ofStatement (s.rename f) = (CteCatalog.ofStatement s).rename f := by
  have hdefinitions : (CteCatalog.ofStatement (s.rename f)).definitions =
      ((CteCatalog.ofStatement s).rename f).definitions := by
    unfold CteCatalog.ofStatement CteCatalog.rename
    rw [CteCatalog.definitions_ofVisits, CteCatalog.definitions_ofVisits, s.visits_rename,
      hf.definitionsIn, hf.firstEntries]
  cases h : CteCatalog.ofStatement (s.rename f)
  rw [h] at hdefinitions
  exact congrArg CteCatalog.mk hdefinitions

variable (c : CteCatalog)

theorem relations? (name : String) : (c.rename f).relations? (f name) =
    (c.relations? name).map (List.map (TableKey.rename f)) :=
  hf.lookup _ c.definitions name

theorem reference? (key : TableKey) : (c.rename f).reference? (key.rename f) =
    (c.reference? key).map (List.map (TableKey.rename f)) := by
  simp only [CteCatalog.reference?, TableKey.rename, hf.isEmpty, hf.relations?]
  split <;> rfl

theorem contains_key (keys : List TableKey) (key : TableKey) :
    (keys.map (TableKey.rename f)).contains (key.rename f) = keys.contains key := by
  rw [Bool.eq_iff_iff, List.contains_iff_mem, List.contains_iff_mem]
  exact List.mem_map_of_injective hf.injective_key

/-- Following definitions finds the renamed tables: each step asks whether a name is defined, and
whether it or a table is among some others. -/
theorem expandWithin (units : Nat) (visiting : List String) (keys found : List TableKey) :
    (c.rename f).expandWithin units (visiting.map f) (keys.map (TableKey.rename f))
        (found.map (TableKey.rename f)) =
      (c.expandWithin units visiting keys found).map (TableKey.rename f) := by
  induction units generalizing visiting keys found with
  | zero => rfl
  | succ units ih =>
    rw [CteCatalog.expandWithin_succ, CteCatalog.expandWithin_succ, List.foldl_map]
    refine List.foldl_hom (List.map (TableKey.rename f)) ?_
    intro found key
    have hvisiting : (visiting.map f).contains (key.rename f).table =
        visiting.contains key.table := hf.contains visiting key.table
    unfold CteCatalog.expandKey
    rw [hf.reference?, hvisiting, hf.contains_key]
    cases c.reference? key with
    | some relations =>
      simp only [Option.map_some]
      split
      · rfl
      · exact ih (key.table :: visiting) relations found
    | none =>
      simp only [Option.map_none]
      split <;> simp

theorem expand (visiting : List String) (keys : List TableKey) :
    (c.rename f).expand (visiting.map f) (keys.map (TableKey.rename f)) =
      (c.expand visiting keys).map (TableKey.rename f) := by
  have hunits : (c.rename f).definitions.length = c.definitions.length := List.length_map _
  unfold CteCatalog.expand
  rw [hunits]
  exact hf.expandWithin c _ visiting keys []

theorem singleBase (q : Query) :
    (c.rename f).singleBase (q.rename f) = (c.singleBase q).map (TableKey.rename f) := by
  unfold CteCatalog.singleBase CteCatalog.baseTables
  rw [q.visits_rename, hf.relationKeys, ← CteCatalog.single_rename, ← hf.expand]
  rfl

theorem cteBase (name : String) :
    (c.rename f).cteBase (f name) = (c.cteBase name).map (TableKey.rename f) := by
  unfold CteCatalog.cteBase
  rw [hf.relations?]
  cases c.relations? name with
  | none => rfl
  | some relations =>
    simp only [Option.map_some]
    rw [← CteCatalog.single_rename, ← hf.expand]
    rfl

end Catalog

section Sources

theorem physical (key : TableKey) (label : Option String) :
    ScopeEntry.physical (key.rename f) (label.map f) =
      (ScopeEntry.physical key label).rename f := by
  cases label with
  | none => simp [ScopeEntry.physical, ScopeEntry.rename, hf.empty]
  | some label =>
    simp only [ScopeEntry.physical, ScopeEntry.rename, Option.map_some, TableKey.rename, hf.beq]
    split
    · rw [hf.empty]
    · rfl

/-- What a source stands for, and the name under which it is found. -/
theorem sourceEntry (c : CteCatalog) (source : Source) :
    sourceEntry (c.rename f) (source.rename f) =
      (sourceEntry c source).map (Prod.map f (ScopeEntry.rename f)) := by
  cases source with
  | table name arguments label extras =>
    have hlabel : ((aliasName label).map f).getD ((TableKey.ofName name).rename f).table =
        f ((aliasName label).getD (TableKey.ofName name).table) := Option.getD_map ..
    have hbase : (c.rename f).cteBase ((TableKey.ofName name).rename f).table =
        (c.cteBase (TableKey.ofName name).table).map (TableKey.rename f) := hf.cteBase c _
    simp only [Source.rename, Lineage.sourceEntry, hf.ofName, hf.reference?, aliasName_rename]
    cases c.reference? (TableKey.ofName name) with
    | some relations => simp only [Option.map_some, hlabel, hbase, Prod.map, ScopeEntry.rename]
    | none => simp only [Option.map_none, Option.map_some, hlabel, hf.physical, Prod.map]
  | derived lateral query label extras =>
    simp only [Source.rename, Lineage.sourceEntry, aliasName_rename, hf.singleBase]
    cases aliasName label <;> rfl
  | joined tree label => rfl
  | other layout parts label => rfl

theorem ofList (items : List (String × ScopeEntry)) :
    Scope.ofList (items.map (Prod.map f (ScopeEntry.rename f))) =
      (Scope.ofList items).rename f := by
  have hentries : (Scope.ofList (items.map (Prod.map f (ScopeEntry.rename f)))).entries =
      ((Scope.ofList items).rename f).entries := by
    unfold Scope.rename
    rw [Scope.entries_ofList, Scope.entries_ofList, hf.firstEntries]
  exact congrArg Scope.mk hentries

theorem filterMap_sourceEntry (c : CteCatalog) (sources : List Source) :
    (sources.map (Source.rename f)).filterMap (Lineage.sourceEntry (c.rename f)) =
      (sources.filterMap (Lineage.sourceEntry c)).map (Prod.map f (ScopeEntry.rename f)) :=
  filterMap_renamed (hf.sourceEntry c)

theorem ofSelect (c : CteCatalog) (select : Select) :
    Scope.ofSelect (c.rename f) (select.rename f) = (Scope.ofSelect c select).rename f := by
  have hsources : (select.rename f).sources.flatMap Scope.flatTree =
      (select.sources.flatMap Scope.flatTree).map (Source.rename f) :=
    Scope.fromSources_rename f select
  unfold Scope.ofSelect
  rw [hsources, hf.filterMap_sourceEntry, hf.ofList]

theorem ofStatement_scope (c : CteCatalog) (s : Statement) :
    Scope.ofStatement (c.rename f) (s.rename f) = (Scope.ofStatement c s).rename f := by
  unfold Scope.ofStatement
  rw [← hf.ofList, Scope.globalItems_eq, Scope.globalItems_eq, s.visits_rename, List.map_append,
    ← hf.filterMap_sourceEntry, Scope.orderedSources_rename, CteCatalog.names_rename, List.map_map,
    List.map_map]
  congr 2
  refine List.map_congr_left fun name _ => ?_
  simp [ScopeEntry.rename, hf.cteBase]

end Sources

section Resolution

variable (scopes : Scopes)

theorem get? (s : Scope) (name : String) :
    (s.rename f).get? (f name) = (s.get? name).map (ScopeEntry.rename f) :=
  hf.lookup _ s.entries name

theorem lookup_scopes (name : String) :
    (scopes.rename f).lookup (f name) = (scopes.lookup name).map (ScopeEntry.rename f) := by
  simp only [Scopes.lookup, Scopes.rename, hf.get?]
  cases scopes.inner.get? name <;> rfl

theorem bind_lookup (name : Option String) : (name.map f).bind (scopes.rename f).lookup =
    (name.bind scopes.lookup).map (ScopeEntry.rename f) := by
  cases name with
  | none => rfl
  | some name => exact hf.lookup_scopes scopes name

/-- What a renamed reference is resolved to. -/
theorem resolve (qualifier fallback : Option String) :
    (scopes.rename f).resolve (qualifier.map f) (fallback.map f) =
      (scopes.resolve qualifier fallback).rename f := by
  cases qualifier with
  | some qualifier =>
    simp only [Scopes.resolve, Option.map_some, hf.lookup_scopes]
    cases scopes.lookup qualifier <;> rfl
  | none =>
    simp only [Scopes.resolve, Option.map_none, hf.bind_lookup, Scopes.resolveUnqualified_rename]
    cases fallback.bind scopes.lookup <;> rfl

end Resolution

end Renames

end ColumnLineage.Lineage
