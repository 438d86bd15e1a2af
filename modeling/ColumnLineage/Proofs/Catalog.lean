import ColumnLineage.Lineage.CteCatalog
import ColumnLineage.Proofs.FirstEntries
import ColumnLineage.Proofs.Visits

/-!
# The catalog and the tables behind it

The catalog of some visits looks up a name among all definitions that the visits meet.  The tables
behind a query are physical tables that are met in the visits.

## Main definitions

* `definitionsIn`: the definitions that some visits meet, repetitions included.
* `definedNames`: their names.

## Main statements

* `CteCatalog.relations?_ofVisits`: a catalog looks up a name among the definitions met.
* `CteCatalog.mem_expandWithin`: what is found is physical and was read somewhere.
* `CteCatalog.mem_expandWithin_of_physical`: a physical table is found where it is read.
* `CteCatalog.expandWithin_congr`: with enough units, what is found depends on the names that are
  read and on nothing else.
-/

namespace ColumnLineage.Lineage

open Sql

/-- The definitions that a step meets, with the tables they read. -/
def definitionsAt : Visit → List (String × List TableKey)
  | .enter q => q.ctes.map fun cte => (cte.label.name.value, relationKeys cte.query.visits)
  | _ => []

/-- The definitions that some visits meet, repetitions included. -/
def definitionsIn (visits : List Visit) : List (String × List TableKey) :=
  visits.flatMap definitionsAt

/-- The names that the WITH lists in some visits define. -/
def definedNames (visits : List Visit) : List String :=
  visits.flatMap fun
    | .enter q => q.ctes.map (·.label.name.value)
    | _ => []

theorem map_fst_definitionsIn (visits : List Visit) :
    (definitionsIn visits).map Prod.fst = definedNames visits := by
  unfold definitionsIn definedNames
  rw [List.map_flatMap]
  congr 1
  funext v
  cases v <;> simp [definitionsAt]

/-- A table is the last part of its name, its database the part in front. -/
theorem TableKey.ofName_eq (name : ObjectName) : TableKey.ofName name =
    ⟨name.values.dropLast.getLastD "", name.values.getLastD ""⟩ := by
  unfold ofName
  rcases name.values.eq_nil_or_concat with hnil | ⟨front, table, hfront⟩
  · rw [hnil]
    rfl
  · rw [hfront]
    rcases front.eq_nil_or_concat with rfl | ⟨rest, database, rfl⟩
    · rfl
    · simp [ofParts]

theorem mem_relationKeys {visits : List Visit} {key : TableKey} :
    key ∈ relationKeys visits ↔ ∃ name, .relation name ∈ visits ∧ TableKey.ofName name = key := by
  unfold relationKeys
  rw [List.mem_eraseDups, List.mem_filterMap]
  constructor
  · rintro ⟨v, hv, hkey⟩
    cases v with
    | relation name => exact ⟨name, hv, by simpa [Visit.table?] using hkey⟩
    | _ => simp [Visit.table?] at hkey
  · rintro ⟨name, hname, hkey⟩
    exact ⟨.relation name, hname, by simp [Visit.table?, hkey]⟩

theorem relationKeys_subset {visits more : List Visit} (h : visits ⊆ more) :
    relationKeys visits ⊆ relationKeys more := by
  intro key hkey
  obtain ⟨name, hname, heq⟩ := mem_relationKeys.mp hkey
  exact mem_relationKeys.mpr ⟨name, h hname, heq⟩

/-- The tables that a definition reads are met where the definition is. -/
theorem mem_relationKeys_of_definition {visits : List Visit} (hclosed : Closed visits)
    {name : String} {relations : List TableKey} (h : (name, relations) ∈ definitionsIn visits) :
    relations ⊆ relationKeys visits := by
  obtain ⟨v, hv, hdef⟩ := List.mem_flatMap.mp h
  cases v with
  | enter q =>
    obtain ⟨cte, hcte, heq⟩ := List.mem_map.mp hdef
    obtain ⟨-, rfl⟩ := Prod.mk.inj heq
    exact relationKeys_subset (List.Subset.trans (q.cte_visits_subset hcte) (hclosed.query hv))
  | _ => simp [definitionsAt] at hdef

namespace CteCatalog

theorem definitions_insertIfAbsent (c : CteCatalog) (name : String) (keys : List TableKey) :
    (c.insertIfAbsent name keys).definitions = keepFirst c.definitions (name, keys) := by
  unfold insertIfAbsent keepFirst
  split <;> rfl

theorem definitions_ofVisit (c : CteCatalog) (v : Visit) :
    (c.ofVisit v).definitions = (definitionsAt v).foldl keepFirst c.definitions := by
  cases v with
  | enter q =>
    simp only [ofVisit, definitionsAt]
    generalize q.ctes = ctes
    induction ctes generalizing c with
    | nil => rfl
    | cons cte more ih =>
      rw [List.foldl_cons, ih, definitions_insertIfAbsent, List.map_cons, List.foldl_cons]
  | _ => rfl

/-- The catalog of some visits holds the first definition of each name. -/
theorem definitions_ofVisits (visits : List Visit) :
    (ofVisits visits).definitions = firstEntries (definitionsIn visits) := by
  have hfold : ∀ c : CteCatalog, (visits.foldl ofVisit c).definitions =
      (definitionsIn visits).foldl keepFirst c.definitions := by
    induction visits with
    | nil => exact fun c => rfl
    | cons v more ih =>
      intro c
      have hcons : definitionsIn (v :: more) = definitionsAt v ++ definitionsIn more :=
        List.flatMap_cons
      rw [List.foldl_cons, ih, definitions_ofVisit, hcons, List.foldl_append]
  exact hfold ⟨[]⟩

/-- A name is looked up among the definitions that are met. -/
theorem relations?_ofVisits (visits : List Visit) (name : String) :
    (ofVisits visits).relations? name = (definitionsIn visits).lookup name := by
  unfold relations?
  rw [definitions_ofVisits, lookup_firstEntries]

theorem mem_names_ofVisits {visits : List Visit} {name : String} :
    name ∈ (ofVisits visits).names ↔ name ∈ definedNames visits := by
  unfold names
  rw [definitions_ofVisits, ← map_fst_definitionsIn]
  exact mem_names_firstEntries

theorem relations?_isSome_iff {c : CteCatalog} {name : String} :
    (c.relations? name).isSome ↔ name ∈ c.names :=
  lookup_isSome_iff_mem

/-- One step of following definitions: a definition that is not followed yet is followed, and a
physical table is added to those found. -/
def expandKey (c : CteCatalog) (units : Nat) (visiting : List String) (found : List TableKey)
    (key : TableKey) : List TableKey :=
  match c.reference? key with
  | some relations =>
    if visiting.contains key.table then found
    else c.expandWithin units (key.table :: visiting) relations found
  | none => if found.contains key then found else found ++ [key]

theorem expandWithin_succ (c : CteCatalog) (units : Nat) (visiting : List String)
    (keys found : List TableKey) : c.expandWithin (units + 1) visiting keys found =
      keys.foldl (c.expandKey units visiting) found :=
  rfl

theorem relations?_of_reference? {c : CteCatalog} {key : TableKey} {relations : List TableKey}
    (h : c.reference? key = some relations) :
    key.database = "" ∧ c.relations? key.table = some relations := by
  unfold reference? at h
  split at h
  · next hempty => exact ⟨String.isEmpty_iff.mp hempty, h⟩
  · simp at h

/-- What is found is physical and was read: every table read satisfies `P`, by the query or by a
definition, so every table found does. -/
theorem mem_expandWithin (c : CteCatalog) {P : TableKey → Prop}
    (hdefs : ∀ name relations, c.relations? name = some relations → ∀ key ∈ relations, P key)
    (units : Nat) (visiting : List String) (keys found : List TableKey)
    (hkeys : ∀ key ∈ keys, P key) (hfound : ∀ key ∈ found, P key ∧ c.reference? key = none) :
    ∀ key ∈ c.expandWithin units visiting keys found, P key ∧ c.reference? key = none := by
  induction units generalizing visiting keys found with
  | zero => exact hfound
  | succ units ih =>
    rw [expandWithin_succ]
    refine List.foldlRecOn (motive := fun found => ∀ key ∈ found, P key ∧ c.reference? key = none)
      keys (c.expandKey units visiting) hfound ?_
    intro found hfound key hkey
    unfold expandKey
    cases href : c.reference? key with
    | some relations =>
      simp only
      split
      · exact hfound
      · exact ih _ relations found
          (hdefs key.table relations (relations?_of_reference? href).2) hfound
    | none =>
      simp only
      split
      · exact hfound
      · intro other hother
        rcases List.mem_append.mp hother with hother | hother
        · exact hfound other hother
        · rw [List.mem_singleton.mp hother]
          exact ⟨hkeys key hkey, href⟩

/-- Nothing that is found is lost. -/
theorem subset_expandWithin (c : CteCatalog) (units : Nat) (visiting : List String)
    (keys found : List TableKey) : found ⊆ c.expandWithin units visiting keys found := by
  induction units generalizing visiting keys found with
  | zero => exact List.Subset.refl found
  | succ units ih =>
    rw [expandWithin_succ]
    refine List.foldlRecOn (motive := fun more => found ⊆ more)
      keys (c.expandKey units visiting) (List.Subset.refl found) ?_
    intro more hmore key _
    unfold expandKey
    split
    · split
      · exact hmore
      · exact List.Subset.trans hmore (ih _ _ more)
    · split
      · exact hmore
      · exact List.Subset.trans hmore (List.subset_append_left more [key])

/-- What following one of the tables that are read finds is found. -/
theorem mem_expandWithin_of_mem_expandKey (c : CteCatalog) (units : Nat) (visiting : List String)
    {keys : List TableKey} (found : List TableKey) {key base : TableKey} (hkey : key ∈ keys)
    (h : ∀ before, base ∈ c.expandKey units visiting before key) :
    base ∈ c.expandWithin (units + 1) visiting keys found := by
  obtain ⟨front, back, rfl⟩ := List.append_of_mem hkey
  rw [expandWithin_succ, List.foldl_append, List.foldl_cons]
  generalize front.foldl (c.expandKey units visiting) found = before
  have hrest := c.subset_expandWithin (units + 1) visiting back
    (c.expandKey units visiting before key)
  rw [expandWithin_succ] at hrest
  exact hrest (h before)

/-- A physical table that is read is found. -/
theorem mem_expandWithin_of_physical (c : CteCatalog) (units : Nat) (visiting : List String)
    {keys : List TableKey} (found : List TableKey) {key : TableKey} (hkey : key ∈ keys)
    (hphysical : c.reference? key = none) :
    key ∈ c.expandWithin (units + 1) visiting keys found := by
  refine c.mem_expandWithin_of_mem_expandKey units visiting found hkey ?_
  intro before
  unfold expandKey
  rw [hphysical]
  by_cases hmem : key ∈ before <;> simp [hmem]

/-- The defined names that are not followed yet. -/
def pendingNames (c : CteCatalog) (visiting : List String) : List String :=
  c.names.filter fun name => !visiting.contains name

theorem length_pendingNames_cons_lt (c : CteCatalog) (visiting : List String) {name : String}
    (hdef : name ∈ c.names) (hnew : visiting.contains name = false) :
    (c.pendingNames (name :: visiting)).length < (c.pendingNames visiting).length := by
  have hfilter : c.pendingNames (name :: visiting) =
      (c.pendingNames visiting).filter fun other => !(other == name) := by
    unfold pendingNames
    rw [List.filter_filter]
    congr 1
    funext other
    rw [List.contains_cons, Bool.not_or]
  rw [hfilter, List.length_filter_lt_length_iff_exists]
  refine ⟨name, List.mem_filter.mpr ⟨hdef, by rw [hnew, Bool.not_false]⟩, by simp⟩

/-- What is found depends on the names that are read only.  Two catalogs that agree on a set of
names, closed under what their definitions read, find the same tables behind them, whatever else
they define.  A name that is followed leaves the pending ones, so units above their number
suffice. -/
theorem expandWithin_congr {c d : CteCatalog} {N : String → Prop}
    (hagree : ∀ name, N name → c.relations? name = d.relations? name)
    (hclosed : ∀ name relations, N name → d.relations? name = some relations →
      ∀ key ∈ relations, N key.table)
    (units units' : Nat) (visiting : List String) (keys found : List TableKey)
    (hkeys : ∀ key ∈ keys, N key.table) (hc : (c.pendingNames visiting).length < units)
    (hd : (d.pendingNames visiting).length < units') :
    c.expandWithin units visiting keys found = d.expandWithin units' visiting keys found := by
  induction units generalizing units' visiting keys found with
  | zero => omega
  | succ units ih =>
    cases units' with
    | zero => omega
    | succ units' =>
      rw [expandWithin_succ, expandWithin_succ]
      refine List.foldl_ext _ _ _ ?_
      intro found key hkey
      have hname := hagree key.table (hkeys key hkey)
      have href : c.reference? key = d.reference? key := by
        unfold reference?
        rw [hname]
      unfold expandKey
      rw [href]
      cases hrel : d.reference? key with
      | none => rfl
      | some relations =>
        have hd' := (relations?_of_reference? hrel).2
        have hc' := hname.trans hd'
        simp only
        cases hnew : visiting.contains key.table with
        | true => rfl
        | false =>
          -- The name is followed in both catalogs, so that it is pending in neither any more.
          have hltc := length_pendingNames_cons_lt c visiting
            (relations?_isSome_iff.mp (by rw [hc']; rfl)) hnew
          have hltd := length_pendingNames_cons_lt d visiting
            (relations?_isSome_iff.mp (by rw [hd']; rfl)) hnew
          exact ih units' _ relations found
            (hclosed key.table relations (hkeys key hkey) hd') (by omega) (by omega)

/-- The units that an expansion starts with suffice. -/
theorem length_pendingNames_lt (c : CteCatalog) (visiting : List String) :
    (c.pendingNames visiting).length < c.definitions.length + 1 := by
  have hle := List.length_filter_le (fun name => !visiting.contains name) c.names
  have hlen : c.names.length = c.definitions.length := List.length_map _
  unfold pendingNames
  omega

theorem expand_congr {c d : CteCatalog} {N : String → Prop}
    (hagree : ∀ name, N name → c.relations? name = d.relations? name)
    (hclosed : ∀ name relations, N name → d.relations? name = some relations →
      ∀ key ∈ relations, N key.table)
    (visiting : List String) (keys : List TableKey) (hkeys : ∀ key ∈ keys, N key.table) :
    c.expand visiting keys = d.expand visiting keys :=
  expandWithin_congr hagree hclosed _ _ visiting keys [] hkeys (c.length_pendingNames_lt visiting)
    (d.length_pendingNames_lt visiting)

theorem single_eq_some {keys : List TableKey} {key : TableKey} (h : single keys = some key) :
    keys = [key] := by
  unfold single at h
  split at h
  · rw [Option.some.inj h]
  · simp at h

/-- The only table behind a query is physical and is met where the query is. -/
theorem physical_of_singleBase {visits : List Visit} (hclosed : Closed visits) {q : Query}
    (hq : .enter q ∈ visits) {key : TableKey} (h : (ofVisits visits).singleBase q = some key) :
    key ∈ relationKeys visits ∧ (ofVisits visits).reference? key = none := by
  have hmem : key ∈ (ofVisits visits).baseTables q := by
    rw [single_eq_some h]
    exact List.mem_singleton_self key
  refine mem_expandWithin _ ?_ _ [] (relationKeys q.visits) [] ?_ (by simp) key hmem
  · intro name relations hrel
    rw [relations?_ofVisits] at hrel
    exact mem_relationKeys_of_definition hclosed (mem_of_lookup_eq_some hrel)
  · exact relationKeys_subset (hclosed.query hq)

/-- The only table behind a definition is physical and is met where the definition is. -/
theorem physical_of_cteBase {visits : List Visit} (hclosed : Closed visits) {name : String}
    {key : TableKey} (h : (ofVisits visits).cteBase name = some key) :
    key ∈ relationKeys visits ∧ (ofVisits visits).reference? key = none := by
  have hdefs : ∀ name relations, (ofVisits visits).relations? name = some relations →
      relations ⊆ relationKeys visits := by
    intro name relations hrel
    rw [relations?_ofVisits] at hrel
    exact mem_relationKeys_of_definition hclosed (mem_of_lookup_eq_some hrel)
  unfold cteBase at h
  split at h
  · next relations hrel =>
    have hmem : key ∈ (ofVisits visits).expand [name] relations := by
      rw [single_eq_some h]
      exact List.mem_singleton_self key
    exact mem_expandWithin _ hdefs _ [name] relations [] (hdefs name relations hrel) (by simp)
      key hmem
  · simp at h

/-- The only table behind a query is any physical table that the query reads. -/
theorem eq_of_singleBase {c : CteCatalog} {q : Query} {key base : TableKey}
    (hkey : key ∈ relationKeys q.visits) (hphysical : c.reference? key = none)
    (h : c.singleBase q = some base) : base = key := by
  have hmem : key ∈ c.baseTables q := c.mem_expandWithin_of_physical _ [] [] hkey hphysical
  rw [single_eq_some h] at hmem
  exact (List.mem_singleton.mp hmem).symm

end CteCatalog

end ColumnLineage.Lineage
