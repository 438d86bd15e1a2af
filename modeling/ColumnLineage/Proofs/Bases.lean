import ColumnLineage.Proofs.WithScope

/-!
# Single bases

The base of a subquery or of a definition is the only physical table to which its references lead.
The catalog finds the tables by a search that may run into a definition again; the search comes to
an end from any start, whatever cycles the definitions have.

## Main definitions

* `CteCatalog.Finds`: the search, without any bound on its steps.
* `Leads`: a physical table is reached from a reference, with definitions replaced by what they
  read.
* `ScopeEntry.StandsFor`: an entry has the only table of which something holds.
* `BasesExact`: bases are exact for a way of telling which definition a reference stands for.

## Main statements

* `CteCatalog.finds_iff`: the search has one result, which is the one that is computed.
* `basesExact_ofStatement`: bases are exact for references without a database.
-/

namespace ColumnLineage.Lineage

open Sql

namespace CteCatalog

/-- Definitions are followed from some tables, one after the other, without a bound on how many.
The tables found grow from the first list to the second one; the names in `visiting` are being
followed. -/
inductive Finds (c : CteCatalog) :
    List String → List TableKey → List TableKey → List TableKey → Prop
  | done {visiting : List String} {found : List TableKey} : Finds c visiting [] found found
  /-- A definition that is being followed is not followed again. -/
  | again {visiting : List String} {key : TableKey} {more relations found last : List TableKey}
      (href : c.reference? key = some relations) (hvisiting : key.table ∈ visiting)
      (h : Finds c visiting more found last) : Finds c visiting (key :: more) found last
  | definition {visiting : List String} {key : TableKey}
      {more relations found between last : List TableKey}
      (href : c.reference? key = some relations) (hnew : key.table ∉ visiting)
      (hinside : Finds c (key.table :: visiting) relations found between)
      (h : Finds c visiting more between last) : Finds c visiting (key :: more) found last
  /-- A physical table is found once. -/
  | table {visiting : List String} {key : TableKey} {more found last : List TableKey}
      (href : c.reference? key = none)
      (h : Finds c visiting more (if key ∈ found then found else found ++ [key]) last) :
      Finds c visiting (key :: more) found last

variable {c : CteCatalog} {visiting : List String} {keys found last other : List TableKey}

/-- The search has one result at most. -/
theorem Finds.unique (h : c.Finds visiting keys found last)
    (hother : c.Finds visiting keys found other) : last = other := by
  induction h generalizing other with
  | done =>
    cases hother
    rfl
  | again href hvisiting _ ih =>
    cases hother with
    | again _ _ hother => exact ih hother
    | definition _ hnew _ _ => exact absurd hvisiting hnew
    | table hnone _ => simp [href] at hnone
  | definition href hnew _ _ ihinside ih =>
    cases hother with
    | again _ hvisiting _ => exact absurd hvisiting hnew
    | definition hother _ hinside hmore =>
      obtain rfl := Option.some.inj (href.symm.trans hother)
      obtain rfl := ihinside hinside
      exact ih hmore
    | table hnone _ => simp [href] at hnone
  | table href _ ih =>
    cases hother with
    | again hsome _ _ => simp [href] at hsome
    | definition hsome _ _ _ => simp [href] at hsome
    | table _ hother => exact ih hother

/-- With units above the number of pending names, what is computed is a result of the search.  A
name that is followed leaves the pending ones, so that no cycle uses the units up. -/
theorem finds_expandWithin (units : Nat) (visiting : List String) (keys found : List TableKey)
    (hunits : (c.pendingNames visiting).length < units) :
    c.Finds visiting keys found (c.expandWithin units visiting keys found) := by
  induction units generalizing visiting keys found with
  | zero => omega
  | succ units ih =>
    rw [expandWithin_succ]
    induction keys generalizing found with
    | nil => exact .done
    | cons key more ihmore =>
      rw [List.foldl_cons]
      cases href : c.reference? key with
      | none =>
        have hstep : c.expandKey units visiting found key =
            if key ∈ found then found else found ++ [key] := by simp [expandKey, href]
        rw [hstep]
        exact .table href (ihmore _)
      | some relations =>
        by_cases hvisiting : key.table ∈ visiting
        · have hstep : c.expandKey units visiting found key = found := by
            simp [expandKey, href, hvisiting]
          rw [hstep]
          exact .again href hvisiting (ihmore found)
        · have hstep : c.expandKey units visiting found key =
              c.expandWithin units (key.table :: visiting) relations found := by
            simp [expandKey, href, hvisiting]
          have hdefined : key.table ∈ c.names :=
            relations?_isSome_iff.mp (by rw [(relations?_of_reference? href).2]; rfl)
          have hpending :=
            c.length_pendingNames_cons_lt visiting hdefined (by simpa using hvisiting)
          rw [hstep]
          exact .definition href hvisiting (ih _ relations found (by omega)) (ihmore _)

/-- The search ends, and what it finds is what is computed. -/
theorem finds_iff : c.Finds visiting keys [] found ↔ found = c.expand visiting keys := by
  have hexpand : c.Finds visiting keys [] (c.expand visiting keys) :=
    finds_expandWithin _ visiting keys [] (c.length_pendingNames_lt visiting)
  constructor
  · exact fun h => h.unique hexpand
  · rintro rfl
    exact hexpand

end CteCatalog

section References

variable {s : Statement} {definition? : ObjectName → Option Cte} {name : ObjectName}
  {base : TableKey}

/-- A physical table is reached from a reference, where each reference to a definition is replaced
by the references in its query. -/
inductive Leads (definition? : ObjectName → Option Cte) : ObjectName → TableKey → Prop
  | physical {name : ObjectName} (h : definition? name = none) :
      Leads definition? name (.ofName name)
  | definition {name next : ObjectName} {base : TableKey} {cte : Cte}
      (hcte : definition? name = some cte) (hread : .relation next ∈ cte.query.visits)
      (h : Leads definition? next base) : Leads definition? name base

/-- The first definition in a statement of the table of a reference without a database. -/
def unqualifiedDefinition? (s : Statement) (name : ObjectName) : Option Cte :=
  firstDefinition? s (.ofName name)

/-- The first definition in a statement of the name that a reference of one part is. -/
def onePartDefinition? (s : Statement) (name : ObjectName) : Option Cte :=
  match name.values with
  | [part] => (ctesIn s.visits).find? (·.label.name.value == part)
  | _ => none

/-- The two differ at references of several parts only, where the part in front of the table is
empty. -/
theorem unqualifiedDefinition?_eq_or (s : Statement) (name : ObjectName) :
    unqualifiedDefinition? s name = onePartDefinition? s name ∨
      name.values.length ≠ 1 ∧ (TableKey.ofName name).database = "" := by
  by_cases hone : name.values.length = 1
  · obtain ⟨part, hpart⟩ := List.length_eq_one_iff.mp hone
    have hkey : TableKey.ofName name = ⟨"", part⟩ := by rw [TableKey.ofName, hpart]; rfl
    left
    simp [unqualifiedDefinition?, firstDefinition?, hkey, onePartDefinition?, hpart]
  · by_cases hempty : (TableKey.ofName name).database = ""
    · exact Or.inr ⟨hone, hempty⟩
    · left
      have hparts : onePartDefinition? s name = none := by
        unfold onePartDefinition?
        split
        · next part hpart => simp [hpart] at hone
        · rfl
      simp [unqualifiedDefinition?, firstDefinition?, hempty, hparts]

/-- The catalog follows a reference to its definition. -/
theorem reference?_ofName (s : Statement) (name : ObjectName) :
    (CteCatalog.ofStatement s).reference? (.ofName name) =
      (unqualifiedDefinition? s name).map fun cte => relationKeys cte.query.visits :=
  reference?_ofStatement s (.ofName name)

/-- The catalog reaches what references lead to. -/
theorem leads_iff_behind : Leads (unqualifiedDefinition? s) name base ↔
    (CteCatalog.ofStatement s).Behind (.ofName name) base := by
  constructor
  · intro h
    induction h with
    | physical hnone => exact .physical (by rw [reference?_ofName, hnone, Option.map_none])
    | @definition name next base cte hcte hread _ ih =>
      have href : (CteCatalog.ofStatement s).reference? (.ofName name) =
          some (relationKeys cte.query.visits) := by
        rw [reference?_ofName, hcte, Option.map_some]
      exact .definition href (mem_relationKeys.mpr ⟨next, hread, rfl⟩) ih
  · rintro ⟨steps, h⟩
    generalize hkey : TableKey.ofName name = key at h
    -- The catalog keeps tables, so that each of them is traced back to a reference.
    induction h generalizing name with
    | physical hnone =>
      subst hkey
      rw [reference?_ofName, Option.map_eq_none_iff] at hnone
      exact .physical hnone
    | definition href hread _ ih =>
      subst hkey
      rw [reference?_ofName, Option.map_eq_some_iff] at href
      obtain ⟨cte, hcte, rfl⟩ := href
      obtain ⟨next, hnext, rfl⟩ := mem_relationKeys.mp hread
      exact .definition hcte hnext (ih rfl)

/-- The references of a query lead to a table. -/
def QueryLeads (definition? : ObjectName → Option Cte) (q : Query) (base : TableKey) : Prop :=
  ∃ name, .relation name ∈ q.visits ∧ Leads definition? name base

theorem queryLeads_iff {q : Query} : QueryLeads (unqualifiedDefinition? s) q base ↔
    ∃ key ∈ relationKeys q.visits, (CteCatalog.ofStatement s).Behind key base := by
  constructor
  · rintro ⟨name, hname, hleads⟩
    exact ⟨_, mem_relationKeys.mpr ⟨name, hname, rfl⟩, leads_iff_behind.mp hleads⟩
  · rintro ⟨key, hkey, hbehind⟩
    obtain ⟨name, hname, rfl⟩ := mem_relationKeys.mp hkey
    exact ⟨name, hname, leads_iff_behind.mpr hbehind⟩

end References

section Entries

/-- A property has one only table at most. -/
theorem OnlyTable.unique {P : TableKey → Prop} {base other : Option TableKey}
    (h : OnlyTable P base) (hother : OnlyTable P other) : base = other :=
  Option.ext fun key => (h key).trans (hother key).symm

/-- An entry has the only table of which something holds, and is derived, without a database and a
table, where it holds of none or of several. -/
structure ScopeEntry.StandsFor (entry : ScopeEntry) (P : TableKey → Prop) : Prop where
  only : ∀ key, (∀ other, P other ↔ other = key) →
    entry.isDerived = false ∧ entry.database = key.database ∧ entry.table = key.table
  none : (¬ ∃ key, ∀ other, P other ↔ other = key) →
    entry.isDerived = true ∧ entry.database = "" ∧ entry.table = ""

theorem OnlyTable.standsFor {P : TableKey → Prop} {entry : ScopeEntry}
    (h : OnlyTable P entry.base) : entry.StandsFor P where
  only key hkey := by
    have hbase := (h key).mpr hkey
    simp [ScopeEntry.isDerived, ScopeEntry.database, ScopeEntry.table, hbase]
  none hnone := by
    have hbase : entry.base = Option.none := by
      cases hbase : entry.base with
      | none => rfl
      | some key => exact absurd ⟨key, (h key).mp hbase⟩ hnone
    simp [ScopeEntry.isDerived, ScopeEntry.database, ScopeEntry.table, hbase]

/-- The catalog of a statement finds exactly the physical tables to which references lead, and bases
and entries are made of them, where `definition?` tells which definition a reference stands for. -/
structure BasesExact (s : Statement) (definition? : ObjectName → Option Cte) : Prop where
  /-- From any start the search for tables ends with one result. -/
  ends : ∀ visiting keys found, (CteCatalog.ofStatement s).Finds visiting keys [] found ↔
    found = (CteCatalog.ofStatement s).expand visiting keys
  /-- No table behind a query is found twice. -/
  once : ∀ q, ((CteCatalog.ofStatement s).baseTables q).Nodup
  /-- The tables behind a query are those to which its references lead. -/
  reached : ∀ q base, base ∈ (CteCatalog.ofStatement s).baseTables q ↔ QueryLeads definition? q base
  /-- The base of a query is the only one of them. -/
  single : ∀ q, OnlyTable (QueryLeads definition? q) ((CteCatalog.ofStatement s).singleBase q)
  /-- The base of a name is that of a query that reads this name alone, if the name is defined. -/
  named : ∀ name q, relationKeys q.visits = [⟨"", name⟩] →
    (CteCatalog.ofStatement s).cteBase name =
      if name ∈ (CteCatalog.ofStatement s).names then (CteCatalog.ofStatement s).singleBase q
      else none
  /-- The entry of a subquery with an alias has the only table to which its references lead. -/
  subquery : ∀ lateral q label extras, ∃ entry,
    sourceEntry (.ofStatement s) (.derived lateral q (some label) extras) =
        some (label.name.value, entry) ∧
      entry.kind = .subquery ∧ entry.StandsFor (QueryLeads definition? q)
  /-- The entry of a reference to a definition has the only table to which it leads. -/
  reference : ∀ name arguments label extras, (definition? name).isSome → ∃ found entry,
    sourceEntry (.ofStatement s) (.table name arguments label extras) = some (found, entry) ∧
      entry.kind = .cte ∧ entry.StandsFor (Leads definition? name)

/-- The base of a defined name is that of a query that reads nothing else. -/
theorem CteCatalog.cteBase_eq (c : CteCatalog) {name : String} {q : Query}
    (hq : relationKeys q.visits = [⟨"", name⟩]) :
    c.cteBase name = if name ∈ c.names then c.singleBase q else none := by
  split
  · next hname =>
    obtain ⟨relations, hrelations⟩ := Option.isSome_iff_exists.mp (relations?_isSome_iff.mpr hname)
    refine (onlyTable_cteBase hrelations).unique ((c.onlyTable_singleBase q).congr ?_)
    intro base
    rw [hq]
    simp
  · next hname =>
    rw [← relations?_isSome_iff, Option.not_isSome_iff_eq_none] at hname
    simp [cteBase, hname]

/-- The base of a query is the only table to which its references lead. -/
theorem onlyTable_queryLeads (s : Statement) (q : Query) :
    OnlyTable (QueryLeads (unqualifiedDefinition? s) q)
      ((CteCatalog.ofStatement s).singleBase q) :=
  (CteCatalog.onlyTable_singleBase _ q).congr fun _ => queryLeads_iff.symm

/-- A reference to a definition has an entry of its kind, with the only table to which it leads. -/
theorem exists_entry_of_reference (s : Statement) {name : ObjectName} (arguments : List Node)
    (label : Option Alias) (extras : List Node)
    (hdefined : (unqualifiedDefinition? s name).isSome) : ∃ found entry,
      sourceEntry (.ofStatement s) (.table name arguments label extras) = some (found, entry) ∧
        entry.kind = .cte ∧ entry.StandsFor (Leads (unqualifiedDefinition? s) name) := by
  obtain ⟨found, entry, hentry, honly⟩ :=
    onlyTable_sourceEntry (.ofStatement s) name arguments label extras
  refine ⟨found, entry, hentry, ?_, (honly.congr fun _ => leads_iff_behind.symm).standsFor⟩
  obtain ⟨cte, hcte⟩ := Option.isSome_iff_exists.mp hdefined
  have href : (CteCatalog.ofStatement s).reference? (.ofName name) =
      some (relationKeys cte.query.visits) := by
    rw [reference?_ofName, hcte, Option.map_some]
  simp only [sourceEntry, href, Option.some.injEq, Prod.mk.injEq] at hentry
  rw [← hentry.2]

/-- Bases are exact, whatever cycles the definitions of a statement have, if a reference without a
database stands for the definition of its name, as a name of one part always does. -/
theorem basesExact_ofStatement (s : Statement) : BasesExact s (unqualifiedDefinition? s) ∧
    ∀ name, unqualifiedDefinition? s name = onePartDefinition? s name ∨
      name.values.length ≠ 1 ∧ (TableKey.ofName name).database = "" := by
  refine ⟨?_, unqualifiedDefinition?_eq_or s⟩
  exact {
    ends := fun _ _ _ => CteCatalog.finds_iff
    once := fun _ => CteCatalog.nodup_expand _ _
    reached := fun _ _ => CteCatalog.mem_expand_iff.trans queryLeads_iff.symm
    single := onlyTable_queryLeads s
    named := fun _ _ => CteCatalog.cteBase_eq _
    subquery := fun _ q _ _ => ⟨_, rfl, rfl, (onlyTable_queryLeads s q).standsFor⟩
    reference := fun _ _ _ _ => exists_entry_of_reference s _ _ _ }

end Entries

/-- `WITH RECURSIVE c AS (SELECT a FROM d), d AS (SELECT a FROM c, db.t) SELECT a FROM c`. -/
def readingCycle : Statement :=
  .query ⟨true, [.named "c" (.columnOf ["d"]), .named "d" (.ofBody (.select
    (.plain [.expr (.column (.bare "a"))] [.bare ["c"], .bare ["db", "t"]] none)))],
    (Query.columnOf ["c"]).body, []⟩

example : (CteCatalog.ofStatement readingCycle).singleBase (.columnOf ["c"]) =
    some ⟨"db", "t"⟩ := by decide

/-- `WITH c AS (SELECT a FROM db.t) SELECT x.a FROM (SELECT a FROM "".c) AS x`. -/
def readingEmptyDatabase : Statement :=
  .query ⟨false, [.named "c" (.columnOf ["db", "t"])], .select
    { Select.plain [.expr (.path [.bare "x", .bare "a"])] [] none with
      sources := [⟨.derived false (.columnOf ["", "c"]) (some ⟨true, .bare "x", []⟩) [], []⟩] }, []⟩

/-- Bases are not exact for references of one part: a definition is followed from a name of two
parts if the first one is empty. -/
theorem not_always_basesExact : ¬ ∀ s : Statement, BasesExact s (onePartDefinition? s) := by
  intro h
  have hbase : (CteCatalog.ofStatement readingEmptyDatabase).singleBase (.columnOf ["", "c"]) =
      some ⟨"db", "t"⟩ := by decide
  have honly := (h readingEmptyDatabase).single (.columnOf ["", "c"])
  obtain ⟨name, hname, hleads⟩ := ((honly ⟨"db", "t"⟩).mp hbase ⟨"db", "t"⟩).mpr rfl
  have hvisits : (Query.columnOf ["", "c"]).visits = [.enter (.columnOf ["", "c"]),
      .expr (.column (.bare "a")), .source (.bare ["", "c"]),
      .relation (.ofIdents [.bare "", .bare "c"]), .leave] := rfl
  have hpath : name = .ofIdents [.bare "", .bare "c"] := by simpa [hvisits] using hname
  subst hpath
  generalize htable : (⟨"db", "t"⟩ : TableKey) = base at hleads
  -- A name of two parts is physical here, and its table is another one.
  cases hleads with
  | physical _ => exact absurd htable (by decide)
  | definition hcte _ _ => exact absurd hcte.symm (Option.some_ne_none _)

end ColumnLineage.Lineage
