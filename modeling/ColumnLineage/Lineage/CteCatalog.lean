import ColumnLineage.Lineage.TableKey

/-!
# The catalog of definitions

A WITH list gives names to queries.  The catalog of a statement holds the names of all its WITH
lists with the tables their queries read; a name that is defined more than once keeps its first
definition.

## Main definitions

* `CteCatalog`: the definitions of a statement.
* `CteCatalog.expand`: the physical tables behind some tables, with definitions followed.
* `CteCatalog.singleBase`, `CteCatalog.cteBase`: the only physical table behind a query or a name.
-/

namespace ColumnLineage.Lineage

open Sql

/-- The definitions of a statement, each name once. -/
structure CteCatalog where
  definitions : List (String × List TableKey)
deriving Repr

namespace CteCatalog

/-- Adds a definition unless its name has one. -/
def insertIfAbsent (c : CteCatalog) (name : String) (keys : List TableKey) : CteCatalog :=
  if (c.definitions.lookup name).isSome then c else ⟨c.definitions ++ [(name, keys)]⟩

/-- The definitions that a visit meets. -/
def ofVisit (c : CteCatalog) : Visit → CteCatalog
  | .enter q =>
    q.ctes.foldl (fun c cte => c.insertIfAbsent cte.label.name.value (relationKeys cte.query.visits))
      c
  | _ => c

/-- The definitions in some visits. -/
def ofVisits (visits : List Visit) : CteCatalog :=
  visits.foldl ofVisit ⟨[]⟩

/-- The definitions of a statement, at any depth. -/
def ofStatement (s : Statement) : CteCatalog :=
  ofVisits s.visits

/-- The names that are defined. -/
def names (c : CteCatalog) : List String :=
  c.definitions.map (·.1)

/-- The tables that the definition of a name reads. -/
def relations? (c : CteCatalog) (name : String) : Option (List TableKey) :=
  c.definitions.lookup name

/-- The definition that a table refers to, if it has no database. -/
def reference? (c : CteCatalog) (key : TableKey) : Option (List TableKey) :=
  if key.database.isEmpty then c.relations? key.table else none

/-- Adds the physical tables behind some tables to those found, with definitions followed except
for the names in `visiting`.  Each name that is followed uses one unit. -/
def expandWithin (c : CteCatalog) : Nat → List String → List TableKey → List TableKey →
    List TableKey
  | 0, _, _, found => found
  | units + 1, visiting, keys, found =>
    keys.foldl (fun found key =>
      match c.reference? key with
      | some relations =>
        if visiting.contains key.table then found
        else expandWithin c units (key.table :: visiting) relations found
      | none => if found.contains key then found else found ++ [key]) found

/-- The physical tables behind some tables.  No more names can be followed at once than there are
definitions. -/
def expand (c : CteCatalog) (visiting : List String) (keys : List TableKey) : List TableKey :=
  c.expandWithin (c.definitions.length + 1) visiting keys []

/-- The physical tables behind a query. -/
def baseTables (c : CteCatalog) (q : Query) : List TableKey :=
  c.expand [] (relationKeys q.visits)

/-- The element of a list that has only one. -/
def single : List TableKey → Option TableKey
  | [key] => some key
  | _ => none

/-- The only physical table behind a query. -/
def singleBase (c : CteCatalog) (q : Query) : Option TableKey :=
  single (c.baseTables q)

/-- The only physical table behind a defined name. -/
def cteBase (c : CteCatalog) (name : String) : Option TableKey :=
  match c.relations? name with
  | some relations => single (c.expand [name] relations)
  | none => none

end CteCatalog

end ColumnLineage.Lineage
