import ColumnLineage.Lineage.CteCatalog

/-!
# Scopes

A scope tells what a qualifier stands for.  The *global* scope of a statement holds every table,
every subquery with an alias and every definition in it; the *local* scope of a SELECT holds the
sources of its own FROM clause.

## Main definitions

* `ScopeEntry`: what a name stands for.
* `sourceEntry`: the name and the entry of a source.
* `Scope`: names with their entries; the first entry of a name stays.
* `Scope.ofStatement`, `Scope.ofSelect`: the two kinds of scopes.
-/

namespace ColumnLineage.Lineage

open Sql

/-- What a source is. -/
inductive SourceKind where
  | table
  | subquery
  | cte
deriving DecidableEq, Repr

/-- What a name in a scope stands for.  A source without a single table behind it has no base, so
that no table can be guessed for it. -/
structure ScopeEntry where
  kind : SourceKind
  base : Option TableKey
  label : String
deriving DecidableEq, Repr

namespace ScopeEntry

/-- An entry without a single table behind it. -/
def isDerived (entry : ScopeEntry) : Bool :=
  entry.base.isNone

/-- The database of the table behind an entry, or the empty text. -/
def database (entry : ScopeEntry) : String :=
  match entry.base with
  | some key => key.database
  | none => ""

/-- The name of the table behind an entry, or the empty text. -/
def table (entry : ScopeEntry) : String :=
  match entry.base with
  | some key => key.table
  | none => ""

/-- The entry of a table; an alias that repeats the name of the table is none. -/
def physical (key : TableKey) (label : Option String) : ScopeEntry :=
  ⟨.table, some key, match label with
    | some label => if label == key.table then "" else label
    | none => ""⟩

end ScopeEntry

/-- The name of an alias. -/
def aliasName (label : Option Alias) : Option String :=
  label.map (·.name.value)

/-- The name under which a source is found, and its entry. -/
def sourceEntry (c : CteCatalog) : Source → Option (String × ScopeEntry)
  | .table name _ label _ =>
    let key := TableKey.ofName name
    match c.reference? key with
    | some _ =>
      let label := (aliasName label).getD key.table
      some (label, ⟨.cte, c.cteBase key.table, label⟩)
    | none => some ((aliasName label).getD key.table, .physical key (aliasName label))
  | .derived _ query label _ =>
    (aliasName label).map fun label => (label, ⟨.subquery, c.singleBase query, label⟩)
  | _ => none

/-- Names with what they stand for. -/
structure Scope where
  entries : List (String × ScopeEntry)
deriving Repr

namespace Scope

/-- The scope without names. -/
def empty : Scope := ⟨[]⟩

/-- The entry of a name. -/
def get? (s : Scope) (name : String) : Option ScopeEntry :=
  s.entries.lookup name

/-- Adds an entry unless its name has one. -/
def insertIfAbsent (s : Scope) (item : String × ScopeEntry) : Scope :=
  if (s.get? item.1).isSome then s else ⟨s.entries ++ [item]⟩

/-- The scope of some entries, in which the first entry of a name stays. -/
def ofList (items : List (String × ScopeEntry)) : Scope :=
  items.foldl insertIfAbsent empty

/-- The number of names. -/
def size (s : Scope) : Nat :=
  s.entries.length

/-- A scope without names. -/
def isEmpty (s : Scope) : Bool :=
  s.entries.isEmpty

/-- The only entry. -/
def sole (s : Scope) : Option ScopeEntry :=
  match s.entries with
  | [item] => some item.2
  | _ => none

/-- The source that a visit meets. -/
def source? : Visit → Option Source
  | .source s => some s
  | _ => none

/-- A source is a subquery. -/
def isSubquery : Source → Bool
  | .derived .. => true
  | _ => false

/-- The entries of a statement: tables first, then subqueries, then definitions. -/
def globalItems (c : CteCatalog) (s : Statement) : List (String × ScopeEntry) :=
  let sources := s.visits.filterMap source?
  (sources.filter fun source => !isSubquery source).filterMap (sourceEntry c) ++
    (sources.filter isSubquery).filterMap (sourceEntry c) ++
    c.names.map fun name => (name, ⟨.cte, c.cteBase name, name⟩)

/-- Every source of a statement. -/
def ofStatement (c : CteCatalog) (s : Statement) : Scope :=
  ofList (globalItems c s)

mutual

/-- The sources that a source consists of: those of a join in parentheses, or itself. -/
def flatSources : Source → List Source
  | .joined tree _ => flatTree tree
  | .table name arguments label extras => [.table name arguments label extras]
  | .derived lateral query label extras => [.derived lateral query label extras]
  | .other layout parts label => [.other layout parts label]

/-- The sources of a source and what is joined to it. -/
def flatTree : FromTree → List Source
  | ⟨relation, joins⟩ => flatSources relation ++ flatJoins joins

/-- The sources of some joins. -/
def flatJoins : List Join → List Source
  | [] => []
  | join :: more => flatJoin join ++ flatJoins more

/-- The sources of a join. -/
def flatJoin : Join → List Source
  | ⟨relation, _, _, _, _⟩ => flatSources relation

end

/-- The sources of the FROM clause of a SELECT. -/
def ofSelect (c : CteCatalog) (select : Select) : Scope :=
  ofList ((select.sources.flatMap flatTree).filterMap (sourceEntry c))

end Scope

end ColumnLineage.Lineage
