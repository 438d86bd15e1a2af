import ColumnLineage.Text.Blank

/-!
# Kinds of queries

A text that should be a query may be meant for another kind of store.  Its first characters tell.

## Main definitions

* `QueryKind`: SQL, the shell of a document store, or the requests of a search engine.
* `QueryKind.detect`: the kind of a text.
-/

namespace ColumnLineage.Service

/-- What a query is written for. -/
inductive QueryKind where
  | sql
  | mongo
  | elastic
deriving DecidableEq, Repr

namespace QueryKind

/-- The name of a kind. -/
def name : QueryKind → String
  | sql => "sql"
  | mongo => "mongo"
  | elastic => "elastic"

/-- The texts that the queries of a kind start with. -/
def openings : QueryKind → List String
  | sql => []
  | mongo => ["\x7b", "db."]
  | elastic => ["[", "GET ", "POST "]

/-- A text starts like the queries of a kind. -/
def opens (kind : QueryKind) (text : List Char) : Bool :=
  kind.openings.any fun opening => opening.toList.isPrefixOf text

/-- The kind of a text; what is nothing else is SQL. -/
def detect (text : String) : QueryKind :=
  let trimmed := (Text.trim text).toList
  if mongo.opens trimmed then mongo
  else if elastic.opens trimmed then elastic
  else sql

/-- Only SQL has lineage. -/
def isSql (kind : QueryKind) : Bool :=
  kind == sql

end QueryKind

end ColumnLineage.Service
