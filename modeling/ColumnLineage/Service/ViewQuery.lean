import ColumnLineage.Json.Decode
import ColumnLineage.Json.Reader
import ColumnLineage.Text.Blank

/-!
# Views in a document

A document describes views by objects that hold a query under one key and a name under another.
Such an object is taken as a whole: what is inside it is no view.

## Main definitions

* `MetadataKeys`: the two keys.
* `ViewQuery`: a view with its query.
* `viewQueries`: all views of a document.
* `findViewQueries`: the views that a filter lists.
-/

namespace ColumnLineage.Service

open Json

/-- The keys under which an object holds a query and the name of a view. -/
structure MetadataKeys where
  sqlKey : String := "sql_query"
  viewKey : String := "view_name"
deriving DecidableEq, Repr, Inhabited

/-- A view with its query. -/
structure ViewQuery where
  viewName : String
  sql : String
deriving DecidableEq, Repr, Inhabited

namespace MetadataKeys

/-- The object of keys. -/
def toJson (keys : MetadataKeys) : Value :=
  .object [("sql_key", .string keys.sqlKey), ("view_key", .string keys.viewKey)]

/-- The fields of keys, none of them required. -/
def shape : Shape MetadataKeys where
  name := "MetadataConfig"
  closed := true
  start := {}
  fields :=
    [.of "sql_key" false Json.string fun sqlKey keys => { keys with sqlKey },
      .of "view_key" false Json.string fun viewKey keys => { keys with viewKey }]

/-- The keys of a value. -/
def ofJson (v : Value) : Decoded MetadataKeys :=
  shape.decode v

/-- The view that the entries of an object describe, if they hold a query. -/
def view? (keys : MetadataKeys) (entries : List (String × Value)) : Option ViewQuery :=
  ((valueOf? keys.sqlKey entries).bind Value.string?).map fun sql =>
    let name := ((valueOf? keys.viewKey entries).bind Value.string?).getD ""
    ⟨Text.trim name, sql⟩

end MetadataKeys

namespace ViewQuery

/-- The fields of a view, both required. -/
def shape : Shape ViewQuery where
  name := "ViewQuery"
  closed := false
  start := default
  fields :=
    [.of "view_name" true Json.string fun viewName query => { query with viewName },
      .of "sql" true Json.string fun sql query => { query with sql }]

/-- The view of a value. -/
def ofJson (v : Value) : Decoded ViewQuery :=
  shape.decode v

end ViewQuery

mutual

/-- The views of a document, in its order. -/
def viewQueries (keys : MetadataKeys) : Value → List ViewQuery
  | .object entries =>
    match keys.view? entries with
    | some view => [view]
    | none => entryQueries keys entries
  | .array items => itemQueries keys items
  | .null => []
  | .boolean _ => []
  | .integer _ => []
  | .decimal _ => []
  | .string _ => []

/-- The views in the entries of an object. -/
def entryQueries (keys : MetadataKeys) : List (String × Value) → List ViewQuery
  | [] => []
  | (_, v) :: more => viewQueries keys v ++ entryQueries keys more

/-- The views in the elements of a list. -/
def itemQueries (keys : MetadataKeys) : List Value → List ViewQuery
  | [] => []
  | v :: more => viewQueries keys v ++ itemQueries keys more

end

/-- The views that a filter lists; an empty filter lists all. -/
def findViewQueries (keys : MetadataKeys) (filter : List String) (document : Value) :
    List ViewQuery :=
  let found := viewQueries keys document
  if filter.isEmpty then found else found.filter fun view => filter.contains view.viewName

/-- A text is no document. -/
structure MetadataFailure where
  cause : SyntaxFailure

/-- The complaint about a text that is no document. -/
def MetadataFailure.message (e : MetadataFailure) : String :=
  s!"[E005] Failed to parse metadata: {e.cause.message}"

/-- The document of a text. -/
def parseMetadata (text : String) : Except MetadataFailure Value :=
  (Json.parse text).mapError fun cause => ⟨cause⟩

end ColumnLineage.Service
