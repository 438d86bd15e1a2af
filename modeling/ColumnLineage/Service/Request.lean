import ColumnLineage.Json.Decode
import ColumnLineage.Lineage.Row
import ColumnLineage.Text.Blank

/-!
# Requests

A request says what is written on every row and which views are asked for.

## Main definitions

* `Request`: a request.
* `Request.validate`: a request needs a regulation.
* `Request.viewFilter`, `Request.tagsFor`: what a request asks for.
-/

namespace ColumnLineage.Service

open Json Lineage

/-- What is written on every row, and which views are asked for. -/
structure Request where
  regulation : String := ""
  metadataKey : String := ""
  /-- No names ask for all views. -/
  viewNames : List String := []
deriving DecidableEq, Repr, Inhabited

/-- A field that a request needs is blank. -/
structure MissingField where
  field : String
deriving DecidableEq, Repr

/-- The complaint about a field that is blank. -/
def MissingField.message (e : MissingField) : String :=
  s!"[E006] Missing required field '{e.field}'"

namespace Request

/-- The object of a request. -/
def toJson (r : Request) : Value :=
  .object
    [("regulation", .string r.regulation),
      ("metadatakey", .string r.metadataKey),
      ("view_names", .array (r.viewNames.map .string))]

/-- The fields of a request, none of them required. -/
def shape : Shape Request where
  name := "LineageRequest"
  closed := false
  start := {}
  fields :=
    [.of "regulation" false Json.string fun regulation r => { r with regulation },
      .of "metadatakey" false Json.string fun metadataKey r => { r with metadataKey },
      .of "view_names" false (Json.list Json.string) fun viewNames r => { r with viewNames }]

/-- The request of a value. -/
def ofJson (v : Value) : Decoded Request :=
  shape.decode v

/-- A request needs a regulation. -/
def validate (r : Request) : Except MissingField Unit :=
  if Text.allBlank r.regulation then .error ⟨"regulation"⟩ else .ok ()

/-- The names of the views that are asked for, without blanks around them and without blank
names. -/
def viewFilter (r : Request) : List String :=
  (r.viewNames.map Text.trim).filter fun name => !name.isEmpty

/-- What is written on the rows of a view. -/
def tagsFor (r : Request) (viewName : String) : Tags :=
  ⟨r.regulation, r.metadataKey, viewName⟩

end Request

end ColumnLineage.Service
