import ColumnLineage.Json.Reader
import ColumnLineage.Service.Request

/-!
# Bodies

The body of a request is read field by field.  A field of the wrong type ends the reading, so what
stands behind it may be anything; a value that is not JSON at all is another fault.

## Main definitions

* `BodyFailure`: a body is not JSON, or is JSON of another shape.
* `TextBody`: a text with what is written on its rows.
* `DocumentBody`: a document with a request.
* `TextBody.ofText`, `DocumentBody.ofText`: the bodies of a text.
-/

namespace ColumnLineage.Http

open Json Lineage Service

/-- Why a body cannot be used. -/
inductive BodyFailure where
  | notJson
  | otherShape
deriving DecidableEq, Repr

/-- A text with what is written on its rows. -/
structure TextBody where
  sql : String
  tags : Tags
deriving DecidableEq, Repr

/-- A document with a request. -/
structure DocumentBody where
  request : Request
  document : Value

/-- What a reader finds at the start of a text; it finds nothing in JSON of another shape. -/
def readBody {α : Type} (reader : Reader (Option α)) (text : String) : Except BodyFailure α := do
  match reader (.ofText text) with
  | .error _ => throw .notJson
  | .ok (none, _) => throw .otherShape
  | .ok (some a, c) =>
    match Reader.ending c with
    | .error _ => throw .notJson
    | .ok _ => return a

open Reader

/-- Takes a value that is not wanted.  A list or an object is refused at its first character. -/
def otherValue : Reader Unit := do
  match ← peekBehindBlanks with
  | some '[' | some '\x7b' => return ()
  | _ =>
    let _ ← value

/-- A string, unless a value of another type stands here. -/
def stringHere : Reader (Option String) := do
  match ← peekBehindBlanks with
  | some '"' =>
    skip
    return some (← stringContent .kept)
  | _ =>
    otherValue
    return none

/-- The fields of a body and their values, as far as they were read; nothing once the body has
another shape. -/
abbrev Found (α : Type) := Option (List (String × α))

namespace TextBody

/-- The fields, in their order. -/
def fieldNames : List String := ["sql", "regulation", "metadatakey", "view_name"]

/-- The body of some fields, of which the first is required. -/
def ofFields (fields : List (String × String)) : Option TextBody :=
  let tag (name : String) := (fields.lookup name).getD ""
  (fields.lookup "sql").map fun sql =>
    ⟨sql, ⟨tag "regulation", tag "metadatakey", tag "view_name"⟩⟩

/-- The fields of an object behind its brace.  A known field occurs once. -/
def objectFields : Reader (Found String) := do
  let (found, _) ← iterate (σ := Found String × Bool) (s := (some [], true)) fun state => do
    let some found := state.1 | return none
    if ← moreKeys state.2 then
      let key ← stringContent .kept
      if !fieldNames.contains key then
        colon
        ignoredValue
        return some (some found, false)
      if (found.lookup key).isSome then return some (none, false)
      colon
      return some ((← stringHere).map fun s => (key, s) :: found, false)
    return none
  return found

/-- The fields of a list behind its bracket, which may end after any field. -/
def listFields : Bool → List String → Reader (Found String)
  | _, [] => return some []
  | first, name :: more => do
    if ← moreElements first then
      let some s ← stringHere | return none
      return (← listFields false more).map ((name, s) :: ·)
    return some []

/-- Takes the end of a list or an object. -/
def closing (mark : Char) : Reader Unit := do
  match ← peekBehindBlanks with
  | some c => if c == mark then skip else failAhead .trailingCharacters
  | none => failAhead .unfinishedList

/-- A body made of fields, up to the mark that ends it. -/
def within (fields : Reader (Found String)) (mark : Char) : Reader (Option TextBody) := do
  match (← fields).bind ofFields with
  | none => return none
  | some body =>
    closing mark
    return some body

/-- A body, unless the text has another shape. -/
def reader : Reader (Option TextBody) := do
  match ← peekBehindBlanks with
  | some '\x7b' =>
    skip
    within objectFields '\x7d'
  | some '[' =>
    skip
    within (listFields true fieldNames) ']'
  | _ =>
    otherValue
    return none

/-- The body of a text. -/
def ofText (text : String) : Except BodyFailure TextBody :=
  readBody reader text

end TextBody

namespace DocumentBody

/-- The field of the document. -/
def documentField : String := "metadata"

/-- The body of some entries, in which the document is required. -/
def ofEntries (entries : List (String × Value)) : Option DocumentBody := do
  let document ← entries.lookup documentField
  let request ← (Request.shape.ofEntries entries).toOption
  return ⟨request, document⟩

/-- The entries of an object behind its brace.  The document occurs once. -/
def objectEntries : Reader (Found Value) := do
  let (found, _) ← iterate (σ := Found Value × Bool) (s := (some [], true)) fun state => do
    let some found := state.1 | return none
    if ← moreKeys state.2 then
      let key ← stringContent .kept
      if key == documentField && (found.lookup key).isSome then return some (none, false)
      colon
      return some (some ((key, ← valueWithin .kept (maxLevels - 1)) :: found), false)
    return none
  return found.map List.reverse

/-- A body, unless the text has another shape. -/
def reader : Reader (Option DocumentBody) := do
  match ← peekBehindBlanks with
  | some '\x7b' =>
    skip
    match (← objectEntries).bind ofEntries with
    | none => return none
    | some body =>
      skip
      return some body
  | _ =>
    otherValue
    return none

/-- The body of a text. -/
def ofText (text : String) : Except BodyFailure DocumentBody :=
  readBody reader text

end DocumentBody

end ColumnLineage.Http
