import ColumnLineage.Http.Body
import ColumnLineage.Http.MediaType
import ColumnLineage.Service.Batch

/-!
# The server

Three paths are known: one tells that the server is alive, one traces a text, and one traces the
views of a document.  Every request of the method `OPTIONS` is granted.

## Main definitions

* `Server`: what a server knows.
* `Exchange`, `Reply`: what is asked and answered.
* `Server.reply`: the reply to a request.
-/

namespace ColumnLineage.Http

open Json Lineage Service

/-- What a server knows. -/
structure Server where
  options : Options := {}
  keys : MetadataKeys := {}

/-- What is asked of a server. -/
structure Exchange where
  method : String
  /-- The path with what follows it. -/
  target : String
  contentType : Option String
  body : String

/-- What a server says in a reply. -/
inductive Content where
  | envelope (e : Envelope)
  | text (s : String)
  /-- A text that tells of a fault. -/
  | fault

/-- A reply. -/
structure Reply where
  status : Nat
  content : Content

namespace Reply

/-- A reply that is a text. -/
def text (s : String) : Reply := ⟨200, .text s⟩

/-- A reply that tells of a fault. -/
def fault (status : Nat) : Reply := ⟨status, .fault⟩

/-- The reply to a request that cannot be granted. -/
def refusal (complaint : String) : Reply :=
  ⟨400, .envelope (.failure complaint)⟩

/-- A reply with rows. -/
def answer (e : Envelope) : Reply := ⟨200, .envelope e⟩

end Reply

/-- What a path stands for. -/
inductive Resource where
  | health
  | text
  | document
deriving DecidableEq, Repr

/-- The path of a target, without its query and its fragment. -/
def pathOf (target : String) : String :=
  String.ofList (target.toList.takeWhile fun c => c != '?' && c != '#')

/-- What a path stands for. -/
def Resource.ofPath? : String → Option Resource
  | "/health" => some .health
  | "/lineage" => some .text
  | "/lineage/metadata" => some .document
  | _ => none

namespace Server

/-- The reply for a text. -/
def traceText (server : Server) (body : TextBody) : Reply :=
  if Text.allBlank body.sql then .refusal "sql is required"
  else .answer (respondSingle server.options body.sql body.tags)

/-- The reply for a document. -/
def traceDocument (server : Server) (body : DocumentBody) : Reply :=
  match body.request.validate with
  | .error e => .refusal e.message
  | .ok () => .answer (runMetadata server.options body.request server.keys body.document)

/-- The reply to a body, whose type must be JSON. -/
def onBody {α : Type} (asked : Exchange) (read : String → Except BodyFailure α)
    (reply : α → Reply) : Reply :=
  if ((asked.contentType.bind MediaType.ofText).any MediaType.isJson) then
    match read asked.body with
    | .ok body => reply body
    | .error .notJson => .fault 400
    | .error .otherShape => .fault 422
  else .fault 415

/-- The reply to a request. -/
def reply (server : Server) (asked : Exchange) : Reply :=
  if asked.method == "OPTIONS" then .text ""
  else match Resource.ofPath? (pathOf asked.target), asked.method with
    | none, _ => .fault 404
    | some .health, "GET" => .text "OK"
    | some .health, "HEAD" => .text ""
    | some .text, "POST" => onBody asked TextBody.ofText server.traceText
    | some .document, "POST" => onBody asked DocumentBody.ofText server.traceDocument
    | some _, _ => .fault 405

end Server

end ColumnLineage.Http
