import ColumnLineage.Command.Arguments
import ColumnLineage.Command.Help
import ColumnLineage.Command.SocketAddress
import ColumnLineage.Command.Table
import ColumnLineage.Json.Written
import ColumnLineage.Service.Batch
import ColumnLineage.Service.Config

/-!
# Running commands

A command reads what it needs, prints its rows or its complaint, and ends with a code.

## Main definitions

* `Surroundings`: what a command finds around it.
* `Outcome`: what a command leaves behind.
* `Failure`: a complaint with its causes.
* `run`: runs a command line.
-/

namespace ColumnLineage.Command

open Json Lineage Service Sql

/-- A text stands for an input that can be read. -/
instance : Coe String (Except Storage.ReadFault String) where
  coe := .ok

/-- What a command finds around it. -/
structure Surroundings where
  read : Storage.Reading
  standardInput : Except Storage.ReadFault String := .ok ""
  /-- The file of the configuration by the environment. -/
  config : Option String := none

/-- What a command leaves behind. -/
structure Outcome where
  code : Nat := 0
  output : String := ""
  errors : String := ""
deriving DecidableEq, Repr

/-- A complaint with its causes. -/
structure Failure where
  complaint : String
  causes : List String := []
deriving DecidableEq, Repr

namespace Failure

/-- A cause whose further lines are indented as far as the first. -/
def cause (first further text : String) : String :=
  "\n" ++ first ++ ("\n" ++ further).intercalate (text.splitOn "\n")

/-- The causes of a complaint; several of them are numbered. -/
def causeLines : List String → String
  | [] => ""
  | [one] => "\n\nCaused by:" ++ cause "    " "    " one
  | many => "\n\nCaused by:" ++ String.join (many.mapIdx fun i text =>
      cause s!"    {i}: " "       " text)

/-- A complaint as it is printed. -/
def text (f : Failure) : String :=
  "Error: " ++ f.complaint ++ causeLines f.causes ++ "\n"

/-- The outcome of a command that fails. -/
def outcome (f : Failure) : Outcome :=
  { code := 1, errors := f.text }

end Failure

/-- The causes behind a configuration that cannot be used. -/
def configCauses (e : ConfigFailure) : List String :=
  match e with
  | .unreadable _ cause => [e.message, cause.text]
  | _ => [e.message]

/-- The configuration of a command line. -/
def configOf (around : Surroundings) (path : Option String) : Except Failure Config :=
  (Config.load around.read path).mapError fun e => ⟨"Failed to load config", configCauses e⟩

/-- The text of a file. -/
def fileText (around : Surroundings) (path : String) : Except Failure String :=
  (around.read path).mapError fun fault => ⟨s!"Failed to read {path}", [fault.text]⟩

/-- The text of the standard input. -/
def inputText (around : Surroundings) : Except Failure String :=
  around.standardInput.mapError fun fault => ⟨"Failed to read SQL from stdin", [fault.text]⟩

/-- Rows as they are printed. -/
def rowsText (rows : List Row) : OutputFormat → String
  | .json => (Value.array (rows.map Row.toJson)).pretty ++ "\n"
  | .table => (rowTable rows).text

/-- A text with the name of its view. -/
structure NamedText where
  viewName : String
  sql : String
deriving DecidableEq, Repr

/-- The texts that a command traces.  A file gives its name to its view, unless one is given. -/
def textsOf (around : Surroundings) (arguments : ExtractArguments) :
    Except Failure (List NamedText) :=
  match arguments.source with
  | .inline sql => .ok [⟨arguments.viewName.getD "", sql⟩]
  | .standardInput => do return [⟨arguments.viewName.getD "", ← inputText around⟩]
  | .files paths =>
    paths.mapM fun path => do
      return ⟨arguments.viewName.getD (Storage.fileStem path), ← fileText around path⟩

/-- Options with another dialect, if one is named. -/
def withDialect (options : Options) : Option String → Except Failure Options
  | none => .ok options
  | some name =>
    match Dialect.ofName name with
    | .ok dialect => .ok { options with dialect }
    | .error e => .error ⟨e.message, []⟩

/-- The outcome of tracing texts: all rows, and how many texts have no statements. -/
def traceTexts (options : Options) (arguments : ExtractArguments) (texts : List NamedText) :
    Outcome :=
  let traced := texts.map fun text =>
    extract options text.sql ⟨arguments.regulation, arguments.metadataKey, text.viewName⟩
  let failed := traced.countP isTechFailure
  { code := if failed > 0 then 1 else 0
    output := rowsText traced.flatten arguments.output
    errors :=
      if failed > 0 then s!"{failed} of {texts.length} inputs could not be parsed\n" else "" }

/-- Traces texts. -/
def runExtract (around : Surroundings) (config : Config) (arguments : ExtractArguments) :
    Except Failure Outcome := do
  let options ← withDialect config.lineage arguments.dialect
  return traceTexts options arguments (← textsOf around arguments)

/-- An answer as it is printed. -/
def envelopeText (e : Envelope) : OutputFormat → String
  | .json => e.toJson.pretty ++ "\n"
  | .table => rowsText e.rows .table ++ s!"\n{e.message} ({e.totalRecords} rows)\n"

/-- Traces the views of a document. -/
def runMetadataFile (around : Surroundings) (config : Config) (arguments : MetadataArguments) :
    Except Failure Outcome := do
  let text ← fileText around arguments.file
  let document ← (parseMetadata text).mapError fun e => ⟨e.message, [e.cause.message]⟩
  let request : Request := ⟨arguments.regulation, arguments.metadataKey, arguments.viewNames⟩
  let answer := runMetadata config.lineage request config.metadata document
  return { code := if answer.success then 0 else 1, output := envelopeText answer arguments.output }

/-- Lists the remarks. -/
def remarksText : String :=
  String.join (Remark.all.map fun remark => remark.text ++ "\n")

/-- Announces the server, which cannot be reached from here. -/
def runServe (config : Config) (arguments : ServeArguments) : Except Failure Outcome :=
  let host := arguments.host.getD config.server.host
  let port := arguments.port.getD config.server.port
  let place := s!"{host}:{port}"
  if !isSocketAddress place then
    .error ⟨"Invalid host:port", ["invalid socket address syntax"]⟩
  else
    .ok { code := 1
          output := s!"Serving lineage at http://{place}\nPress Ctrl+C to stop.\n\n"
          errors := Failure.text ⟨s!"Failed to bind to {place}", []⟩ }

/-- Runs a command. -/
def runCommand (around : Surroundings) (invocation : Invocation) : Except Failure Outcome := do
  match invocation.command with
  | .remarks => return { output := remarksText }
  | .extract arguments => runExtract around (← configOf around invocation.config) arguments
  | .metadata arguments => runMetadataFile around (← configOf around invocation.config) arguments
  | .serve arguments => runServe (← configOf around invocation.config) arguments

/-- The files that a command may read. -/
def Invocation.paths (invocation : Invocation) : List String :=
  let texts := match invocation.command with
    | .extract arguments => arguments.source.paths
    | .metadata arguments => [arguments.file]
    | .remarks | .serve _ => []
  invocation.config.getD Config.usualFile :: texts

/-- A command reads the standard input. -/
def Invocation.readsInput (invocation : Invocation) : Bool :=
  match invocation.command with
  | .extract arguments => arguments.source == .standardInput
  | _ => false

/-- The complaint about a command line that makes no sense. -/
def misuseText : String :=
  "error: the command line makes no sense\n\nFor more information, try '--help'.\n"

/-- Runs a command line. -/
def run (around : Surroundings) (words : List String) : Outcome :=
  match Invocation.ofWords around.config words with
  | .error .misuse => { code := 2, errors := misuseText }
  | .error .version => { output := versionText }
  | .error (.help command full) => { output := helpText around.config full command }
  | .ok invocation =>
    match runCommand around invocation with
    | .ok outcome => outcome
    | .error failure => failure.outcome

end ColumnLineage.Command
