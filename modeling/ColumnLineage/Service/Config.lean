import ColumnLineage.Lineage.Wire
import ColumnLineage.Service.ViewQuery
import ColumnLineage.Storage.Files
import ColumnLineage.Text.Blank
import ColumnLineage.Yaml.Decode

/-!
# Configuration

A file sets the options of the tracing, the keys of documents and the address of the server.  What
it does not set keeps its usual value.

## Main definitions

* `Config`: a configuration.
* `ConfigFailure`: why a configuration cannot be used.
* `Config.ofText`: the configuration of a text.
* `Config.load`: the configuration of a file, or the usual one.
-/

namespace ColumnLineage.Service

open Lineage Sql

/-- The address of the server. -/
structure Address where
  host : String := "127.0.0.1"
  port : Nat := 8080
deriving DecidableEq, Repr

/-- A configuration. -/
structure Config where
  lineage : Options := {}
  metadata : MetadataKeys := {}
  server : Address := {}

/-- A setting that makes no sense. -/
inductive BadSetting where
  | noDepth
  | blankSqlKey
  | blankHost
deriving DecidableEq, Repr

/-- What is wrong with a setting. -/
def BadSetting.message : BadSetting → String
  | noDepth => "lineage.max_depth must be at least 1"
  | blankSqlKey => "metadata.sql_key cannot be empty"
  | blankHost => "server.host cannot be empty"

/-- Why a configuration cannot be used. -/
inductive ConfigFailure where
  | notFound (path : String)
  | unreadable (path : String) (cause : Storage.ReadFault)
  | notYaml (fault : Yaml.Fault)
  | otherShape (mismatch : Yaml.Mismatch)
  | badSetting (setting : BadSetting)
deriving DecidableEq, Repr

/-- The complaint about a configuration that cannot be used. -/
def ConfigFailure.message : ConfigFailure → String
  | notFound path => s!"[E001] Config file not found: {path}"
  | notYaml fault => s!"[E002] Failed to parse config: {fault.text}"
  | otherShape mismatch => s!"[E002] Failed to parse config: {mismatch.message}"
  | badSetting setting => s!"[E003] Invalid config: {setting.message}"
  | unreadable path cause => s!"[E004] Failed to read '{path}': {cause.text}"

/-- The largest number of an option. -/
def largestDepth : Nat := Nat.pow 2 64 - 1

/-- The largest port. -/
def largestPort : Nat := Nat.pow 2 16 - 1

/-- A dialect by its canonical name. -/
def dialectOfNode : Yaml.Node → Yaml.Decoded Dialect :=
  Yaml.keyword Dialect.ofCanonicalName

/-- The options of the tracing. -/
def optionFields : List (Yaml.Field Options) :=
  [.of "dialect" dialectOfNode fun dialect o => { o with dialect },
    .of "fallback_dialect" (Yaml.optional dialectOfNode) fun fallback o => { o with fallback },
    .of "max_depth" (Yaml.natural largestDepth) fun maxDepth o => { o with maxDepth }]

/-- The keys of documents. -/
def keyFields : List (Yaml.Field MetadataKeys) :=
  [.of "sql_key" Yaml.text fun sqlKey keys => { keys with sqlKey },
    .of "view_key" Yaml.text fun viewKey keys => { keys with viewKey }]

/-- The address of the server. -/
def addressFields : List (Yaml.Field Address) :=
  [.of "host" Yaml.text fun host a => { a with host },
    .of "port" (Yaml.natural largestPort) fun port a => { a with port }]

namespace Config

/-- The sections of a configuration. -/
def sections : List (Yaml.Field Config) :=
  [.of "lineage" (Yaml.fields optionFields {}) fun lineage c => { c with lineage },
    .of "metadata" (Yaml.fields keyFields {}) fun metadata c => { c with metadata },
    .of "server" (Yaml.fields addressFields {}) fun server c => { c with server }]

/-- The first setting of a configuration that makes no sense. -/
def badSetting? (c : Config) : Option BadSetting :=
  if c.lineage.maxDepth == 0 then some .noDepth
  else if Text.allBlank c.metadata.sqlKey then some .blankSqlKey
  else if Text.allBlank c.server.host then some .blankHost
  else none

/-- A configuration whose settings all make sense. -/
def validate (c : Config) : Except ConfigFailure Config :=
  match c.badSetting? with
  | some setting => .error (.badSetting setting)
  | none => .ok c

/-- The configuration of a document; without a document all is as usual. -/
def ofNode? : Option Yaml.Node → Except ConfigFailure Config
  | none => .ok {}
  | some node => (Yaml.fields sections {} node).mapError .otherShape

/-- The configuration of a text; a blank text leaves all as usual. -/
def ofText (text : String) : Except ConfigFailure Config := do
  if Text.allBlank text then return {}
  let node ← (Yaml.Node.ofText text).mapError .notYaml
  validate (← ofNode? node)

/-- The configuration of a file. -/
def ofFile (read : Storage.Reading) (path : String) : Except ConfigFailure Config :=
  match read path with
  | .ok text => ofText text
  | .error cause =>
    if cause.exists? then .error (.unreadable path cause) else .error (.notFound path)

/-- The file that is used where none is named. -/
def usualFile : String := "sqllineage.yml"

/-- The configuration of a file.  Where none is named, the usual file is used if it is there. -/
def load (read : Storage.Reading) : Option String → Except ConfigFailure Config
  | some path => ofFile read path
  | none =>
    match ofFile read usualFile with
    | .error (.notFound _) => .ok {}
    | found => found

end Config

end ColumnLineage.Service
