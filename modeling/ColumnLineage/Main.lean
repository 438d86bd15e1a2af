import ColumnLineage.Command.Run

/-!
# The command line

Reads what a command needs, runs it, and prints what it leaves behind.
-/

namespace ColumnLineage.Command

/-- The number and the words of a complaint of the system. -/
def complaintOf : IO.Error → Nat × String
  | .alreadyExists _ code words | .otherError code words | .resourceBusy code words
  | .resourceVanished code words | .unsupportedOperation code words | .hardwareFault code words
  | .unsatisfiedConstraints code words | .illegalOperation code words | .protocolError code words
  | .timeExpired code words | .interrupted _ code words | .noFileOrDirectory _ code words
  | .invalidArgument _ code words | .permissionDenied _ code words
  | .resourceExhausted _ code words | .inappropriateType _ code words
  | .noSuchThing _ code words => (code.toNat, words)
  | .unexpectedEof => (0, "unexpected end of file")
  | .userError words => (0, words)

/-- Why something could not be read. -/
def faultOf (e : IO.Error) (there : Bool) : Storage.ReadFault :=
  match complaintOf e with
  | (2, _) => .missing
  | (20, _) => .notDirectory
  | (21, _) => .directory
  | (36, _) => .nameTooLong
  | (code, words) => .system words code there

/-- A path leads to something. -/
def isThere (path : String) : IO Bool := do
  try
    let _ ← IO.FS.realPath path
    return true
  catch _ => return false

/-- What is read, as a text. -/
def readText (read : IO ByteArray) (isThere : IO Bool) : IO (Except Storage.ReadFault String) := do
  try
    match String.fromUTF8? (← read) with
    | some text => return .ok text
    | none => return .error .notText
  catch e => return .error (faultOf e (← isThere))

/-- The content of a file. -/
def readFile (path : String) : IO (Except Storage.ReadFault String) :=
  readText (do (← IO.FS.Handle.mk path .read).readBinToEnd) (isThere path)

/-- The standard input up to its end. -/
def readInput : IO (Except Storage.ReadFault String) :=
  readText (do (← IO.getStdin).readBinToEnd) (pure true)

/-- What a command finds around it. -/
def surroundingsOf (config : Option String) (words : List String) : IO Surroundings := do
  match Invocation.ofWords config words with
  | .error _ => return { read := fun _ => .error .missing, config }
  | .ok invocation =>
    let found ← invocation.paths.mapM fun path => do return (path, ← readFile path)
    return {
      read := fun path => (found.lookup path).getD (.error .missing)
      standardInput := ← if invocation.readsInput then readInput else pure (.ok "")
      config }

end ColumnLineage.Command

/-- Runs the command line that the words make up. -/
def main (words : List String) : IO UInt32 := do
  let config ← IO.getEnv ColumnLineage.Command.configVariable
  let around ← ColumnLineage.Command.surroundingsOf config words
  let outcome := ColumnLineage.Command.run around words
  IO.print outcome.output
  IO.eprint outcome.errors
  return outcome.code.toUInt32
