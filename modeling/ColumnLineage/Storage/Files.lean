/-!
# Files

A directory holds files and further directories.  A path is followed step by step from it, and what
cannot be followed or read tells why.

## Main definitions

* `ReadFault`: why a file cannot be read.
* `Reading`: reads a file by its path.
* `Files`: the content of a directory.
* `Files.read`: reads a file of a directory.
* `fileStem`: the name of a file without its last ending.
-/

namespace ColumnLineage.Storage

/-- Why a file cannot be read. -/
inductive ReadFault where
  | missing
  | notDirectory
  | directory
  | nameTooLong
  | notText
  /-- Any other complaint of the system, about something that is there or not. -/
  | system (complaint : String) (code : Nat) (there : Bool)
deriving DecidableEq, Repr

namespace ReadFault

/-- Why a file cannot be read, in words. -/
def text : ReadFault → String
  | missing => "No such file or directory (os error 2)"
  | notDirectory => "Not a directory (os error 20)"
  | directory => "Is a directory (os error 21)"
  | nameTooLong => "File name too long (os error 36)"
  | notText => "stream did not contain valid UTF-8"
  | system complaint code _ => s!"{complaint} (os error {code})"

/-- The path leads to something, which only cannot be read. -/
def exists? : ReadFault → Bool
  | missing => false
  | notDirectory => false
  | nameTooLong => false
  | directory => true
  | notText => true
  | system _ _ there => there

end ReadFault

/-- Reads a file by its path. -/
abbrev Reading := String → Except ReadFault String

/-- What a path leads to. -/
inductive Entry where
  | file (content : ByteArray)
  | directory

/-- The content of a directory, by paths that start there. -/
structure Files where
  entries : List (List String × Entry) := []

/-- The parts of a path between its slashes. -/
def splitPath (path : String) : List String :=
  (path.toList.splitOn '/').map String.ofList

/-- A part of a path that does not stay where it is. -/
def isName (part : String) : Bool :=
  part != "" && part != "."

/-- The names of a path, without what stays where it is. -/
def namesOf (path : String) : List String :=
  (splitPath path).filter isName

/-- The most bytes that a name may have. -/
def longestName : Nat := 255

/-- The most bytes that a path may have. -/
def longestPath : Nat := 4095

namespace Files

/-- The content of a directory by paths. -/
def ofEntries (entries : List (String × Entry)) : Files :=
  ⟨entries.map fun (path, entry) => (namesOf path, entry)⟩

/-- What names lead to; a directory is there as soon as something is in it. -/
def entryAt (files : Files) (names : List String) : Option Entry :=
  match files.entries.lookup names with
  | some entry => some entry
  | none =>
    if names.isEmpty || files.entries.any fun (path, _) => names.isPrefixOf path then
      some .directory
    else none

/-- A place that a path leads to: names from the directory, the innermost first, or somewhere outside
of it. -/
inductive Place where
  | inside (names : List String)
  | outside

/-- Follows the parts of a path.  All but the last must lead to directories. -/
def follow (files : Files) : Place → List String → Except ReadFault Entry
  | .outside, [] => .ok .directory
  | .inside names, [] =>
    match files.entryAt names.reverse with
    | some entry => .ok entry
    | none => .error .missing
  | place, part :: more =>
    match place with
    | .outside => if part == ".." then files.follow .outside more else .error .missing
    | .inside names =>
      match files.entryAt names.reverse with
      | none => .error .missing
      | some (.file _) => .error .notDirectory
      | some .directory =>
        if part == "" || part == "." then files.follow place more
        else if part.utf8ByteSize > longestName then .error .nameTooLong
        else if part == ".." then
          match names with
          | [] => files.follow .outside more
          | _ :: names => files.follow (.inside names) more
        else files.follow (.inside (part :: names)) more

/-- What a path leads to. -/
def find (files : Files) (path : String) : Except ReadFault Entry :=
  if path.utf8ByteSize > longestPath then .error .nameTooLong
  else match splitPath path with
    | [""] => .error .missing
    | "" :: parts => if parts.all (·.isEmpty) then .ok .directory else .error .missing
    | parts => files.follow (.inside []) parts

/-- Reads a file of a directory. -/
def read (files : Files) : Reading := fun path => do
  match ← files.find path with
  | .directory => throw .directory
  | .file content =>
    match String.fromUTF8? content with
    | some text => return text
    | none => throw .notText

end Files

/-- The name of a file without its last ending.  A point in front of the name starts no ending. -/
def stemOfName (name : String) : String :=
  let cs := name.toList
  let behind := (cs.reverse.takeWhile (· != '.')).reverse
  if behind.length + 1 < cs.length then String.ofList (cs.take (cs.length - behind.length - 1))
  else name

/-- The name of the file that a path leads to, without its last ending. -/
def fileStem (path : String) : String :=
  match (namesOf path).getLast? with
  | none => ""
  | some ".." => ""
  | some name => stemOfName name

end ColumnLineage.Storage
