import ColumnLineage.Yaml.Node

/-!
# Decoding nodes

A mapping is decoded field by field.  Every scalar is a text, while only plain scalars are numbers
or nothing at all.

## Main definitions

* `Mismatch`: why a node is not of a type.
* `text`, `natural`, `optional`, `keyword`: nodes of simple types.
* `Field`: a field of a structure.
* `fields`: a structure from a mapping.
-/

namespace ColumnLineage.Yaml

/-- Why a node is not of a type. -/
inductive Mismatch where
  | wrongType (expected : String)
  | unknownField (name : String)
  | duplicateField (name : String)
  | unknownKeyword (name : String)
deriving DecidableEq, Repr

/-- The complaint about a node that is not of a type. -/
def Mismatch.message : Mismatch → String
  | wrongType expected => s!"invalid type: expected {expected}"
  | unknownField name => s!"unknown field `{name}`"
  | duplicateField name => s!"duplicate field `{name}`"
  | unknownKeyword name => s!"unknown variant `{name}`"

/-- A result of decoding. -/
abbrev Decoded (α : Type) := Except Mismatch α

variable {α σ : Type}

/-- The words for nothing at all. -/
def isNull (text : String) : Bool :=
  ["null", "Null", "NULL", "~"].contains text

/-- A text: every scalar is one. -/
def text : Node → Decoded String
  | .scalar _ _ text => .ok text
  | _ => .error (.wrongType "a string")

/-- The digit of a base. -/
def digitValue (base : Nat) (c : Char) : Option Nat :=
  (Scan.hexValue c).filter (· < base)

/-- The number of some digits, of which there is at least one. -/
def numberOfDigits (base : Nat) : List Char → Option Nat
  | [] => none
  | digits => digits.foldlM (fun n c => (digitValue base c).map (n * base + ·)) 0

/-- The number of some digits with a sign in front, or of digits of another base behind its mark.
Zeros must not stand in front of other decimal digits. -/
def numberOfText (text : String) : Option Nat :=
  let digits := match text.toList with
    | '+' :: digits => digits
    | digits => digits
  match digits with
  | '0' :: 'x' :: digits => numberOfDigits 16 digits
  | '0' :: 'o' :: digits => numberOfDigits 8 digits
  | '0' :: 'b' :: digits => numberOfDigits 2 digits
  | '0' :: _ :: _ => none
  | digits => numberOfDigits 10 digits

/-- The tag of numbers. -/
def numberTag : String := "tag:yaml.org,2002:int"

/-- The tag of nothing at all. -/
def nullTag : String := "tag:yaml.org,2002:null"

/-- A number up to a largest one.  It is plain, or a literal block that is tagged as a number. -/
def natural (largest : Nat) : Node → Decoded Nat
  | .scalar tag style text =>
    if style == .plain || (style == .literal && tag == some numberTag) then
      match (numberOfText text).filter (· ≤ largest) with
      | some n => .ok n
      | none => .error (.wrongType "an integer")
    else .error (.wrongType "an integer")
  | _ => .error (.wrongType "an integer")

/-- A node that may be nothing at all: a plain scalar that is empty or a word for nothing.  A tag
makes it something, unless it is the tag of nothing, which needs the word. -/
def optional (decode : Node → Decoded α) : Node → Decoded (Option α)
  | .scalar none .plain text =>
    if text.isEmpty || isNull text then .ok none
    else (decode (.scalar none .plain text)).map some
  | .scalar (some tag) .plain text =>
    if tag == nullTag then if isNull text then .ok none else .error (.wrongType "null")
    else (decode (.scalar (some tag) .plain text)).map some
  | node => (decode node).map some

/-- The keyword that a tag names. -/
def keywordTag : Option String → Option String
  | some tag =>
    match tag.toList with
    | '!' :: name => some (String.ofList name)
    | _ => none
  | none => none

/-- A node has nothing but its tag. -/
def isNothing : Node → Bool
  | .scalar _ .plain text => text.isEmpty || isNull text
  | _ => false

/-- A keyword: the text of a scalar, or the tag of a node that has nothing else. -/
def keyword (ofName : String → Option α) (node : Node) : Decoded α := do
  let named (name : String) : Decoded α := match ofName name with
    | some a => .ok a
    | none => .error (.unknownKeyword name)
  let tag := match node with
    | .scalar tag .. => tag
    | .sequence tag _ => tag
    | .mapping tag _ => tag
  match keywordTag tag with
  | some name =>
    let a ← named name
    if isNothing node then return a else throw (.wrongType "unit")
  | none =>
    match node with
    | .scalar _ _ text => named text
    | _ => throw (.wrongType "a YAML tag starting with '!'")

/-- A field of a structure of type `σ`. -/
structure Field (σ : Type) where
  name : String
  /-- Puts the decoded node into the structure. -/
  put : Node → σ → Decoded σ

/-- A field whose node is decoded on its own. -/
def Field.of (name : String) (decode : Node → Decoded α) (set : α → σ → σ) : Field σ :=
  ⟨name, fun node s => (decode node).map fun a => set a s⟩

/-- Puts entries into a structure one after the other; `seen` are the fields that were met. -/
def putEntries (known : List (Field σ)) : List String → σ → List (Node × Node) → Decoded σ
  | _, s, [] => .ok s
  | seen, s, (key, node) :: more => do
    let name ← text key
    match known.find? fun field => field.name == name with
    | none => throw (.unknownField name)
    | some field =>
      if seen.contains name then throw (.duplicateField name)
      putEntries known (name :: seen) (← field.put node s) more

/-- A structure from a mapping; an empty plain scalar is a mapping without entries. -/
def fields (known : List (Field σ)) (start : σ) : Node → Decoded σ
  | .mapping _ entries => putEntries known [] start entries
  | .scalar _ .plain "" => .ok start
  | _ => .error (.wrongType "a mapping")

end ColumnLineage.Yaml
