import ColumnLineage.Json.Value
import ColumnLineage.Text.Quoted

/-!
# Decoding values

A structure is decoded from an object by the names of its fields, or from an array by their order.
A complaint says which value was found and what should stand there.

## Main definitions

* `DecodeFailure`: why a value is not of a type.
* `string`, `natural`, `list`, `keyword`: values of simple types.
* `Field`, `Shape`: a structure by its fields.
* `Shape.decode`: a structure from an object or an array.
-/

namespace ColumnLineage.Json

/-- Why a value is not of a type. -/
inductive DecodeFailure where
  | wrongType (found : Value) (expected : String)
  | wrongValue (found : String) (expected : String)
  | wrongLength (length : Nat) (expected : String)
  | unknownField (name : String) (known : List String)
  | unknownKeyword (name : String) (known : List String)
  | missingField (name : String)
  | duplicateField (name : String)
  /-- The type has a complaint of its own. -/
  | refused (complaint : String)
deriving Repr

/-- A result of decoding. -/
abbrev Decoded (α : Type) := Except DecodeFailure α

namespace Value

/-- A value as a complaint names it. -/
def described : Value → String
  | null => "null"
  | boolean b => "boolean `" ++ (if b then "true" else "false") ++ "`"
  | integer n => s!"integer `{n}`"
  | decimal d => s!"floating point `{d.text}`"
  | string s => s!"string {Text.quoted s}"
  | array _ => "sequence"
  | object _ => "map"

end Value

namespace DecodeFailure

/-- Names of which one is expected. -/
def alternatives (names : List String) : String :=
  match names.map fun name => "`" ++ name ++ "`" with
  | [one] => one
  | [one, other] => one ++ " or " ++ other
  | all => "one of " ++ ", ".intercalate all

/-- The complaint about a value that is not of a type. -/
def message : DecodeFailure → String
  | wrongType found expected => s!"invalid type: {found.described}, expected {expected}"
  | wrongValue found expected => s!"invalid value: {found}, expected {expected}"
  | wrongLength length expected => s!"invalid length {length}, expected {expected}"
  | unknownField name known => s!"unknown field `{name}`, expected {alternatives known}"
  | unknownKeyword name known => s!"unknown variant `{name}`, expected {alternatives known}"
  | missingField name => s!"missing field `{name}`"
  | duplicateField name => s!"duplicate field `{name}`"
  | refused complaint => complaint

end DecodeFailure

variable {α σ : Type}

/-- The content of a string. -/
def string : Value → Decoded String
  | .string s => .ok s
  | v => .error (.wrongType v "a string")

/-- A whole number below 2^64. -/
def natural : Value → Decoded Nat
  | .integer n => if n < 0 then .error (.wrongValue s!"integer `{n}`" "usize") else .ok n.toNat
  | v => .error (.wrongType v "usize")

/-- A list. -/
def list (item : Value → Decoded α) : Value → Decoded (List α)
  | .array items => items.mapM item
  | v => .error (.wrongType v "a sequence")

/-- A value that may be null. -/
def optional (item : Value → Decoded α) : Value → Decoded (Option α)
  | .null => .ok none
  | v => (item v).map some

/-- One of some keywords, as a string or as the only key of an object with the value null. -/
def keyword (known : List String) (ofName : String → Option α) : Value → Decoded α
  | .string name => named name
  | .object [(name, v)] => do
    let a ← named name
    match v with
    | .null => return a
    | v => throw (.wrongType v "unit")
  | .object _ => .error (.wrongValue "map" "map with a single key")
  | v => .error (.wrongType v "string or map")
where
  /-- The keyword of a name. -/
  named (name : String) : Decoded α :=
    match ofName name with
    | some a => .ok a
    | none => .error (.unknownKeyword name known)

/-- A field of a structure of type `σ`. -/
structure Field (σ : Type) where
  name : String
  required : Bool
  /-- Puts the decoded value into the structure. -/
  put : Value → σ → Decoded σ

/-- A field whose value is decoded on its own. -/
def Field.of (name : String) (required : Bool) (decode : Value → Decoded α) (set : α → σ → σ) :
    Field σ :=
  ⟨name, required, fun v s => (decode v).map fun a => set a s⟩

/-- A structure by its fields. -/
structure Shape (σ : Type) where
  name : String
  fields : List (Field σ)
  /-- Other fields are refused. -/
  closed : Bool
  /-- The structure before any field is put into it. -/
  start : σ

namespace Shape

/-- Puts entries into a structure one after the other; `seen` are the fields that were met. -/
def putEntries (shape : Shape σ) : List String → σ → List (String × Value) →
    Decoded (List String × σ)
  | seen, s, [] => .ok (seen, s)
  | seen, s, (key, v) :: more =>
    match shape.fields.find? fun field => field.name == key with
    | some field =>
      if seen.contains key then .error (.duplicateField key)
      else do putEntries shape (key :: seen) (← field.put v s) more
    | none =>
      if shape.closed then .error (.unknownField key (shape.fields.map (·.name)))
      else putEntries shape seen s more

/-- A structure from the entries of an object. -/
def ofEntries (shape : Shape σ) (entries : List (String × Value)) : Decoded σ := do
  let (seen, s) ← shape.putEntries [] shape.start entries
  match shape.fields.find? fun field => field.required && !seen.contains field.name with
  | some field => throw (.missingField field.name)
  | none => return s

/-- The type of a structure as a complaint names it. -/
def described (shape : Shape σ) : String :=
  s!"struct {shape.name}"

/-- Puts the values of an array into the fields in their order; `index` fields are in front. -/
def putItems (shape : Shape σ) (index : Nat) : List (Field σ) → σ → List Value →
    Decoded (σ × List Value)
  | [], s, rest => .ok (s, rest)
  | field :: fields, s, [] =>
    if field.required then
      .error (.wrongLength index s!"{shape.described} with {shape.fields.length} elements")
    else putItems shape (index + 1) fields s []
  | field :: fields, s, v :: rest => do putItems shape (index + 1) fields (← field.put v s) rest

/-- A structure from the values of an array. -/
def ofItems (shape : Shape σ) (items : List Value) : Decoded σ := do
  let (s, rest) ← shape.putItems 0 shape.fields shape.start items
  if rest.isEmpty then return s
  else throw (.wrongLength items.length "fewer elements in array")

/-- A structure from an object or an array. -/
def decode (shape : Shape σ) : Value → Decoded σ
  | .object entries => shape.ofEntries entries
  | .array items => shape.ofItems items
  | v => .error (.wrongType v shape.described)

end Shape

end ColumnLineage.Json
