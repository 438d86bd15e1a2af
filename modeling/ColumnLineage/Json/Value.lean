import ColumnLineage.Json.Double

/-!
# JSON values

A document is a value whose objects keep the order of their entries.

## Main definitions

* `Value`: a value.
* `Value.field?`: an entry of an object.
* `setEntry`: entries with one more, where a repeated key keeps its place and takes the new value.
-/

namespace ColumnLineage.Json

/-- A JSON value. -/
inductive Value where
  | null
  | boolean (b : Bool)
  /-- A whole number. -/
  | integer (n : Int)
  /-- A number with a fraction or an exponent, or one that is too large for a whole number. -/
  | decimal (d : Decimal)
  | string (s : String)
  | array (items : List Value)
  | object (entries : List (String × Value))
deriving Inhabited, Repr

/-- The value of a key. -/
def valueOf? (key : String) : List (String × Value) → Option Value
  | [] => none
  | (k, v) :: more => if k == key then some v else valueOf? key more

/-- Entries with one more: a key that is there keeps its place and takes the new value. -/
def setEntry (key : String) (value : Value) : List (String × Value) → List (String × Value)
  | [] => [(key, value)]
  | (k, v) :: more => if k == key then (k, value) :: more else (k, v) :: setEntry key value more

/-- Entries in which every key occurs once, at its first place with its last value. -/
def distinctEntries (entries : List (String × Value)) : List (String × Value) :=
  entries.foldl (fun done (k, v) => setEntry k v done) []

namespace Value

/-- The value of a key of an object. -/
def field? (v : Value) (key : String) : Option Value :=
  match v with
  | object entries => valueOf? key entries
  | _ => none

/-- The content of a string. -/
def string? : Value → Option String
  | string s => some s
  | _ => none

end Value

end ColumnLineage.Json
