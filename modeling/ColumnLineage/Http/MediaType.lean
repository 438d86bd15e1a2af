import ColumnLineage.Text.LetterCase

/-!
# Media types

The type of a body is written as `type/subtype`, with parameters behind semicolons.  What stands
behind the last plus sign of a subtype names the form that the type is based on.

## Main definitions

* `MediaType`: a media type without its parameters.
* `MediaType.ofText`: the media type of a text.
* `MediaType.isJson`: bodies of a type are JSON.
-/

namespace ColumnLineage.Http

/-- A media type without its parameters, in small letters. -/
structure MediaType where
  type : List Char
  subtype : List Char
  /-- What stands behind the plus sign. -/
  base : Option (List Char)
deriving DecidableEq, Repr

namespace MediaType

/-- The marks that may occur in a name. -/
def nameMarks : List Char :=
  ['!', '#', '$', '%', '&', '\'', '*', '+', '-', '.', '^', '_', '\x60', '|', '~']

/-- A character of a name. -/
def isNameChar (c : Char) : Bool :=
  c.isAlphanum || nameMarks.contains c

/-- A character that may occur between the quotes of a parameter. -/
def isQuotedChar (c : Char) : Bool :=
  c.toNat > 31 && c.toNat != 127

/-- The content of quotes, of which the first character is taken as it is, and what follows them. -/
def quotedRest : List Char → Option (List Char)
  | [] => none
  | first :: rest =>
    if !isQuotedChar first then none
    else match rest.dropWhile fun c => isQuotedChar c && c != '"' with
      | '"' :: rest => some rest
      | _ => none

/-- What follows the value of a parameter: the next parameter or the end. -/
def behindValue : List Char → Option (List Char)
  | [] => some []
  | '"' :: rest =>
    match (quotedRest rest).map fun rest => rest.dropWhile (· == ' ') with
    | some [] => some []
    | some (';' :: rest) => some rest
    | _ => none
  | first :: rest =>
    if !isNameChar first then none
    else match rest.dropWhile isNameChar with
      | [] => some []
      | ';' :: rest => some rest
      | _ => none

/-- What follows a parameter, which is a name, an equals sign and a value. -/
def behindParameter (text : List Char) : Option (List Char) :=
  match text.takeWhile isNameChar, text.dropWhile isNameChar with
  | _ :: _, '=' :: rest => behindValue rest
  | _, _ => none

/-- A text is made of parameters; each may have blanks in front.  `fuel` bounds their number. -/
def areParametersWithin : Nat → List Char → Bool
  | 0, _ => false
  | fuel + 1, text =>
    match text.dropWhile (· == ' ') with
    | [] => true
    | text =>
      match behindParameter text with
      | some rest => areParametersWithin fuel rest
      | none => false

/-- A text is made of parameters. -/
def areParameters (text : List Char) : Bool :=
  areParametersWithin (text.length + 1) text

/-- A name as a subtype, with the form that it is based on.  A plus sign in front of all is none. -/
def splitSubtype (name : List Char) : List Char × Option (List Char) :=
  let behind := (name.reverse.takeWhile (· != '+')).reverse
  if behind.length + 1 < name.length then
    (name.take (name.length - behind.length - 1), some behind)
  else (name, none)

/-- The media type of a text. -/
def ofText (text : String) : Option MediaType :=
  let cs := text.toList
  let type := cs.takeWhile isNameChar
  match type, cs.dropWhile isNameChar with
  | _ :: _, '/' :: more =>
    let name := more.takeWhile isNameChar
    let valid := match name, more.dropWhile isNameChar with
      | _ :: _, [] => true
      | _ :: _, ';' :: rest => areParameters rest
      | _, _ => false
    if valid && cs.all fun c => c.toNat < 127 then
      let (subtype, base) := splitSubtype (name.map Char.toLower)
      some ⟨type.map Char.toLower, subtype, base⟩
    else none
  | _, _ => none

/-- Bodies of a type are JSON. -/
def isJson (m : MediaType) : Bool :=
  let json := ['j', 's', 'o', 'n']
  m.type == ['a', 'p', 'p', 'l', 'i', 'c', 'a', 't', 'i', 'o', 'n'] &&
    (m.subtype == json || m.base == some json)

end MediaType

end ColumnLineage.Http
