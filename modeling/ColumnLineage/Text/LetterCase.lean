/-!
# Letter case that reaches ASCII

Keywords and dialect names consist of ASCII letters but are compared after Unicode case mapping, so
the few characters outside ASCII whose mapping lands in ASCII take part: the long s is an upper
case `S`, the Kelvin sign a lower case `k`, a ligature the letters it joins.

## Main definitions

* `Text.upper`: the upper case form of a text, exact wherever the result may be ASCII.
* `Text.lower`: the lower case form of a text, exact wherever the result may be ASCII.

## Design notes

A character outside ASCII whose mapping holds a character outside ASCII stays as it is.  No text
that holds such a character equals an ASCII one before or after the mapping, so comparisons with
ASCII names are not affected.
-/

namespace ColumnLineage.Text

/-- The upper case form of a character, where it is ASCII. -/
def upperChar (c : Char) : List Char :=
  match c.toNat with
  | 0xDF => ['S', 'S']
  | 0x131 => ['I']
  | 0x17F => ['S']
  | 0xFB00 => ['F', 'F']
  | 0xFB01 => ['F', 'I']
  | 0xFB02 => ['F', 'L']
  | 0xFB03 => ['F', 'F', 'I']
  | 0xFB04 => ['F', 'F', 'L']
  | 0xFB05 => ['S', 'T']
  | 0xFB06 => ['S', 'T']
  | _ => [c.toUpper]

/-- The lower case form of a character, where it is ASCII. -/
def lowerChar (c : Char) : Char :=
  if c.toNat == 0x212A then 'k' else c.toLower

/-- The upper case form of a text. -/
def upper (s : String) : String :=
  String.ofList (s.toList.flatMap upperChar)

/-- The lower case form of a text. -/
def lower (s : String) : String :=
  String.ofList (s.toList.map lowerChar)

end ColumnLineage.Text
