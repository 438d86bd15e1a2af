/-!
# Socket addresses

An address is four numbers with points between them, or up to eight groups of hexadecimal digits
between brackets, of which a run of zeros may be left out.  A port follows behind a colon.

## Main definitions

* `afterNumber`, `afterFourNumbers`, `afterGroups`: what stands behind parts of an address.
* `isSocketAddress`: a text is an address with a port.
-/

namespace ColumnLineage.Command

/-- The value of a digit of a base. -/
def digitOf (base : Nat) (c : Char) : Option Nat :=
  let n :=
    if c.isDigit then c.toNat - '0'.toNat
    else if 'a' ≤ c && c ≤ 'z' then c.toNat - 'a'.toNat + 10
    else if 'A' ≤ c && c ≤ 'Z' then c.toNat - 'A'.toNat + 10
    else base
  if n < base then some n else none

/-- What stands behind a number of a base, which is not above a largest one and has at most some
digits. -/
def afterNumber (base largest : Nat) (maxDigits : Option Nat) (leadingZeros : Bool)
    (text : List Char) : Option (List Char) :=
  let digits := text.takeWhile fun c => (digitOf base c).isSome
  let value := digits.foldl (fun n c => n * base + (digitOf base c).getD 0) 0
  let superfluous := digits.head? == some '0' && digits.length > 1
  if digits.isEmpty || maxDigits.any (· < digits.length) || value > largest ||
      (superfluous && !leadingZeros) then none
  else some (text.drop digits.length)

/-- What stands behind a character. -/
def afterMark (mark : Char) : List Char → Option (List Char)
  | c :: rest => if c == mark then some rest else none
  | [] => none

/-- What stands behind a number below 256. -/
def afterByte (text : List Char) : Option (List Char) :=
  afterNumber 10 255 (some 3) false text

/-- What stands behind four numbers with points between them. -/
def afterFourNumbers (text : List Char) : Option (List Char) := do
  let text ← afterByte text
  let text ← (afterMark '.' text).bind afterByte
  let text ← (afterMark '.' text).bind afterByte
  (afterMark '.' text).bind afterByte

/-- What stands behind a colon, which the first group has not. -/
def afterSeparator (index : Nat) (text : List Char) : Option (List Char) :=
  if index == 0 then some text else afterMark ':' text

/-- Groups: their number, whether the last two were four numbers, and what stands behind them. -/
structure Groups where
  count : Nat
  endsInNumbers : Bool
  rest : List Char

/-- What stands behind groups, of which there are `index` already and at most `left` more. -/
def afterGroups (index : Nat) : Nat → List Char → Groups
  | 0, text => ⟨index, false, text⟩
  | left + 1, text =>
    let behind := afterSeparator index text
    match if left > 0 then behind.bind afterFourNumbers else none with
    | some rest => ⟨index + 2, true, rest⟩
    | none =>
      match behind.bind (afterNumber 16 0xFFFF (some 4) true) with
      | some rest => afterGroups (index + 1) left rest
      | none => ⟨index, false, text⟩

/-- What stands behind eight groups, or fewer with two colons for those that are left out. -/
def afterAllGroups (text : List Char) : Option (List Char) :=
  let head := afterGroups 0 8 text
  if head.count == 8 then some head.rest
  else if head.endsInNumbers then none
  else do
    let rest ← (afterMark ':' head.rest).bind (afterMark ':')
    return (afterGroups 0 (7 - head.count) rest).rest

/-- What stands behind the number of a network, if one stands here. -/
def afterScope (text : List Char) : Option (List Char) :=
  match afterMark '%' text with
  | some rest => afterNumber 10 (Nat.pow 2 32 - 1) none true rest
  | none => some text

/-- What stands behind an address between brackets. -/
def afterBracketed (text : List Char) : Option (List Char) := do
  let text ← (afterMark '[' text).bind afterAllGroups
  (afterScope text).bind (afterMark ']')

/-- A text ends with a port. -/
def endsWithPort (text : List Char) : Bool :=
  ((afterMark ':' text).bind (afterNumber 10 65535 none true)) == some []

/-- A text is an address with a port. -/
def isSocketAddress (text : String) : Bool :=
  let cs := text.toList
  (afterFourNumbers cs).any endsWithPort || (afterBracketed cs).any endsWithPort

end ColumnLineage.Command
