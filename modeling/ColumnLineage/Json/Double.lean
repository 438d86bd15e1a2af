/-!
# Numbers with fractions

A number with a fraction or an exponent stands for a double: a fraction of 53 binary digits times a
power of two.  Its text has the fewest decimal digits that stand for the same double.

## Main definitions

* `Decimal`: a number as it is read.
* `Double`: a double that is not negative.
* `Decimal.toDouble?`: the double of a decimal, unless it is too large.
* `Double.shortest`: the fewest decimal digits that stand for a double.
* `Decimal.text`: a number as it is written.
-/

namespace ColumnLineage.Json

/-- A number as it is read: its digits without the point, and a power of ten. -/
structure Decimal where
  negative : Bool
  significand : Nat
  exponent : Int
deriving DecidableEq, Repr, Inhabited

/-- A double that is not negative: a fraction below 2^53 times a power of two. -/
structure Double where
  fraction : Nat
  exponent : Int
deriving DecidableEq, Repr

namespace Double

/-- The smallest power of two of a double. -/
def lowestExponent : Int := -1074

/-- A product with a power of a base, whose exponent is not negative. -/
def scaled (n base : Nat) (exponent : Int) : Nat :=
  n * Nat.pow base exponent.toNat

/-- The numerator of a fraction times a power of a base. -/
def numerator (n base : Nat) (exponent : Int) : Nat :=
  scaled n base exponent

/-- The denominator of a fraction times a power of a base. -/
def denominator (n base : Nat) (exponent : Int) : Nat :=
  scaled n base (-exponent)

/-- The nearest whole number to a fraction; a half goes to the even neighbour. -/
def roundDiv (num den : Nat) : Nat :=
  let floor := num / den
  let rest := num % den
  if 2 * rest < den || (2 * rest == den && floor % 2 == 0) then floor else floor + 1

/-- The double nearest to a fraction. -/
def nearest (num den : Nat) : Double :=
  if num == 0 then ⟨0, lowestExponent⟩
  else
    let estimate : Int := (num.log2 : Int) - den.log2 - 52
    let tooLarge := numerator num 2 (-estimate) / denominator den 2 (-estimate) < Nat.pow 2 52
    let exponent := max (if tooLarge then estimate - 1 else estimate) lowestExponent
    let fraction := roundDiv (numerator num 2 (-exponent)) (denominator den 2 (-exponent))
    if fraction == Nat.pow 2 53 then ⟨Nat.pow 2 52, exponent + 1⟩ else ⟨fraction, exponent⟩

/-- A double that is too large to be one. -/
def overflows (d : Double) : Bool :=
  d.fraction > 0 && (d.fraction.log2 : Int) + d.exponent ≥ 1024

/-- The nearest double to a product with a power of ten, itself rounded first. -/
def timesPowerOfTen (d : Double) (n : Nat) : Double :=
  let power := nearest (Nat.pow 10 n) 1
  let exponent := d.exponent + power.exponent
  let fraction := d.fraction * power.fraction
  nearest (numerator fraction 2 exponent) (denominator 1 2 exponent)

/-- The nearest double to a quotient by a power of ten, itself rounded first. -/
def overPowerOfTen (d : Double) (n : Nat) : Double :=
  let power := nearest (Nat.pow 10 n) 1
  let exponent := d.exponent - power.exponent
  nearest (numerator d.fraction 2 exponent) (denominator power.fraction 2 exponent)

/-- A decimal power that is not above a fraction, while the next one is, near an estimate. -/
def decimalExponent (num den : Nat) : Int :=
  let estimate : Int := ((num.log2 : Int) - den.log2) * 30103 / 100000 - 1
  let atMost (e : Int) : Bool := numerator 1 10 e * den ≤ num * denominator 1 10 e
  if atMost (estimate + 2) then estimate + 2
  else if atMost (estimate + 1) then estimate + 1
  else estimate

/-- Decimal digits with the power of ten of the last one. -/
structure Digits where
  value : Nat
  exponent : Int

/-- Of the two decimals with some digits around a double, the nearer one that stands for it. -/
def withDigits? (d : Double) (count : Nat) : Option Digits :=
  let num := numerator d.fraction 2 d.exponent
  let den := denominator 1 2 d.exponent
  let place := decimalExponent num den - count + 1
  let unit := numerator 1 10 place
  let units := denominator 1 10 place
  let low := num * units / (den * unit)
  -- Distances in quarters of the last binary digit, all brought to one denominator.
  let quarter := numerator 1 2 (d.exponent - 2) * (denominator 1 2 d.exponent * units)
  let quarters := denominator 1 2 (d.exponent - 2)
  let below := (num * units - low * (den * unit)) * quarters
  let above := ((low + 1) * (den * unit) - num * units) * quarters
  let narrow := d.fraction == Nat.pow 2 52 && d.exponent > lowestExponent
  let even := d.fraction % 2 == 0
  let within (distance limit : Nat) : Bool := distance < limit || (even && distance == limit)
  let lowFits := within below (if narrow then quarter else 2 * quarter)
  let highFits := within above (2 * quarter)
  if lowFits && (!highFits || below < above || (below == above && low % 2 == 0)) then
    some ⟨low, place⟩
  else if highFits then some ⟨low + 1, place⟩
  else none

/-- The fewest decimal digits that stand for a double. -/
def shortest (d : Double) : Digits :=
  let candidates := (List.range 17).filterMap fun n => d.withDigits? (n + 1)
  candidates.headD ⟨0, 0⟩

end Double

namespace Decimal

/-- Divides by powers of ten until the exponent is spent or nothing is left. -/
def shrunk : Nat → Double → Nat → Double
  | 0, d, _ => d
  | fuel + 1, d, exponent =>
    if exponent ≤ 308 then d.overPowerOfTen exponent
    else if d.fraction == 0 then d
    else shrunk fuel (d.overPowerOfTen 308) (exponent - 308)

/-- The double of a decimal without its sign, unless it is too large.  The digits and the power of
ten are rounded one after the other. -/
def toDouble? (d : Decimal) : Option Double :=
  let digits := Double.nearest d.significand 1
  if d.exponent < 0 then some (shrunk 4 digits d.exponent.natAbs)
  else if d.significand == 0 then some digits
  else if d.exponent > 308 then none
  else
    let product := digits.timesPowerOfTen d.exponent.toNat
    if product.overflows then none else some product

/-- Digits with a point after some of them. -/
def positional (digits : List Char) (point : Int) : List Char :=
  if point ≤ 0 then '0' :: '.' :: (List.replicate (-point).toNat '0' ++ digits)
  else
    let n := point.toNat
    if digits.length ≤ n then digits ++ List.replicate (n - digits.length) '0' ++ ['.', '0']
    else digits.take n ++ '.' :: digits.drop n

/-- Digits with a point after the first, and an exponent of at least two digits. -/
def scientific (digits : List Char) (exponent : Int) : List Char :=
  let mantissa := match digits with
    | first :: second :: more => first :: '.' :: second :: more
    | digits => digits
  let size := Nat.toDigits 10 exponent.natAbs
  mantissa ++ ['e', if exponent < 0 then '-' else '+'] ++
    (if size.length < 2 then '0' :: size else size)

/-- The text of a number: a point in its place for powers from 10^-5 to 10^15, and an exponent for
all others. -/
def text (d : Decimal) : String :=
  let sign := if d.negative then "-" else ""
  match d.toDouble? with
  | none => sign ++ "inf"
  | some double =>
    if double.fraction == 0 then sign ++ "0.0"
    else
      let shortest := double.shortest
      let digits := (Nat.toDigits 10 shortest.value)
      let exponent := shortest.exponent + digits.length - 1
      let digits := (digits.reverse.dropWhile (· == '0')).reverse
      sign ++ String.ofList (if -5 ≤ exponent && exponent ≤ 15 then positional digits (exponent + 1)
        else scientific digits exponent)

end Decimal

end ColumnLineage.Json
