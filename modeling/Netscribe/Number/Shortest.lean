import Netscribe.Number.Binary64
/-!
The decimal of fewest digits that reads back as a given value, and its layout.
-/
namespace Netscribe.Binary64

/-- The fraction `num / den * 10 ^ shift` as a pair of naturals. -/
def scaleTen (shift : Int) (num den : Nat) : Nat × Nat :=
  if shift < 0 then (num, den * tenTo shift.natAbs) else (num * tenTo shift.natAbs, den)

/-- The reals between the two neighbours that round to a finite value, as three fractions of one
    denominator: lower end, value, upper end. The ends belong to it when `closed`. -/
structure RoundingInterval where
  low : Nat
  value : Nat
  high : Nat
  den : Nat
  closed : Bool

/-- Below a power of two the gap to the next lower value is half of the gap above it. -/
def roundingInterval (mantissa : Nat) (exponent : Int) : RoundingInterval :=
  let below := if mantissa = twoTo 52 ∧ minExponent < exponent then 1 else 2
  let (unit, den) := scale (exponent - 2) 1 1
  { low := (4 * mantissa - below) * unit
    value := 4 * mantissa * unit
    high := (4 * mantissa + 2) * unit
    den := den
    closed := mantissa % 2 = 0 }

namespace RoundingInterval

/-- Whether the decimal `digits * 10 ^ exponent` lies in the interval. -/
def contains (i : RoundingInterval) (digits : Nat) (exponent : Int) : Bool :=
  let (p, q) := scaleTen exponent (digits * i.den) 1
  if i.closed then i.low * q ≤ p && p ≤ i.high * q else i.low * q < p && p < i.high * q

/-- The better of the two multiples of `10 ^ exponent` next to the value, if one reads back. -/
def candidate? (i : RoundingInterval) (exponent : Int) : Option Nat :=
  let (num, den) := scaleTen (-exponent) i.value i.den
  let lower := num / den
  let nearest := divNearest num den
  let other := if nearest = lower then lower + 1 else lower
  if i.contains nearest exponent then some nearest
  else if i.contains other exponent then some other
  else none

/-- The number of integer digits of the value; not positive below one tenth. -/
def magnitude (i : RoundingInterval) : Int :=
  let estimate : Int := ((toString i.value).length : Int) - (toString i.den).length
  let (num, den) := scaleTen (-estimate) i.value i.den
  if den ≤ num then estimate + 1 else if 10 * num < den then estimate - 1 else estimate

/-- Digits and exponent of the first grid, from coarse to fine, that has a multiple in the
    interval. Seventeen digits are always enough. -/
def search (i : RoundingInterval) (magnitude : Int) : Nat → Nat × Int
  | 0 => (i.value / i.den, 0)
  | fuel + 1 =>
    let exponent := magnitude - (18 - (fuel + 1) : Nat)
    match i.candidate? exponent with
    | some digits => (digits, exponent)
    | none => i.search magnitude fuel

end RoundingInterval

/-- Digits without trailing zeros, and the position of the point counted from their left end. -/
def shortestDigits (mantissa : Nat) (exponent : Int) : List Char × Int :=
  if mantissa = 0 then (['0'], 1)
  else
    let i := roundingInterval mantissa exponent
    let (digits, exponent) := i.search i.magnitude 17
    let written := (toString digits).toList
    ((written.reverse.dropWhile (· == '0')).reverse, written.length + exponent)

/-- How a decimal is laid out: the point positions that are written without an exponent, and the
    least number of exponent digits. -/
structure DecimalLayout where
  firstPositional : Int
  lastPositional : Int
  exponentWidth : Nat

/-- Between four zeros after the point and sixteen integer digits no exponent is written. -/
def plainLayout : DecimalLayout := ⟨-3, 16, 2⟩

def layOut (layout : DecimalLayout) (digits : List Char) (point : Int) : String :=
  if layout.firstPositional ≤ point ∧ point ≤ layout.lastPositional then
    if point ≤ 0 then
      "0." ++ .ofList (List.replicate point.natAbs '0' ++ digits)
    else if digits.length ≤ point.natAbs then
      .ofList (digits ++ List.replicate (point.natAbs - digits.length) '0') ++ ".0"
    else
      .ofList (digits.take point.natAbs) ++ "." ++ .ofList (digits.drop point.natAbs)
  else
    let exponent := point - 1
    let size := toString exponent.natAbs
    let fill := String.ofList (List.replicate (layout.exponentWidth - size.length) '0')
    let mantissa := match digits with
      | [] => ""
      | [d] => .ofList [d]
      | d :: rest => .ofList (d :: '.' :: rest)
    mantissa ++ (if exponent < 0 then "e-" else "e+") ++ fill ++ size

def write : Binary64 → String
  | finite negative mantissa exponent =>
    let (digits, point) := shortestDigits mantissa exponent
    (if negative then "-" else "") ++ layOut plainLayout digits point
  | infinite negative => if negative then "-inf" else "inf"
  | nan => "nan"

/-- The value with a fixed number of places after the point, a half going to the even neighbour. -/
def writeFixed (places : Nat) : Binary64 → String
  | finite negative mantissa exponent =>
    let (num, den) := fraction mantissa exponent
    let digits := toString (divNearest (num * tenTo places) den)
    let filled := (List.replicate (places + 1 - digits.length) '0') ++ digits.toList
    let whole := filled.length - places
    (if negative then "-" else "") ++ .ofList (filled.take whole)
      ++ (if places = 0 then "" else "." ++ .ofList (filled.drop whole))
  | infinite negative => if negative then "-inf" else "inf"
  | nan => "nan"

end Netscribe.Binary64
