/-!
Binary floating-point numbers of 64 bits as exact values: nearest rounding of a quotient, from
which reading, sums and quotients follow.
-/
namespace Netscribe

/-- A finite value is `mantissa * 2 ^ exponent` with its sign; `Binary64.round` chooses the exponent
    so that the mantissa has 53 bits, or less at the smallest exponent. -/
inductive Binary64
  | finite (negative : Bool) (mantissa : Nat) (exponent : Int)
  | infinite (negative : Bool)
  | nan
  deriving DecidableEq, Repr

namespace Binary64

def minExponent : Int := -1074

def maxExponent : Int := 971

def zero (negative : Bool) : Binary64 := finite negative 0 minExponent

def twoTo (n : Nat) : Nat := Nat.pow 2 n

def tenTo (n : Nat) : Nat := Nat.pow 10 n

/-- The quotient rounded to the nearest integer, a half to the even neighbour. -/
def divNearest (num den : Nat) : Nat :=
  let q := num / den
  let r := num % den
  if 2 * r < den ∨ (2 * r = den ∧ q % 2 = 0) then q else q + 1

/-- A fraction `num / den * 2 ^ shift` as a pair of naturals. -/
def scale (shift : Int) (num den : Nat) : Nat × Nat :=
  if shift < 0 then (num, den * twoTo shift.natAbs) else (num * twoTo shift.natAbs, den)

/-- The value nearest to `num / den`, a tie going to the even mantissa. -/
def round (negative : Bool) (num den : Nat) : Binary64 :=
  if num = 0 then zero negative
  else
    let estimate : Int := (Nat.log2 num : Int) - Nat.log2 den - 52
    let (n, d) := scale (-estimate) num den
    let exponent := max minExponent (if n < d * twoTo 52 then estimate - 1 else estimate)
    let (n, d) := scale (-exponent) num den
    let mantissa := divNearest n d
    let (mantissa, exponent) :=
      if mantissa = twoTo 53 then (twoTo 52, exponent + 1) else (mantissa, exponent)
    if maxExponent < exponent then infinite negative else finite negative mantissa exponent

/-- The value nearest to `digits * 10 ^ exponent`. Exponents far beyond the range are decided by
    the number of digits alone. -/
def ofDecimal (negative : Bool) (digits : Nat) (exponent : Int) : Binary64 :=
  let size : Int := (toString digits).length + exponent
  if digits = 0 ∨ size < -400 then zero negative
  else if 400 < size then infinite negative
  else if exponent < 0 then round negative digits (tenTo exponent.natAbs)
  else round negative (digits * tenTo exponent.natAbs) 1

def ofInt (n : Int) : Binary64 := round (n < 0) n.natAbs 1

/-- The magnitude of a finite value as a fraction. -/
def fraction (mantissa : Nat) (exponent : Int) : Nat × Nat := scale exponent mantissa 1

/-- The integer that a whole value equals. -/
def toInt? : Binary64 → Option Int
  | finite negative mantissa exponent =>
    let (num, den) := fraction mantissa exponent
    if num % den = 0 then
      some (if negative then -(num / den : Nat) else (num / den : Nat))
    else none
  | _ => none

def isZero : Binary64 → Bool
  | finite _ mantissa _ => mantissa == 0
  | _ => false

/-- A finite value as an integer multiple of `2 ^ exponent`, for an exponent not above its own. -/
def signedAt (exponent : Int) (negative : Bool) (mantissa : Nat) (own : Int) : Int :=
  let magnitude : Int := mantissa * twoTo (own - exponent).natAbs
  if negative then -magnitude else magnitude

def add : Binary64 → Binary64 → Binary64
  | finite s m e, finite s' m' e' =>
    let exponent := min e e'
    let total := signedAt exponent s m e + signedAt exponent s' m' e'
    if total = 0 then zero (s && s')
    else
      let (num, den) := scale exponent total.natAbs 1
      round (total < 0) num den
  | nan, _ => nan
  | _, nan => nan
  | infinite s, infinite s' => if s = s' then infinite s else nan
  | infinite s, _ => infinite s
  | _, infinite s => infinite s

/-- The quotient by a positive count. -/
def divNat (x : Binary64) (count : Nat) : Binary64 :=
  match x with
  | finite s m e =>
    let (num, den) := fraction m e
    round s num (den * count)
  | other => other

/-- Numeric order of two values; nothing is below or above a value that is not a number. -/
def lt : Binary64 → Binary64 → Bool
  | finite s m e, finite s' m' e' =>
    let exponent := min e e'
    signedAt exponent s m e < signedAt exponent s' m' e'
  | nan, _ => false
  | _, nan => false
  | infinite s, infinite s' => s && !s'
  | infinite s, _ => s
  | _, infinite s => !s

end Binary64
end Netscribe
