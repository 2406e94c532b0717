import Netscribe.Text.Digit
/-!
Integers in text: how free text is read as one, and how one is written. Numbers have no bound, and
neither has the number of their digits: a limit on the digits that are converted, which a runtime
may set and lift, is not modelled.
-/
namespace Netscribe.Integer

/-- Blanks that may surround an integer. The information separators may not. -/
def isSurrounding (c : Char) : Bool :=
  Text.isBlank c && !(0x1c ≤ c.toNat && c.toNat ≤ 0x1f)

/-- Decimal digits of any script, where one underscore may stand between two digits. -/
def digitRun? : List Char → Option (List Char)
  | [] => none
  | [c] => if Text.isDecimal c then some [c] else none
  | c :: '_' :: rest => if Text.isDecimal c then (digitRun? rest).map (c :: ·) else none
  | c :: rest => if Text.isDecimal c then (digitRun? rest).map (c :: ·) else none

def unsigned? (cs : List Char) : Option Nat := (digitRun? cs).bind Text.decimalNumber?

def signed? : List Char → Option Int
  | '+' :: rest => (unsigned? rest).map Int.ofNat
  | '-' :: rest => (unsigned? rest).map fun n => -Int.ofNat n
  | cs => (unsigned? cs).map Int.ofNat

def read? (s : String) : Option Int := signed? (Text.trimChars isSurrounding s.toList)

def write (n : Int) : String := toString n

/-- A number written in decimal, filled up with zeros in front. -/
def padded (width n : Nat) : String :=
  let digits := toString n
  .ofList (List.replicate (width - digits.length) '0') ++ digits

end Netscribe.Integer
