import Netscribe.Text.Digit
import Netscribe.Number.Integer
/-!
Calendar dates in the form `2025-01-31`.
-/
namespace Netscribe

structure Date where
  year : Nat
  month : Nat
  day : Nat
  deriving DecidableEq, Repr

namespace Date

def isLeap (year : Nat) : Bool := year % 4 = 0 && (year % 100 ≠ 0 || year % 400 = 0)

def daysIn (year month : Nat) : Nat :=
  if month = 2 then if isLeap year then 29 else 28
  else if month = 4 ∨ month = 6 ∨ month = 9 ∨ month = 11 then 30
  else 31

def monthNames : List String :=
  ["January", "February", "March", "April", "May", "June", "July", "August", "September",
   "October", "November", "December"]

def monthName (d : Date) : String := monthNames.getD (d.month - 1) ""

def isNonzeroDigit (c : Char) : Bool := '1' ≤ c && c ≤ '9'

def digit (c : Char) : Nat := c.toNat - 0x30

/-- The month and what follows the dash behind it. The leading zero may be missing. -/
def readMonth? : List Char → Option (Nat × List Char)
  | '1' :: '-' :: rest => some (1, rest)
  | '1' :: c :: '-' :: rest => if '0' ≤ c ∧ c ≤ '2' then some (10 + digit c, rest) else none
  | '0' :: c :: '-' :: rest => if isNonzeroDigit c then some (digit c, rest) else none
  | c :: '-' :: rest => if isNonzeroDigit c then some (digit c, rest) else none
  | _ => none

/-- The day. A blank may stand for a leading zero, which may also be missing; the second digit of a
    day from 10 to 29 may be of any script. -/
def readDay? : List Char → Option Nat
  | [c] => if isNonzeroDigit c then some (digit c) else none
  | ['3', c] => if c = '0' ∨ c = '1' then some (30 + digit c) else none
  | ['0', c] => if isNonzeroDigit c then some (digit c) else none
  | [' ', c] => if isNonzeroDigit c then some (digit c) else none
  | [t, c] =>
    if t = '1' ∨ t = '2' then (Text.decimalValue? c).map (10 * digit t + ·) else none
  | _ => none

/-- A date that exists: year, month and day, where the year has four digits of any script. -/
def read? (text : String) : Option Date :=
  match text.toList with
  | a :: b :: c :: d :: '-' :: rest => do
    let year ← Text.decimalNumber? [a, b, c, d]
    let (month, rest) ← readMonth? rest
    let day ← readDay? rest
    if 1 ≤ year ∧ day ≤ daysIn year month then return ⟨year, month, day⟩ else none
  | _ => none

end Date
end Netscribe
