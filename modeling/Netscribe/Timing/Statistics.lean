import Netscribe.Document.Basic
import Netscribe.Fault
import Netscribe.Number.Shortest
import Netscribe.Text.Blank
/-!
Lengths of time in milliseconds, and statistics of how long pieces of work took, by operation. A
whole number of milliseconds is kept exactly as long as only whole numbers meet it; sums and
quotients with others are rounded. Operations are named by texts; another value is kept like a name,
but there is no column that could show it.
-/
namespace Netscribe.Timing

inductive Duration
  | whole (milliseconds : Int)
  | real (milliseconds : Binary64)
  deriving DecidableEq, Repr

namespace Duration

/-- The duration that a document denotes. A flag counts as zero or one. -/
def ofDocument : Document → Except Fault Duration
  | .int n => .ok (whole n)
  | .flag b => .ok (whole (if b then 1 else 0))
  | .float x => .ok (real x)
  | other => .error (.notNumber other.kind)

/-- A finite value; only an integer can be beyond all of them. -/
def checked : Binary64 → Except Fault Binary64
  | .infinite _ => .error .tooLarge
  | x => .ok x

/-- The nearest binary number. -/
def nearest : Duration → Except Fault Binary64
  | whole n => checked (.ofInt n)
  | real x => .ok x

def add : Duration → Duration → Except Fault Duration
  | whole m, whole n => .ok (whole (m + n))
  | x, y => do return real ((← x.nearest).add (← y.nearest))

/-- The sum from left to right. -/
def total (xs : List Duration) : Except Fault Duration := xs.foldlM add (whole 0)

/-- The quotient by a positive count, rounded once. -/
def divNat (count : Nat) : Duration → Except Fault Binary64
  | whole n => checked (.round (n < 0) n.natAbs count)
  | real x => .ok (x.divNat count)

/-- An integer against a binary number, exactly: below it, at it, or above it. Nothing is in order
    with a value that is not a number. -/
def compareInt? (n : Int) : Binary64 → Option Ordering
  | .finite negative mantissa exponent =>
    let (num, den) := Binary64.fraction mantissa exponent
    some (compare (n * den) (if negative then -(num : Int) else num))
  | .infinite negative => some (if negative then .gt else .lt)
  | .nan => none

def lt : Duration → Duration → Bool
  | whole m, whole n => m < n
  | whole m, real y => compareInt? m y == some .lt
  | real x, whole n => compareInt? n x == some .gt
  | real x, real y => x.lt y

/-- The first of the least durations. -/
def least (first : Duration) (rest : List Duration) : Duration :=
  rest.foldl (fun best x => if x.lt best then x else best) first

/-- The first of the greatest durations. -/
def greatest (first : Duration) (rest : List Duration) : Duration :=
  rest.foldl (fun best x => if best.lt x then x else best) first

end Duration

/-- A name in a column of text. -/
def nameColumn (width : Nat) : Document → Except Fault String
  | .text name => .ok (Text.padEnd width name)
  | other => .error (.notColumn other.kind)

/-- The durations of each operation in the order in which they were recorded. -/
structure Statistics where
  times : List (Document × List Duration) := []

namespace Statistics

def timesOf (s : Statistics) (operation : Document) : List Duration :=
  ((s.times.find? fun found => found.1.equals operation).map (·.2)).getD []

def count (s : Statistics) (operation : Document) : Nat := (s.timesOf operation).length

/-- The statistics with one more duration. What changes in itself cannot be kept like a name. -/
def record (s : Statistics) (operation : Document) (time : Duration) : Except Fault Statistics :=
  if operation matches .list _ | .object _ then .error (.notHashable operation.kind)
  else if s.times.any (·.1.equals operation) then
    .ok ⟨s.times.map fun (name, found) =>
      if name.equals operation then (name, found ++ [time]) else (name, found)⟩
  else .ok ⟨s.times ++ [(operation, [time])]⟩

/-- Milliseconds with two places, in a column of eight characters. -/
def column (x : Binary64) : String := Text.padStart 8 (x.writeFixed 2)

/-- The line of an operation that has been timed. -/
def line? : Document × List Duration → Except Fault (Option String)
  | (_, []) => .ok none
  | (operation, first :: rest) => do
    let times := first :: rest
    let mean ← (← Duration.total times).divNat times.length
    let name ← nameColumn 20 operation
    let least ← (Duration.least first rest).nearest
    let greatest ← (Duration.greatest first rest).nearest
    return some (s!"{name} | count={Text.padStart 4 (toString times.length)}"
      ++ s!" | avg={column mean}ms | min={column least}ms | max={column greatest}ms")

/-- The operations in the order of their names. With others beside them there is no order. -/
def sorted (s : Statistics) : Except Fault (List (Document × List Duration)) :=
  let named := s.times.filterMap fun
    | (.text name, times) => some (name, times)
    | _ => none
  if named.length = s.times.length then
    .ok ((named.mergeSort fun a b => decide (a.1 ≤ b.1)).map fun (name, times) =>
      (.text name, times))
  else if s.times.length ≤ 1 then .ok s.times
  else .error .notOrdered

/-- The headed table. -/
def summary (s : Statistics) : Except Fault String := do
  let lines ← (← s.sorted).filterMapM line?
  return Text.unlines ("Performance Summary" :: .ofList (List.replicate 60 '=') :: lines)

end Statistics
end Netscribe.Timing
