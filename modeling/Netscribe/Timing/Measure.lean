import Netscribe.Document.Writer
import Netscribe.Timing.Statistics
/-!
Measuring a piece of work: its time goes into the statistics, and a line about it into the record.
-/
open Netscribe.Document (Fields)

namespace Netscribe.Timing

def operationWidth : Nat := 20

def deviceWidth : Nat := 15

/-- The device of a piece of work in its column. A value that counts as unset is shown as such. -/
def deviceColumn (device : Document) : Except Fault String :=
  if device.isTrue then nameColumn deviceWidth device
  else .ok (Text.padEnd deviceWidth "N/A")

/-- A piece of work that has ended, with the reason if it has failed. -/
structure Work where
  operation : Document
  device : Document := .null
  failure : Option String := none
  extra : Fields := []

/-- Whether a line is worth a warning. -/
inductive Level
  | info | warning
  deriving DecidableEq, Repr

def Work.level (work : Work) : Level := if work.failure.isSome then .warning else .info

def Work.status (work : Work) : String :=
  match work.failure with
  | some reason => s!"FAIL: {reason}"
  | none => "OK"

/-- The line of a piece of work that took the given time. -/
def Work.line (work : Work) (elapsed : String) : Except Fault String := do
  let operation ← nameColumn operationWidth work.operation
  let device ← deviceColumn work.device
  let extra := work.extra.map fun (key, value) => s!" | {key}={value.plain}"
  return s!"{operation} | {device} | {elapsed} | {work.status}"
    ++ String.join extra

/-- The first of two values that counts as set, or the second. -/
def firstSet (first second : Document) : Document := if first.isTrue then first else second

/-- The device that some work is about: the one named for it, else what the first argument says of
    itself. -/
def deviceOf (named : Document) (first : Option Fields) : Document :=
  let property (fields : Fields) (key : String) : Document :=
    Document.ofOption (Fields.get? fields key)
  firstSet named (match first with
    | some fields => firstSet (property fields "device_id") (property fields "id")
    | none => .null)

/-- What a piece of work leaves behind. The fault is what its caller gets: that of the work, unless
    its line cannot be written. -/
structure Measured where
  statistics : Statistics
  message : Option (Level × String)
  fault : Option Fault

def measure (s : Statistics) (time : Duration) (elapsed : String) (work : Work) : Measured :=
  match s.record work.operation time with
  | .error fault => ⟨s, none, some fault⟩
  | .ok statistics =>
    match work.line elapsed with
    | .ok line => ⟨statistics, some (work.level, line), work.failure.map .reported⟩
    | .error fault => ⟨statistics, none, some fault⟩

end Netscribe.Timing
