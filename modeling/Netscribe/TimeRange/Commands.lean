import Netscribe.Device.Vendor
import Netscribe.Script.Draft
import Netscribe.TimeRange.Calendar
import Netscribe.TimeRange.Model
/-!
Commands that define time ranges.
-/
namespace Netscribe

namespace DaySelection

def weekdays (d : DaySelection) : List (String × Bool) :=
  [("monday", d.monday), ("tuesday", d.tuesday), ("wednesday", d.wednesday),
   ("thursday", d.thursday), ("friday", d.friday)]

def weekend (d : DaySelection) : List (String × Bool) :=
  [("saturday", d.saturday), ("sunday", d.sunday)]

def chosen (d : DaySelection) : List String :=
  ((d.weekdays ++ d.weekend).filter (·.2)).map (·.1)

def abbreviation (day : String) : String := .ofList (day.toList.take 3)

/-- The chosen days in a vendor's words; empty when no day is chosen. -/
def spec (vendor : Vendor) (d : DaySelection) : String :=
  let days := d.chosen
  if d.daily then "daily"
  else if days = d.weekdays.map (·.1) then
    if vendor = .cisco then "weekdays" else "working-day"
  else if days = d.weekend.map (·.1) then
    if vendor = .cisco then "weekend" else "off-day"
  else match vendor with
    | .cisco => Text.unwords (days.map Text.capitalize)
    | .huawei => Text.unwords (days.map fun day => Text.capitalize (abbreviation day))
    | _ => Text.unwords (days.map abbreviation)

end DaySelection

namespace TimeRange

/-- The days of the periodic part; empty unless the part is complete. -/
def periodicDays (vendor : Vendor) (r : TimeRange) : String :=
  let p := r.periodic
  if p.enabled ∧ p.startTime ≠ "" ∧ p.endTime ≠ "" then p.days.spec vendor else ""

def slashed (date : String) : String := Text.replaceChar '-' "/" date

/-- One line for both parts; empty when there is none. -/
def vrpLine (vendor : Vendor) (r : TimeRange) : String :=
  let days := r.periodicDays vendor
  let p := r.periodic
  let a := r.absolute
  let parts := textIf (days ≠ "") s!" {p.startTime} to {p.endTime} {days}"
    ++ textIf (a.enabled ∧ a.fromTime ≠ "" ∧ a.fromDate ≠ "")
      s!" from {a.fromTime} {slashed a.fromDate}"
    ++ textIf (a.enabled ∧ a.toTime ≠ "" ∧ a.toDate ≠ "") s!" to {a.toTime} {slashed a.toDate}"
  if parts = "" then "" else s!"time-range {r.name}{parts}"

/-- A moment in the form `08:00 01 January 2025`; empty when the date does not exist. -/
def ciscoMoment (time date : String) : String :=
  match Date.read? date with
  | some d => s!"{time} {Integer.padded 2 d.day} {d.monthName} {d.year}"
  | none => ""

def ciscoBody (r : TimeRange) : List Entry :=
  let days := r.periodicDays .cisco
  let p := r.periodic
  let a := r.absolute
  let start := ciscoMoment a.fromTime a.fromDate
  let finish := ciscoMoment a.toTime a.toDate
  onlyIf (days ≠ "") [command s!" periodic {days} {p.startTime} to {p.endTime}"]
    ++ onlyIf (a.enabled ∧ (start ≠ "" ∨ finish ≠ ""))
      [command (" absolute" ++ textIf (start ≠ "") s!" start {start}"
        ++ textIf (finish ≠ "") s!" end {finish}")]

def ciscoEntries (r : TimeRange) : List Entry :=
  match r.ciscoBody with
  | [] => []
  | body =>
    command s!"time-range {r.name}" s!"Defines time range {r.name}." :: body ++ [command "exit"]

def vrpEntries (vendor : Vendor) (r : TimeRange) : List Entry :=
  let line := r.vrpLine vendor
  onlyIf (line ≠ "") [command line s!"Defines time range {r.name}."]

/-- Time ranges without a name, or with neither part, are left out. -/
def render (vendor : Vendor) (ranges : List TimeRange) : Fragment :=
  let named := ranges.filter (·.name ≠ "")
  if named = [] then .nothing "No time ranges configured."
  else match vendor with
    | .generic => .unsupported "Time ranges" vendor.name
    | .cisco => finish (named.flatMap ciscoEntries)
    | .huawei | .h3c => finish (named.flatMap (vrpEntries vendor))
where
  finish (entries : List Entry) : Fragment :=
    .ofEntries entries "Time-range configuration generated."
      "No time range has a periodic or absolute part."

end TimeRange
end Netscribe
