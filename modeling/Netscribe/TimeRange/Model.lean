import Netscribe.Schema.Described
/-!
Named ranges of time.
-/
namespace Netscribe

structure DaySelection where
  monday : Bool := false
  tuesday : Bool := false
  wednesday : Bool := false
  thursday : Bool := false
  friday : Bool := false
  saturday : Bool := false
  sunday : Bool := false
  daily : Bool := false

def DaySelection.fields : List (Field DaySelection) :=
  [.of "monday" (·.monday) fun r v => { r with monday := v },
   .of "tuesday" (·.tuesday) fun r v => { r with tuesday := v },
   .of "wednesday" (·.wednesday) fun r v => { r with wednesday := v },
   .of "thursday" (·.thursday) fun r v => { r with thursday := v },
   .of "friday" (·.friday) fun r v => { r with friday := v },
   .of "saturday" (·.saturday) fun r v => { r with saturday := v },
   .of "sunday" (·.sunday) fun r v => { r with sunday := v },
   .of "daily" (·.daily) fun r v => { r with daily := v }]

instance : Described DaySelection := .record DaySelection.fields {} .none

/-- Hours of the day on chosen days. -/
structure PeriodicTime where
  enabled : Bool := false
  startTime : String := ""
  endTime : String := ""
  days : DaySelection := {}

def PeriodicTime.fields : List (Field PeriodicTime) :=
  [.of "enabled" (·.enabled) fun r v => { r with enabled := v },
   .of "start_time" (·.startTime) fun r v => { r with startTime := v },
   .of "end_time" (·.endTime) fun r v => { r with endTime := v },
   .of "days" (·.days) fun r v => { r with days := v }]

instance : Described PeriodicTime := .record PeriodicTime.fields {} .none

structure AbsoluteTime where
  enabled : Bool := false
  fromTime : String := ""
  fromDate : String := ""
  toTime : String := ""
  toDate : String := ""

def AbsoluteTime.fields : List (Field AbsoluteTime) :=
  [.of "enabled" (·.enabled) fun r v => { r with enabled := v },
   .of "from_time" (·.fromTime) fun r v => { r with fromTime := v },
   .of "from_date" (·.fromDate) fun r v => { r with fromDate := v },
   .of "to_time" (·.toTime) fun r v => { r with toTime := v },
   .of "to_date" (·.toDate) fun r v => { r with toDate := v }]

instance : Described AbsoluteTime := .record AbsoluteTime.fields {} .none

structure TimeRange where
  name : String := ""
  periodic : PeriodicTime := {}
  absolute : AbsoluteTime := {}
  id : String := ""

def TimeRange.fields : List (Field TimeRange) :=
  [.of "name" (·.name) fun r v => { r with name := v },
   .of "periodic" (·.periodic) fun r v => { r with periodic := v },
   .of "absolute" (·.absolute) fun r v => { r with absolute := v },
   .of "id" (·.id) fun r v => { r with id := v }]

instance : Described TimeRange := .record TimeRange.fields {} .none

end Netscribe
