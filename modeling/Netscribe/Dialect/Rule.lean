import Netscribe.Device.Vendor
import Netscribe.Dialect.LinePatternReader
import Netscribe.Fault
import Netscribe.Vlan.IdList
/-!
Rules of a dialect: a command that lines can start with, what it does, and how other dialects say
it.
-/
namespace Netscribe

/-- How the arguments of a command become a command of another dialect. -/
inductive Conversion
  | template (text : String)
  | computed (render : List String → Captures → String)

def Conversion.render (c : Conversion) (args : List String) (captures : Captures) : String :=
  match c with
  | template text => Template.fill text args captures
  | computed render => render args captures

/-- A test that lines may have to pass, and what it captures from one that does. -/
structure Guard where
  names : List String
  find? : String → Option Captures

/-- The lines in which a pattern is found. -/
def LinePattern.guard (pattern : LinePattern) : Guard := ⟨pattern.names, pattern.find?⟩

/-- A rule applies to lines that start with `command`; with a guard, only to those that pass it. -/
structure Rule where
  command : String
  explanation : String := ""
  conversions : List (Vendor × Conversion) := []
  guard : Option Guard := none

/-- A rule for every line that starts with the command. -/
def rule (command explanation : String) (conversions : List (Vendor × Conversion)) : Rule :=
  ⟨command, explanation, conversions, none⟩

/-- A rule for the lines that start with the command and match a pattern. -/
def guarded (pattern : LinePattern) (command explanation : String)
    (conversions : List (Vendor × Conversion)) : Rule :=
  ⟨command, explanation, conversions, some pattern.guard⟩

def toCisco (template : String) : Vendor × Conversion := (.cisco, .template template)

def toHuawei (template : String) : Vendor × Conversion := (.huawei, .template template)

def toH3c (template : String) : Vendor × Conversion := (.h3c, .template template)

/-- One template for Huawei and H3C. -/
def toVrp (template : String) : List (Vendor × Conversion) := [toHuawei template, toH3c template]

def toCiscoBy (render : List String → Captures → String) : Vendor × Conversion :=
  (.cisco, .computed render)

def toHuaweiBy (render : List String → Captures → String) : Vendor × Conversion :=
  (.huawei, .computed render)

def toH3cBy (render : List String → Captures → String) : Vendor × Conversion :=
  (.h3c, .computed render)

/-- One computation for Huawei and H3C. -/
def toVrpBy (render : List String → Captures → String) : List (Vendor × Conversion) :=
  [toHuaweiBy render, toH3cBy render]

/-- A rule with the line that it applies to taken apart. -/
structure RuleMatch where
  rule : Rule
  args : List String
  captures : Captures

namespace Rule

/-- The names that the guard captures under. -/
def captureNames (r : Rule) : List String := (r.guard.map (·.names)).getD []

/-- What follows a command on a line. The command ends with the line, or before a blank or a digit,
    so that `interface Tunnel` is the command of `interface Tunnel1`. -/
def after? (command : String) (line : String) : Option String :=
  if Text.hasStart command line then
    match line.toList.drop command.toList.length with
    | [] => some ""
    | c :: rest =>
      if Text.isBlank c || Text.isDigit c then some (.ofList (c :: rest)) else none
  else none

/-- What the guard captures from a line; a rule without a guard captures nothing. -/
def capture? (r : Rule) (line : String) : Option Captures :=
  match r.guard with
  | some guard => guard.find? line
  | none => some []

def match? (r : Rule) (line : String) : Option RuleMatch := do
  let rest ← after? r.command line
  let captures ← r.capture? line
  return ⟨r, Text.words rest, captures⟩

def conversionTo? (r : Rule) (target : Vendor) : Option Conversion := r.conversions.lookup target

/-- A conversion as it is written in a document. -/
def parseConversion : String × Document → Except Fault (Vendor × Conversion)
  | (vendor, .text template) => .ok (Vendor.ofName vendor, .template template)
  | _ => .error .notTemplate

def parsePattern : Option Document → Except Fault (Option Guard)
  | some (.text source) =>
    match LinePattern.read? source with
    | some pattern => .ok (some pattern.guard)
    | none => .error .badPattern
  | _ => .ok none

def textField (fields : Document.Fields) (key : String) : String :=
  ((Document.Fields.get? fields key).map Document.plain).getD ""

/-- Names of captures may be given beside the pattern, and must then be its own, in order. -/
def checkNames (r : Rule) (given : List String) : Except Fault Rule :=
  if given = [] then .ok r
  else match r.guard with
    | none => .error (.namesWithoutPattern r.command)
    | some guard =>
      if given = guard.names then .ok r
      else .error (.namesDiffer r.command given guard.names)

def parse (fields : Document.Fields) : Except Fault Rule := do
  let conversions := match Document.Fields.get? fields "conversions" with
    | some (.object fields) => fields
    | _ => []
  let names := match Document.Fields.get? fields "param_names" with
    | some (.list items) => items.map Document.plain
    | _ => []
  let conversions ← conversions.mapM parseConversion
  let guard ← parsePattern (Document.Fields.get? fields "regex")
  checkNames
    { command := textField fields "pattern"
      explanation := textField fields "explanation"
      conversions := conversions
      guard := guard } names

end Rule

/-! Conversions of VLAN lists from the form `10 20 to 30` to the form `10,20-30`. -/

namespace Dialect

def dashedArguments (args : List String) : String :=
  Text.replaceChar ' ' "," (Text.replace " to " "-" (Text.unwords args))

def ciscoVlanLine (args : List String) (_ : Captures) : String := s!"vlan {dashedArguments args}"

def ciscoTrunkLine (args : List String) (_ : Captures) : String :=
  if Text.lower (Text.unwords args) = "all" then "switchport trunk allowed vlan all"
  else s!"switchport trunk allowed vlan {dashedArguments args}"

end Dialect
end Netscribe
