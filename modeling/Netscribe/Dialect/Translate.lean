import Netscribe.Dialect.Rule
import Netscribe.Script.Draft
import Netscribe.Text.Lines
/-!
Command lines put into the words of another dialect, and explained, by the rules of dialects.
-/
namespace Netscribe

/-- The rules of each dialect that lines can be translated from. -/
abbrev RuleTables := Vendor → List Rule

/-- A line in another dialect, or the reason why it has no form there: no rule recognises it, or the
    rule that does is silent about the dialect. -/
inductive Wording
  | text (s : String)
  | unknown (line : String)
  | inexpressible (line : String) (target : Vendor)
  deriving DecidableEq, Repr

/-- A line without a form in the other dialect becomes a comment. -/
def Wording.toText : Wording → String
  | text s => s
  | unknown line => s!"# No conversion found for \"{line}\""
  | inexpressible line target => s!"# No direct conversion for \"{line}\" to {target.name}"

namespace Wording

theorem toText_text (s : String) : (text s).toText = s := rfl

theorem toText_unknown (line : String) :
    (unknown line).toText = s!"# No conversion found for \"{line}\"" := rfl

theorem toText_inexpressible (line : String) (target : Vendor) :
    (inexpressible line target).toText =
      s!"# No direct conversion for \"{line}\" to {target.name}" := rfl

end Wording

namespace RuleTables

/-- The later match only if its command is longer. -/
def longer (best : Option RuleMatch) (found : RuleMatch) : Option RuleMatch :=
  match best with
  | none => some found
  | some m => if Text.size m.rule.command < Text.size found.rule.command then some found else some m

/-- The match of the longest command; of equally long ones, that of the first. -/
def longestMatch (rules : List Rule) (line : String) : Option RuleMatch :=
  (rules.filterMap (·.match? line)).foldl longer none

def findRule (tables : RuleTables) (source : Vendor) (line : String) : Option RuleMatch :=
  longestMatch (tables source) (Text.trim line)

def translate (tables : RuleTables) (source target : Vendor) (line : String) : Wording :=
  let line := Text.trim line
  if source = target then .text line
  else match tables.findRule source line with
    | none => .unknown line
    | some found =>
      match found.rule.conversionTo? target with
      | none => .inexpressible line target
      | some conversion => .text (conversion.render found.args found.captures)

def explain (tables : RuleTables) (source : Vendor) (line : String) : String :=
  let line := Text.trim line
  match tables.findRule source line with
  | none => s!"- No explanation found for \"{line}\""
  | some found => Template.fill found.rule.explanation found.args found.captures

/-- Lines of a script that are no commands: blank ones and comments. -/
def isPassedOver (line : String) : Bool :=
  line == "" || Text.hasStart "#" line || Text.hasStart "!" line

/-- The blanks that a line starts with. -/
def indentation (line : String) : String := .ofList (line.toList.takeWhile Text.isBlank)

/-- The lines that a line of a script becomes, each indented like it. -/
def translateLine (tables : RuleTables) (source target : Vendor) (line : String) : List String :=
  if isPassedOver (Text.trim line) then [Text.trimEnd line]
  else (Text.splitOn '\n' (tables.translate source target line).toText).map (indentation line ++ ·)

/-- The note about a command of a script; none about a line that is passed over. -/
def lineNote? (tables : RuleTables) (source : Vendor) (line : String) : Option String :=
  let command := Text.trim line
  if isPassedOver command then none
  else some s!"`{command}`: {tables.explain source command}"

def translateScript (tables : RuleTables) (source target : Vendor) (script : String) : Fragment :=
  let lines := Text.lines script
  { cli := Text.trimNewlines (Text.unlines (lines.flatMap (tables.translateLine source target)))
    explanation := Text.unlines (lines.filterMap (tables.lineNote? source)) }

/-- Rules written in a document, by the name of their dialect. -/
def parse (fields : Document.Fields) : Except Fault RuleTables := do
  let tables ← fields.mapM fun (vendor, d) => do
    let rules ← match d with
      | .list items => items.mapM fun item => match item with
        | .object fields => Rule.parse fields
        | _ => Rule.parse []
      | _ => pure []
    return (Vendor.ofName vendor, rules)
  return fun vendor => (tables.lookup vendor).getD []

end RuleTables
end Netscribe
