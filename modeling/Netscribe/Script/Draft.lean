import Netscribe.Text.Blank
/-!
Pieces of a script: commands together with an explanation of them. A draft is the lines of a
fragment in the making, with notes about them.
-/
namespace Netscribe

structure Fragment where
  cli : String := ""
  explanation : String := ""
  deriving DecidableEq, Repr

namespace Fragment

/-- No commands, and the reason for it. -/
def nothing (reason : String) : Fragment := ⟨"", reason⟩

def isEmpty (f : Fragment) : Bool := Text.allBlank f.cli

/-- The comment that stands for a feature a vendor has no commands for. -/
def unsupported (feature vendor : String) : Fragment where
  cli := s!"# {feature} for {vendor} is not supported."
  explanation := s!"{feature} has no {vendor} equivalent; nothing to apply."

end Fragment

/-- Blocks that are not blank, without their outer line feeds. -/
def joinBlocks (separator : String) (blocks : List String) : String :=
  Text.join separator ((blocks.filter fun b => !Text.allBlank b).map Text.trimNewlines)

structure Draft where
  lines : List String := []
  notes : List String := []
  deriving DecidableEq, Repr

namespace Draft

/-- Appends a line; a reason for it becomes a note that quotes the line. -/
def add (d : Draft) (line : String) (why : String := "") : Draft where
  lines := d.lines ++ [line]
  notes := if why = "" then d.notes else d.notes ++ [s!"`{Text.trim line}`: {why}"]

/-- Appends a separating empty line, never at the start and never after another one. -/
def blank (d : Draft) : Draft :=
  match d.lines.getLast? with
  | none | some "" => d
  | some _ => { d with lines := d.lines ++ [""] }

def commentLine (marker text : String) : String := if text = "" then marker else s!"{marker} {text}"

def comment (d : Draft) (text : String) (marker : String := "#") : Draft :=
  { d with lines := d.lines ++ [commentLine marker text] }

/-- Records a note that belongs to no line. -/
def note (d : Draft) (text : String) : Draft :=
  if text = "" then d else { d with notes := d.notes ++ [text] }

def extend (d other : Draft) : Draft := ⟨d.lines ++ other.lines, d.notes ++ other.notes⟩

/-- The lines without the blank ones at both ends. -/
def body (d : Draft) : List String :=
  ((d.lines.dropWhile Text.allBlank).reverse.dropWhile Text.allBlank).reverse

def text (d : Draft) : String := Text.unlines d.body

/-- A summary goes before the notes. -/
def build (d : Draft) (summary : String) : Fragment where
  cli := d.text
  explanation := Text.unlines ((if summary = "" then [] else [summary]) ++ d.notes)

end Draft

/-- One step of writing a draft. -/
inductive Entry
  | line (text : String) (why : String)
  | blank
  | comment (text : String) (marker : String)
  | note (text : String)
  deriving DecidableEq, Repr

/-- A command, with the reason for it if one is worth telling. -/
def command (text : String) (why : String := "") : Entry := .line text why

/-- A comment at the outermost level. -/
def remark (text : String) : Entry := .comment text "#"

namespace Draft

def write (d : Draft) : Entry → Draft
  | .line text why => d.add text why
  | .blank => d.blank
  | .comment text marker => d.comment text marker
  | .note text => d.note text

def ofEntries (entries : List Entry) : Draft := entries.foldl write {}

end Draft

/-- Whether some entry puts a line of text into the draft. -/
def writesLine (entries : List Entry) : Bool :=
  entries.any fun
    | .line .. | .comment .. => true
    | .blank | .note _ => false

/-- Entries under a condition. -/
def onlyIf (condition : Prop) [Decidable condition] (entries : List Entry) : List Entry :=
  if condition then entries else []

/-- Text under a condition, as a part of a line. -/
def textIf (condition : Prop) [Decidable condition] (text : String) : String :=
  if condition then text else ""

/-- Whether a setting is absent or says what the device does anyway. -/
def isDefault (value default : String) : Bool := value == "" || value == default

/-- Entries under a heading, if there are any. -/
def titled (title : String) (entries : List Entry) : List Entry :=
  onlyIf (entries ≠ []) (.blank :: remark title :: entries)

/-- The fragment of a feature: its entries, or the reason why there are none. -/
def Fragment.ofEntries (entries : List Entry) (summary absent : String) : Fragment :=
  let draft := Draft.ofEntries entries
  if draft.lines = [] then nothing absent else draft.build summary

end Netscribe
