import Netscribe.Document.Basic
import Netscribe.Number.Shortest
import Netscribe.Text.Quoted
/-!
Documents as text: the listing form used in messages, the form in which a scalar of any sort fills a
text field, and the writing of documents in ASCII.
-/
namespace Netscribe.Document

mutual
/-- The listing form: texts stand between quotation marks, lists and objects are written out. -/
def listing : Document → String
  | null => "None"
  | flag value => if value then "True" else "False"
  | int value => toString value
  | float value => value.write
  | text value => Text.quoted value
  | list items => "[" ++ Text.join ", " (itemListings items) ++ "]"
  | object fields => "\x7b" ++ Text.join ", " (fieldListings fields) ++ "\x7d"

def itemListings : List Document → List String
  | [] => []
  | item :: rest => listing item :: itemListings rest

def fieldListings : List (String × Document) → List String
  | [] => []
  | (key, value) :: rest => (Text.quoted key ++ ": " ++ listing value) :: fieldListings rest
end

/-- The plain form: a text is itself, everything else its listing form. -/
def plain : Document → String
  | text value => value
  | other => other.listing

/-- What a document puts into a text field: null is empty and a whole number has no point. -/
def fieldText : Document → String
  | null => ""
  | float value => match value.toInt? with
    | some n => toString n
    | none => value.write
  | other => other.plain

def unicodeEscapeOf (unit : Nat) : List Char := '\\' :: 'u' :: Text.hex 4 unit

/-- A character inside a written text; above the first plane it takes two escapes, each of which is
    that of a surrogate. -/
def escapeChar (c : Char) : List Char :=
  let n := c.toNat
  if c = '"' ∨ c = '\\' then ['\\', c]
  else if c = '\n' then ['\\', 'n']
  else if c = '\r' then ['\\', 'r']
  else if c = '\t' then ['\\', 't']
  else if n = 0x8 then ['\\', 'b']
  else if n = 0xc then ['\\', 'f']
  else if 0x20 ≤ n ∧ n < 0x7f then [c]
  else if n < 0x10000 then unicodeEscapeOf n
  else unicodeEscapeOf (0xd800 + (n - 0x10000) / 0x400) ++
    unicodeEscapeOf (0xdc00 + (n - 0x10000) % 0x400)

def escapeCodePoint : Text.CodePoint → List Char
  | .char c => escapeChar c
  | p => unicodeEscapeOf p.toNat

def writeText (s : String) : String :=
  .ofList ('"' :: (Text.codePoints s).flatMap escapeCodePoint ++ ['"'])

def writeFloat : Binary64 → String
  | .nan => "NaN"
  | .infinite negative => if negative then "-Infinity" else "Infinity"
  | finite => finite.write

mutual
/-- The form on one line. -/
def writeCompact : Document → String
  | null => "null"
  | flag value => if value then "true" else "false"
  | int value => toString value
  | float value => writeFloat value
  | text value => writeText value
  | list items => "[" ++ Text.join ", " (writeCompactItems items) ++ "]"
  | object fields => "\x7b" ++ Text.join ", " (writeCompactFields fields) ++ "\x7d"

def writeCompactItems : List Document → List String
  | [] => []
  | item :: rest => writeCompact item :: writeCompactItems rest

def writeCompactFields : List (String × Document) → List String
  | [] => []
  | (key, value) :: rest => (writeText key ++ ": " ++ writeCompact value) :: writeCompactFields rest
end

/-- The line break before something at a given depth; each level is indented by two blanks. -/
def breakAt (depth : Nat) : String := .ofList ('\n' :: List.replicate (2 * depth) ' ')

/-- Bracketed pieces, each on a line of its own. -/
def spread (opening closing : String) (depth : Nat) (pieces : List String) : String :=
  if pieces = [] then opening ++ closing
  else opening ++ breakAt (depth + 1) ++ Text.join ("," ++ breakAt (depth + 1)) pieces
    ++ breakAt depth ++ closing

mutual
/-- The form with one item or field on a line. -/
def writeIndented (depth : Nat) : Document → String
  | list items => spread "[" "]" depth (writeIndentedItems (depth + 1) items)
  | object fields => spread "\x7b" "\x7d" depth (writeIndentedFields (depth + 1) fields)
  | scalar => writeCompact scalar

def writeIndentedItems (depth : Nat) : List Document → List String
  | [] => []
  | item :: rest => writeIndented depth item :: writeIndentedItems depth rest

def writeIndentedFields (depth : Nat) : List (String × Document) → List String
  | [] => []
  | (key, value) :: rest =>
    (writeText key ++ ": " ++ writeIndented depth value) :: writeIndentedFields depth rest
end

end Netscribe.Document
