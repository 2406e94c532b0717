import Netscribe.Dialect.Template
import Netscribe.Text.Digit
import Netscribe.Text.WordTable
/-!
Patterns of command lines. A pattern may match a line in several ways, which are listed with the
preferred one first; parts of the line can be captured under names.
-/
namespace Netscribe

/-- A class of characters. -/
inductive CharClass
  | only (c : Char)
  | any
  | blank
  | solid
  | digit
  | word
  | oneOf (classes : List CharClass)

namespace CharClass

def isWord (c : Char) : Bool :=
  if c.toNat < 0x80 then c.isAlphanum || c == '_' else inRanges Text.wordRanges c

mutual
def contains (c : Char) : CharClass → Bool
  | only expected => c == expected
  | any => c != '\n'
  | blank => Text.isBlank c
  | solid => !Text.isBlank c
  | digit => Text.isDecimal c
  | word => isWord c
  | oneOf classes => containsAny c classes

def containsAny (c : Char) : List CharClass → Bool
  | [] => false
  | p :: rest => contains c p || containsAny c rest
end

end CharClass

inductive LinePattern
  | nothing
  /-- The start of the line. -/
  | start
  /-- The end of the line, or a line feed at its end. -/
  | finish
  | one (p : CharClass)
  /-- As many characters as possible, but no fewer than one. -/
  | some (p : CharClass)
  /-- As many characters as possible, or none. -/
  | any (p : CharClass)
  | both (first second : LinePattern)
  | either (first second : LinePattern)
  /-- The pattern if possible, or nothing. -/
  | perhaps (inner : LinePattern)
  | capture (name : String) (inner : LinePattern)

namespace LinePattern

/-- Where a match has got to, and what it has captured. -/
structure Place where
  atStart : Bool
  rest : List Char
  captures : Captures := []
  deriving DecidableEq, Repr

/-- What can be left of a text after some characters of a class, the least first. -/
def leavings (p : CharClass) : List Char → List (List Char)
  | [] => [[]]
  | c :: rest => if p.contains c then leavings p rest ++ [c :: rest] else [c :: rest]

def Place.moveTo (place : Place) (rest : List Char) : Place :=
  { place with atStart := place.atStart && rest.length = place.rest.length, rest := rest }

/-- The place with the characters passed since `before` captured. -/
def Place.record (place : Place) (name : String) (before : Place) : Place :=
  let passed := before.rest.take (before.rest.length - place.rest.length)
  { place with captures := place.captures ++ [(name, .ofList passed)] }

/-- The places that a match can get to, the preferred one first. -/
def ways : LinePattern → Place → List Place
  | nothing, place => [place]
  | start, place => if place.atStart then [place] else []
  | finish, place => if place.rest = [] ∨ place.rest = ['\n'] then [place] else []
  | one p, place =>
    match place.rest with
    | [] => []
    | c :: rest => if p.contains c then [place.moveTo rest] else []
  | some p, place =>
    match place.rest with
    | [] => []
    | c :: rest => if p.contains c then (leavings p rest).map place.moveTo else []
  | any p, place => (leavings p place.rest).map place.moveTo
  | both first second, place => (first.ways place).flatMap second.ways
  | either first second, place => first.ways place ++ second.ways place
  | perhaps inner, place => inner.ways place ++ [place]
  | capture name inner, place => (inner.ways place).map fun after => after.record name place

/-- The names under which a pattern captures, in the order in which they are written. -/
def names : LinePattern → List String
  | both first second | either first second => first.names ++ second.names
  | perhaps inner => inner.names
  | capture name inner => name :: inner.names
  | _ => []

/-- The first way in which the pattern matches at the first place where it matches. -/
def search (p : LinePattern) (atStart : Bool) (cs : List Char) : Option Captures :=
  match p.ways { atStart := atStart, rest := cs } with
  | place :: _ => Option.some place.captures
  | [] =>
    match cs with
    | [] => none
    | _ :: rest => p.search false rest

/-- What the pattern captures somewhere in a line. A name that takes no part in the match has the
    empty text. -/
def find? (p : LinePattern) (line : String) : Option Captures :=
  (p.search true line.toList).map fun found =>
    p.names.map fun name => (name, (found.lookup name).getD "")

def sequence : List LinePattern → LinePattern
  | [] => nothing
  | [p] => p
  | p :: rest => both p (sequence rest)

/-- The text itself. -/
def text (s : String) : LinePattern := sequence (s.toList.map fun c => one (.only c))

def blanks : LinePattern := some .blank

def anyToken : LinePattern := some .solid

def anyNumber : LinePattern := some .digit

/-- A captured number. -/
def number (name : String) : LinePattern := capture name anyNumber

/-- A captured word. -/
def token (name : String) : LinePattern := capture name anyToken

/-- A captured address in digits and points. -/
def dotted (name : String) : LinePattern := capture name (some (.oneOf [.digit, .only '.']))

/-- A captured list such as `1,5-9`. -/
def vlanList (name : String) : LinePattern :=
  capture name (some (.oneOf [.word, .only ',', .only '-']))

/-- The rest of the line, captured. -/
def remainder (name : String) : LinePattern := capture name (some .any)

def alternatives (s : String) : List String → LinePattern
  | [] => text s
  | t :: rest => either (text s) (alternatives t rest)

/-- One of several words, captured. -/
def oneOf (name s : String) (others : List String) : LinePattern :=
  capture name (alternatives s others)

/-- The pattern, with a number in front of it or not. -/
def afterNumber (p : LinePattern) : LinePattern := both (perhaps (both anyNumber blanks)) p

/-- The captured last word of a line. -/
def lastToken (name : String) : LinePattern := both (token name) finish

/-- The patterns with blanks between them, from the start of the line to its end. -/
def line (ps : List LinePattern) : LinePattern :=
  both start (both (sequence (ps.intersperse blanks)) finish)

end LinePattern
end Netscribe
