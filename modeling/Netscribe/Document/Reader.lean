import Netscribe.Document.Basic
import Netscribe.Text.Blank
/-!
Reading the text form of documents. What is wrong with a text is told by the first place at which
no document can continue.
-/
namespace Netscribe.Document

/-- What a reader missed, or met, at the place where it stopped. -/
inductive Complaint
  | value | propertyName | colon | comma | extraData
  | unterminatedText | controlCharacter | badEscape | badUnicodeEscape | byteOrderMark | nesting
  deriving DecidableEq, Repr

def Complaint.message : Complaint → String
  | value => "Expecting value"
  | propertyName => "Expecting property name enclosed in double quotes"
  | colon => "Expecting ':' delimiter"
  | comma => "Expecting ',' delimiter"
  | extraData => "Extra data"
  | unterminatedText => "Unterminated string starting at"
  | controlCharacter => "Invalid control character at"
  | badEscape => "Invalid \\escape"
  | badUnicodeEscape => "Invalid \\uXXXX escape"
  | byteOrderMark => "Unexpected UTF-8 BOM (decode using utf-8-sig)"
  | nesting => "Nested too deeply"

/-- A place in a text: lines and columns count from one, the offset from zero. -/
structure Place where
  line : Nat
  column : Nat
  offset : Nat
  deriving DecidableEq, Repr

def Place.ofOffset (cs : List Char) (offset : Nat) : Place :=
  let before := cs.take offset
  { line := before.count '\n' + 1
    column := (before.reverse.takeWhile (· ≠ '\n')).length + 1
    offset := offset }

structure ReadError where
  complaint : Complaint
  place : Place
  deriving DecidableEq, Repr

def ReadError.message (e : ReadError) : String :=
  s!"{e.complaint.message}: line {e.place.line} column {e.place.column} (char {e.place.offset})"

/-- A complaint together with the characters from its place on. -/
structure Stop where
  complaint : Complaint
  rest : List Char

abbrev Reading := Except Stop

def stop {α : Type} (complaint : Complaint) (rest : List Char) : Reading (α × List Char) :=
  .error ⟨complaint, rest⟩

/-- The formats that documents come in: the strict one, and what of the looser one is written like
    it, with another meaning of some numbers and escapes. -/
inductive Format
  | json
  /-- A number with an exponent is one only with a point and a signed exponent; otherwise it is the
      text that stands there. Two escaped surrogates do not make up a character. -/
  | yaml
  deriving DecidableEq, Repr

/-- How many brackets may be open at a time. -/
def Format.deepest : Format → Nat
  | json => 986
  | yaml => 488

/-- A number as it is spelled. -/
structure NumberSpelling where
  negative : Bool
  whole : List Char
  fraction : Option (List Char)
  exponentMark : Option Char
  exponentSign : Option Char
  exponent : List Char

namespace NumberSpelling

def toText (n : NumberSpelling) : String :=
  .ofList ((if n.negative then ['-'] else []) ++ n.whole
    ++ (match n.fraction with | some f => '.' :: f | none => [])
    ++ n.exponentMark.toList ++ n.exponentSign.toList ++ n.exponent)

def digitsValue (cs : List Char) : Nat := cs.foldl (fun n c => 10 * n + (c.toNat - 0x30)) 0

def toDocument (format : Format) (n : NumberSpelling) : Document :=
  if n.fraction.isNone && n.exponentMark.isNone then
    int (if n.negative then -digitsValue n.whole else digitsValue n.whole)
  else if format = .yaml && n.exponentMark.isSome
      && (n.fraction.isNone || n.exponentSign.isNone) then
    text n.toText
  else
    let fraction := n.fraction.getD []
    let size : Int := digitsValue n.exponent
    let exponent := if n.exponentSign = some '-' then -size else size
    float (.ofDecimal n.negative (digitsValue (n.whole ++ fraction)) (exponent - fraction.length))

end NumberSpelling

def isSpace (c : Char) : Bool := c == ' ' || c == '\t' || c == '\n' || c == '\r'

def skipSpace (cs : List Char) : List Char := cs.dropWhile isSpace

/-- The exponent is read only if it has a digit. -/
def exponentPart (cs : List Char) : Option Char × Option Char × List Char × List Char :=
  match cs with
  | mark :: rest =>
    if mark = 'e' ∨ mark = 'E' then
      let (sign, digits) := match rest with
        | '+' :: more => (some '+', more)
        | '-' :: more => (some '-', more)
        | more => (none, more)
      match digits.takeWhile Char.isDigit with
      | [] => (none, none, [], cs)
      | found => (some mark, sign, found, digits.dropWhile Char.isDigit)
    else (none, none, [], cs)
  | [] => (none, none, [], [])

/-- The point is read only if a digit follows it. -/
def fractionPart (cs : List Char) : Option (List Char) × List Char :=
  match cs with
  | '.' :: rest =>
    match rest.takeWhile Char.isDigit with
    | [] => (none, cs)
    | found => (some found, rest.dropWhile Char.isDigit)
  | _ => (none, cs)

def numberSpelling? (cs : List Char) : Option (NumberSpelling × List Char) :=
  let (negative, unsigned) := match cs with
    | '-' :: rest => (true, rest)
    | _ => (false, cs)
  let whole := match unsigned with
    | '0' :: rest => some (['0'], rest)
    | _ => match unsigned.takeWhile Char.isDigit with
      | [] => none
      | found => some (found, unsigned.dropWhile Char.isDigit)
  match whole with
  | none => none
  | some (whole, rest) =>
    let (fraction, rest) := fractionPart rest
    let (mark, sign, exponent, rest) := exponentPart rest
    some (⟨negative, whole, fraction, mark, sign, exponent⟩, rest)

def hexValue? (c : Char) : Option Nat :=
  if c.isDigit then some (c.toNat - 0x30)
  else if 'a' ≤ c ∧ c ≤ 'f' then some (c.toNat - 0x57)
  else if 'A' ≤ c ∧ c ≤ 'F' then some (c.toNat - 0x37)
  else none

def hexNumber? (cs : List Char) : Option Nat :=
  cs.foldl (fun n c => do return 16 * (← n) + (← hexValue? c)) (some 0)

/-- The four digits of an escape, which may not be the last characters of the text. The list given
    starts at the letter `u`. -/
def unicodeEscape (cs : List Char) : Reading (Nat × List Char) :=
  let digits := (cs.drop 1).take 4
  let rest := cs.drop 5
  if rest = [] then stop .badUnicodeEscape cs
  else match hexNumber? digits with
    | some n => .ok (n, rest)
    | none => stop .badUnicodeEscape cs

/-- An escape of one character, or of two surrogates that make up one. -/
def unicodeChar (format : Format) (cs : List Char) : Reading (Text.CodePoint × List Char) := do
  let (high, rest) ← unicodeEscape cs
  match rest with
  | '\\' :: 'u' :: more =>
    if format = .json && Text.isHighSurrogate high && 4 < more.length then
      let (low, after) ← unicodeEscape ('u' :: more)
      if Text.isLowSurrogate low then
        return (.ofNat (0x10000 + (high - 0xd800) * 0x400 + (low - 0xdc00)), after)
      else return (.ofNat high, rest)
    else return (.ofNat high, rest)
  | _ => return (.ofNat high, rest)

def simpleEscape? : Char → Option Char
  | '"' => some '"'
  | '\\' => some '\\'
  | '/' => some '/'
  | 'b' => some '\x08'
  | 'f' => some '\x0c'
  | 'n' => some '\n'
  | 'r' => some '\r'
  | 't' => some '\t'
  | _ => none

/-- The characters up to the closing mark. `start` is the text from its opening mark on. -/
def textBody (format : Format) (start : List Char) :
    Nat → List Text.CodePoint → List Char → Reading (String × List Char)
  | 0, _, _ => stop .unterminatedText start
  | fuel + 1, found, cs =>
    match cs with
    | [] => stop .unterminatedText start
    | '"' :: rest => .ok (Text.ofCodePoints found.reverse, rest)
    | ['\\'] => stop .unterminatedText start
    | '\\' :: 'u' :: rest => do
      let (p, after) ← unicodeChar format ('u' :: rest)
      textBody format start fuel (p :: found) after
    | '\\' :: c :: rest =>
      match simpleEscape? c with
      | some e => textBody format start fuel (.char e :: found) rest
      | none => stop .badEscape cs
    | c :: rest =>
      if c.toNat < 0x20 then stop .controlCharacter cs
      else textBody format start fuel (.char c :: found) rest

/-- A text whose opening mark has been passed. -/
def readText (format : Format) (start rest : List Char) : Reading (String × List Char) :=
  textBody format start (rest.length + 1) [] rest

def keywords : List (List Char × Document) :=
  [("null".toList, null), ("true".toList, flag true), ("false".toList, flag false),
   ("NaN".toList, float .nan), ("Infinity".toList, float (.infinite false)),
   ("-Infinity".toList, float (.infinite true))]

/-- The special numbers are texts in the second format. -/
def keywordDocument (format : Format) (word : List Char) (d : Document) : Document :=
  match format, d with
  | .yaml, float _ => text (.ofList word)
  | _, _ => d

mutual
/-- The value at the start of the text, inside of `depth` brackets. Of two steps one takes at least
    one character, so that fuel beyond twice the length is never used up. -/
def readValue (format : Format) (depth : Nat) : Nat → List Char → Reading (Document × List Char)
  | 0, cs => stop .value cs
  | fuel + 1, cs =>
    match cs with
    | '"' :: rest => do
      let (s, after) ← readText format cs rest
      return (text s, after)
    | '\x7b' :: rest =>
      if format.deepest ≤ depth then stop .nesting cs
      else match skipSpace rest with
      | '\x7d' :: after => return (object [], after)
      | rest => readFields format (depth + 1) fuel [] rest
    | '[' :: rest =>
      if format.deepest ≤ depth then stop .nesting cs
      else match skipSpace rest with
      | ']' :: after => return (list [], after)
      | rest => readItems format (depth + 1) fuel [] rest
    | _ =>
      match keywords.find? fun (word, _) => word.isPrefixOf cs with
      | some (word, d) => .ok (keywordDocument format word d, cs.drop word.length)
      | none =>
        match numberSpelling? cs with
        | some (n, after) => .ok (n.toDocument format, after)
        | none => stop .value cs

/-- The fields from a key on, up to the closing brace. -/
def readFields (format : Format) (depth : Nat) :
    Nat → Fields → List Char → Reading (Document × List Char)
  | 0, _, cs => stop .propertyName cs
  | fuel + 1, found, cs =>
    match cs with
    | '"' :: rest => do
      let (key, rest) ← readText format cs rest
      match skipSpace rest with
      | ':' :: rest =>
        let (value, rest) ← readValue format depth fuel (skipSpace rest)
        let found := Fields.set found key value
        match skipSpace rest with
        | '\x7d' :: after => return (object found, after)
        | ',' :: rest => readFields format depth fuel found (skipSpace rest)
        | other => stop .comma other
      | other => stop .colon other
    | _ => stop .propertyName cs

/-- The items from one on, up to the closing bracket. The items found so far are reversed. -/
def readItems (format : Format) (depth : Nat) :
    Nat → List Document → List Char → Reading (Document × List Char)
  | 0, _, cs => stop .value cs
  | fuel + 1, found, cs => do
    let (item, rest) ← readValue format depth fuel cs
    match skipSpace rest with
    | ']' :: after => return (list (item :: found).reverse, after)
    | ',' :: rest => readItems format depth fuel (item :: found) (skipSpace rest)
    | other => stop .comma other
end

def readChars (format : Format) (cs : List Char) : Except Stop Document := do
  if cs.head? = some '\ufeff' then throw ⟨.byteOrderMark, cs⟩
  let (d, rest) ← readValue format 0 (2 * cs.length + 2) (skipSpace cs)
  match skipSpace rest with
  | [] => return d
  | other => throw ⟨.extraData, other⟩

def read (s : String) (format : Format := .json) : Except ReadError Document :=
  let cs := s.toList
  match readChars format cs with
  | .ok d => .ok d
  | .error e => .error ⟨e.complaint, .ofOffset cs (cs.length - e.rest.length)⟩

/-- A reader for the part of the looser format that is written like the strict one. A byte order
    mark may come first, and a text with nothing in it is null. -/
def readLoose (s : String) : Except ReadError Document :=
  let cs := match (Text.plain s).toList with
    | '\ufeff' :: rest => rest
    | cs => cs
  if cs.all Text.isBlank then .ok null else read (.ofList cs) .yaml

end Netscribe.Document
