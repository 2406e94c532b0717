import Netscribe.Text.Blank
import Netscribe.Text.UnprintableTable
/-!
Texts written between quotation marks, as messages and listings show them.
-/
namespace Netscribe.Text

def hexDigit (n : Nat) : Char := if n < 10 then .ofNat (0x30 + n) else .ofNat (0x57 + n)

/-- The last `width` hexadecimal digits of a number, in small letters. -/
def hex (width n : Nat) : List Char :=
  match width with
  | 0 => []
  | width + 1 => hex width (n / 16) ++ [hexDigit (n % 16)]

def isPrintable (c : Char) : Bool :=
  if c.toNat < 0x80 then 0x20 ≤ c.toNat && c.toNat < 0x7f else !inRanges unprintableRanges c

/-- A character between quotation marks of the kind `mark`. -/
def quoteChar (mark c : Char) : List Char :=
  if c = mark ∨ c = '\\' then ['\\', c]
  else if c = '\n' then ['\\', 'n']
  else if c = '\r' then ['\\', 'r']
  else if c = '\t' then ['\\', 't']
  else if isPrintable c then [c]
  else if c.toNat < 0x100 then ['\\', 'x'] ++ hex 2 c.toNat
  else if c.toNat < 0x10000 then ['\\', 'u'] ++ hex 4 c.toNat
  else ['\\', 'U'] ++ hex 8 c.toNat

/-- A surrogate is written as the number that it has. -/
def quoteCodePoint (mark : Char) : CodePoint → List Char
  | .char c => quoteChar mark c
  | p => ['\\', 'u'] ++ hex 4 p.toNat

/-- Apostrophes are the usual marks; a text with an apostrophe and no double mark takes the
    double ones. -/
def quoted (s : String) : String :=
  let mark := if s.toList.contains '\'' && !s.toList.contains '"' then '"' else '\''
  .ofList (mark :: (codePoints s).flatMap (quoteCodePoint mark) ++ [mark])

/-- The text with each lone surrogate written as the number that it has. -/
def escapeSurrogates (s : String) : String :=
  let escaped : CodePoint → List Char
    | .char c => (CodePoint.char c).kept
    | p => ['\\', 'u'] ++ hex 4 p.toNat
  .ofList ((codePoints s).flatMap escaped)

/-- The quoted form cut to a width, the opening mark included. -/
def quotedWithin (width : Nat) (s : String) : String := .ofList ((quoted s).toList.take width)

end Netscribe.Text
