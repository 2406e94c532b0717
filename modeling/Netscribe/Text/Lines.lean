import Netscribe.Text.Blank
/-!
Line boundaries of free text.
-/
namespace Netscribe.Text

def isLineBreak (c : Char) : Bool :=
  inRanges [(0xa, 0xd), (0x1c, 0x1e), (0x85, 0x85), (0x2028, 0x2029)] c

/-- The lines of a text without their ends. A carriage return directly before a line feed belongs
    to the same end, and an end at the very end of the text starts no further line. -/
def linesChars : List Char → List (List Char)
  | [] => []
  | '\r' :: '\n' :: rest => [] :: linesChars rest
  | c :: rest =>
    if isLineBreak c then [] :: linesChars rest
    else match linesChars rest with
      | [] => [[c]]
      | line :: more => (c :: line) :: more

def lines (s : String) : List String := (linesChars s.toList).map .ofList

/-- A text with line feeds for the other two ends of lines that files have. -/
def unifyEnds : List Char → List Char
  | [] => []
  | '\r' :: '\n' :: rest => '\n' :: unifyEnds rest
  | '\r' :: rest => '\n' :: unifyEnds rest
  | c :: rest => c :: unifyEnds rest

end Netscribe.Text
