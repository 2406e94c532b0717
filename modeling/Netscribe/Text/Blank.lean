import Netscribe.Text.CodePoint
/-!
Blank characters, and the operations on text that look at nothing else: trimming, splitting into
words, joining.
-/
namespace Netscribe

/-- Membership of a code point in a list of closed ranges. -/
def inRanges (ranges : List (Nat × Nat)) (c : Char) : Bool :=
  ranges.any fun (first, last) => first ≤ c.toNat && c.toNat ≤ last

namespace Text

def blankRanges : List (Nat × Nat) :=
  [(0x9, 0xd), (0x1c, 0x20), (0x85, 0x85), (0xa0, 0xa0), (0x1680, 0x1680), (0x2000, 0x200a),
   (0x2028, 0x2029), (0x202f, 0x202f), (0x205f, 0x205f), (0x3000, 0x3000)]

/-- The white space of Unicode together with the four information separators `\x1c` to `\x1f`. -/
def isBlank (c : Char) : Bool := inRanges blankRanges c

/-- The characters without those satisfying `p` at both ends. -/
def trimChars (p : Char → Bool) (cs : List Char) : List Char :=
  ((cs.dropWhile p).reverse.dropWhile p).reverse

def trim (s : String) : String := .ofList (trimChars isBlank s.toList)

def trimEnd (s : String) : String := .ofList (s.toList.reverse.dropWhile isBlank).reverse

/-- Only line feeds are dropped, so that the indentation of the first line stays. -/
def trimNewlines (s : String) : String := .ofList (trimChars (· == '\n') s.toList)

def allBlank (s : String) : Bool := s.toList.all isBlank

/-- The pieces between separators, empty ones included: one more piece than separators. -/
def splitChars (p : Char → Bool) : List Char → List (List Char)
  | [] => [[]]
  | c :: rest =>
    if p c then [] :: splitChars p rest
    else match splitChars p rest with
      | [] => [[c]]
      | piece :: pieces => (c :: piece) :: pieces

def splitOn (separator : Char) (s : String) : List String :=
  (splitChars (· == separator) s.toList).map .ofList

/-- The non-empty pieces between characters satisfying `p`. -/
def tokens (p : Char → Bool) (s : String) : List String :=
  ((splitChars p s.toList).filter (· ≠ [])).map .ofList

def words (s : String) : List String := tokens isBlank s

def join (separator : String) (pieces : List String) : String := separator.intercalate pieces

def unwords (pieces : List String) : String := join " " pieces

def unlines (pieces : List String) : String := join "\n" pieces

/-- Every occurrence of a character replaced by a text, in one pass. -/
def replaceChar (target : Char) (replacement : String) (s : String) : String :=
  .ofList (s.toList.flatMap fun c => if c = target then replacement.toList else [c])

def contains (needle : Char) (s : String) : Bool := s.toList.contains needle

def hasStart (start s : String) : Bool := start.toList.isPrefixOf s.toList

def hasEnd (ending s : String) : Bool := ending.toList.isSuffixOf s.toList

def padEnd (width : Nat) (s : String) : String :=
  s ++ .ofList (List.replicate (width - size s) ' ')

def padStart (width : Nat) (s : String) : String :=
  .ofList (List.replicate (width - size s) ' ') ++ s

/-- Consecutive groups of `n` items; only the last may be shorter. -/
def chunks {α : Type} (n : Nat) (items : List α) : List (List α) :=
  match items, n with
  | [], _ => []
  | items, 0 => [items]
  | item :: rest, n + 1 => (item :: rest.take n) :: chunks (n + 1) (rest.drop n)
termination_by items.length
decreasing_by simp only [List.length_drop, List.length_cons]; omega

end Text
end Netscribe
