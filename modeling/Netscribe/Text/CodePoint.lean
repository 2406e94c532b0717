/-!
What texts consist of. Surrogates without their partners are code points but no characters, and can
still be escaped in a document. A text keeps each of them in two characters, the first of which is
the first one behind the surrogates, so that texts have the order of their code points; that
character itself is kept in two as well.
-/
namespace Netscribe.Text

inductive CodePoint
  | char (c : Char)
  /-- A surrogate without its partner, by its distance from the first one. -/
  | surrogate (index : Fin 0x800)
  deriving DecidableEq, Repr

def isHighSurrogate (unit : Nat) : Bool := 0xd800 ≤ unit && unit < 0xdc00

def isLowSurrogate (unit : Nat) : Bool := 0xdc00 ≤ unit && unit < 0xe000

namespace CodePoint

/-- The first of two characters that keep one code point. -/
def mark : Char := '\ue000'

/-- What follows the mark if it stands for itself. It comes after all that follow it otherwise. -/
def markItself : Char := '\uf8ff'

/-- The distance between a surrogate and the character that follows the mark for it. -/
def keptOffset : Nat := 0x801

def ofNat (n : Nat) : CodePoint :=
  if h : 0xd800 ≤ n ∧ n < 0xe000 then surrogate ⟨n - 0xd800, by omega⟩ else char (.ofNat n)

def toNat : CodePoint → Nat
  | char c => c.toNat
  | surrogate index => 0xd800 + index

def char? : CodePoint → Option Char
  | char c => some c
  | surrogate _ => none

/-- The characters that keep a code point. -/
def kept : CodePoint → List Char
  | char c => if c = mark then [mark, markItself] else [c]
  | surrogate index => [mark, .ofNat (0xd800 + index + keptOffset)]

/-- The code point that a mark and the character behind it keep. -/
def ofMarked (c : Char) : CodePoint :=
  if c = markItself then char mark else ofNat (c.toNat - keptOffset)

/-- The code points that characters keep. -/
def ofChars : List Char → List CodePoint
  | [] => []
  | [c] => [char c]
  | c :: d :: rest => if c = mark then ofMarked d :: ofChars rest else char c :: ofChars (d :: rest)

/-- The characters in groups, one for each code point. -/
def groups : List Char → List (List Char)
  | [] => []
  | [c] => [[c]]
  | c :: d :: rest => if c = mark then [c, d] :: groups rest else [c] :: groups (d :: rest)

/-- The groups of a text make up the text. -/
theorem flatten_groups (cs : List Char) : (groups cs).flatten = cs := by
  fun_induction groups cs with
  | case1 | case2 => rfl
  | case3 d rest ih => simp [ih]
  | case4 c d rest _ ih => simp [ih]

/-- There is one group for each code point. -/
theorem length_groups (cs : List Char) : (groups cs).length = (ofChars cs).length := by
  fun_induction groups cs with
  | case1 | case2 => rfl
  | case3 d rest ih => simp [ofChars, ih]
  | case4 c d rest h ih => simp [ofChars, h, ih]

/-- The character that follows the mark for a surrogate. -/
theorem toNat_kept_surrogate (index : Fin 0x800) :
    (Char.ofNat (0xd800 + index + keptOffset)).toNat = 0xd800 + index + keptOffset := by
  have hvalid : (0xd800 + index + keptOffset).isValidChar := by
    simp only [Nat.isValidChar, keptOffset]; omega
  exact congrArg Char.toNat (show Char.ofNat _ = Char.ofNatAux _ hvalid from dif_pos hvalid)

private theorem ofMarked_surrogate (index : Fin 0x800) :
    ofMarked (.ofNat (0xd800 + index + keptOffset)) = surrogate index := by
  have hne : Char.ofNat (0xd800 + index + keptOffset) ≠ markItself := by
    intro h
    have hvalue := congrArg Char.toNat h
    rw [toNat_kept_surrogate] at hvalue
    have : markItself.toNat = 0xf8ff := rfl
    simp only [keptOffset] at hvalue
    omega
  have hrange : 0xd800 + index.val < 0xe000 := by omega
  simp [ofMarked, hne, toNat_kept_surrogate, ofNat, hrange]

/-- What is kept of a code point is read back as that code point. -/
theorem ofChars_kept_append (p : CodePoint) (cs : List Char) :
    ofChars (p.kept ++ cs) = p :: ofChars cs := by
  cases p with
  | char c =>
    by_cases h : c = mark
    · simp [kept, h, ofChars, ofMarked]
    · cases cs <;> simp [kept, h, ofChars]
  | surrogate index => simp [kept, ofChars, ofMarked_surrogate]

/-- Every sequence of code points is the one of the characters that keep it. -/
theorem ofChars_flatMap_kept (ps : List CodePoint) : ofChars (ps.flatMap kept) = ps := by
  induction ps with
  | nil => rfl
  | cons p ps ih => simp [ofChars_kept_append, ih]

end CodePoint

def codePoints (s : String) : List CodePoint := CodePoint.ofChars s.toList

def ofCodePoints (ps : List CodePoint) : String := .ofList (ps.flatMap CodePoint.kept)

/-- A text as a file holds it: each character once, and no surrogates. -/
def plain (s : String) : String := .ofList ((codePoints s).filterMap CodePoint.char?)

/-- The pieces of a text, one for each code point. -/
def pieces (s : String) : List String := (CodePoint.groups s.toList).map .ofList

/-- The length of a text in code points. -/
def size (s : String) : Nat := (CodePoint.groups s.toList).length

/-- The length of a text in bytes. -/
def byteSize (s : String) : Nat := (plain s).utf8ByteSize

/-- The first surrogates of a text without partners: the first of them, the number of code points
    before it, and the number of surrogates up to the next character. -/
def loneRun? (s : String) : Option (Nat × Nat × Nat) :=
  let isChar (p : CodePoint) := p.char?.isSome
  let before := (codePoints s).takeWhile isChar
  match (codePoints s).dropWhile isChar with
  | [] => none
  | p :: rest => some (p.toNat, before.length, (rest.takeWhile (!isChar ·)).length + 1)

end Netscribe.Text
