import Netscribe.Fault
/-!
Lists of VLAN ids: reading free text, splitting ids into runs, and the list forms of the vendors.
-/
namespace Netscribe.Vlan

def minId : Nat := 1

def maxId : Nat := 4094

def isId (n : Nat) : Bool := minId ≤ n && n ≤ maxId

/-- A list in ascending order with neighbours that are equal collapsed into one. -/
def collapse : List Int → List Int
  | [] => []
  | [x] => [x]
  | x :: y :: rest => if x = y then collapse (y :: rest) else x :: collapse (y :: rest)

/-- The distinct elements in ascending order. -/
def sortedDistinct (xs : List Int) : List Int :=
  collapse (xs.mergeSort fun a b => decide (a ≤ b))

/-- The runs of an ascending list, of which the first runs from `first` to at least `last`. -/
def runsFrom (first last : Int) : List Int → List (Int × Int)
  | [] => [(first, last)]
  | x :: xs => if x = last + 1 then runsFrom first x xs else (first, last) :: runsFrom x x xs

/-- The maximal runs of consecutive integers, in ascending order. -/
def contiguousRuns (ids : List Int) : List (Int × Int) :=
  match sortedDistinct ids with
  | [] => []
  | x :: xs => runsFrom x x xs

/-- A run as list items: one id, two ids, or a range. -/
def runItems (range : String) : Int × Int → List String
  | (first, last) =>
    if first = last then [toString first]
    else if last = first + 1 then [toString first, toString last]
    else [toString first ++ range ++ toString last]

/-- The form `10,11,20-30`. -/
def dashedList (ids : List Int) : String :=
  Text.join "," ((contiguousRuns ids).flatMap (runItems "-"))

/-- The form `10 11 20 to 30`. -/
def spacedList (ids : List Int) : String :=
  Text.unwords ((contiguousRuns ids).flatMap (runItems " to "))

private theorem length_dropWhile_le (p : Char → Bool) (cs : List Char) :
    (cs.dropWhile p).length ≤ cs.length :=
  (List.dropWhile_suffix p).length_le

/-- Joins the two ends of ranges written `a to b`, where blanks stand around the word. -/
def joinRanges : List Char → List Char
  | [] => []
  | c :: rest =>
    if Text.isBlank c then
      match _hword : rest.dropWhile Text.isBlank with
      | 't' :: 'o' :: b :: after =>
        if Text.isBlank b then '-' :: joinRanges (after.dropWhile Text.isBlank)
        else c :: joinRanges rest
      | _ => c :: joinRanges rest
    else c :: joinRanges rest
termination_by cs => cs.length
decreasing_by
  · have hrest := length_dropWhile_le Text.isBlank rest
    have hafter := length_dropWhile_le Text.isBlank after
    rw [_hword] at hrest
    simp only [List.length_cons] at hrest ⊢
    omega
  all_goals simp

/-- The numbers from `first` to `last` that are VLAN ids. -/
def idsBetween (first last : Nat) : List Int :=
  let low := max first minId
  (List.range (min last maxId + 1 - low)).map fun i => ((low + i : Nat) : Int)

/-- The ids that one item of a list names. Items of no known form name none. -/
def itemIds (item : String) : Except Fault (List Int) :=
  if Text.contains '-' item then
    match Text.splitOn '-' item with
    | [low, high] =>
      if Text.allDigits low && Text.allDigits high then do
        return idsBetween (← digitsNumber low) (← digitsNumber high)
      else .ok []
    | _ => .ok []
  else if Text.allDigits item then do
    let n ← digitsNumber item
    return if isId n then [(n : Int)] else []
  else .ok []

def isSeparator (c : Char) : Bool := c == ',' || Text.isBlank c

/-- The items of a list as it was entered; ranges are brought into the form `a-b`. -/
def items (text : String) : List String :=
  Text.tokens isSeparator (.ofList (joinRanges (Text.trim text).toList))

/-- The ids of a list as it was entered, such as `10,20-22` or `10 20 to 22`. -/
def parseIds (text : String) : Except Fault (List Int) := do
  return sortedDistinct (← (items text).mapM itemIds).flatten

/-- A list as it was entered, in the form `10 20 to 30`; empty when it names no id. -/
def normalList (text : String) : Except Fault String := do
  return spacedList (← parseIds text)

/-- A text with a blank in place of each comma and a word in place of each dash. -/
def spellOut (text : String) : String :=
  Text.replaceChar '-' " to " (Text.replaceChar ',' " " text)

/-- A list as it was entered, with commas and dashes spelled out and nothing else changed. -/
def spelledList (text : String) : String := Text.unwords (Text.words (spellOut text))

end Netscribe.Vlan
