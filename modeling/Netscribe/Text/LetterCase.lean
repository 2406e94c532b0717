import Netscribe.Text.Blank
import Netscribe.Text.CaseTable
import Netscribe.Text.CaseContextTable
/-!
Full case mapping: one character may become several, and a capital sigma becomes the final small
sigma at the end of a word.
-/
namespace Netscribe.Text

def CaseRun.contains (run : CaseRun) (n : Nat) : Bool :=
  run.first ≤ n && n ≤ run.last && (n - run.first) % run.step == 0

def CaseRun.map (run : CaseRun) (n : Nat) : Char := Char.ofNat ((n : Int) + run.shift).toNat

def mapByRuns (runs : List CaseRun) (c : Char) : Char :=
  match runs.find? (·.contains c.toNat) with
  | some run => run.map c.toNat
  | none => c

def lowerChar (c : Char) : List Char :=
  if c.toNat < 0x80 then [c.toLower]
  else if c = 'İ' then ['i', '\u0307']
  else [mapByRuns lowerRuns c]

def upperChar (c : Char) : List Char :=
  if c.toNat < 0x80 then [c.toUpper]
  else match upperExpansions.find? (·.1 == c.toNat) with
    | some (_, expansion) => expansion.map Char.ofNat
    | none => [mapByRuns upperRuns c]

/-- Whether the nearest character that is not looked through has a case. -/
def meetsCased (cs : List Char) : Bool :=
  match cs.dropWhile (inRanges caseIgnorableRanges) with
  | [] => false
  | c :: _ => inRanges casedRanges c

/-- `before` holds the characters already passed, nearest first. -/
def lowerChars (before : List Char) : List Char → List Char
  | [] => []
  | c :: after =>
    (if c = 'Σ' then
      if meetsCased before && !meetsCased after then ['ς'] else ['σ']
    else lowerChar c) ++ lowerChars (c :: before) after

def lower (s : String) : String := .ofList (lowerChars [] s.toList)

def upper (s : String) : String := .ofList (s.toList.flatMap upperChar)

/-- The first character in capital form, the others unchanged. -/
def capitalize (s : String) : String :=
  match s.toList with
  | [] => ""
  | c :: rest => .ofList (upperChar c ++ rest)

end Netscribe.Text
