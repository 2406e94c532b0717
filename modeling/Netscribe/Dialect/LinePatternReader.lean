import Netscribe.Dialect.LinePattern
/-!
The textual notation of line patterns: `\s`, `\S`, `\d`, `\w` and brackets for classes, `+`, `*` and
`?` behind them, groups with or without a name, bars between alternatives, `^` and `$`.
-/
namespace Netscribe.LinePattern

def escapeClass (c : Char) : CharClass :=
  match c with
  | 's' => .blank
  | 'S' => .solid
  | 'd' => .digit
  | 'w' => .word
  | other => .only other

/-- The members of a class in brackets, up to the closing one. -/
def readMembers : List Char → Option (List CharClass × List Char)
  | [] => none
  | ']' :: rest => Option.some ([], rest)
  | ['\\'] => none
  | '\\' :: c :: rest => do
    let (classes, after) ← readMembers rest
    return (escapeClass c :: classes, after)
  | c :: rest => do
    let (classes, after) ← readMembers rest
    return (.only c :: classes, after)

/-- A class at the start of the text, if there is one. -/
def readClass? : List Char → Option (CharClass × List Char)
  | '.' :: rest => Option.some (.any, rest)
  | '\\' :: c :: rest => Option.some (escapeClass c, rest)
  | '[' :: rest => (readMembers rest).map fun (classes, after) => (.oneOf classes, after)
  | c :: rest => if "\\^$()|*+?".toList.contains c then none else Option.some (.only c, rest)
  | [] => none

/-- How often a class stands there. -/
def quantified (p : CharClass) : List Char → LinePattern × List Char
  | '+' :: rest => (some p, rest)
  | '*' :: rest => (any p, rest)
  | '?' :: rest => (perhaps (one p), rest)
  | rest => (one p, rest)

/-- The name of a group and what follows its closing mark. -/
def groupName (cs : List Char) : String × List Char :=
  (.ofList (cs.takeWhile (· ≠ '>')), (cs.dropWhile (· ≠ '>')).drop 1)

mutual
/-- The alternatives up to a closing bracket or the end. Each step takes at least one character, so
    that fuel beyond the length is never used up. -/
def readAlternatives : Nat → List Char → Option (LinePattern × List Char)
  | 0, _ => none
  | fuel + 1, cs => do
    let (first, rest) ← readParts fuel cs
    match rest with
    | '|' :: more =>
      let (second, after) ← readAlternatives fuel more
      return (either first second, after)
    | _ => return (first, rest)

def readParts : Nat → List Char → Option (LinePattern × List Char)
  | 0, _ => none
  | fuel + 1, cs =>
    match cs with
    | [] | ')' :: _ | '|' :: _ => Option.some (nothing, cs)
    | _ => do
      let (first, rest) ← readPart fuel cs
      let (others, after) ← readParts fuel rest
      return (both first others, after)

def readPart : Nat → List Char → Option (LinePattern × List Char)
  | 0, _ => none
  | fuel + 1, cs =>
    match cs with
    | '^' :: rest => Option.some (start, rest)
    | '$' :: rest => Option.some (finish, rest)
    | '(' :: '?' :: 'P' :: '<' :: rest =>
      let (name, rest) := groupName rest
      readGroup fuel (capture name) rest
    | '(' :: '?' :: ':' :: rest => readGroup fuel id rest
    | '(' :: rest => readGroup fuel id rest
    | _ => do
      let (p, rest) ← readClass? cs
      return quantified p rest

/-- The inside of a group, its closing bracket, and a mark that makes it optional. -/
def readGroup : Nat → (LinePattern → LinePattern) → List Char → Option (LinePattern × List Char)
  | 0, _, _ => none
  | fuel + 1, wrap, cs => do
    let (inner, rest) ← readAlternatives fuel cs
    match rest with
    | ')' :: '?' :: after => return (perhaps (wrap inner), after)
    | ')' :: after => return (wrap inner, after)
    | _ => none
end

/-- The pattern that a text denotes; nothing if brackets are left open or stray. -/
def read? (source : String) : Option LinePattern :=
  let cs := source.toList
  match readAlternatives (4 * cs.length + 4) cs with
  | Option.some (p, []) => Option.some p
  | _ => none

end Netscribe.LinePattern
