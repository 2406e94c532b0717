import Netscribe.Vlan.IdList
/-!
Names of ports, and ranges of port numbers that share one name up to the last number.
-/
namespace Netscribe.Port

/-- The numbers that one item of a range names. Items of no known form name none. -/
def itemNumbers (item : String) : Except Fault (List Int) :=
  if Text.contains '-' item then
    match (Text.splitOn '-' item).map Text.trim with
    | [low, high] =>
      if Text.allDigits low && Text.allDigits high then do
        let first ← digitsNumber low
        let last ← digitsNumber high
        return (List.range (last + 1 - first)).map fun i => ((first + i : Nat) : Int)
      else .ok []
    | _ => .ok []
  else if Text.allDigits item then do
    return [((← digitsNumber item : Nat) : Int)]
  else .ok []

/-- The numbers of a range such as `2-4,7`, in ascending order. -/
def parseRange (text : String) : Except Fault (List Int) := do
  let items := (Text.splitOn ',' text).map Text.trim
  return Vlan.sortedDistinct (← items.mapM itemNumbers).flatten

/-- A name without the digits at its end. A line feed at the very end is passed over. -/
def dropNumber (name : List Char) : List Char :=
  match name.reverse with
  | '\n' :: rest => (rest.dropWhile Text.isDecimal).reverse ++ ['\n']
  | rest => (rest.dropWhile Text.isDecimal).reverse

/-- What the names of sibling ports have in common: everything up to the last slash, or without a
    slash everything before the number at the end. -/
def base (name : String) : String :=
  let cs := name.toList
  if cs.contains '/' then .ofList (cs.reverse.dropWhile (· ≠ '/')).reverse
  else .ofList (dropNumber cs)

end Netscribe.Port
