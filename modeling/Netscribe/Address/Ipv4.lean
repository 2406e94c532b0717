import Netscribe.Fault
/-!
The hexadecimal form of IPv4 addresses.
-/
namespace Netscribe.Ipv4

/-- The octets of an address in parts, in order; nothing if a part is no number up to 255. -/
def octets? : List String → Except Fault (Option (List Nat))
  | [] => .ok (some [])
  | part :: rest =>
    if !Text.allDigits part then .ok none
    else do
      let n ← digitsNumber part
      if 255 < n then return none
      return (← octets? rest).map (n :: ·)

/-- Eight hexadecimal digits, an octet in two; empty when the text is no dotted address. -/
def toHex (address : String) (capital : Bool := false) : Except Fault String := do
  let parts := Text.splitOn '.' (Text.trim address)
  if parts.length ≠ 4 then return ""
  match ← octets? parts with
  | none => return ""
  | some octets =>
    let digits := octets.flatMap (Text.hex 2)
    return .ofList (if capital then digits.map Char.toUpper else digits)

end Netscribe.Ipv4
