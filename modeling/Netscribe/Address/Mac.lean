import Netscribe.Text.LetterCase
/-!
The forms of hardware addresses.
-/
namespace Netscribe.Mac

def isSeparator (c : Char) : Bool := c == ':' || c == '.' || c == '-'

/-- An address without its separators. -/
def clean (mac : String) : String := .ofList (mac.toList.filter fun c => !isSeparator c)

/-- Groups of four joined by a separator. -/
def grouped (separator digits : String) : String :=
  Text.join separator ((Text.chunks 4 (Text.pieces digits)).map String.join)

/-- The form `xxxx-xxxx-xxxx`; an address of another length stays as it is. -/
def dashed (mac : String) : String :=
  let digits := clean mac
  if Text.size digits = 12 then grouped "-" digits else mac

/-- The client identifier of an Ethernet host: the hardware type `01`, then the address. -/
def clientIdentifier (mac : String) : String :=
  grouped "." ("01" ++ Text.lower (clean mac))

end Netscribe.Mac
