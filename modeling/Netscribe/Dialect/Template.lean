import Netscribe.Text.Replace
/-!
Templates of commands: text with places for the arguments of another command. The place `$*` takes
all arguments, `$1`, `$2` and so on take one, and a name in braces after `$` takes what a line
pattern has captured under that name.
-/
namespace Netscribe

/-- Texts captured from a line, by name. -/
abbrev Captures := List (String × String)

namespace Template

/-- The place for the text captured under a name. -/
def slot (name : String) : String := "$\x7b" ++ name ++ "\x7d"

/-- The places for single arguments are filled from the last one down, so that `$10` is not taken
    for `$1` with a zero behind it. -/
def fillNumbered : List String → Nat → String → String
  | [], _, s => s
  | arg :: rest, number, s =>
    Text.replace ("$" ++ toString number) arg (fillNumbered rest (number + 1) s)

def fillNamed (captures : Captures) (s : String) : String :=
  captures.foldl (fun s (name, value) => Text.replace (slot name) value s) s

/-- A template with its places filled. A place without a value stays as it is. -/
def fill (template : String) (args : List String) (captures : Captures) : String :=
  fillNamed captures (fillNumbered args 1 (Text.replace "$*" (Text.unwords args) template))

end Template

/-! The places that are filled by name. -/

namespace Captured

def delay : String := Template.slot "delay"
def first : String := Template.slot "start"
def group : String := Template.slot "group"
def inst : String := Template.slot "inst"
def ip : String := Template.slot "ip"
def last : String := Template.slot "end"
def mac : String := Template.slot "mac"
def mask : String := Template.slot "mask"
def member : String := Template.slot "member"
def mode : String := Template.slot "mode"
def model : String := Template.slot "model"
def name : String := Template.slot "name"
def net : String := Template.slot "net"
def new : String := Template.slot "new"
def prio : String := Template.slot "prio"
def rev : String := Template.slot "rev"
def slot : String := Template.slot "slot"
def vip : String := Template.slot "vip"
def vlist : String := Template.slot "vlist"
def vrid : String := Template.slot "vrid"
def which : String := Template.slot "which"
def wildcard : String := Template.slot "wildcard"

end Captured
end Netscribe
