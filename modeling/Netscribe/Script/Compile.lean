import Netscribe.Script.Section
import Netscribe.Vlan.Database
/-!
The whole script of a device: preamble, VLAN database, then its sections.
-/
namespace Netscribe.Node

/-- The commands that enter the configuration and name the device. -/
def preamble (node : Node) : String :=
  let named (keyword : String) : List String :=
    if node.name = "" then [] else [s!"{keyword} {node.name}"]
  match node.vendor with
  | .huawei | .h3c => Text.unlines ("system-view" :: named "sysname")
  | .cisco => Text.unlines ("configure terminal" :: named "hostname")
  | .generic => ""

/-- The headed blocks of the sections that the device has. -/
def sectionBlocks (node : Node) (connections : List Connection) : List String :=
  (Section.all.filter (·.enabled node)).map fun s =>
    Section.block s.title (s.text node connections)

/-- The preamble runs straight into the first block; blocks are separated by empty lines. -/
def assemble (preamble : String) (blocks : List String) : String :=
  Text.trim (joinBlocks "\n" [preamble, joinBlocks "\n\n" blocks])

def compile (node : Node) (connections : List Connection) : Except Fault String := do
  let database ← node.vlanDatabase connections
  return assemble node.preamble (database :: node.sectionBlocks connections)

end Netscribe.Node
