import Netscribe.Inventory.Basic
import Netscribe.Script.Compile
/-!
Questions to an inventory. What has been read of it once is kept, so that a device that answers to
several names is read once only; a question that fails keeps what was read before it failed.
-/
namespace Netscribe

namespace Inventory

structure Cache where
  /-- Devices by the text of their id. -/
  nodes : List (String × Node) := []
  connections : Option (List Connection) := none

/-- A question, which may extend the cache whether it is answered or not. -/
abbrev Session := ExceptT Fault (StateM Cache)

def ofResult {α : Type} (result : Except Fault α) : Session α := ExceptT.mk (pure result)

def ofParsed {α : Type} : Except ParseError α → Session α
  | .ok a => pure a
  | .error e => throw (.shape e)

/-- The device under a key, read from its entry unless it has been read before. -/
def readNode (key : String) (entry : Document) : Session Node := do
  match (← get).nodes.lookup key with
  | some node => return node
  | none =>
    let node ← ofParsed (Node.parse entry)
    modify fun cache => { cache with nodes := cache.nodes ++ [(key, node)] }
    return node

/-- The device of an id or a name, with the key under which it is kept. -/
def keyedNode (inv : Inventory) (wanted : Document) : Session (String × Node) := do
  let fields ← ofResult (inv.device wanted)
  let key := idText fields
  return (key, ← readNode key (.object fields))

def node (inv : Inventory) (wanted : Document) : Session Node := do
  return (← inv.keyedNode wanted).2

/-- Whether two ids or names lead to one device. -/
def isSame (inv : Inventory) (first second : Document) : Session Bool := do
  let (key, _) ← inv.keyedNode first
  let (other, _) ← inv.keyedNode second
  return key == other

def nodes (inv : Inventory) : Session (List Node) :=
  inv.deviceIds.mapM fun id => inv.node (.text id)

/-- The devices of a vendor, ignoring letter case. Only where there is a device to compare it with
    must the vendor be a text. -/
def nodesOf (inv : Inventory) (vendor : Document) : Session (List Node) := do
  let nodes ← inv.nodes
  match vendor with
  | .text name => return nodes.filter fun n => Text.lower n.vendor.name == Text.lower name
  | other => if nodes.isEmpty then return [] else throw (.noAttribute other.kind "lower")

def allConnections (inv : Inventory) : Session (List Connection) := do
  match (← get).connections with
  | some connections => return connections
  | none =>
    let connections ← ofParsed (Connection.parseList inv.connections)
    modify fun cache => { cache with connections := some connections }
    return connections

def nodeConnections (inv : Inventory) (wanted : Document) : Session (List Connection) := do
  let n ← inv.node wanted
  return (← inv.allConnections).filter (·.touches n.id)

/-- The script of a device that has been read. -/
def script (inv : Inventory) (n : Node) : Session String := do
  ofResult (n.compile (← inv.nodeConnections (.text n.id)))

end Inventory
end Netscribe
