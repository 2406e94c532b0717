import Netscribe.Schema.Normalize
import Netscribe.Device.Node
import Netscribe.Topology.Connection
/-!
Devices, connections and whole topologies read from documents.
-/
namespace Netscribe

/-- The document of a vendor-dependent value, checked and read. -/
def Described.parse {α : Type} [Described α] (vendor : Option String) (path : String)
    (d : Document) : Except ParseError α :=
  ((Described.shape α).normalize vendor path d).map ofDocument

/-- The id as it is written in the document, for messages. -/
def rawId (fields : Document.Fields) : String :=
  match Document.Fields.get? fields "id" with
  | some d => d.plain
  | none => "?"

namespace Node

/-- The vendor is read first: it decides which of the vendor-dependent settings count. -/
def vendorOf (fields : Document.Fields) : Except ParseError Vendor :=
  Described.parse none "node.vendor"
    ((Document.Fields.get? fields "vendor").getD (.text Vendor.generic.name))

def parse : Document → Except ParseError Node
  | .object fields => do
    let vendor ← vendorOf fields
    Described.parse (some vendor.name) s!"node[{rawId fields}]" (.object fields)
  | other => .error (.nodeNotObject other.kind)

/-- The name of a device, or its id when it has none. -/
def label (node : Node) : String := if node.name = "" then node.id else node.name

/-- The name of a port; empty for an unknown port. -/
def portName (node : Node) (portId : Option String) : String :=
  match node.ports.find? fun port => some port.id == portId with
  | some port => port.name
  | none => ""

end Node

namespace Connection

def parse : Document → Except ParseError Connection
  | .object fields => Described.parse none s!"connection[{rawId fields}]" (.object fields)
  | other => .error (.connectionNotObject other.kind)

/-- A missing list of connections is an empty one. -/
def parseList : Option Document → Except ParseError (List Connection)
  | none | some .null => .ok []
  | some (.list items) => items.mapM parse
  | some _ => .error .connectionsNotList

def touches (c : Connection) (nodeId : String) : Bool :=
  c.source.nodeId == nodeId || c.target.nodeId == nodeId

/-- The port at the end that lies on a node, the source end first. -/
def localPortId (c : Connection) (nodeId : String) : Option String :=
  if c.source.nodeId = nodeId then some c.source.portId
  else if c.target.nodeId = nodeId then some c.target.portId
  else none

end Connection

structure Topology where
  nodes : List Node := []
  connections : List Connection := []

/-- A value that counts as unset stands for no nodes. -/
def Topology.nodeDocuments (fields : Document.Fields) : Except ParseError (List Document) :=
  match Document.Fields.get? fields "nodes" with
  | none => .ok []
  | some d =>
    if !d.isTrue then .ok []
    else match d with
      | .list items => .ok items
      | _ => .error .nodesNotList

def Topology.parse : Document → Except ParseError Topology
  | .object fields => do
    let nodes ← (← nodeDocuments fields).mapM Node.parse
    let connections ← Connection.parseList (Document.Fields.get? fields "connections")
    return ⟨nodes, connections⟩
  | _ => .error .topologyNotObject

end Netscribe
