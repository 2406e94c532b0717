import Netscribe.Script.Feature
/-!
The tools of the service and the arguments that they take.
-/
open Netscribe.Document (Fields)

namespace Netscribe

structure Tool where
  name : String
  description : String
  properties : Fields
  required : List String

namespace Tool

def dialects : List String := [Vendor.cisco, Vendor.huawei, Vendor.h3c].map (·.name)

def string (extra : Fields) : Document := .object (("type", .text "string") :: extra)

def described (description : String) : Fields := [("description", .text description)]

def oneOf (values : List String) : Fields := [("enum", Document.texts values)]

def listDevices : Tool where
  name := "list_devices"
  description := "List the nodes of the loaded topology with vendor and device type"
  properties :=
    [("vendor", string (described "Only list nodes of this vendor (e.g., 'Huawei')"))]
  required := []

def listFeatures : Tool where
  name := "list_features"
  description := "List the feature names that preview_feature accepts"
  properties := []
  required := []

def compileDevice : Tool where
  name := "compile_device"
  description := "Compile the complete CLI configuration script for a topology node"
  properties := [("device_id", string (described "Node id or name (e.g., 'core-1')"))]
  required := ["device_id"]

def previewFeature : Tool where
  name := "preview_feature"
  description := "Render a single feature of a node, with an explanation of each command"
  properties :=
    [("device_id", string (described "Node id or name")),
     ("feature", string (described "Feature name" ++ oneOf (Feature.all.map (·.name))))]
  required := ["device_id", "feature"]

def compileNode : Tool where
  name := "compile_node"
  description := "Compile a node given inline (same shape as a topology file entry). "
    ++ "Connections are optional and drive access/trunk modes and VLAN collection."
  properties :=
    [("node", .object (("type", .text "object")
        :: described "Node object with id, name, vendor, type, ports and config")),
     ("connections", .object ([("type", .text "array")] ++ described "Topology connections"
        ++ [("items", .object [("type", .text "object")])]))]
  required := ["node"]

def translateCommand : Tool where
  name := "translate_command"
  description := "Translate commands from one vendor dialect to another. "
    ++ "Multi-line input is translated line by line; untranslatable lines become comments."
  properties :=
    [("command", string (described "One command or a whole script")),
     ("source_vendor", string (oneOf dialects)),
     ("target_vendor", string (oneOf dialects))]
  required := ["command", "source_vendor", "target_vendor"]

def explainCommand : Tool where
  name := "explain_command"
  description := "Explain what a command does in the given vendor dialect"
  properties :=
    [("command", string (described "Command line")), ("vendor", string (oneOf dialects))]
  required := ["command", "vendor"]

def all : List Tool :=
  [listDevices, listFeatures, compileDevice, previewFeature, compileNode, translateCommand,
   explainCommand]

/-- The arguments as a schema. -/
def schema (t : Tool) : Document :=
  .object [("type", .text "object"), ("properties", .object t.properties),
    ("required", Document.texts t.required)]

end Tool
end Netscribe
