import Netscribe.Schema.Described
/-!
Vendors, the roles of devices and the modes of links.
-/
namespace Netscribe

/-- A command dialect. `generic` has none. -/
inductive Vendor
  | cisco | huawei | h3c | generic
  deriving DecidableEq, Repr

namespace Vendor

def all : List Vendor := [cisco, huawei, h3c, generic]

def name : Vendor → String
  | cisco => "Cisco"
  | huawei => "Huawei"
  | h3c => "H3C"
  | generic => "Generic"

def choice : Choice where
  label := "vendor"
  members := [("Cisco", "CISCO"), ("Huawei", "HUAWEI"), ("H3C", "H3C"), ("Generic", "GENERIC")]

def ofName (name : String) : Vendor := (all.find? (·.name == name)).getD generic

/-- The vendor that free text names, ignoring letter case and surrounding blanks. -/
def ofText? (raw : String) : Option Vendor := (choice.find? raw).map ofName

/-- The two dialects with views, `undo` and VLAN lists of the form `10 20 to 30`. -/
def isVrp : Vendor → Bool
  | huawei | h3c => true
  | cisco | generic => false

/-- The command that leaves a configuration view. -/
def closer (v : Vendor) : String := if v.isVrp then "quit" else "exit"

end Vendor

instance : Described Vendor := .choice Vendor.choice Vendor.ofName Vendor.name

inductive DeviceType
  | router | l3Switch | l2Switch | firewall | accessPoint | accessController
  | pc | server | printer | monitor
  deriving DecidableEq, Repr

namespace DeviceType

def all : List DeviceType :=
  [router, l3Switch, l2Switch, firewall, accessPoint, accessController, pc, server, printer,
   monitor]

def name : DeviceType → String
  | router => "Router"
  | l3Switch => "L3 Switch"
  | l2Switch => "L2 Switch"
  | firewall => "Firewall"
  | accessPoint => "Access Point"
  | accessController => "Access Controller"
  | pc => "PC"
  | server => "Server"
  | printer => "Print"
  | monitor => "Monitor"

def choice : Choice where
  label := "DeviceType"
  members :=
    [("Router", "ROUTER"), ("L3 Switch", "L3_SWITCH"), ("L2 Switch", "L2_SWITCH"),
     ("Firewall", "FIREWALL"), ("Access Point", "AP"), ("Access Controller", "AC"), ("PC", "PC"),
     ("Server", "SERVER"), ("Print", "PRINTER"), ("Monitor", "MONITOR")]

def ofName (name : String) : DeviceType := (all.find? (·.name == name)).getD l3Switch

end DeviceType

instance : Described DeviceType := .choice DeviceType.choice DeviceType.ofName DeviceType.name

inductive InterfaceMode
  | unconfigured | access | trunk | l3
  deriving DecidableEq, Repr

namespace InterfaceMode

def all : List InterfaceMode := [unconfigured, access, trunk, l3]

def name : InterfaceMode → String
  | unconfigured => "unconfigured"
  | access => "access"
  | trunk => "trunk"
  | l3 => "l3"

def choice : Choice where
  label := "InterfaceMode"
  members :=
    [("unconfigured", "UNCONFIGURED"), ("access", "ACCESS"), ("trunk", "TRUNK"), ("l3", "L3")]

def ofName (name : String) : InterfaceMode := (all.find? (·.name == name)).getD unconfigured

end InterfaceMode

instance : Described InterfaceMode :=
  .choice InterfaceMode.choice InterfaceMode.ofName InterfaceMode.name

end Netscribe
