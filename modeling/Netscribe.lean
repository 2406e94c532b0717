import Netscribe.Acl.Commands
import Netscribe.Acl.Model
import Netscribe.Address.Ipv4
import Netscribe.Address.Mac
import Netscribe.CommandLine.Arguments
import Netscribe.CommandLine.Command
import Netscribe.CommandLine.Run
import Netscribe.Device.Node
import Netscribe.Device.Vendor
import Netscribe.Dhcp.Commands
import Netscribe.Dhcp.Model
import Netscribe.DhcpRelay.Commands
import Netscribe.DhcpRelay.Model
import Netscribe.DhcpSnooping.Commands
import Netscribe.DhcpSnooping.Model
import Netscribe.Dialect.Template
import Netscribe.Dialect.Cisco
import Netscribe.Dialect.H3c
import Netscribe.Dialect.Huawei
import Netscribe.Dialect.LinePattern
import Netscribe.Dialect.LinePatternReader
import Netscribe.Dialect.Rule
import Netscribe.Dialect.Tables
import Netscribe.Dialect.Translate
import Netscribe.Document.Basic
import Netscribe.Document.Reader
import Netscribe.Document.Writer
import Netscribe.Fault
import Netscribe.Gre.Commands
import Netscribe.Gre.Model
import Netscribe.HotStandby.Commands
import Netscribe.HotStandby.Model
import Netscribe.Interface.Commands
import Netscribe.Interface.Model
import Netscribe.Inventory.Basic
import Netscribe.Inventory.Session
import Netscribe.Ipsec.Commands
import Netscribe.Ipsec.Model
import Netscribe.LinkAggregation.Commands
import Netscribe.LinkAggregation.Model
import Netscribe.LinkMode.Commands
import Netscribe.Logging.Setup
import Netscribe.Main
import Netscribe.Mlag.Commands
import Netscribe.Mlag.Model
import Netscribe.Nat.Commands
import Netscribe.Nat.Model
import Netscribe.Number.Binary64
import Netscribe.Number.Integer
import Netscribe.Number.Shortest
import Netscribe.ObjectGroup.Commands
import Netscribe.ObjectGroup.Model
import Netscribe.Port.Name
import Netscribe.PortIsolation.Commands
import Netscribe.PortIsolation.Model
import Netscribe.Proofs.Acl.Declared
import Netscribe.Proofs.Acl.Headers
import Netscribe.Proofs.Acl.References
import Netscribe.Proofs.CommandLine.Topologies
import Netscribe.Proofs.Dialect.Substitution
import Netscribe.Proofs.Document.Fields
import Netscribe.Proofs.HotStandby.Tracks
import Netscribe.Proofs.Inventory.Defaults
import Netscribe.Proofs.Inventory.Enumeration
import Netscribe.Proofs.Inventory.ParsedIds
import Netscribe.Proofs.Inventory.Reached
import Netscribe.Proofs.LinkAggregation.Aggregate
import Netscribe.Proofs.LinkMode.Headers
import Netscribe.Proofs.Nat.ServerLines
import Netscribe.Proofs.Number.Decimal
import Netscribe.Proofs.Outcome
import Netscribe.Proofs.Routing.SpecialAreas
import Netscribe.Proofs.Script.Assembly
import Netscribe.Proofs.Script.Totality
import Netscribe.Proofs.Script.Written
import Netscribe.Proofs.Text.Line
import Netscribe.Proofs.Text.Pieces
import Netscribe.Proofs.Text.Trimmed
import Netscribe.Proofs.Topology.Identity
import Netscribe.Proofs.Topology.Respelling
import Netscribe.Proofs.Topology.Settings
import Netscribe.Proofs.Vlan.Declared
import Netscribe.Proofs.Vlan.ListForms
import Netscribe.Proofs.Vlan.Parts
import Netscribe.Proofs.Vlan.PortLines
import Netscribe.Proofs.Vlan.Readable
import Netscribe.Proofs.Vlan.Runs
import Netscribe.Proofs.Vlan.Uses
import Netscribe.Routing.Commands
import Netscribe.Routing.Model
import Netscribe.Schema.Described
import Netscribe.Schema.Normalize
import Netscribe.Schema.Shape
import Netscribe.Script.Compile
import Netscribe.Script.Draft
import Netscribe.Script.Feature
import Netscribe.Script.Grouping
import Netscribe.Script.Section
import Netscribe.Service.Answer
import Netscribe.Service.Tool
import Netscribe.SpanningTree.Commands
import Netscribe.SpanningTree.Model
import Netscribe.Ssh.Commands
import Netscribe.Ssh.Model
import Netscribe.Stacking.Commands
import Netscribe.Stacking.Model
import Netscribe.Text.Blank
import Netscribe.Text.CaseContextTable
import Netscribe.Text.CaseTable
import Netscribe.Text.CodePoint
import Netscribe.Text.Digit
import Netscribe.Text.LetterCase
import Netscribe.Text.Lines
import Netscribe.Text.Quoted
import Netscribe.Text.Replace
import Netscribe.Text.UnprintableTable
import Netscribe.Text.WordTable
import Netscribe.TimeRange.Calendar
import Netscribe.TimeRange.Commands
import Netscribe.TimeRange.Model
import Netscribe.Timing.Statistics
import Netscribe.Timing.Measure
import Netscribe.Topology.Connection
import Netscribe.Topology.Parse
import Netscribe.Vlan.Database
import Netscribe.Vlan.IdList
import Netscribe.Vrrp.Commands
import Netscribe.Vrrp.Model
import Netscribe.Wireless.Commands
import Netscribe.Wireless.Model
import Netscribe.Workspace.Basic
import Netscribe.Workspace.Path
import Netscribe.Zone.Commands
import Netscribe.Zone.Model
import Netscribe.Proofs.View.Blocks
import Netscribe.Proofs.View.Entries
import Netscribe.Proofs.Schema.Alike
import Netscribe.Proofs.Schema.Keys
import Netscribe.Proofs.Schema.OlderForms
import Netscribe.Proofs.Schema.Respelling
import Netscribe.Proofs.Schema.Texts
import Netscribe.Proofs.Fault.Reading
import Netscribe.Proofs.View.Filters
import Netscribe.Proofs.View.Services
import Netscribe.Proofs.View.Routing
import Netscribe.Proofs.View.Translation
import Netscribe.Proofs.View.Tunnels
import Netscribe.Proofs.View.Aggregation
import Netscribe.Proofs.View.Switching
import Netscribe.Proofs.View.Declarations
import Netscribe.Proofs.View.Script
import Netscribe.Proofs.Script.Generic
import Netscribe.Proofs.Vlan.RoundTrip
import Netscribe.Proofs.Script.Containment
import Netscribe.Proofs.Script.Preview
import Netscribe.Proofs.Script.Failures
import Netscribe.Proofs.Script.Readings
import Netscribe.Proofs.Service.Agreement
import Netscribe.Proofs.Topology.WellShaped
import Netscribe.Proofs.Schema.Ignored
import Netscribe.Proofs.Topology.Ignored
import Netscribe.Proofs.Inventory.History
import Netscribe.Proofs.Text.Written
import Netscribe.Proofs.Dialect.RuleSearch
import Netscribe.Proofs.Dialect.TemplateWords
import Netscribe.Proofs.Dialect.WordPatterns
import Netscribe.Proofs.Dialect.StandardRules
import Netscribe.Proofs.Dialect.TrunkVlans
import Netscribe.Proofs.Dialect.TranslatedLines
import Netscribe.Proofs.Dialect.RoundTrip
import Netscribe.Proofs.Script.Spacing
import Netscribe.Proofs.View.Runbooks
import Netscribe.Proofs.Script.NormalForm
import Netscribe.Proofs.View.Contents
import Netscribe.Proofs.Stacking.Bindings
import Netscribe.Proofs.Stacking.MemberCommands
import Netscribe.Proofs.Stacking.HeldIds
import Netscribe.Proofs.Ipsec.Views
import Netscribe.Proofs.Ipsec.References
import Netscribe.Proofs.Interface.AppliedPolicies
import Netscribe.Proofs.Ipsec.Closed
import Netscribe.Proofs.Service.Resources
import Netscribe.Proofs.Dialect.Selection
import Netscribe.Proofs.Dialect.VlanLists
import Netscribe.Proofs.Dialect.ScriptLines
import Netscribe.Proofs.Stacking.Switching
import Netscribe.Proofs.Vlan.Collected
import Netscribe.Proofs.Script.Grouping
import Netscribe.Proofs.Vlan.DatabaseReading
import Netscribe.Proofs.View.Regrouped
import Netscribe.Proofs.Script.Comparison
import Netscribe.Proofs.Acl.Comparisons
import Netscribe.Proofs.Address.Mac
import Netscribe.Proofs.Port.Ranges
