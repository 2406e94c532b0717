import Netscribe.Schema.Described
/-!
Access control lists.
-/
namespace Netscribe

structure TcpFlags where
  ack : Bool := false
  fin : Bool := false
  psh : Bool := false
  rst : Bool := false
  syn : Bool := false
  urg : Bool := false

def TcpFlags.fields : List (Field TcpFlags) :=
  [.of "ack" (·.ack) fun r v => { r with ack := v },
   .of "fin" (·.fin) fun r v => { r with fin := v },
   .of "psh" (·.psh) fun r v => { r with psh := v },
   .of "rst" (·.rst) fun r v => { r with rst := v },
   .of "syn" (·.syn) fun r v => { r with syn := v },
   .of "urg" (·.urg) fun r v => { r with urg := v }]

instance : Described TcpFlags := .record TcpFlags.fields {} .none

/-- A rule of either type; a basic rule looks at the source only. -/
structure AclRule where
  action : String := "permit"
  description : String := ""
  ruleId : String := ""
  autoRuleId : Bool := true
  protocol : String := ""
  sourceIsAny : Bool := false
  sourceAddress : String := ""
  sourceWildcard : String := ""
  destinationIsAny : Bool := false
  destinationAddress : String := ""
  destinationWildcard : String := ""
  sourcePortOperator : String := ""
  sourcePort1 : String := ""
  sourcePort2 : String := ""
  destinationPortOperator : String := ""
  destinationPort1 : String := ""
  destinationPort2 : String := ""
  icmpType : String := ""
  icmpCode : String := ""
  dscp : String := ""
  precedence : String := ""
  tos : String := ""
  established : Bool := false
  tcpFlags : TcpFlags := {}
  ttlOperator : String := ""
  ttlValue1 : String := ""
  ttlValue2 : String := ""
  timeRange : String := ""
  vpnInstance : String := ""
  fragment : Bool := false
  logging : Bool := false
  counting : Bool := false
  id : String := ""

def AclRule.fields : List (Field AclRule) :=
  [.of "action" (·.action) fun r v => { r with action := v },
   .of "description" (·.description) fun r v => { r with description := v },
   .of "rule_id" (·.ruleId) fun r v => { r with ruleId := v },
   .of "auto_rule_id" (·.autoRuleId) fun r v => { r with autoRuleId := v },
   .of "protocol" (·.protocol) fun r v => { r with protocol := v },
   .of "source_is_any" (·.sourceIsAny) fun r v => { r with sourceIsAny := v },
   .of "source_address" (·.sourceAddress) fun r v => { r with sourceAddress := v },
   .of "source_wildcard" (·.sourceWildcard) fun r v => { r with sourceWildcard := v },
   .of "destination_is_any" (·.destinationIsAny) fun r v => { r with destinationIsAny := v },
   .of "destination_address" (·.destinationAddress) fun r v => { r with destinationAddress := v },
   .of "destination_wildcard" (·.destinationWildcard)
     fun r v => { r with destinationWildcard := v },
   .of "source_port_operator" (·.sourcePortOperator) fun r v => { r with sourcePortOperator := v },
   .of "source_port1" (·.sourcePort1) fun r v => { r with sourcePort1 := v },
   .of "source_port2" (·.sourcePort2) fun r v => { r with sourcePort2 := v },
   .of "destination_port_operator" (·.destinationPortOperator)
     fun r v => { r with destinationPortOperator := v },
   .of "destination_port1" (·.destinationPort1) fun r v => { r with destinationPort1 := v },
   .of "destination_port2" (·.destinationPort2) fun r v => { r with destinationPort2 := v },
   .of "icmp_type" (·.icmpType) fun r v => { r with icmpType := v },
   .of "icmp_code" (·.icmpCode) fun r v => { r with icmpCode := v },
   .of "dscp" (·.dscp) fun r v => { r with dscp := v },
   .of "precedence" (·.precedence) fun r v => { r with precedence := v },
   .of "tos" (·.tos) fun r v => { r with tos := v },
   .of "established" (·.established) fun r v => { r with established := v },
   .of "tcp_flags" (·.tcpFlags) fun r v => { r with tcpFlags := v },
   .of "ttl_operator" (·.ttlOperator) fun r v => { r with ttlOperator := v },
   .of "ttl_value1" (·.ttlValue1) fun r v => { r with ttlValue1 := v },
   .of "ttl_value2" (·.ttlValue2) fun r v => { r with ttlValue2 := v },
   .of "time_range" (·.timeRange) fun r v => { r with timeRange := v },
   .of "vpn_instance" (·.vpnInstance) fun r v => { r with vpnInstance := v },
   .of "fragment" (·.fragment) fun r v => { r with fragment := v },
   .of "logging" (·.logging) fun r v => { r with logging := v },
   .of "counting" (·.counting) fun r v => { r with counting := v },
   .of "id" (·.id) fun r v => { r with id := v }]

instance : Described AclRule := .record AclRule.fields {} .none

structure Acl where
  number : String := ""
  name : String := ""
  description : String := ""
  kind : String := "advanced"
  matchOrder : String := "config"
  step : String := ""
  rules : List AclRule := []
  id : String := ""

def Acl.fields : List (Field Acl) :=
  [.of "number" (·.number) fun r v => { r with number := v },
   .of "name" (·.name) fun r v => { r with name := v },
   .of "description" (·.description) fun r v => { r with description := v },
   .of "type" (·.kind) fun r v => { r with kind := v },
   .of "match_order" (·.matchOrder) fun r v => { r with matchOrder := v },
   .of "step" (·.step) fun r v => { r with step := v },
   .of "rules" (·.rules) fun r v => { r with rules := v },
   .of "id" (·.id) fun r v => { r with id := v }]

instance : Described Acl := .record Acl.fields {} .none

structure Acls where
  enabled : Bool := false
  acls : List Acl := []

def Acls.fields : List (Field Acls) :=
  [.of "enabled" (·.enabled) fun r v => { r with enabled := v },
   .of "acls" (·.acls) fun r v => { r with acls := v }]

instance : Described Acls := .record Acls.fields {} .none

end Netscribe
