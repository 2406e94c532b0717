import Mathlib.Data.List.Flatten
import Netscribe.Acl.Commands
import Netscribe.ObjectGroup.Commands
import Netscribe.Proofs.Script.Comparison
import Netscribe.Proofs.View.Entries
/-!
Comparisons of ports and of the time to live, in the lines of ACL rules and of services. A
comparison that lacks a bound should be left out of its line. Without its first bound it is; a range
without its second one is written all the same.
-/
namespace Netscribe

namespace Comparison

variable {keyword : String}

private theorem isWriting_portMatch :
    IsWriting (fun c => AclRule.portMatch c.operator c.low c.high) "" := by
  constructor
  · intro c h
    obtain ⟨hoperator, hlow, hhigh⟩ := isComplete_iff.mp h
    rw [AclRule.portMatch, if_neg (not_or.mpr ⟨hoperator, hlow⟩), phrase]
    have hsecond : (c.operator = "range" ∧ c.high ≠ "") ↔ c.operator = "range" :=
      and_iff_left_of_imp hhigh
    simp only [textIf, hsecond]
    simp
  · intro c h
    rw [AclRule.portMatch, if_pos h]
  · intro c h
    obtain ⟨hoperator, hlow, hhigh⟩ := isHalfRange_iff.mp h
    rw [AclRule.portMatch, hoperator, if_neg (by simp [hlow])]
    simp +decide

private theorem isWriting_vrpPorts (hkeyword : keyword ≠ "") :
    IsWriting (fun c => AclRule.vrpPorts keyword c.operator c.low c.high) keyword :=
  isWriting_portMatch.behind hkeyword

private theorem isWriting_portClause (keyword : String) :
    IsWriting (fun c => ServiceMember.portClause keyword c.operator c.low c.high) keyword := by
  constructor
  · intro c h
    obtain ⟨hoperator, hlow, -⟩ := isComplete_iff.mp h
    rw [ServiceMember.portClause, if_neg (not_or.mpr ⟨hoperator, hlow⟩)]
    rfl
  · intro c h
    rw [ServiceMember.portClause, if_pos h]
  · intro c h
    obtain ⟨hoperator, hlow, -⟩ := isHalfRange_iff.mp h
    rw [ServiceMember.portClause, hoperator, if_neg (by simp [hlow])]
    simp +decide

end Comparison

namespace AclRule

def source (r : AclRule) : Comparison := ⟨r.sourcePortOperator, r.sourcePort1, r.sourcePort2⟩

def destination (r : AclRule) : Comparison :=
  ⟨r.destinationPortOperator, r.destinationPort1, r.destinationPort2⟩

def ttl (r : AclRule) : Comparison := ⟨r.ttlOperator, r.ttlValue1, r.ttlValue2⟩

/-- Only these protocols have ports. -/
abbrev IsPorted (r : AclRule) : Prop := r.protocol = "tcp" ∨ r.protocol = "udp"

/-- The comparisons that the line of a rule has a place for, each with its keyword. -/
def comparisons (vendor : Vendor) (basic : Bool) (r : AclRule) : List (String × Comparison) :=
  if basic then []
  else match vendor with
    | .cisco => if r.IsPorted then [("", r.source), ("", r.destination)] else []
    | .huawei =>
      (if r.IsPorted then [("source-port", r.source), ("destination-port", r.destination)] else [])
        ++ [("ttl", r.ttl)]
    | .h3c =>
      if r.IsPorted then [("source-port", r.source), ("destination-port", r.destination)] else []
    | .generic => []

/-- The lines of a rule in a list of a vendor. -/
def lines (vendor : Vendor) (basic : Bool) (r : AclRule) : List String :=
  match vendor with
  | .cisco => [r.ciscoLine basic]
  | .huawei | .h3c => [r.vrpLine vendor basic]
  | .generic => []

/-- The rule without the comparisons that lack a bound. -/
def completed (r : AclRule) : AclRule :=
  { r with
    sourcePortOperator := r.source.ifComplete.operator
    destinationPortOperator := r.destination.ifComplete.operator
    ttlOperator := r.ttl.ifComplete.operator }

private theorem source_completed (r : AclRule) : r.completed.source = r.source.ifComplete :=
  r.source.mk_ifComplete

private theorem destination_completed (r : AclRule) :
    r.completed.destination = r.destination.ifComplete :=
  r.destination.mk_ifComplete

private theorem ttl_completed (r : AclRule) :
    r.completed.ttl = r.ttl.ifComplete := r.ttl.mk_ifComplete

/-- Ports, behind a keyword. -/
def ports (keyword : String) (hkeyword : keyword ≠ "") : Comparison.Writer :=
  ⟨keyword, _, Comparison.isWriting_vrpPorts hkeyword⟩

/-- Ports in a line that has no keyword for them. -/
def plainPorts : Comparison.Writer := ⟨"", _, Comparison.isWriting_portMatch⟩

/-- The ports of a rule behind keywords, if the rule has any. -/
def vrpPortPieces (r : AclRule) : List Piece :=
  if r.IsPorted then
    [.comparison (ports "source-port" (by decide)) r.source,
     .comparison (ports "destination-port" (by decide)) r.destination]
  else []

def ttlPieces (vendor : Vendor) (r : AclRule) : List Piece :=
  if vendor = .huawei then [.comparison (ports "ttl" (by decide)) r.ttl] else []

/-- The line of an advanced rule of H3C or Huawei, piece by piece. -/
def vrpPieces (vendor : Vendor) (r : AclRule) : List Piece :=
  let protocol := if r.protocol = "" ∧ vendor = .huawei then "ip" else r.protocol
  .fixed (" rule" ++ textIf (r.explicitId ≠ "") s!" {r.explicitId}" ++ s!" {r.action}"
      ++ textIf (protocol ≠ "") s!" {protocol}" ++ r.vrpSource ++ r.vrpDestination)
    :: r.vrpPortPieces
    ++ .fixed (r.vrpFlags vendor ++ r.icmp "icmp-type ") :: r.ttlPieces vendor
    ++ [.fixed (textIf (r.dscp ≠ "") s!" dscp {r.dscp}"
      ++ textIf (r.precedence ≠ "") s!" precedence {r.precedence}"
      ++ textIf (r.tos ≠ "") s!" tos {r.tos}" ++ r.vrpOptions vendor)]

def ciscoPortPieces (r : AclRule) (c : Comparison) : List Piece :=
  if r.IsPorted then [.comparison plainPorts c] else []

/-- The line of an extended rule of Cisco, piece by piece. -/
def ciscoPieces (r : AclRule) : List Piece :=
  let protocol := if r.protocol = "" then "ip" else r.protocol
  .fixed (textIf (r.explicitId ≠ "") s!" {r.explicitId}" ++ s!" {r.action}"
      ++ s!" {protocol} {r.ciscoSource}")
    :: r.ciscoPortPieces r.source
    ++ .fixed s!" {r.ciscoDestination}" :: r.ciscoPortPieces r.destination
    ++ [.fixed (r.ciscoFlags ++ r.icmp ""
      ++ (if r.dscp ≠ "" then s!" dscp {r.dscp}"
        else textIf (r.precedence ≠ "") s!" precedence {r.precedence}")
      ++ textIf (r.tos ≠ "") s!" tos {r.tos}"
      ++ textIf r.fragment " fragments"
      ++ textIf (r.timeRange ≠ "") s!" time-range {r.timeRange}"
      ++ textIf r.logging " log")]

private theorem line_vrpPortPieces (r : AclRule) :
    Piece.line r.vrpPortPieces =
      textIf r.IsPorted (vrpPorts "source-port" r.sourcePortOperator r.sourcePort1 r.sourcePort2)
        ++ textIf r.IsPorted (vrpPorts "destination-port" r.destinationPortOperator
          r.destinationPort1 r.destinationPort2) := by
  rw [vrpPortPieces]
  split
  next hported =>
    rw [textIf_of hported, textIf_of hported, Piece.line_cons, Piece.line_cons, Piece.line_nil,
      String.append_empty]
    rfl
  next hother =>
    rw [textIf_of_not hother, textIf_of_not hother]
    rfl

/-- The time to live is written like ports are. -/
theorem line_ttlPieces (vendor : Vendor) (r : AclRule) :
    Piece.line (r.ttlPieces vendor) = r.vrpTtl vendor := by
  rw [ttlPieces, vrpTtl]
  split
  next hhuawei =>
    rw [Piece.line_cons, Piece.line_nil, String.append_empty]
    change vrpPorts "ttl" r.ttlOperator r.ttlValue1 r.ttlValue2 = _
    rw [vrpPorts, portMatch]
    by_cases hnone : r.ttlOperator = "" ∨ r.ttlValue1 = ""
    · have hunset : ¬(vendor = .huawei ∧ r.ttlOperator ≠ "" ∧ r.ttlValue1 ≠ "") := by tauto
      rw [if_pos hnone, textIf_of_not hunset]
      rfl
    · have hset : vendor = .huawei ∧ r.ttlOperator ≠ "" ∧ r.ttlValue1 ≠ "" := by tauto
      have hwritten : s!" {r.ttlOperator} {r.ttlValue1}"
          ++ textIf (r.ttlOperator = "range" ∧ r.ttlValue2 ≠ "") s!" {r.ttlValue2}" ≠ "" := by
        simp +decide
      rw [if_neg hnone, textIf_of hwritten, textIf_of hset]
      simp only [String.append_assoc]
      rfl
  next hother => exact (textIf_of_not (fun hset => hother hset.1) _).symm

private theorem line_ciscoPortPieces (r : AclRule) (c : Comparison) :
    Piece.line (r.ciscoPortPieces c) =
      textIf r.IsPorted (portMatch c.operator c.low c.high) := by
  rw [ciscoPortPieces]
  split
  next hported =>
    rw [textIf_of hported, Piece.line_cons, Piece.line_nil, String.append_empty]
    rfl
  next hother =>
    rw [textIf_of_not hother]
    rfl

private theorem line_vrpPieces (vendor : Vendor) (r : AclRule) :
    Piece.line (r.vrpPieces vendor) = r.vrpLine vendor false := by
  unfold vrpLine vrpAdvanced vrpPieces
  simp only [Piece.line_cons, Piece.line_append, Piece.line_nil, Piece.text, line_vrpPortPieces,
    line_ttlPieces, String.append_assoc, String.append_empty, Bool.false_eq_true, if_false]

private theorem line_ciscoPieces (r : AclRule) : Piece.line r.ciscoPieces = r.ciscoLine false := by
  -- the line asks for ports of the protocol that it writes, which is `ip` when none is set
  have hported : ((if r.protocol = "" then "ip" else r.protocol) = "tcp" ∨
      (if r.protocol = "" then "ip" else r.protocol) = "udp") ↔ r.IsPorted := by
    split
    next hnone => simp +decide [hnone, IsPorted]
    next => rfl
  have hports (c : Comparison) : Piece.line (r.ciscoPortPieces c) =
      textIf ((if r.protocol = "" then "ip" else r.protocol) = "tcp" ∨
        (if r.protocol = "" then "ip" else r.protocol) = "udp")
          (portMatch c.operator c.low c.high) := by
    simp only [line_ciscoPortPieces, textIf, hported]
  unfold ciscoLine ciscoAdvanced ciscoPieces
  simp only [Piece.line_cons, Piece.line_append, Piece.line_nil, Piece.text, hports,
    String.append_assoc, String.append_empty, Bool.false_eq_true, if_false]
  rfl

section Completed

variable (vendor : Vendor) (r : AclRule)

private theorem vrpPieces_completed :
    r.completed.vrpPieces vendor = (r.vrpPieces vendor).map Piece.completed := by
  have hports : r.completed.vrpPortPieces = r.vrpPortPieces.map Piece.completed := by
    rw [vrpPortPieces, vrpPortPieces, source_completed, destination_completed,
      apply_ite (List.map Piece.completed)]
    rfl
  have httl : r.completed.ttlPieces vendor = (r.ttlPieces vendor).map Piece.completed := by
    rw [ttlPieces, ttlPieces, ttl_completed, apply_ite (List.map Piece.completed)]
    rfl
  rw [vrpPieces, vrpPieces, hports, httl]
  simp only [List.map_cons, List.map_append, List.map_nil]
  rfl

private theorem ciscoPieces_completed :
    r.completed.ciscoPieces = r.ciscoPieces.map Piece.completed := by
  have hports (c : Comparison) :
      r.completed.ciscoPortPieces c.ifComplete = (r.ciscoPortPieces c).map Piece.completed := by
    rw [ciscoPortPieces, ciscoPortPieces, apply_ite (List.map Piece.completed)]
    rfl
  rw [ciscoPieces, ciscoPieces, source_completed, destination_completed, hports, hports]
  simp only [List.map_cons, List.map_append, List.map_nil]
  rfl

private theorem filterMap_vrpPieces : (r.vrpPieces vendor).filterMap Piece.comparison? =
    (if r.IsPorted then [("source-port", r.source), ("destination-port", r.destination)] else [])
      ++ if vendor = .huawei then [("ttl", r.ttl)] else [] := by
  have hports : r.vrpPortPieces.filterMap Piece.comparison? =
      if r.IsPorted then [("source-port", r.source), ("destination-port", r.destination)]
      else [] := by
    rw [vrpPortPieces, apply_ite (List.filterMap Piece.comparison?)]
    rfl
  have httl : (r.ttlPieces vendor).filterMap Piece.comparison? =
      if vendor = .huawei then [("ttl", r.ttl)] else [] := by
    rw [ttlPieces, apply_ite (List.filterMap Piece.comparison?)]
    rfl
  simp only [vrpPieces, List.filterMap_append, List.filterMap_cons, List.filterMap_nil,
    Piece.comparison?, List.append_nil, hports, httl]

private theorem filterMap_ciscoPieces : r.ciscoPieces.filterMap Piece.comparison? =
    if r.IsPorted then [("", r.source), ("", r.destination)] else [] := by
  have hports (c : Comparison) : (r.ciscoPortPieces c).filterMap Piece.comparison? =
      if r.IsPorted then [("", c)] else [] := by
    rw [ciscoPortPieces, apply_ite (List.filterMap Piece.comparison?)]
    rfl
  simp only [ciscoPieces, List.filterMap_append, List.filterMap_cons, List.filterMap_nil,
    Piece.comparison?, List.append_nil, hports]
  split <;> rfl

end Completed

/-- A basic rule has no place for comparisons. -/
theorem lines_completed_basic (vendor : Vendor) (r : AclRule) :
    r.completed.lines vendor true = r.lines vendor true := by
  have hid : r.completed.explicitId = r.explicitId := rfl
  have hoptions : r.completed.vrpOptions vendor = r.vrpOptions vendor := by
    unfold vrpOptions
    simp only [completed]
    rfl
  have hvrp : r.completed.vrpLine vendor true = r.vrpLine vendor true := by
    simp only [vrpLine, hid, hoptions, if_true]
    rfl
  have hcisco : r.completed.ciscoLine true = r.ciscoLine true := by
    simp only [ciscoLine, hid, if_true]
    rfl
  cases vendor with
  | cisco => exact congrArg List.singleton hcisco
  | huawei | h3c => exact congrArg List.singleton hvrp
  | generic => rfl

private theorem writesComparisons (vendor : Vendor) (basic : Bool) (r : AclRule) :
    WritesComparisons (r.lines vendor basic) (r.completed.lines vendor basic)
      (r.comparisons vendor basic) := by
  have hvrp (vendor : Vendor) : WritesComparisons [r.vrpLine vendor false]
      [r.completed.vrpLine vendor false] ((r.vrpPieces vendor).filterMap Piece.comparison?) := by
    refine .singleton (line_vrpPieces vendor r) ?_
    rw [← vrpPieces_completed, line_vrpPieces]
  have hcisco : WritesComparisons [r.ciscoLine false] [r.completed.ciscoLine false]
      (r.ciscoPieces.filterMap Piece.comparison?) := by
    refine .singleton (line_ciscoPieces r) ?_
    rw [← ciscoPieces_completed, line_ciscoPieces]
  cases basic with
  | true =>
    rw [lines_completed_basic]
    exact .nothing (r.lines vendor true)
  | false =>
    cases vendor with
    | cisco =>
      rw [filterMap_ciscoPieces] at hcisco
      exact hcisco
    | huawei =>
      have hhuawei := hvrp .huawei
      rw [filterMap_vrpPieces] at hhuawei
      exact hhuawei
    | h3c =>
      have hh3c := hvrp .h3c
      rw [filterMap_vrpPieces, if_neg (c := Vendor.h3c = .huawei) (by decide),
        List.append_nil] at hh3c
      exact hh3c
    | generic => exact .nothing _

end AclRule

private theorem map_snd_numbered {α : Type} (start : Nat) (xs : List α) :
    (numbered start xs).map Prod.snd = xs :=
  List.ext_getElem (by simp [numbered]) (by simp [numbered])

/-- Of the entries around and within repeated blocks, some are of interest. -/
theorem sublist_written_flatMap {α : Type} (front rest : List Entry) {block : α → List Entry}
    {lines : α → List String} {xs : List α} (h : ∀ x ∈ xs, (lines x).Sublist (written (block x))) :
    (xs.flatMap lines).Sublist (written (front ++ xs.flatMap block ++ rest)) := by
  have hblocks : (xs.flatMap lines).Sublist (written (xs.flatMap block)) := by
    rw [written, List.filterMap_flatMap]
    exact List.Sublist.flatMap_right xs h
  rw [written_append, written_append]
  exact (hblocks.trans (List.sublist_append_right _ _)).trans (List.sublist_append_left _ _)

namespace Acl

/-- The commands of a list. -/
def block (vendor : Vendor) (a : Acl) : List Entry :=
  match vendor with
  | .cisco => a.ciscoEntries
  | .huawei => a.huaweiEntries
  | .h3c => a.h3cEntries
  | .generic => []

def ruleLines (vendor : Vendor) (a : Acl) : List String :=
  a.rules.flatMap (·.lines vendor a.isBasic)

/-- The lines of the rules are written in the order of the rules. -/
theorem ruleLines_sublist (vendor : Vendor) (a : Acl) :
    (a.ruleLines vendor).Sublist (written (a.block vendor)) := by
  rw [ruleLines]
  cases vendor with
  | cisco =>
    refine sublist_written_flatMap _ _ fun r _ => ?_
    rw [written_append]
    exact List.sublist_append_right _ _
  | huawei =>
    refine sublist_written_flatMap _ _ fun r _ => ?_
    exact (List.nil_sublist _).cons_cons _
  | h3c =>
    refine sublist_written_flatMap _ _ fun r _ => ?_
    rw [written_append]
    exact List.sublist_append_right _ _
  | generic =>
    have hnone : a.rules.flatMap (·.lines .generic a.isBasic) = [] :=
      List.flatMap_eq_nil_iff.mpr fun _ _ => rfl
    rw [hnone]
    exact List.nil_sublist _

end Acl

namespace ServiceMember

def source (m : ServiceMember) : Comparison := ⟨m.sourcePortOperator, m.sourcePort1, m.sourcePort2⟩

def destination (m : ServiceMember) : Comparison :=
  ⟨m.destinationPortOperator, m.destinationPort1, m.destinationPort2⟩

/-- The keywords of a vendor for the two comparisons. -/
def keywords : Vendor → String × String
  | .huawei => ("source-port", "destination-port")
  | .h3c => ("source", "destination")
  | .cisco | .generic => ("source", "")

/-- The comparisons that the line of a member has a place for, each with its keyword. -/
def comparisons (vendor : Vendor) (m : ServiceMember) : List (String × Comparison) :=
  if vendor ≠ .generic ∧ m.hasPorts then
    [((keywords vendor).1, m.source), ((keywords vendor).2, m.destination)]
  else []

/-- The lines of a member that has a given number in its group. -/
def lines (vendor : Vendor) (index : Nat) (m : ServiceMember) : List String :=
  match vendor with
  | .huawei => [s!" service {index} protocol" ++ m.body "source-port" "destination-port"]
  | .h3c => [s!" {index} service" ++ m.body "source" "destination"]
  | .cisco => written m.ciscoEntries
  | .generic => []

/-- The member without the comparisons that lack a bound. -/
def completed (m : ServiceMember) : ServiceMember :=
  { m with
    sourcePortOperator := m.source.ifComplete.operator
    destinationPortOperator := m.destination.ifComplete.operator }

private theorem source_completed (m : ServiceMember) : m.completed.source = m.source.ifComplete :=
  m.source.mk_ifComplete

private theorem destination_completed (m : ServiceMember) :
    m.completed.destination = m.destination.ifComplete := m.destination.mk_ifComplete

/-- Ports, behind a keyword that may be empty. -/
def ports (keyword : String) : Comparison.Writer :=
  ⟨keyword, _, Comparison.isWriting_portClause keyword⟩

/-- A line of a member, between what stands before its ports and what stands behind them. -/
def pieces (before after : String) (keywords : String × String) (m : ServiceMember) : List Piece :=
  .fixed before
    :: (if m.hasPorts then
        [.comparison (ports keywords.1) m.source, .comparison (ports keywords.2) m.destination]
      else [])
    ++ [.fixed after]

private theorem line_pieces (before after : String) (keywords : String × String)
    (m : ServiceMember) :
    Piece.line (m.pieces before after keywords) =
      before ++ m.sourceClause keywords.1 ++ m.destinationClause keywords.2 ++ after := by
  rw [pieces, sourceClause, destinationClause]
  by_cases hported : m.hasPorts
  · rw [if_pos hported, textIf_of hported, textIf_of hported]
    simp only [Piece.line_cons, Piece.line_append, Piece.line_nil, Piece.text, String.append_assoc,
      String.append_empty]
    rfl
  · rw [if_neg hported, textIf_of_not hported, textIf_of_not hported]
    simp only [Piece.line_cons, Piece.line_append, Piece.line_nil, Piece.text, String.append_empty]

private theorem pieces_completed (before after : String) (keywords : String × String)
    (m : ServiceMember) :
    m.completed.pieces before after keywords =
      (m.pieces before after keywords).map Piece.completed := by
  rw [pieces, pieces, source_completed, destination_completed, List.map_append, List.map_cons,
    apply_ite (List.map Piece.completed)]
  rfl

private theorem writesComparisons_pieces (before after : String) (keywords : String × String)
    (m : ServiceMember) :
    WritesComparisons
      [before ++ m.sourceClause keywords.1 ++ m.destinationClause keywords.2 ++ after]
      [before ++ m.completed.sourceClause keywords.1 ++ m.completed.destinationClause keywords.2
        ++ after]
      (if m.hasPorts then [(keywords.1, m.source), (keywords.2, m.destination)] else []) := by
  have hcomparisons : (m.pieces before after keywords).filterMap Piece.comparison? =
      if m.hasPorts then [(keywords.1, m.source), (keywords.2, m.destination)] else [] := by
    rw [pieces, List.filterMap_append, List.filterMap_cons_none rfl,
      apply_ite (List.filterMap Piece.comparison?)]
    exact List.append_nil _
  rw [← hcomparisons]
  refine .singleton (line_pieces before after keywords m) ?_
  rw [← pieces_completed, line_pieces]

/-- What a line of a member says before its ports. -/
def protocolText (m : ServiceMember) : String :=
  if m.protocol = "custom" then
    textIf (m.customProtocolNumber ≠ "") s!" {m.customProtocolNumber}"
  else s!" {m.protocol}"

/-- What a line of a member says behind its ports. -/
def messageText (m : ServiceMember) : String :=
  textIf (m.protocol = "icmp" ∧ m.icmpType ≠ "")
    (s!" icmp-type {m.icmpType}" ++ textIf (m.icmpCode ≠ "") s!" {m.icmpCode}")

private theorem append_body (front : String) (keywords : String × String) (m : ServiceMember) :
    front ++ m.body keywords.1 keywords.2 = (front ++ m.protocolText) ++ m.sourceClause keywords.1
      ++ m.destinationClause keywords.2 ++ m.messageText := by
  unfold body protocolText messageText
  simp only [String.append_assoc]

private theorem writesComparisons_body (front : String) (keywords : String × String)
    (m : ServiceMember) :
    WritesComparisons [front ++ m.body keywords.1 keywords.2]
      [front ++ m.completed.body keywords.1 keywords.2]
      (if m.hasPorts then [(keywords.1, m.source), (keywords.2, m.destination)] else []) := by
  have hprotocol : m.completed.protocolText = m.protocolText := rfl
  have hmessage : m.completed.messageText = m.messageText := rfl
  rw [append_body, append_body, hprotocol, hmessage]
  exact writesComparisons_pieces (front ++ m.protocolText) m.messageText keywords m

/-- A device that takes custom protocols by their number gets nothing else of them. -/
theorem writesComparisons_ciscoEntries (m : ServiceMember) :
    WritesComparisons (written m.ciscoEntries) (written m.completed.ciscoEntries)
      (if m.hasPorts then [("source", m.source), ("", m.destination)] else []) := by
  by_cases hcustom : m.protocol = "custom"
  · have hports : ¬m.hasPorts := by simp [hasPorts, hcustom]
    have hsame : m.completed.ciscoEntries = m.ciscoEntries := by
      rw [ciscoEntries, ciscoEntries, if_pos hcustom,
        if_pos (c := m.completed.protocol = "custom") hcustom]
      rfl
    rw [if_neg hports, hsame]
    exact .nothing _
  · have hline (m : ServiceMember) (hprotocol : m.protocol ≠ "custom") :
        written m.ciscoEntries = [s!" {m.protocol}" ++ m.sourceClause "source"
          ++ m.destinationClause ""
          ++ textIf (m.protocol = "icmp" ∧ m.icmpType ≠ "") s!" {m.icmpType}"] := by
      rw [ciscoEntries, if_neg hprotocol]
      rfl
    rw [hline m hcustom, hline m.completed hcustom]
    exact writesComparisons_pieces s!" {m.protocol}"
      (textIf (m.protocol = "icmp" ∧ m.icmpType ≠ "") s!" {m.icmpType}") ("source", "") m

private theorem writesComparisons (vendor : Vendor) (index : Nat) (m : ServiceMember) :
    WritesComparisons (m.lines vendor index) (m.completed.lines vendor index)
      (m.comparisons vendor) := by
  have hvrp (vendor : Vendor) (hvendor : vendor ≠ .generic) : m.comparisons vendor =
      if m.hasPorts then [((keywords vendor).1, m.source), ((keywords vendor).2, m.destination)]
      else [] := by
    simp only [comparisons, hvendor, ne_eq, not_false_eq_true, true_and]
  cases vendor with
  | huawei =>
    rw [hvrp _ (by decide)]
    exact writesComparisons_body s!" service {index} protocol" (keywords .huawei) m
  | h3c =>
    rw [hvrp _ (by decide)]
    exact writesComparisons_body s!" {index} service" (keywords .h3c) m
  | cisco =>
    rw [hvrp _ (by decide)]
    exact writesComparisons_ciscoEntries m
  | generic => exact .nothing []

end ServiceMember

namespace ServiceGroup

/-- The commands of a group. -/
def block (vendor : Vendor) (g : ServiceGroup) : List Entry :=
  match vendor with
  | .cisco => g.ciscoEntries
  | .huawei => g.huaweiEntries
  | .h3c => g.h3cEntries
  | .generic => []

/-- The members with their numbers. A device whose members have none ignores these. -/
def numberedMembers (vendor : Vendor) (g : ServiceGroup) : List (Nat × ServiceMember) :=
  numbered (if vendor = .huawei then 0 else 1) g.members

def memberLines (vendor : Vendor) (g : ServiceGroup) : List String :=
  (g.numberedMembers vendor).flatMap fun (i, m) => m.lines vendor i

/-- The lines of the members are written in the order of the members. -/
theorem memberLines_sublist (vendor : Vendor) (g : ServiceGroup) :
    (g.memberLines vendor).Sublist (written (g.block vendor)) := by
  have hmap {f : Nat × ServiceMember → Entry} (members : List (Nat × ServiceMember)) :
      members.map f = members.flatMap fun member => [f member] :=
    List.map_eq_flatMap
  rw [memberLines, numberedMembers]
  cases vendor with
  | cisco =>
    have hmembers : (numbered 1 g.members).flatMap (fun member => member.2.ciscoEntries) =
        g.members.flatMap ServiceMember.ciscoEntries := by
      rw [← List.flatMap_map Prod.snd, map_snd_numbered]
    unfold block ciscoEntries
    dsimp only
    rw [← hmembers]
    exact sublist_written_flatMap _ _ fun member _ => List.Sublist.refl _
  | huawei =>
    unfold block huaweiEntries
    dsimp only
    rw [hmap]
    exact sublist_written_flatMap _ _ fun member _ => List.Sublist.refl _
  | h3c =>
    unfold block h3cEntries
    dsimp only
    rw [hmap]
    exact sublist_written_flatMap _ _ fun member _ => List.Sublist.refl _
  | generic =>
    have hnone : (numbered 1 g.members).flatMap (fun (i, m) => m.lines .generic i) = [] :=
      List.flatMap_eq_nil_iff.mpr fun _ _ => rfl
    exact hnone ▸ List.nil_sublist _

end ServiceGroup

/-- The lines of the rules of a list, and of the members of a service group, stand among its
    commands. Each is written as if every comparison that lacks a bound were left out of it, unless
    it has a place for a range of which only the first bound is set. Every comparison that has its
    bounds is written with them. -/
theorem incomplete_comparisons_left_out (vendor : Vendor) :
    (∀ a : Acl, (a.ruleLines vendor).Sublist (written (a.block vendor))) ∧
    (∀ basic (r : AclRule), WritesComparisons (r.lines vendor basic)
      (r.completed.lines vendor basic) (r.comparisons vendor basic)) ∧
    (∀ g : ServiceGroup, (g.memberLines vendor).Sublist (written (g.block vendor))) ∧
    ∀ index (m : ServiceMember), WritesComparisons (m.lines vendor index)
      (m.completed.lines vendor index) (m.comparisons vendor) :=
  ⟨Acl.ruleLines_sublist vendor, AclRule.writesComparisons vendor,
    ServiceGroup.memberLines_sublist vendor, ServiceMember.writesComparisons vendor⟩

/-- Ranges of which only the first bound is set, in all places that there are for comparisons. -/
theorem half_ranges_are_written :
    let rule : AclRule :=
      { protocol := "tcp", sourceIsAny := true, destinationIsAny := true,
        sourcePortOperator := "range", sourcePort1 := "1000",
        destinationPortOperator := "range", destinationPort1 := "2000",
        ttlOperator := "range", ttlValue1 := "5" }
    let member : ServiceMember :=
      { sourcePortOperator := "range", sourcePort1 := "1000",
        destinationPortOperator := "range", destinationPort1 := "2000" }
    rule.lines .h3c false = [" rule permit tcp source any destination any source-port range 1000" ++
      " destination-port range 2000"] ∧
    rule.completed.lines .h3c false = [" rule permit tcp source any destination any"] ∧
    rule.lines .huawei false = [" rule permit tcp source any destination any" ++
      " source-port range 1000 destination-port range 2000 ttl range 5"] ∧
    rule.completed.lines .huawei false = [" rule permit tcp source any destination any"] ∧
    rule.lines .cisco false = [" permit tcp any range 1000 any range 2000"] ∧
    rule.completed.lines .cisco false = [" permit tcp any any"] ∧
    member.lines .h3c 1 = [" 1 service tcp source range 1000  destination range 2000 "] ∧
    member.completed.lines .h3c 1 = [" 1 service tcp"] ∧
    member.lines .huawei 0 =
      [" service 0 protocol tcp source-port range 1000  destination-port range 2000 "] ∧
    member.completed.lines .huawei 0 = [" service 0 protocol tcp"] ∧
    member.lines .cisco 1 = [" tcp source range 1000  range 2000 "] ∧
    member.completed.lines .cisco 1 = [" tcp"] := by
  decide +kernel

end Netscribe
