import Netscribe.Nat.Commands
import Netscribe.Proofs.Dialect.StandardRules
import Netscribe.Proofs.Fault.Reading
import Netscribe.Proofs.Script.Comparison
/-!
Huawei servers behind a public address, in Cisco words. The line of such a server gives each value
behind a keyword, and the translation looks for the first word that equals the keyword. A value in
front of the keyword that is spelled like it is therefore taken for it.
-/
namespace Netscribe

namespace Text

private theorem IsWord.of_allDigits {s : String} (h : allDigits s) : IsWord s :=
  ⟨of_decide_eq_true ((Bool.and_eq_true _ _).mp h).1,
    fun _ => isBlank_eq_false_of_mem_allDigits h⟩

end Text

namespace Dialect.Huawei

/-- Behind a keyword stands what follows its first occurrence. -/
theorem wordAfter_append {front : List String} {keyword : String} (h : keyword ∉ front)
    (rest : List String) (distance : Nat) :
    wordAfter (front ++ keyword :: rest) keyword (distance + 1) = rest.getD distance "" := by
  rw [wordAfter, List.idxOf_append_of_notMem h, List.idxOf_cons_self, Nat.add_zero,
    List.getD_eq_getElem?_getD, List.getElem?_append_right (Nat.le_add_right _ _),
    Nat.add_sub_cancel_left, List.getElem?_cons_succ, List.getD_eq_getElem?_getD]

/-- A keyword with two words behind it has two words behind its first occurrence. -/
theorem isWord_wordAfter {front : List String} {keyword first second : String}
    {rest : List String}
    (hall : ∀ word ∈ front ++ keyword :: first :: second :: rest, Text.IsWord word)
    {distance : Nat} (h : distance ≤ 2) :
    Text.IsWord (wordAfter (front ++ keyword :: first :: second :: rest) keyword distance) := by
  have hindex : (front ++ keyword :: first :: second :: rest).idxOf keyword ≤ front.length := by
    by_cases hfront : keyword ∈ front
    · rw [List.idxOf_append_of_mem hfront]
      exact List.idxOf_le_length
    · rw [List.idxOf_append_of_notMem hfront, List.idxOf_cons_self, Nat.add_zero]
  have hlength : (front ++ keyword :: first :: second :: rest).idxOf keyword + distance <
      (front ++ keyword :: first :: second :: rest).length := by
    simp only [List.length_append, List.length_cons]
    omega
  rw [wordAfter, List.getD_eq_getElem?_getD, List.getElem?_eq_getElem hlength, Option.getD_some]
  exact hall _ (List.getElem_mem hlength)

/-- The Cisco line that maps one port of a public address to a port inside. -/
def mappingLine (protocol inside insidePort outside outsidePort : String) : String :=
  s!"ip nat inside source static {protocol} {inside} {insidePort} {outside} {outsidePort}"

private theorem mappingLine_eq_unwords (protocol inside insidePort outside outsidePort : String) :
    mappingLine protocol inside insidePort outside outsidePort =
      Text.unwords (["ip", "nat", "inside", "source", "static"] ++
        [protocol, inside, insidePort, outside, outsidePort]) := by
  have hfront : Text.unwords ["ip", "nat", "inside", "source", "static"] =
      "ip nat inside source static" := rfl
  have hline : mappingLine protocol inside insidePort outside outsidePort =
      "ip nat inside source static" ++ " " ++ protocol ++ " " ++ inside ++ " " ++ insidePort ++ " "
        ++ outside ++ " " ++ outsidePort := rfl
  rw [hline, Text.unwords_append (List.cons_ne_nil "ip" ["nat", "inside", "source", "static"])
    (List.cons_ne_nil protocol _), hfront]
  simp only [Text.unwords, Text.join, String.intercalate_cons_cons, String.intercalate_singleton,
    String.append_assoc]

private theorem words_mappingLine {protocol inside insidePort outside outsidePort : String}
    (h : ∀ word ∈ [protocol, inside, insidePort, outside, outsidePort], Text.IsWord word) :
    Text.words (mappingLine protocol inside insidePort outside outsidePort) =
      ["ip", "nat", "inside", "source", "static", protocol, inside, insidePort, outside,
        outsidePort] := by
  have hfront : ∀ word ∈ ["ip", "nat", "inside", "source", "static"], Text.IsWord word := by decide
  rw [mappingLine_eq_unwords, Text.words_unwords (List.forall_mem_append.mpr ⟨hfront, h⟩)]
  rfl

private theorem ciscoNatServer_eq_mappingLine {args : List String} (captures : Captures)
    (hprotocol : "protocol" ∈ args) (hglobal : "global" ∈ args) (hinside : "inside" ∈ args) :
    ciscoNatServer args captures =
      mappingLine (wordAfter args "protocol" 1) (wordAfter args "inside" 1)
        (portOr (wordAfter args "inside" 2) (portOr (wordAfter args "global" 2) "any"))
        (wordAfter args "global" 1) (portOr (wordAfter args "global" 2) "any") := by
  simp only [ciscoNatServer, List.contains_eq_mem, hprotocol, hglobal, hinside, decide_true,
    Bool.not_true, Bool.or_self, Bool.false_eq_true, if_true, if_false]
  rfl

private theorem portOr_of_allDigits {word : String} (h : Text.allDigits word) (other : String) :
    portOr word other = word := if_pos h

end Dialect.Huawei

namespace NatServer

open Dialect.Huawei

/-- A server with one public address and one address inside, each with one port. -/
structure IsPortMapping (s : NatServer) : Prop where
  name : Text.IsWord s.name
  zone : s.zone ≠ "" → Text.IsWord s.zone
  protocol : s.protocol = "tcp" ∨ s.protocol = "udp"
  globalAddressType : s.globalAddressType = "ip"
  globalAddress : Text.IsWord s.globalAddress
  globalAddressEnd : s.globalAddressEnd = ""
  globalPort : Text.allDigits s.globalPort
  globalPortEnd : s.globalPortEnd = ""
  insideHostAddress : Text.IsWord s.insideHostAddress
  insideHostAddressEnd : s.insideHostAddressEnd = ""
  insideHostPort : Text.allDigits s.insideHostPort
  insideHostPortEnd : s.insideHostPortEnd = ""

/-- The line that the translation is to give. -/
def staticMapping (s : NatServer) : String :=
  mappingLine s.protocol s.insideHostAddress s.insideHostPort s.globalAddress s.globalPort

/-- The zone as far as it is written. -/
def zoneWords (s : NatServer) (deviceType : DeviceType) : List String :=
  if s.zone ≠ "" ∧ deviceType = .firewall then ["zone", s.zone] else []

/-- What stands in front of the protocol. -/
def labelWords (s : NatServer) (deviceType : DeviceType) : List String :=
  ["name", s.name] ++ s.zoneWords deviceType

/-- The arguments of the command up to the options. -/
def arguments (s : NatServer) (deviceType : DeviceType) : List String :=
  s.labelWords deviceType ++ ["protocol", s.protocol, "global", s.globalAddress, s.globalPort,
    "inside", s.insideHostAddress, s.insideHostPort]

/-- What stands behind the ports. -/
def options (s : NatServer) : String :=
  textIf s.noReverse " no-reverse" ++ textIf s.route " route" ++ textIf s.disabled " nat-disable"
    ++ textIf (s.description ≠ "") s!" description \"{s.description}\""

variable {s : NatServer} {deviceType : DeviceType}

private theorem isOption_options (s : NatServer) : Text.IsOption s.options := by
  have hword (word : String) (h : Text.endsSolid word) : Text.IsOption (" " ++ word) := .of_blank h
  have hdescription : Text.IsOption s!" description \"{s.description}\"" :=
    hword ("description \"" ++ s.description ++ "\"") (Text.endsSolid_append _ (by decide))
  exact ((((hword "no-reverse" (by decide)).textIf).append
    ((hword "route" (by decide)).textIf)).append
      ((hword "nat-disable" (by decide)).textIf)).append hdescription.textIf

private theorem isWord_of_mem_labelWords (h : s.IsPortMapping) :
    ∀ word ∈ s.labelWords deviceType, Text.IsWord word := by
  refine List.forall_mem_append.mpr ⟨?_, ?_⟩
  · simpa using ⟨by decide, h.name⟩
  · rw [zoneWords]
    split
    next hzone => simpa using ⟨by decide, h.zone hzone.1⟩
    next => exact nofun

/-- What holds of both protocols holds of the one that the server is written for. -/
theorem IsPortMapping.of_protocol {p : String → Prop} (h : s.IsPortMapping) (htcp : p "tcp")
    (hudp : p "udp") : p s.protocol := by
  obtain hprotocol | hprotocol := h.protocol
  · rwa [hprotocol]
  · rwa [hprotocol]

private theorem IsPortMapping.isWord_protocol (h : s.IsPortMapping) : Text.IsWord s.protocol :=
  h.of_protocol (by decide) (by decide)

private theorem isWord_of_mem_arguments (h : s.IsPortMapping) :
    ∀ word ∈ s.arguments deviceType, Text.IsWord word := by
  refine List.forall_mem_append.mpr ⟨isWord_of_mem_labelWords h, ?_⟩
  simp only [List.forall_mem_cons]
  exact ⟨by decide, h.isWord_protocol, by decide, h.globalAddress, .of_allDigits h.globalPort,
    by decide, h.insideHostAddress, .of_allDigits h.insideHostPort, nofun⟩

/-- The line consists of its words, set apart by blanks. -/
theorem line_eq (h : s.IsPortMapping) :
    s.line deviceType =
      Text.unwords (["nat", "server"] ++ s.arguments deviceType) ++ s.options := by
  have hported : s.isPorted :=
    h.of_protocol (p := fun name => ["tcp", "udp", "sctp"].contains name) (by decide) (by decide)
  have hprotocol : s.protocol ≠ "" ∧ s.protocol ≠ "any" :=
    h.of_protocol (p := fun name => name ≠ "" ∧ name ≠ "any") (by decide) (by decide)
  have hspaced {word : String} (hword : Text.IsWord word) :
      spacedParts [word, ""] = " " ++ word := by
    simp [spacedParts, hword.1]
  have hglobal : s.globalPart = " " ++ s.globalAddress := by
    rw [globalPart, h.globalAddressType, h.globalAddressEnd, if_neg (by decide),
      hspaced h.globalAddress]
  have hzone : textIf (s.zone ≠ "" ∧ deviceType = .firewall) s!" zone {s.zone}" =
      String.join ((s.zoneWords deviceType).map (" " ++ ·)) := by
    rw [textIf, zoneWords]
    split
    · rfl
    · rfl
  unfold line
  rw [hzone, textIf_of hprotocol, hglobal, h.globalPortEnd, h.insideHostAddressEnd,
    h.insideHostPortEnd, hspaced (.of_allDigits h.globalPort), hspaced h.insideHostAddress,
    hspaced (.of_allDigits h.insideHostPort), textIf_of hported, textIf_of hported, options,
    arguments, labelWords, List.cons_append, Text.unwords_cons]
  simp only [List.map_append, String.join_append, List.map_cons, List.map_nil, String.join_cons,
    String.join_nil, List.nil_append, List.cons_append]
  have htext (s : String) : toString s = s := rfl
  rw [← String.toList_inj]
  simp [htext]

/-- The line as the command that the translation takes it for. -/
theorem isCall_line (h : s.IsPortMapping) :
    Rule.IsCall (Text.unwords ["nat", "server"]) (s.arguments deviceType ++ Text.words s.options)
      (s.line deviceType) := by
  rw [line_eq h]
  exact Rule.isCall_unwords_append (by decide)
    (List.append_ne_nil_of_right_ne_nil _ (List.cons_ne_nil _ _)) (isWord_of_mem_arguments h)
    (isOption_options s)

private theorem translate_line (h : s.IsPortMapping) :
    RuleTables.standard.translate .huawei .cisco (s.line deviceType) =
      .text (ciscoNatServer (s.arguments deviceType ++ Text.words s.options) []) := by
  have hlisted : (Dialect.contenders .huawei).lookup (Text.unwords ["nat", "server"]) =
      some [rule "nat server" "" [toCiscoBy ciscoNatServer]] := rfl
  refine (Dialect.translate_only (Dialect.mem_contenders hlisted) (by decide) rfl
    (isCall_line h)).trans ?_
  rfl

/-- The words that the translation looks for. -/
inductive Keyword
  | protocol
  | global
  | inside
  deriving DecidableEq, Repr

namespace Keyword

def text : Keyword → String
  | protocol => "protocol"
  | global => "global"
  | inside => "inside"

/-- The arguments in front of a keyword. -/
def front (s : NatServer) (deviceType : DeviceType) : Keyword → List String
  | protocol => s.labelWords deviceType
  | global => s.labelWords deviceType ++ ["protocol", s.protocol]
  | inside =>
    s.labelWords deviceType ++ ["protocol", s.protocol, "global", s.globalAddress, s.globalPort]

/-- The word that a keyword introduces. -/
def value (s : NatServer) : Keyword → String
  | protocol => s.protocol
  | global => s.globalAddress
  | inside => s.insideHostAddress

/-- The word behind that. -/
def port (s : NatServer) : Keyword → String
  | protocol => "global"
  | global => s.globalPort
  | inside => s.insideHostPort

private theorem exists_arguments_eq (s : NatServer) (deviceType : DeviceType) (k : Keyword) :
    ∃ rest, s.arguments deviceType ++ Text.words s.options =
      k.front s deviceType ++ k.text :: k.value s :: k.port s :: rest := by
  cases k with
  | protocol => exact ⟨_, List.append_assoc _ _ _⟩
  | global =>
    refine ⟨["inside", s.insideHostAddress, s.insideHostPort] ++ Text.words s.options, ?_⟩
    simp [arguments, front, text, value, port]
  | inside =>
    refine ⟨Text.words s.options, ?_⟩
    simp [arguments, front, text, value, port]

end Keyword

/-- No word in front of a keyword is spelled like it. -/
structure KeywordsStandOut (s : NatServer) (deviceType : DeviceType) : Prop where
  name : ∀ k : Keyword, s.name ≠ k.text
  zone : deviceType = .firewall → ∀ k : Keyword, s.zone ≠ k.text
  address : s.globalAddress ≠ "inside"

private theorem Keyword.text_ne (k : Keyword) :
    k.text ≠ "name" ∧ k.text ≠ "zone" ∧ k.text ≠ "" := by
  cases k <;> decide

private theorem text_not_mem_labelWords_iff {k : Keyword} :
    k.text ∉ s.labelWords deviceType ↔
      s.name ≠ k.text ∧ (deviceType = .firewall → s.zone ≠ k.text) := by
  obtain ⟨hname, hzone, hempty⟩ := k.text_ne
  rw [labelWords, zoneWords]
  split
  next hshown => simp [hname, hzone, hshown.2, eq_comm]
  next hhidden =>
    have hunset (hfirewall : deviceType = .firewall) : s.zone ≠ k.text := by
      rw [not_and'] at hhidden
      rw [not_ne_iff.mp (hhidden hfirewall)]
      exact hempty.symm
    simpa [hname, eq_comm] using fun _ => hunset

private theorem Keyword.text_ne_protocol (h : s.IsPortMapping) (k : Keyword) :
    k.text ≠ s.protocol := by
  apply h.of_protocol
  · cases k <;> decide
  · cases k <;> decide

/-- Between the label and a keyword only the public address can be taken for the keyword. -/
theorem Keyword.text_not_mem_front_iff {k : Keyword} (h : s.IsPortMapping) :
    k.text ∉ k.front s deviceType ↔
      k.text ∉ s.labelWords deviceType ∧ (k = .inside → s.globalAddress ≠ "inside") := by
  have hprotocol := Keyword.text_ne_protocol h
  have hport : s.globalPort ≠ "inside" := by
    intro hport
    exact absurd (hport ▸ h.globalPort) (by decide)
  cases k with
  | protocol => simp [front]
  | global => simpa [front, text] using fun _ => hprotocol .global
  | inside => simpa [front, text, hport.symm, eq_comm] using fun _ _ => (hprotocol .inside).symm

private theorem keywordsStandOut_iff (h : s.IsPortMapping) :
    s.KeywordsStandOut deviceType ↔ ∀ k : Keyword, k.text ∉ k.front s deviceType := by
  simp only [Keyword.text_not_mem_front_iff h, text_not_mem_labelWords_iff]
  constructor
  · rintro ⟨hname, hzone, haddress⟩ k
    exact ⟨⟨hname k, fun hfirewall => hzone hfirewall k⟩, fun _ => haddress⟩
  · intro hall
    exact ⟨fun k => (hall k).1.1, fun hfirewall k => (hall k).1.2 hfirewall, (hall .inside).2 rfl⟩

/-- The addresses are none of the words that may follow a name or a zone, nor the public port. -/
def AddressesStandApart (s : NatServer) : Prop :=
  ∀ address ∈ [s.globalAddress, s.insideHostAddress], address ∉ ["zone", "protocol", s.globalPort]

section Arguments

variable {args : List String} (hargs : args = s.arguments deviceType ++ Text.words s.options)

include hargs

private theorem Keyword.wordAfter_eq {k : Keyword} (hk : k.text ∉ k.front s deviceType) :
    wordAfter args k.text 1 = k.value s ∧ wordAfter args k.text 2 = k.port s := by
  obtain ⟨rest, hrest⟩ := k.exists_arguments_eq s deviceType
  rw [hargs, hrest]
  exact ⟨wordAfter_append hk _ 0, wordAfter_append hk _ 1⟩

/-- Behind a name or a zone that is spelled like a keyword stands the next word of the line. -/
theorem Keyword.wordAfter_mem {k : Keyword} (hk : k.text ∈ s.labelWords deviceType) :
    wordAfter args k.text 1 ∈ ["zone", "protocol"] := by
  obtain ⟨behind, hbehind⟩ : ∃ behind, args = s.labelWords deviceType ++ "protocol" :: behind := by
    obtain ⟨rest, hrest⟩ := Keyword.protocol.exists_arguments_eq s deviceType
    exact ⟨_, hargs.trans hrest⟩
  obtain ⟨hnameWord, hzoneWord, _⟩ := k.text_ne
  have hnext {front after : List String} (hfront : k.text ∉ front) :
      wordAfter (front ++ k.text :: after) k.text 1 = after.getD 0 "" :=
    wordAfter_append hfront after 0
  by_cases hname : s.name = k.text
  · have hline : args = ["name"] ++ k.text :: (s.zoneWords deviceType ++ "protocol" :: behind) := by
      rw [hbehind, labelWords, hname, List.append_assoc]
      rfl
    rw [hline, hnext (by simpa using hnameWord), zoneWords]
    split
    · exact List.mem_cons_self
    · exact List.mem_cons_of_mem _ List.mem_cons_self
  · rw [labelWords, zoneWords] at hk hbehind
    split at hk
    next hshown =>
      have hzone : s.zone = k.text := by
        simpa [hnameWord, hzoneWord, Ne.symm hname, eq_comm] using hk
      have hline : args = ["name", s.name, "zone"] ++ k.text :: "protocol" :: behind := by
        rw [hbehind, if_pos hshown, hzone, List.append_assoc]
        rfl
      rw [hline, hnext (by simp [hnameWord, hzoneWord, Ne.symm hname])]
      exact List.mem_cons_of_mem _ List.mem_cons_self
    next => exact absurd hk (by simp [hnameWord, Ne.symm hname])

private theorem isWord_of_mem (h : s.IsPortMapping) : ∀ word ∈ args, Text.IsWord word := by
  rw [hargs]
  exact List.forall_mem_append.mpr ⟨isWord_of_mem_arguments h, fun _ => Text.isWord_of_mem_words⟩

private theorem ciscoNatServer_eq : ciscoNatServer args [] =
      mappingLine (wordAfter args "protocol" 1) (wordAfter args "inside" 1)
        (portOr (wordAfter args "inside" 2) (portOr (wordAfter args "global" 2) "any"))
        (wordAfter args "global" 1) (portOr (wordAfter args "global" 2) "any") := by
  have hmem (k : Keyword) : k.text ∈ args := by
    obtain ⟨rest, hrest⟩ := k.exists_arguments_eq s deviceType
    rw [hargs, hrest]
    exact List.mem_append_right _ List.mem_cons_self
  exact ciscoNatServer_eq_mappingLine [] (hmem .protocol) (hmem .global) (hmem .inside)

/-- If the line is translated as it is to be, each keyword was found with its value behind it. -/
theorem wordAfter_eq_value (h : s.IsPortMapping) (hline : ciscoNatServer args [] = s.staticMapping)
    (k : Keyword) : wordAfter args k.text 1 = k.value s := by
  have hword (k : Keyword) (distance : Nat) (hdistance : distance ≤ 2) :
      Text.IsWord (wordAfter args k.text distance) := by
    obtain ⟨rest, hrest⟩ := k.exists_arguments_eq s deviceType
    have hall := isWord_of_mem hargs h
    rw [hargs, hrest] at hall ⊢
    exact isWord_wordAfter hall hdistance
  have hport {word other : String} (hother : Text.IsWord other) :
      Text.IsWord (portOr word other) := by
    rw [portOr]
    split
    next hdigits => exact .of_allDigits hdigits
    next => exact hother
  rw [ciscoNatServer_eq hargs, staticMapping] at hline
  have hwords := congrArg Text.words hline
  have hany : Text.IsWord "any" := by decide
  rw [words_mappingLine, words_mappingLine] at hwords
  · simp only [List.cons.injEq] at hwords
    obtain ⟨-, -, -, -, -, hprotocol, hinside, -, hglobal, -⟩ := hwords
    cases k with
    | protocol => exact hprotocol
    | global => exact hglobal
    | inside => exact hinside
  · simp only [List.forall_mem_cons]
    exact ⟨h.isWord_protocol, h.insideHostAddress, .of_allDigits h.insideHostPort, h.globalAddress,
      .of_allDigits h.globalPort, nofun⟩
  · simp only [List.forall_mem_cons]
    exact ⟨hword .protocol 1 (by decide), hword .inside 1 (by decide), hport (hport hany),
      hword .global 1 (by decide), hport hany, nofun⟩

private theorem ciscoNatServer_eq_staticMapping (h : s.IsPortMapping)
    (hall : ∀ k : Keyword, k.text ∉ k.front s deviceType) :
    ciscoNatServer args [] = s.staticMapping := by
  obtain ⟨hprotocol, _⟩ := Keyword.wordAfter_eq hargs (hall .protocol)
  obtain ⟨hglobal, hglobalPort⟩ := Keyword.wordAfter_eq hargs (hall .global)
  obtain ⟨hinside, hinsidePort⟩ := Keyword.wordAfter_eq hargs (hall .inside)
  simp only [Keyword.text, Keyword.value, Keyword.port] at *
  rw [ciscoNatServer_eq hargs, hprotocol, hglobal, hglobalPort, hinside, hinsidePort,
    portOr_of_allDigits h.globalPort, portOr_of_allDigits h.insideHostPort, staticMapping]

/-- A keyword that occurs too early has something else behind it than its value. -/
theorem Keyword.wordAfter_ne (h : s.IsPortMapping) (hapart : s.AddressesStandApart) {k : Keyword}
    (hk : k.text ∈ k.front s deviceType) : wordAfter args k.text 1 ≠ k.value s := by
  have hvalue : k.value s ∉ ["zone", "protocol"] := by
    intro hmem
    have hmore : k.value s ∈ ["zone", "protocol", s.globalPort] := List.mem_append_left _ hmem
    cases k with
    | protocol =>
      have hother : s.protocol ∉ ["zone", "protocol"] :=
        h.of_protocol (p := (· ∉ ["zone", "protocol"])) (by decide) (by decide)
      exact hother hmem
    | global => exact hapart _ List.mem_cons_self hmore
    | inside => exact hapart _ (List.mem_cons_of_mem _ List.mem_cons_self) hmore
  by_cases hlabel : k.text ∈ s.labelWords deviceType
  · exact fun heq => hvalue (heq ▸ Keyword.wordAfter_mem hargs hlabel)
  · have hnot := not_imp_not.mpr (Keyword.text_not_mem_front_iff h).mpr (not_not.mpr hk)
    obtain ⟨rfl, haddress⟩ : k = .inside ∧ s.globalAddress = "inside" := by
      simpa [hlabel] using hnot
    have hline : args = (s.labelWords deviceType ++ ["protocol", s.protocol, "global"]) ++
        "inside" :: s.globalPort :: "inside" :: s.insideHostAddress :: s.insideHostPort ::
          Text.words s.options := by
      rw [hargs, arguments, haddress]
      simp
    have hfront : "inside" ∉ s.labelWords deviceType ++ ["protocol", s.protocol, "global"] := by
      have hprotocol := Keyword.inside.text_ne_protocol h
      simp only [text] at hlabel hprotocol
      simp [hlabel, hprotocol]
    have hport : wordAfter args "inside" 1 = s.globalPort := by
      rw [hline]
      exact wordAfter_append hfront _ 0
    intro hvalue
    refine hapart _ (List.mem_cons_of_mem _ List.mem_cons_self) ?_
    rw [← hport]
    exact hvalue ▸ List.mem_cons_of_mem _ (List.mem_cons_of_mem _ List.mem_cons_self)

end Arguments

/-- The line of a server with one public port and one port inside becomes the mapping of these
    ports if no word in front of a keyword is spelled like it, whatever options stand behind. A
    name, a zone or an address that is spelled so is taken for the keyword, and the mapping is
    another one. -/
theorem translate_line_keeps_mapping_iff (h : s.IsPortMapping) (deviceType : DeviceType) :
    (s.KeywordsStandOut deviceType →
      RuleTables.standard.translate .huawei .cisco (s.line deviceType) = .text s.staticMapping) ∧
    (s.AddressesStandApart →
      RuleTables.standard.translate .huawei .cisco (s.line deviceType) = .text s.staticMapping →
        s.KeywordsStandOut deviceType) := by
  rw [translate_line h, Wording.text.injEq]
  constructor
  · intro hkeywords
    exact ciscoNatServer_eq_staticMapping rfl h ((keywordsStandOut_iff h).mp hkeywords)
  · intro hapart hline
    refine (keywordsStandOut_iff h).mpr fun k hk => ?_
    exact Keyword.wordAfter_ne rfl h hapart hk (wordAfter_eq_value rfl h hline k)

/-- A mail server behind the address of a firewall. -/
def mailServer : NatServer where
  name := "mail"
  zone := "untrust"
  protocol := "tcp"
  globalAddress := "203.0.113.5"
  globalPort := "25"
  insideHostAddress := "10.1.0.25"
  insideHostPort := "2525"
  noReverse := true
  description := "protocol smtp, global and inside"

private theorem isPortMapping_mailServer : mailServer.IsPortMapping := by
  constructor <;> decide

theorem translate_line_of_mailServer :
    mailServer.IsPortMapping ∧ mailServer.KeywordsStandOut .firewall ∧
      mailServer.AddressesStandApart ∧
      RuleTables.standard.translate .huawei .cisco (mailServer.line .firewall) =
        .text "ip nat inside source static tcp 10.1.0.25 2525 203.0.113.5 25" :=
  have hkeywords : mailServer.KeywordsStandOut .firewall :=
    ⟨fun k => by cases k <;> decide, fun _ k => by cases k <;> decide, by decide⟩
  have hapart : mailServer.AddressesStandApart := by
    unfold AddressesStandApart
    decide
  have hkeeps := translate_line_keeps_mapping_iff isPortMapping_mailServer .firewall
  have hline := hkeeps.1 hkeywords
  ⟨isPortMapping_mailServer, hkeeps.2 hapart hline, hapart, hline⟩

/-- The name is taken for the keyword in front of the address inside. -/
theorem translate_line_of_server_named_inside :
    { mailServer with name := "inside", zone := "" }.IsPortMapping ∧
      RuleTables.standard.translate .huawei .cisco
          ({ mailServer with name := "inside", zone := "" }.line .router) =
        .text "ip nat inside source static tcp protocol 25 203.0.113.5 25" ∧
      { mailServer with name := "inside", zone := "" }.staticMapping =
        "ip nat inside source static tcp 10.1.0.25 2525 203.0.113.5 25" := by
  have hserver : { mailServer with name := "inside", zone := "" }.IsPortMapping := by
    constructor <;> decide
  refine ⟨hserver, (translate_line hserver).trans (congrArg Wording.text ?_), rfl⟩
  decide

end NatServer
end Netscribe
