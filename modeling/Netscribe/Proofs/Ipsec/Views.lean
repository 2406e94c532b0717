import Netscribe.Ipsec.Commands
import Netscribe.Proofs.Outcome
import Netscribe.Proofs.View.Contents
/-!
The commands of IPsec as views, and what these say. Transform sets, keychains and profiles come
before the views that refer to them by name: a profile to its keychain, and a policy to its
transform sets and its profile.
-/
namespace Netscribe

open Text (after? isIndented)
open View (OpensView WritesView saidBy)

namespace Ipsec

/-- The kinds of references within the commands of IPsec. -/
inductive Reference
  | keychain | transformSet | profile
  deriving DecidableEq, Repr

namespace Reference

/-- The commands of the views that refer to other objects. -/
def owner (vendor : Vendor) : Reference → String
  | keychain => if vendor = .huawei then "ike peer " else "ike profile "
  | transformSet | profile => "ipsec policy "

/-- What stands before the name of an object that is referred to. -/
def keyword (vendor : Vendor) : Reference → String
  | keychain => if vendor = .huawei then " pre-shared-key keychain " else " keychain "
  | transformSet => if vendor = .huawei then " proposal " else " transform-set "
  | profile => if vendor = .huawei then " ike-peer " else " ike-profile "

/-- The commands that define the objects that are referred to. -/
def definer (vendor : Vendor) : Reference → String
  | keychain => "ike keychain "
  | transformSet => if vendor = .huawei then "ipsec proposal " else "ipsec transform-set "
  | profile => if vendor = .huawei then "ike peer " else "ike profile "

def all : List Reference := [keychain, transformSet, profile]

private theorem mem_all (r : Reference) : r ∈ all := by
  cases r <;> decide

variable (vendor : Vendor) (r : Reference)

private theorem isIndented_keyword : isIndented (r.keyword vendor) := by
  cases vendor <;> cases r <;> decide

private theorem allBlank_keyword : Text.allBlank (r.keyword vendor) = false := by
  cases vendor <;> cases r <;> decide

private theorem diverge_keyword {r other : Reference} (h : r ≠ other) :
    Text.diverge (r.keyword vendor) (other.keyword vendor) := by
  revert h
  cases vendor <;> cases r <;> cases other <;> decide

end Reference

section Says

variable {α : Type} {vendor : Vendor} {entries before after : List Entry}
  {said more : Reference → List String}

/-- Entries within a view, and what they say behind the keywords of references. -/
def Says (vendor : Vendor) (entries : List Entry) (said : Reference → List String) : Prop :=
  AllWritten (isIndented ·) entries ∧ ∀ r, saidBy (r.keyword vendor) entries = said r

/-- A line within a view that refers to no other object. -/
def RefersToNothing (vendor : Vendor) (line : String) : Prop :=
  isIndented line ∧ ∀ r : Reference, after? (r.keyword vendor) line = none

@[simp ↓]
theorem refersToNothing_append_append (s t u : String) :
    RefersToNothing vendor (s ++ t ++ u) ↔ RefersToNothing vendor (s ++ (t ++ u)) := by
  rw [String.append_assoc]

@[simp ↓]
theorem refersToNothing_append {s : String} (hs : Text.opensIndented s)
    (h : Reference.all.all fun r => Text.diverge (r.keyword vendor) s) (t : String) :
    RefersToNothing vendor (s ++ t) := by
  refine ⟨Text.isIndented_of_opensIndented (Text.opensIndented_append t hs), fun r => ?_⟩
  exact Text.after?_eq_none (List.all_eq_true.mp h r r.mem_all) (Text.hasStart_append s t)

private theorem Says.nothing (h : AllWritten (RefersToNothing vendor) entries) :
    Says vendor entries fun _ => [] :=
  ⟨fun line hline => (h line hline).1,
    fun r => View.saidBy_eq_nil fun line hline => (h line hline).2 r⟩

/-- Lines that refer to objects by their names. -/
theorem Says.named {other : Reference} {start : String} (hstart : start = other.keyword vendor)
    (name : α → String) (xs : List α) :
    Says vendor (xs.map fun x => command (start ++ name x))
      fun r => if r = other then xs.map name else [] := by
  subst hstart
  refine ⟨.map fun x _ line hline => ?_, fun r => ?_⟩
  · obtain rfl := Option.some.inj hline
    exact Text.any_head?_append (other.isIndented_keyword vendor) (name x)
  · dsimp only
    split
    next h =>
      subst h
      exact View.saidBy_map (fun _ => rfl) fun x => Text.after?_append _ (name x)
    next h =>
      refine View.saidBy_eq_nil (.map fun x _ line hline => ?_)
      obtain rfl := Option.some.inj hline
      exact Text.after?_eq_none (Reference.diverge_keyword vendor h) (Text.hasStart_append _ _)

private theorem Says.append (hbefore : Says vendor before said) (hafter : Says vendor after more) :
    Says vendor (before ++ after) fun r => said r ++ more r :=
  ⟨allWritten_append.mpr ⟨hbefore.1, hafter.1⟩, fun r => by
    rw [View.saidBy_append, hbefore.2, hafter.2]⟩

private theorem Says.ite {c : Prop} [Decidable c] (hbefore : c → Says vendor before said)
    (hafter : ¬c → Says vendor after more) :
    Says vendor (if c then before else after) fun r => if c then said r else more r := by
  split
  next hc => exact hbefore hc
  next hc => exact hafter hc

private theorem Says.onlyIf {c : Prop} [Decidable c] (h : Says vendor entries fun _ => []) :
    Says vendor (Netscribe.onlyIf c entries) fun _ => [] := by
  rw [Netscribe.onlyIf]
  split
  · exact h
  · exact .nothing allWritten_nil

private theorem Says.of_eq (h : Says vendor entries said) (heq : ∀ r, said r = more r) :
    Says vendor entries more := by
  rw [← funext heq]
  exact h

variable {start words : String}

/-- Entries that open a view and go on with it, and what they say. -/
def OpensSaying (vendor : Vendor) (start words : String) (entries : List Entry)
    (said : Reference → List String) : Prop :=
  OpensView start words entries ∧ ∀ r, saidBy (r.keyword vendor) entries = said r

/-- Entries of one view, and what they say. -/
def ReadsView (vendor : Vendor) (start words : String) (entries : List Entry)
    (said : Reference → List String) : Prop :=
  WritesView start words entries ∧ ∀ r, saidBy (r.keyword vendor) entries = said r

private theorem OpensSaying.header (vendor : Vendor) (hstart : Text.startsSolid start)
    (words why : String) :
    OpensSaying vendor start words [.blank, command (start ++ words) why] fun _ => [] :=
  ⟨View.opensView_blank (View.opensView_command start words why), fun r => by
    rw [View.saidBy_blank, View.saidBy_command_of_startsSolid (r.isIndented_keyword vendor)
      (Text.startsSolid_append hstart words), View.saidBy_nil]⟩

private theorem OpensSaying.append (h : OpensSaying vendor start words before said)
    (hafter : Says vendor after more) :
    OpensSaying vendor start words (before ++ after) fun r => said r ++ more r :=
  ⟨h.1.append hafter.1, fun r => by rw [View.saidBy_append, h.2, hafter.2]⟩

private theorem OpensSaying.close (h : OpensSaying vendor start words entries said)
    (heq : ∀ r, said r = more r) :
    ReadsView vendor start words (entries ++ [command "quit"]) more :=
  ⟨h.1.close, fun r => by
    rw [View.saidBy_append, h.2, View.saidBy_command_of_startsSolid (r.isIndented_keyword vendor)
      (by decide), View.saidBy_nil, List.append_nil, heq]⟩

end Says

section Blocks

variable (s : Ipsec) (vendor : Vendor) (acls : Acls)

def transformBlock (t : TransformSet) : List Entry :=
  if vendor = .huawei then t.huaweiEntries else t.h3cEntries

def keychainBlock (k : IkeKeychain) : List Entry :=
  k.block (k.preSharedKeys.flatMap
    (if vendor = .huawei then IkeKeychain.huaweiKey else IkeKeychain.h3cKey))

/-- The view of a profile; nothing where the address of its peer fails. -/
def profileBlock (p : IkeProfile) : List Entry :=
  if vendor = .huawei then (s.huaweiPeer p).toOption.getD [] else s.h3cProfile p

def policyBlock (p : IpsecPolicy) : List Entry :=
  if vendor = .huawei then s.huaweiPolicy acls p else s.h3cPolicy acls p

/-- What stands behind the start of the command of a policy. -/
def policyLabel (p : IpsecPolicy) : String := s!"{p.name} {p.seqNumber} {p.mode}"

/-- The ids by which a profile refers to other objects. -/
def profileIds (p : IkeProfile) : Reference → List String
  | .keychain => [p.keychainId]
  | .transformSet | .profile => []

/-- The ids by which a policy refers to other objects. Only policies for IKE have a profile. -/
def policyIds (p : IpsecPolicy) : Reference → List String
  | .keychain => []
  | .transformSet => p.transformSetIds
  | .profile => if p.mode = "isakmp" then [p.ikeProfileId] else []

/-- The name of the object that an id refers to. -/
def target? (r : Reference) (id : String) : Option String :=
  match r with
  | .keychain => (s.findKeychain? id).map (·.name)
  | .transformSet => (s.findTransformSet? id).map (·.name)
  | .profile => (s.findProfile? id).map (·.name)

def profileNames (p : IkeProfile) (r : Reference) : List String :=
  (profileIds p r).filterMap (s.target? r)

def policyNames (p : IpsecPolicy) (r : Reference) : List String :=
  (policyIds p r).filterMap (s.target? r)

end Blocks

section Views

variable {s : Ipsec} {vendor : Vendor} {acls : Acls} {entries : List Entry}

private theorem writesView_transformBlock (hvrp : vendor.isVrp) (t : TransformSet) :
    WritesView (Reference.transformSet.definer vendor) t.name (transformBlock vendor t) := by
  have hopens (start why : String) :
      OpensView start t.name [.blank, command (start ++ t.name) why] :=
    View.opensView_blank (View.opensView_command start t.name why)
  cases vendor with
  | h3c =>
    refine (((((hopens _ _).append ?_).append ?_).append ?_).append ?_ |>.append ?_).close
    all_goals simp +decide
  | huawei =>
    refine (((((hopens _ _).append ?_).append ?_).append ?_).append ?_ |>.append ?_).close
    all_goals simp +decide
  | cisco | generic => cases hvrp

private theorem writesView_keychainBlock (hvrp : vendor.isVrp) (k : IkeKeychain) :
    WritesView (Reference.keychain.definer vendor) k.name (keychainBlock vendor k) := by
  have hopens := View.opensView_blank
    (View.opensView_command "ike keychain " k.name s!"IKE keychain {k.name}.")
  refine (hopens.append (.flatMap fun key _ => ?_)).close
  cases vendor with
  | h3c => simp +decide [IkeKeychain.h3cKey]
  | huawei => simp +decide [IkeKeychain.huaweiKey]
  | cisco | generic => cases hvrp

private theorem says_remoteAddress {p : IkeProfile} (h : remoteAddress p = .ok entries) :
    Says .huawei entries fun _ => [] := by
  refine .nothing ?_
  rw [remoteAddress] at h
  split at h
  next =>
    obtain rfl := Except.ok.inj h
    exact allWritten_nil
  next =>
    split at h
    next => cases h
    next address _ _ =>
      obtain rfl := Except.ok.inj h
      simp +decide

private theorem says_localIdentity (p : IkeProfile) :
    Says .huawei (localIdentity p) fun _ => [] := by
  refine .nothing ?_
  rw [localIdentity]
  split
  next => simp +decide
  next => exact allWritten_nil

private theorem says_keychainReference (s : Ipsec) (p : IkeProfile) {start : String}
    (hstart : start = Reference.keychain.keyword vendor) :
    Says vendor ((s.findKeychain? p.keychainId).toList.map fun k => command (start ++ k.name))
      (s.profileNames p) := by
  refine (Says.named hstart _ _).of_eq fun r => ?_
  cases r with
  | keychain =>
    cases h : s.findKeychain? p.keychainId <;> simp [profileNames, profileIds, target?, h]
  | transformSet | profile => rfl

private theorem readsView_h3cProfile (s : Ipsec) (p : IkeProfile) :
    ReadsView .h3c "ike profile " p.name (s.h3cProfile p) (s.profileNames p) := by
  have hkeychain := says_keychainReference s p
    (by decide : " keychain " = Reference.keychain.keyword .h3c)
  have hidentity : Says .h3c (onlyIf (p.localIdentity ≠ "")
      [command s!" local-identity {p.localIdentity}"]) fun _ => [] := .nothing (by simp +decide)
  have hremote : Says .h3c (onlyIf (p.matchRemoteAddress ≠ "")
      [command s!" match remote identity address {p.matchRemoteAddress}"]) fun _ => [] :=
    .nothing (by simp +decide)
  have hopens := OpensSaying.header .h3c (by decide : Text.startsSolid "ike profile ") p.name
    s!"IKE profile {p.name}."
  exact (((hopens.append hkeychain).append hidentity).append hremote).close (by simp)

private theorem readsView_huaweiPeer {p : IkeProfile} (h : s.huaweiPeer p = .ok entries) :
    ReadsView .huawei "ike peer " p.name entries (s.profileNames p) := by
  obtain ⟨remote, hremote, hentries⟩ := Outcome.bind_eq_ok_iff.mp h
  obtain rfl := Except.ok.inj hentries
  have hkeychain := says_keychainReference s p
    (by decide : " pre-shared-key keychain " = Reference.keychain.keyword .huawei)
  have hopens := OpensSaying.header .huawei (by decide : Text.startsSolid "ike peer ") p.name
    s!"IKE peer {p.name}."
  exact (((hopens.append hkeychain).append (says_remoteAddress hremote)).append
    (says_localIdentity p)).close (by simp)

private theorem opensSaying_policyHeader (hvrp : vendor.isVrp) (acls : Acls) (p : IpsecPolicy) :
    OpensSaying vendor "ipsec policy " (policyLabel p) (policyHeader acls p) fun _ => [] := by
  have hheader : s!"ipsec policy {p.name} {p.seqNumber} {p.mode}" =
      "ipsec policy " ++ policyLabel p := by
    simp only [policyLabel, String.append_assoc]
    rfl
  have hacl : Says vendor ((acls.find? p.aclId).toList.map fun a =>
      command s!" security acl {a.number}" s!"Traffic matched by ACL {a.number} is protected.")
      fun _ => [] := by
    refine .nothing (.map fun a _ line hline => ?_)
    obtain rfl := Option.some.inj hline
    cases vendor with
    | h3c | huawei => simp +decide
    | cisco | generic => cases hvrp
  rw [policyHeader, hheader]
  exact (OpensSaying.header vendor (by decide) (policyLabel p) _).append hacl

private theorem says_manualAssociation (hvrp : vendor.isVrp) (s : Ipsec) (p : IpsecPolicy)
    (keyword : String) : Says vendor (s.manualAssociation p keyword) fun _ => [] := by
  have hentries (protocol : String) (keys : ManualKeys) :
      AllWritten (RefersToNothing vendor) (manualEntries protocol keyword keys) := by
    rw [manualEntries]
    cases vendor with
    | h3c | huawei => simp +decide
    | cisco | generic => cases hvrp
  refine .nothing (.flatMap fun keys _ => ?_)
  simp only [allWritten_append, allWritten_onlyIf]
  exact ⟨fun _ => .flatMap fun _ _ => hentries _ _, fun _ => .flatMap fun _ _ => hentries _ _⟩

private theorem says_transformReferences (s : Ipsec) {word : String}
    (hword : " " ++ word ++ " " = Reference.transformSet.keyword vendor) (p : IpsecPolicy) :
    Says vendor (s.transformReferences word p) fun r => if r = .transformSet then
      p.transformSetIds.filterMap (s.target? .transformSet) else [] := by
  refine (Says.named hword TransformSet.name _).of_eq fun r => ?_
  rw [List.map_filterMap]
  rfl

private theorem says_profileReference (s : Ipsec) {word : String}
    (hword : " " ++ word ++ " " = Reference.profile.keyword vendor) (p : IpsecPolicy) :
    Says vendor (s.profileReference word p) fun r => if r = .profile then
      [p.ikeProfileId].filterMap (s.target? .profile) else [] := by
  refine (Says.named hword IkeProfile.name _).of_eq fun r => ?_
  cases h : s.findProfile? p.ikeProfileId <;> simp [target?, h]

private theorem policyNames_eq (s : Ipsec) (p : IpsecPolicy) (r : Reference) :
    s.policyNames p r =
      (if r = .transformSet then p.transformSetIds.filterMap (s.target? .transformSet) else []) ++
        if p.mode = "isakmp" then
          if r = .profile then [p.ikeProfileId].filterMap (s.target? .profile) else []
        else [] := by
  cases r with
  | keychain | transformSet => simp [policyNames, policyIds]
  | profile =>
    simp only [policyNames, policyIds]
    split
    · rfl
    · rfl

private theorem readsView_h3cPolicy (s : Ipsec) (acls : Acls) (p : IpsecPolicy) :
    ReadsView .h3c "ipsec policy " (policyLabel p) (s.h3cPolicy acls p) (s.policyNames p) := by
  have hheader := opensSaying_policyHeader (by decide : Vendor.h3c.isVrp) acls p
  have htransforms := says_transformReferences s
    (by decide : " " ++ "transform-set" ++ " " = Reference.transformSet.keyword .h3c) p
  have hremote : Says .h3c (onlyIf (p.remoteAddress ≠ "")
      [command s!" remote-address {p.remoteAddress}"]) fun _ => [] := .nothing (by simp +decide)
  have hlocal : Says .h3c (onlyIf (p.localAddress ≠ "")
      [command s!" local-address {p.localAddress}"]) fun _ => [] := .nothing (by simp +decide)
  have hmode := Says.ite (c := p.mode = "isakmp")
    (fun _ => says_profileReference s
      (by decide : " " ++ "ike-profile" ++ " " = Reference.profile.keyword .h3c) p)
    fun _ => (says_manualAssociation (by decide : Vendor.h3c.isVrp) s p "simple ").onlyIf
      (c := p.mode = "manual")
  refine ((((hheader.append htransforms).append hremote).append hlocal).append hmode).close
    fun r => ?_
  simp only [List.nil_append, List.append_nil, policyNames_eq]

private theorem readsView_huaweiPolicy (s : Ipsec) (acls : Acls) (p : IpsecPolicy) :
    ReadsView .huawei "ipsec policy " (policyLabel p) (s.huaweiPolicy acls p)
      (s.policyNames p) := by
  have hheader := opensSaying_policyHeader (by decide : Vendor.huawei.isVrp) acls p
  have htransforms := says_transformReferences s
    (by decide : " " ++ "proposal" ++ " " = Reference.transformSet.keyword .huawei) p
  have hlocal : Says .huawei (onlyIf (p.localAddress ≠ "")
      [command s!" tunnel local {p.localAddress}"]) fun _ => [] := .nothing (by simp +decide)
  have hremote : Says .huawei (onlyIf (p.remoteAddress ≠ "")
      [command s!" tunnel remote {p.remoteAddress}"]) fun _ => [] := .nothing (by simp +decide)
  have hprofile := says_profileReference s
    (by decide : " " ++ "ike-peer" ++ " " = Reference.profile.keyword .huawei) p
  have hmanual := says_manualAssociation (by decide : Vendor.huawei.isVrp) s p ""
  have hmode := Says.ite (c := p.mode = "isakmp") (fun _ => hprofile.append hlocal)
    fun _ => ((hlocal.append hremote).append hmanual).onlyIf (c := p.mode = "manual")
  refine ((hheader.append htransforms).append hmode).close fun r => ?_
  simp only [List.nil_append, List.append_nil, policyNames_eq]

/-- The view of an IKE profile names what the profile refers to. -/
theorem readsView_profileBlock (hvrp : vendor.isVrp) {p : IkeProfile}
    (hpeer : vendor = .huawei → ∃ peer, s.huaweiPeer p = .ok peer) :
    ReadsView vendor (Reference.profile.definer vendor) p.name (s.profileBlock vendor p)
      (s.profileNames p) := by
  cases vendor with
  | h3c => exact readsView_h3cProfile s p
  | huawei =>
    obtain ⟨peer, h⟩ := hpeer rfl
    have hblock : s.profileBlock .huawei p = peer := by
      rw [profileBlock, h]
      rfl
    rw [hblock]
    exact readsView_huaweiPeer h
  | cisco | generic => cases hvrp

/-- The view of an IPsec policy names what the policy refers to. -/
theorem readsView_policyBlock (hvrp : vendor.isVrp) (s : Ipsec) (acls : Acls) (p : IpsecPolicy) :
    ReadsView vendor "ipsec policy " (policyLabel p) (s.policyBlock vendor acls p)
      (s.policyNames p) := by
  cases vendor with
  | h3c => exact readsView_h3cPolicy s acls p
  | huawei => exact readsView_huaweiPolicy s acls p
  | cisco | generic => cases hvrp

end Views

section Parts

variable (s : Ipsec) (vendor : Vendor) (acls : Acls)

/-- The views of IPsec in the order of its text. -/
def parts : List View.Part :=
  [⟨Reference.transformSet.definer vendor,
     s.namedTransformSets.map fun t => (t.name, transformBlock vendor t)⟩,
   ⟨Reference.keychain.definer vendor,
     s.namedKeychains.map fun k => (k.name, keychainBlock vendor k)⟩,
   ⟨Reference.profile.definer vendor,
     s.namedProfiles.map fun p => (p.name, s.profileBlock vendor p)⟩,
   ⟨"ipsec policy ", s.completePolicies.map fun p => (policyLabel p, s.policyBlock vendor acls p)⟩]

variable {s vendor acls} {entries : List Entry}

/-- The entries of H3C are those of its parts, one after another. -/
theorem h3cEntries_eq_parts :
    s.h3cEntries acls = (s.parts .h3c acls).flatMap View.Part.entries := by
  simp only [h3cEntries, parts, View.Part.entries, List.flatMap_cons, List.flatMap_nil,
    List.flatMap_map, List.append_assoc, List.append_nil]
  rfl

/-- A text that is written at all is made of the views of its objects. -/
theorem of_huaweiEntries_eq_ok (h : s.huaweiEntries acls = .ok entries) :
    entries = (s.parts .huawei acls).flatMap View.Part.entries ∧
      ∀ p ∈ s.namedProfiles, ∃ peer, s.huaweiPeer p = .ok peer := by
  obtain ⟨peers, hpeers, hentries⟩ := Outcome.bind_eq_ok_iff.mp h
  obtain rfl := Except.ok.inj hentries
  have hall := Outcome.mapM_succeeds_iff.mp ⟨peers, hpeers⟩
  have hblocks : peers = s.namedProfiles.map (s.profileBlock .huawei) := by
    have hmap : s.namedProfiles.mapM s.huaweiPeer =
        .ok (s.namedProfiles.map (s.profileBlock .huawei)) := by
      refine Outcome.mapM_eq_ok fun p hp => ?_
      obtain ⟨peer, hpeer⟩ := hall p hp
      rw [profileBlock, hpeer]
      rfl
    exact Except.ok.inj (hpeers.symm.trans hmap)
  refine ⟨?_, hall⟩
  simp only [hblocks, parts, View.Part.entries, List.flatMap_cons, List.flatMap_nil,
    List.flatMap_map, List.append_assoc, List.append_nil, ← List.flatMap_def]
  rfl

/-- The commands that open the views of IPsec. -/
def openings (vendor : Vendor) : List String :=
  [Reference.transformSet.definer vendor, Reference.keychain.definer vendor,
   Reference.profile.definer vendor, "ipsec policy "]

private theorem writesView_of_mem_parts (hvrp : vendor.isVrp)
    (hpeers : vendor = .huawei → ∀ p ∈ s.namedProfiles, ∃ peer, s.huaweiPeer p = .ok peer) :
    ∀ part ∈ s.parts vendor acls, ∀ view ∈ part.views,
      WritesView part.start view.1 view.2 := by
  simp only [parts, List.forall_mem_cons, List.forall_mem_map]
  refine ⟨fun t _ => writesView_transformBlock hvrp t, fun k _ => writesView_keychainBlock hvrp k,
    fun p hp => ?_, fun p _ => (readsView_policyBlock hvrp s acls p).1, fun _ h => nomatch h⟩
  exact (readsView_profileBlock hvrp fun hhuawei => hpeers hhuawei p hp).1

/-- The views with a given command, read from the whole text. -/
theorem contents_parts (hvrp : vendor.isVrp)
    (hpeers : vendor = .huawei → ∀ p ∈ s.namedProfiles, ∃ peer, s.huaweiPeer p = .ok peer)
    {opening : String} (hopening : opening ∈ openings vendor) (r : Reference) :
    View.contents opening (r.keyword vendor)
        (Draft.ofEntries ((s.parts vendor acls).flatMap View.Part.entries)).body =
      (s.parts vendor acls).flatMap fun part => if part.start = opening then
        part.views.map fun view => (view.1, saidBy (r.keyword vendor) view.2) else [] := by
  have hopenings : ∀ opening ∈ openings vendor, Text.startsSolid opening ∧
      Text.allBlank opening = false ∧ after? opening "quit" = none ∧
      ∀ start ∈ openings vendor, start ≠ opening → Text.diverge opening start := by
    cases vendor with
    | h3c | huawei => decide
    | cisco | generic => cases hvrp
  obtain ⟨hsolid, hshown, hquit, hapart⟩ := hopenings opening hopening
  have hstarts : (s.parts vendor acls).map (·.start) = openings vendor := rfl
  refine (View.ReadAs.parts (writesView_of_mem_parts hvrp hpeers) (fun part hpart => ?_) hsolid
    hquit (r.isIndented_keyword vendor) (r.allBlank_keyword vendor)).contents_body hshown
  exact hapart part.start (hstarts ▸ List.mem_map_of_mem hpart)

end Parts

end Ipsec
end Netscribe
