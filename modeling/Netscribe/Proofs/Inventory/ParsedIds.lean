import Netscribe.CommandLine.Run
import Netscribe.Proofs.Inventory.Reached
import Netscribe.Proofs.Script.Totality
import Netscribe.Service.Answer
/-!
Devices that are asked for by the ids they have been read with. A listing keeps every device that it
gives out, so that from then on each question is answered from what is kept. The id of a device is
what a text field takes of the id in the file, and entries are found by its plain form. These are
one text unless the id is null or a whole number with a point.
-/
open Netscribe.Document (Fields)

namespace Netscribe.Inventory

variable {inv : Inventory} {cache : Cache}

section Entries

/-- The entries with an id, in file order. -/
def listedFields (inv : Inventory) : List Fields :=
  inv.deviceFields.filter (Fields.contains · "id")

private theorem mem_listedFields_of_parse {fields : Fields} {n : Node}
    (h : fields ∈ inv.deviceFields)
    (hparse : Node.parse (.object fields) = .ok n) : fields ∈ inv.listedFields :=
  List.mem_filter.mpr ⟨h, contains_id_of_parse hparse⟩

/-- Whether there is an entry that answers to an id or a name. -/
def Knows (inv : Inventory) (wanted : Document) : Prop :=
  ∃ fields ∈ inv.deviceFields, isCalled wanted fields

/-- A device is not found exactly if the inventory does not know it, and the fault names it. -/
theorem device_eq_error_iff {wanted : Document} {fault : Fault} :
    inv.device wanted = .error fault ↔
      fault = .unknownDevice wanted.plain ∧ ¬ inv.Knows wanted := by
  have hknows : inv.Knows wanted ↔ (inv.deviceFields.find? (isCalled wanted)).isSome :=
    List.find?_isSome.symm
  rw [device, hknows]
  cases inv.deviceFields.find? (isCalled wanted) with
  | some fields => simp
  | none => simp [eq_comm]

private theorem knows_idText {fields : Fields} (h : fields ∈ inv.deviceFields) :
    inv.Knows (.text (idText fields)) := ⟨fields, h, isCalled_text_iff.mpr (.inl rfl)⟩

private theorem exists_device_of_knows {wanted : Document} (h : inv.Knows wanted) :
    ∃ first, inv.device wanted = .ok first := by
  cases hdevice : inv.device wanted with
  | ok first => exact ⟨first, rfl⟩
  | error fault => exact absurd h (device_eq_error_iff.mp hdevice).2

/-- Ids whose texts are distinct, and none of which is the name of another entry. -/
structure HasClearIds (inv : Inventory) : Prop where
  distinct : inv.deviceIds.Nodup
  names : ∀ fields ∈ inv.listedFields, ∀ other ∈ inv.deviceFields,
    Fields.get? other "name" = some (.text (idText fields)) → other = fields

namespace HasClearIds

variable (hclear : inv.HasClearIds)

include hclear

private theorem eq_of_idText_eq {fields other : Fields} (hfields : fields ∈ inv.listedFields)
    (hother : other ∈ inv.listedFields) (heq : idText fields = idText other) : fields = other :=
  List.inj_on_of_nodup_map hclear.distinct hfields hother heq

/-- The first entry that answers to the id of an entry may lack an id, but it goes by that text. -/
theorem idText_eq_of_device {fields first : Fields} (hfields : fields ∈ inv.listedFields)
    (hdevice : inv.device (.text (idText fields)) = .ok first) : idText first = idText fields := by
  have hcalled : isCalled (.text (idText fields)) first := by
    rw [device] at hdevice
    split at hdevice
    next hfound =>
      obtain rfl := Except.ok.inj hdevice
      exact List.find?_some hfound
    next => cases hdevice
  obtain hid | hname := isCalled_text_iff.mp hcalled
  · exact hid.symm
  · rw [hclear.names fields hfields first (mem_deviceFields_of_device hdevice) hname]

end HasClearIds

private theorem hasClearIds_of_entry {path : String} {fields : Fields}
    {connections : Option Document} :
    HasClearIds ⟨path, [.object fields], connections⟩ where
  distinct := by
    rw [deviceIds]
    refine List.Nodup.map_on ?_ ((List.nodup_singleton fields).filter _)
    intro first hfirst second hsecond _
    rw [List.mem_singleton.mp (List.mem_filter.mp hfirst).1,
      List.mem_singleton.mp (List.mem_filter.mp hsecond).1]
  names := by
    intro first hfirst second hsecond _
    rw [List.mem_singleton.mp (List.mem_filter.mp hfirst).1, List.mem_singleton.mp hsecond]

end Entries

section Listing

/-- Everything that was kept is still kept. -/
def Cache.Extends (after before : Cache) : Prop :=
  ∀ {key n}, before.nodes.lookup key = some n → after.nodes.lookup key = some n

private theorem Session.exists_of_answer_bind {α β : Type} {question : Session α}
    {next : α → Session β}
    {after : Cache} {b : β} (h : (question >>= next).answer cache = (.ok b, after)) :
    ∃ a middle, question.answer cache = (.ok a, middle) ∧
      (next a).answer middle = (.ok b, after) := by
  cases hanswer : question.answer cache with
  | mk outcome middle =>
    cases outcome with
    | error fault =>
      rw [answer_bind_error hanswer] at h
      cases h
    | ok a =>
      rw [answer_bind hanswer] at h
      exact ⟨a, middle, rfl, h⟩

/-- A device that is given out is kept under the id of the entry that was looked up. -/
theorem exists_of_answer_node {wanted : Document} {n : Node} {after : Cache}
    (h : (inv.node wanted).answer cache = (.ok n, after)) :
    after.Extends cache ∧
      ∃ first, inv.device wanted = .ok first ∧ after.nodes.lookup (idText first) = some n := by
  rw [node_eq] at h
  cases hdevice : inv.device wanted with
  | error fault =>
    rw [hdevice] at h
    cases h
  | ok first =>
    rw [hdevice, ofResult_ok, pure_bind] at h
    cases hkept : cache.nodes.lookup (idText first) with
    | some kept =>
      obtain ⟨houtcome, rfl⟩ := Prod.mk.inj ((answer_readNode_of_kept hkept).symm.trans h)
      exact ⟨id, first, rfl, hkept.trans (congrArg some (Except.ok.inj houtcome))⟩
    | none =>
      cases hparse : Node.parse (.object first) with
      | error e => cases (answer_readNode_of_error hkept hparse).symm.trans h
      | ok m =>
        obtain ⟨houtcome, rfl⟩ := Prod.mk.inj ((answer_readNode_of_new hkept hparse).symm.trans h)
        refine ⟨fun {key k} hbefore => ?_, first, rfl, ?_⟩
        · rw [List.lookup_append, hbefore]
          rfl
        · rw [List.lookup_append, hkept, List.lookup_cons_self, ← Except.ok.inj houtcome]
          rfl

/-- Listing devices by their ids, one after another. -/
theorem forall₂_of_answer_mapM_node {ids : List String} {found : List Node} {after : Cache}
    (h : (ids.mapM fun id => inv.node (.text id)).answer cache = (.ok found, after)) :
    after.Extends cache ∧ List.Forall₂ (fun id n => ∃ first, inv.device (.text id) = .ok first ∧
      after.nodes.lookup (idText first) = some n) ids found := by
  induction ids generalizing cache found with
  | nil =>
    obtain ⟨houtcome, rfl⟩ := Prod.mk.inj h
    obtain rfl := Except.ok.inj houtcome
    exact ⟨id, .nil⟩
  | cons id rest ih =>
    rw [List.mapM_cons] at h
    obtain ⟨n, middle, hfirst, hmore⟩ := Session.exists_of_answer_bind h
    obtain ⟨others, last, hrest, hpure⟩ := Session.exists_of_answer_bind hmore
    obtain ⟨houtcome, rfl⟩ := Prod.mk.inj hpure
    obtain rfl := Except.ok.inj houtcome
    obtain ⟨hmiddle, first, hdevice, hkept⟩ := exists_of_answer_node hfirst
    obtain ⟨hlast, hothers⟩ := ih hrest
    exact ⟨fun hbefore => hlast (hmiddle hbefore), .cons ⟨first, hdevice, hlast hkept⟩ hothers⟩

/-- What is kept once every device with an id has been read. -/
structure Cache.IsComplete (cache : Cache) (inv : Inventory) : Prop
    extends cache.IsDrawnFrom inv where
  full : ∀ fields ∈ inv.listedFields, ∃ n, cache.nodes.lookup (idText fields) = some n

/-- What is kept under the id of an entry is the reading of that entry. -/
theorem Cache.IsDrawnFrom.parse_eq (h : cache.IsDrawnFrom inv) (hclear : inv.HasClearIds)
    {fields : Fields} (hfields : fields ∈ inv.listedFields) {n : Node}
    (hkept : cache.nodes.lookup (idText fields) = some n) :
    Node.parse (.object fields) = .ok n := by
  obtain ⟨other, hother, hid, hparse⟩ := h.nodes hkept
  obtain rfl := hclear.eq_of_idText_eq (mem_listedFields_of_parse hother hparse) hfields hid
  exact hparse

/-- No device in a listing is unknown. -/
theorem ensures_nodes : inv.nodes.Ensures (·.IsDrawnFrom inv) (fun _ => True)
    (fun fault => ∃ e, fault = .shape e) := by
  have hids : ∀ id ∈ inv.deviceIds, (inv.node (.text id)).Ensures (·.IsDrawnFrom inv)
      (fun _ => True) (fun fault => ∃ e, fault = .shape e) := by
    intro id hid
    refine (ensures_node (.text id)).imp (fun _ _ => trivial) fun fault hfault => ?_
    obtain ⟨fields, hfields, rfl⟩ := List.mem_map.mp hid
    obtain hdevice | hshape := hfault
    · exact absurd (knows_idText (List.mem_filter.mp hfields).1) (device_eq_error_iff.mp hdevice).2
    · exact hshape
  exact (Session.Ensures.mapM hids).imp (fun _ _ => trivial) fun _ h => h

/-- A listing that is answered gives the readings of the entries with an id, and keeps them. -/
theorem isComplete_of_answer_nodes (hclear : inv.HasClearIds) (hcache : cache.IsDrawnFrom inv)
    {found : List Node} {after : Cache} (h : inv.nodes.answer cache = (.ok found, after)) :
    after.IsComplete inv ∧ List.Forall₂ (fun fields n => Node.parse (.object fields) = .ok n)
      inv.listedFields found := by
  have hdrawn : after.IsDrawnFrom inv := by
    have hkept := (ensures_nodes cache hcache).1
    rwa [h] at hkept
  have hlookup : List.Forall₂ (fun fields n => after.nodes.lookup (idText fields) = some n)
      inv.listedFields found := by
    obtain ⟨_, hlisted⟩ := forall₂_of_answer_mapM_node h
    rw [deviceIds, List.forall₂_map_left_iff] at hlisted
    refine ((List.forall₂_and_left _ _).mpr ⟨fun _ h => h, hlisted⟩).imp ?_
    rintro fields n ⟨hfields, first, hdevice, hkept⟩
    rwa [hclear.idText_eq_of_device hfields hdevice] at hkept
  refine ⟨⟨hdrawn, fun fields hfields => ?_⟩, ?_⟩
  · obtain ⟨n, _, hn⟩ := Outcome.exists_of_forall₂_left hlookup hfields
    exact ⟨n, hn⟩
  · exact ((List.forall₂_and_left _ _).mpr ⟨fun _ h => h, hlookup⟩).imp fun _ _ h =>
      hdrawn.parse_eq hclear h.1 h.2

end Listing

section Answers

/-- The entry that is read for a key once every device has been read. -/
def entryUnder? (inv : Inventory) (key : String) : Option Fields :=
  inv.listedFields.find? (idText · == key)

/-- The answer to an id or a name once every device has been read. Only an entry without an id may
    be one that has not been read, and it cannot be. -/
def lookUp (inv : Inventory) (wanted : Document) : Except Fault Node := do
  let first ← inv.device wanted
  (Node.parse (.object ((inv.entryUnder? (idText first)).getD first))).mapError .shape

private theorem entryUnder?_eq_some_iff (hclear : inv.HasClearIds) {key : String}
    {fields : Fields} :
    inv.entryUnder? key = some fields ↔ fields ∈ inv.listedFields ∧ idText fields = key := by
  constructor
  · intro h
    have hkey := List.find?_some h
    exact ⟨List.mem_of_find?_eq_some h, beq_iff_eq.mp hkey⟩
  · rintro ⟨hfields, rfl⟩
    cases hfound : inv.entryUnder? (idText fields) with
    | some other =>
      have hkey := List.find?_some hfound
      rw [hclear.eq_of_idText_eq (List.mem_of_find?_eq_some hfound) hfields (beq_iff_eq.mp hkey)]
    | none => exact absurd (beq_self_eq_true _) (List.find?_eq_none.mp hfound fields hfields)

private theorem Cache.IsComplete.ofConnections (h : cache.IsComplete inv) {found : List Connection}
    (hparse : Connection.parseList inv.connections = .ok found) :
    Cache.IsComplete { cache with connections := some found } inv :=
  ⟨⟨h.nodes, fun _ hkept => Option.some.inj hkept ▸ hparse⟩, h.full⟩

private theorem givesOn_lookUp (hclear : inv.HasClearIds) (wanted : Document) :
    (inv.node wanted).GivesOn (·.IsComplete inv) (inv.lookUp wanted) := by
  rw [node_eq]
  refine (Session.GivesOn.ofResult _).bind fun first hdevice cache hcache => ?_
  cases hentry : inv.entryUnder? (idText first) with
  | some fields =>
    obtain ⟨hfields, hid⟩ := (entryUnder?_eq_some_iff hclear).mp hentry
    obtain ⟨n, hkept⟩ := hcache.full fields hfields
    refine ⟨cache, hcache, ?_⟩
    rw [Option.getD_some, hcache.parse_eq hclear hfields hkept]
    rw [hid] at hkept
    exact answer_readNode_of_kept hkept
  | none =>
    have hmissing : cache.nodes.lookup (idText first) = none := by
      by_contra hkept
      obtain ⟨n, hkept⟩ := Option.ne_none_iff_exists'.mp hkept
      obtain ⟨fields, hfields, hid, hparse⟩ := hcache.nodes hkept
      have hlisted := mem_listedFields_of_parse hfields hparse
      rw [(entryUnder?_eq_some_iff hclear).mpr ⟨hlisted, hid⟩] at hentry
      cases hentry
    rw [Option.getD_none]
    cases hparse : Node.parse (.object first) with
    | error e => exact ⟨cache, hcache, answer_readNode_of_error hmissing hparse⟩
    | ok n =>
      have hlisted := mem_listedFields_of_parse (mem_deviceFields_of_device hdevice) hparse
      rw [(entryUnder?_eq_some_iff hclear).mpr ⟨hlisted, rfl⟩] at hentry
      cases hentry

private theorem givesOn_connections_of_complete : inv.allConnections.GivesOn (·.IsComplete inv)
    ((Connection.parseList inv.connections).mapError .shape) :=
  givesOn_allConnections (fun hcache => hcache.connections)
    fun hcache _ hparse => hcache.ofConnections hparse

/-- Questions after a listing keep everything that it has read. -/
theorem ReachedFrom.isComplete (hclear : inv.HasClearIds) {start : Cache}
    (h : inv.ReachedFrom start cache) (hstart : start.IsComplete inv) : cache.IsComplete inv :=
  h.kept hstart (keeps_ask (fun wanted => (givesOn_lookUp hclear wanted).ensures.keeps)
    givesOn_connections_of_complete.ensures.keeps)

private theorem lookUp_eq_ok_iff (hclear : inv.HasClearIds) {wanted : Document} {n : Node} :
    inv.lookUp wanted = .ok n ↔ ∃ fields ∈ inv.deviceFields,
      Node.parse (.object fields) = .ok n ∧
        (inv.device wanted).map idText = .ok (idText fields) := by
  rw [lookUp, Outcome.bind_eq_ok_iff]
  constructor
  · rintro ⟨first, hdevice, hparse⟩
    rw [Outcome.mapError_eq_ok_iff] at hparse
    cases hentry : inv.entryUnder? (idText first) with
    | some fields =>
      rw [hentry, Option.getD_some] at hparse
      obtain ⟨hfields, hid⟩ := (entryUnder?_eq_some_iff hclear).mp hentry
      refine ⟨fields, (List.mem_filter.mp hfields).1, hparse, ?_⟩
      rw [hdevice, hid]
      rfl
    | none =>
      rw [hentry, Option.getD_none] at hparse
      refine ⟨first, mem_deviceFields_of_device hdevice, hparse, ?_⟩
      rw [hdevice]
      rfl
  · rintro ⟨fields, hfields, hparse, hdevice⟩
    obtain ⟨first, hfirst, hid⟩ := Outcome.map_eq_ok_iff.mp hdevice
    have hlisted := mem_listedFields_of_parse hfields hparse
    refine ⟨first, hfirst, ?_⟩
    rw [(entryUnder?_eq_some_iff hclear).mpr ⟨hlisted, hid.symm⟩, Option.getD_some, hparse]
    rfl

/-- After a listing a question for a device fails only if no entry answers, or if the entry cannot
    be read for want of an id. -/
theorem lookUp_eq_error {wanted : Document} {fault : Fault}
    (h : inv.lookUp wanted = .error fault) :
    (fault = .unknownDevice wanted.plain ∧ ¬ inv.Knows wanted) ∨ ∃ e, fault = .shape e := by
  obtain hdevice | ⟨first, _, hparse⟩ := Outcome.bind_eq_error_iff.mp h
  · exact .inl (device_eq_error_iff.mp hdevice)
  · obtain ⟨e, _, hfault⟩ := Outcome.mapError_eq_error_iff.mp hparse
    exact .inr ⟨e, hfault.symm⟩

private theorem lookUp_of_not_knows {wanted : Document} (h : ¬ inv.Knows wanted) :
    inv.lookUp wanted = .error (.unknownDevice wanted.plain) := by
  rw [lookUp, device_eq_error_iff.mpr ⟨rfl, h⟩]
  rfl

variable (hclear : inv.HasClearIds)

include hclear

private theorem givesOn_nodeConnections (wanted : Document) :
    (inv.nodeConnections wanted).GivesOn (·.IsComplete inv) (do
      let n ← inv.lookUp wanted
      let links ← (Connection.parseList inv.connections).mapError .shape
      return links.filter (·.touches n.id)) :=
  (givesOn_lookUp hclear wanted).bind fun _ _ =>
    givesOn_connections_of_complete.bind fun _ _ => .pure _

/-- The script of a device is compiled with the links of the device that its id leads to. -/
theorem givesOn_script (n : Node) :
    (inv.script n).GivesOn (·.IsComplete inv) (do
      let other ← inv.lookUp (.text n.id)
      let links ← (Connection.parseList inv.connections).mapError .shape
      n.compile (links.filter (·.touches other.id))) := by
  rw [script_eq]
  exact (givesOn_lookUp hclear (.text n.id)).bind fun _ _ =>
    givesOn_connections_of_complete.bind fun _ _ => .ofResult _

end Answers

/-- The ways in which the script of a listed device can fail. Only the last one is about ids. -/
def IsScriptFault (inv : Inventory) (found : List Node) (fault : Fault) : Prop :=
  (∃ e, fault = .shape e) ∨ (∃ text, fault = .badInteger text) ∨
    ∃ n ∈ found, ¬ inv.Knows (.text n.id) ∧ fault = .unknownDevice n.id

section Scripts

/-- The scripts of several devices fail only as the script of one of them does. -/
theorem ensures_scripts {Kept : Cache → Prop} {q : Fault → Prop} {nodes : List Node}
    (h : ∀ n ∈ nodes, (inv.script n).Ensures Kept (fun _ => True) q) :
    (CommandLine.scripts inv nodes).Ensures Kept (fun _ => True) q := by
  have hall : (nodes.mapM fun n => do
      return CommandLine.headed (1 < nodes.length) n (← inv.script n)).Ensures Kept
        (∀ text ∈ ·, True) q :=
    .mapM fun n hn => (h n hn).bind fun _ _ => .pure trivial
  exact hall.bind fun _ _ => .pure trivial

/-- The devices of a vendor, or all of them without one. -/
def ofVendor (vendor : Option Vendor) (found : List Node) : List Node :=
  match vendor with
  | some v => found.filter fun n => Text.lower n.vendor.name == Text.lower v.name
  | none => found

private theorem mem_of_mem_ofVendor {vendor : Option Vendor} {found : List Node} {n : Node}
    (h : n ∈ ofVendor vendor found) : n ∈ found := by
  cases vendor with
  | some v => exact (List.mem_filter.mp h).1
  | none => exact h

/-- The text for devices that have been chosen; nothing if a vendor has none. -/
def textOf (inv : Inventory) (vendor : Option Vendor) (nodes : List Node) :
    Session (Option String) := do
  if nodes.isEmpty && vendor.isSome then return none
  return some (← CommandLine.scripts inv nodes)

/-- Without a device the file is listed first, and the vendor chooses among the devices. -/
theorem compileText_none (vendor : Option Vendor) :
    CommandLine.compileText inv none vendor =
      inv.nodes >>= fun found => inv.textOf vendor (ofVendor vendor found) := by
  cases vendor with
  | some v =>
    simp [CommandLine.compileText, CommandLine.chosenNodes, CommandLine.nonempty, nodesOf, textOf,
      ofVendor]
  | none =>
    simp [CommandLine.compileText, CommandLine.chosenNodes, CommandLine.nonempty, textOf, ofVendor]

variable (hclear : inv.HasClearIds) {found : List Node}

include hclear

private theorem ensures_script {n : Node} (hn : n ∈ found) :
    (inv.script n).Ensures (·.IsComplete inv) (fun _ => True) (inv.IsScriptFault found) := by
  refine (givesOn_script hclear n).ensures.imp (fun _ _ => trivial) fun fault hfault => ?_
  obtain hlookup | ⟨other, _, hrest⟩ := Outcome.bind_eq_error_iff.mp hfault
  · obtain ⟨rfl, hknows⟩ | hshape := lookUp_eq_error hlookup
    · exact .inr (.inr ⟨n, hn, hknows, rfl⟩)
    · exact .inl hshape
  · obtain hlinks | ⟨links, _, hcompile⟩ := Outcome.bind_eq_error_iff.mp hrest
    · obtain ⟨e, _, rfl⟩ := Outcome.mapError_eq_error_iff.mp hlinks
      exact .inl ⟨e, rfl⟩
    · exact .inr (.inl (Node.exists_badInteger_of_compile_eq_error hcompile))

private theorem ensures_textOf (vendor : Option Vendor) {nodes : List Node}
    (hnodes : ∀ n ∈ nodes, n ∈ found) :
    (inv.textOf vendor nodes).Ensures (·.IsComplete inv) (fun _ => True)
      (inv.IsScriptFault found) := by
  rw [textOf]
  split
  · exact .pure trivial
  · have hscripts := ensures_scripts fun n hn => ensures_script hclear (hnodes n hn)
    exact hscripts.bind fun _ _ => .pure trivial

/-- The scripts of all devices or of those of a vendor, from a listing onwards. -/
theorem isScriptFault_of_compileText (hcache : cache.IsDrawnFrom inv) {vendor : Option Vendor}
    {fault : Fault}
    (hfault : ((CommandLine.compileText inv none vendor).answer cache).1 = .error fault) :
    (∃ e, fault = .shape e) ∨ ∃ found after, inv.nodes.answer cache = (.ok found, after) ∧
      inv.IsScriptFault found fault := by
  rw [compileText_none] at hfault
  cases hlist : inv.nodes.answer cache with
  | mk outcome after =>
    cases outcome with
    | error cause =>
      rw [Session.answer_bind_error hlist] at hfault
      obtain rfl := Except.error.inj hfault
      exact .inl ((ensures_nodes cache hcache).2.error (congrArg Prod.fst hlist))
    | ok found =>
      rw [Session.answer_bind hlist] at hfault
      obtain ⟨hcomplete, _⟩ := isComplete_of_answer_nodes hclear hcache hlist
      have hchosen : ∀ n ∈ ofVendor vendor found, n ∈ found := fun _ => mem_of_mem_ofVendor
      have htext := ensures_textOf hclear vendor hchosen after hcomplete
      exact .inr ⟨found, after, rfl, htext.2.error hfault⟩

end Scripts

section Ids

/-- Whether the id of a device leads to the entry of the device, or to one with the same id in the
    file. -/
def LeadsBack (inv : Inventory) (n : Node) : Prop :=
  ∃ fields ∈ inv.deviceFields, Node.parse (.object fields) = .ok n ∧
    (inv.device (.text n.id)).map idText = .ok (idText fields)

/-- A device that is asked for by the id it has been read with: the answers are that device, the
    links that touch it, and the script that is compiled from both. -/
structure AnswersById (inv : Inventory) (cache : Cache) (n : Node) : Prop where
  node : ((inv.node (.text n.id)).answer cache).1 = .ok n
  links : ((inv.nodeConnections (.text n.id)).answer cache).1 = (do
    let links ← (Connection.parseList inv.connections).mapError .shape
    return links.filter (·.touches n.id))
  script : ∀ w arguments, Service.inventory w = .ok inv →
    Fields.get? arguments "device_id" = some (.text n.id) →
    ((Service.compileDevice w arguments).answer cache).1 = (do
      let links ← (Connection.parseList inv.connections).mapError .shape
      return Service.scriptAnswer n (← n.compile (links.filter (·.touches n.id))))

private theorem leadsBack_of_isPlainField (hclear : inv.HasClearIds) {fields : Fields}
    (hfields : fields ∈ inv.deviceFields) {n : Node} (hparse : Node.parse (.object fields) = .ok n)
    {raw : Document} (hraw : Fields.get? fields "id" = some raw) :
    (n.id = idText fields ↔ raw.isPlainField) ∧ (raw.isPlainField → inv.LeadsBack n) := by
  have hid : n.id = idText fields ↔ raw.isPlainField := by
    obtain ⟨id, hsame, hn⟩ := Node.id_eq_of_parse hparse
    obtain rfl := Option.some.inj (hraw.symm.trans hsame)
    rw [hn, idText, hraw]
    exact raw.fieldText_eq_plain_iff
  refine ⟨hid, fun hplain => ⟨fields, hfields, hparse, ?_⟩⟩
  obtain ⟨first, hdevice⟩ := exists_device_of_knows (knows_idText hfields)
  have hlisted := mem_listedFields_of_parse hfields hparse
  rw [hid.mpr hplain, hdevice, ← hclear.idText_eq_of_device hlisted hdevice]
  rfl

private theorem answersById_iff (hclear : inv.HasClearIds) (hcache : cache.IsComplete inv)
    {n : Node} :
    inv.AnswersById cache n ↔ inv.LeadsBack n := by
  have hnode := ((givesOn_lookUp hclear (.text n.id)).outcome_eq hcache)
  constructor
  · intro h
    exact (lookUp_eq_ok_iff hclear).mp (hnode.symm.trans h.node)
  · intro h
    have hfound : inv.lookUp (.text n.id) = .ok n := (lookUp_eq_ok_iff hclear).mpr h
    refine ⟨hnode.trans hfound, ?_, fun w arguments hinv hargument => ?_⟩
    · rw [(givesOn_nodeConnections hclear (.text n.id)).outcome_eq hcache, hfound]
      rfl
    · have hcompile : Service.compileDevice w arguments = (do
          let m ← inv.node (.text n.id)
          return Service.scriptAnswer m (← inv.script m)) := by
        rw [Service.compileDevice, Service.argument, hinv, hargument]
        rfl
      have hgives : (Service.compileDevice w arguments).GivesOn (·.IsComplete inv) (do
          let m ← inv.lookUp (.text n.id)
          let script ← (do
            let other ← inv.lookUp (.text m.id)
            let links ← (Connection.parseList inv.connections).mapError .shape
            m.compile (links.filter (·.touches other.id)))
          return Service.scriptAnswer m script) := by
        rw [hcompile]
        exact (givesOn_lookUp hclear (.text n.id)).bind fun m _ =>
          (givesOn_script hclear m).bind fun _ _ => .pure _
      rw [hgives.outcome_eq hcache, hfound]
      change (do
        let script ← (do
          let other ← inv.lookUp (.text n.id)
          let links ← (Connection.parseList inv.connections).mapError .shape
          n.compile (links.filter (·.touches other.id)))
        return Service.scriptAnswer n script) = _
      rw [hfound]
      cases Connection.parseList inv.connections with
      | error e => rfl
      | ok links => rfl

/-- After a listing that is answered, whatever has been asked before it and since, a device answers
    to the id it has been read with exactly if that id leads back to an entry with the id of the
    device in the file. Every id does so that is neither null nor a whole number with a point; those
    are read as other texts. The script of a device whose id nothing answers to fails for an unknown
    device, and when all devices are compiled, no other one is said to be unknown. -/
theorem listed_device_answers_by_id_iff (hclear : inv.HasClearIds) {before listed : Cache}
    (hbefore : inv.Reached before) {found : List Node}
    (hlist : inv.nodes.answer before = (.ok found, listed))
    (hcache : inv.ReachedFrom listed cache) :
    (∀ n ∈ found, (inv.AnswersById cache n ↔ inv.LeadsBack n) ∧
      (¬ inv.Knows (.text n.id) →
        ((inv.script n).answer cache).1 = .error (.unknownDevice n.id))) ∧
    (∀ fields ∈ inv.listedFields, ∀ raw, Fields.get? fields "id" = some raw →
      ∃ n ∈ found, Node.parse (.object fields) = .ok n ∧
        (n.id = idText fields ↔ raw.isPlainField) ∧ (raw.isPlainField → inv.LeadsBack n)) ∧
    ∀ w topology vendor fault, Inventory.load w topology = .ok inv →
      CommandLine.runCompile w topology none vendor none = .error fault →
        inv.IsScriptFault found fault := by
  obtain ⟨hlisted, hread⟩ :=
    isComplete_of_answer_nodes hclear (hbefore.isDrawnFrom Cache.isDrawnFrom_empty) hlist
  have hcomplete := hcache.isComplete hclear hlisted
  refine ⟨fun n _ => ⟨answersById_iff hclear hcomplete, fun hunknown => ?_⟩, ?_, ?_⟩
  · rw [(givesOn_script hclear n).outcome_eq hcomplete, lookUp_of_not_knows hunknown]
    rfl
  · intro fields hfields raw hraw
    obtain ⟨n, hn, hparse⟩ := Outcome.exists_of_forall₂_left hread hfields
    have hmem := (List.mem_filter.mp hfields).1
    exact ⟨n, hn, hparse, leadsBack_of_isPlainField hclear hmem hparse hraw⟩
  · intro w topology vendor fault hload hrun
    have hfault : ((CommandLine.compileText inv none vendor).answer {}).1 = .error fault := by
      obtain hfail | ⟨_, hinv, hrest⟩ := Outcome.bind_eq_error_iff.mp hrun
      · cases hload.symm.trans hfail
      · obtain rfl := Except.ok.inj (hload.symm.trans hinv)
        obtain hcompile | ⟨text, _, hprint⟩ := Outcome.bind_eq_error_iff.mp hrest
        · exact hcompile
        · cases text with
          | none => cases hprint
          | some text => cases hprint
    obtain hshape | ⟨others, after, hothers, hfault⟩ :=
      isScriptFault_of_compileText hclear Cache.isDrawnFrom_empty hfault
    · exact .inl hshape
    · obtain ⟨_, hsame⟩ := isComplete_of_answer_nodes hclear Cache.isDrawnFrom_empty hothers
      have hfound : found = others := Outcome.eq_of_forall₂ hread hsame
        fun fields _ n m hn hm => Except.ok.inj (hm.symm.trans hn)
      rw [hfound]
      exact hfault

/-- A device with an integer as its id. -/
theorem numbered_device_answers_by_id : ∃ inv n listed,
    ofDocument "t.json" (.object [("nodes", .list [.object [("id", .int 7)]])]) = .ok inv ∧
    inv.HasClearIds ∧ inv.Reached {} ∧ inv.nodes.answer {} = (.ok [n], listed) ∧
    inv.ReachedFrom listed listed ∧ n.id = "7" ∧ inv.AnswersById listed n := by
  have hparse : Node.parse (.object [("id", .int 7)]) = .ok { id := "7" } := rfl
  have hlist : (Inventory.nodes ⟨"t.json", [.object [("id", .int 7)]], none⟩).answer {} =
      (.ok [{ id := "7" }], { nodes := [("7", { id := "7" })] }) := rfl
  obtain ⟨hanswers, hplain, _⟩ :=
    listed_device_answers_by_id_iff hasClearIds_of_entry .start hlist .start
  obtain ⟨n, hn, hread, _, hback⟩ := hplain [("id", .int 7)] (.head _) (.int 7) rfl
  obtain rfl := Except.ok.inj (hread.symm.trans hparse)
  exact ⟨_, _, _, rfl, hasClearIds_of_entry, .start, hlist, .start, rfl,
    (hanswers _ hn).1.mpr (hback rfl)⟩

/-- A device with a whole number with a point as its id: it is listed, but not known by the id that
    it has been read with. -/
theorem device_unknown_by_parsed_id : ∃ inv n listed,
    ofDocument "t.json" (.object [("nodes", .list [.object
      [("id", .float (.finite false 4503599627370496 (-52))), ("name", .text "x")]])]) = .ok inv ∧
    inv.HasClearIds ∧ inv.nodes.answer {} = (.ok [n], listed) ∧ n.id = "1" ∧
    ((inv.node (.text n.id)).answer listed).1 = .error (.unknownDevice "1") ∧
    ((inv.script n).answer listed).1 = .error (.unknownDevice "1") := by
  have hlist : (Inventory.nodes ⟨"t.json", [.object
      [("id", .float (.finite false 4503599627370496 (-52))), ("name", .text "x")]], none⟩).answer
        {} = (.ok [{ id := "1", name := "x" }],
          { nodes := [("1.0", { id := "1", name := "x" })] }) := rfl
  exact ⟨_, _, _, rfl, hasClearIds_of_entry, hlist, rfl, rfl, rfl⟩

end Ids

end Netscribe.Inventory
