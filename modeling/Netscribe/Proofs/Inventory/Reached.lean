import Netscribe.Proofs.Inventory.History
/-!
What an inventory keeps after any history of questions: readings of its own entries, each under the
text of the entry's id. Questions are followed step by step: if each step keeps a condition on what
is kept and answers, or fails, as expected, so does the whole. As long as no other entry answers to
the id of a device, listing the devices and compiling one of them have one outcome each, whatever
has been asked before.
-/
open Netscribe.Document (Fields)

namespace Netscribe.Inventory

/-- Ids that lead to one device each: they are texts, and no other entry answers to one of them,
    by its id or by its name. -/
structure HasPlainIds (inv : Inventory) : Prop where
  texts : ∀ fields ∈ inv.deviceFields, ∀ id, Fields.get? fields "id" = some id →
    ∃ text, id = .text text
  unshared : ∀ fields ∈ inv.deviceFields, Fields.contains fields "id" →
    ∀ other ∈ inv.deviceFields, isCalled (.text (idText fields)) other → other = fields

/-- The script of the device of an id or a name, compiled with the connections that touch it. -/
def readScript (inv : Inventory) (wanted : Document) : Except Fault String := do
  let n ← inv.readDevice wanted
  let found ← (Connection.parseList inv.connections).mapError .shape
  n.compile (found.filter (·.touches n.id))

private theorem exists_of_readDevice {inv : Inventory} {wanted : Document} {n : Node}
    (h : inv.readDevice wanted = .ok n) : ∃ fields ∈ inv.deviceFields,
      inv.device wanted = .ok fields ∧ Node.parse (.object fields) = .ok n := by
  obtain ⟨fields, hdevice, hread⟩ := Outcome.bind_eq_ok_iff.mp h
  refine ⟨fields, mem_deviceFields_of_device hdevice, hdevice, ?_⟩
  cases hparse : Node.parse (.object fields) with
  | error e =>
    rw [hparse] at hread
    cases hread
  | ok m =>
    rw [hparse] at hread
    rw [Except.ok.inj hread]

/-- What is parsed as a device has an id. -/
theorem contains_id_of_parse {fields : Fields} {n : Node}
    (h : Node.parse (.object fields) = .ok n) : Fields.contains fields "id" := by
  obtain ⟨raw, hraw, _⟩ := Node.id_eq_of_parse h
  exact Fields.contains_of_get?_eq_some hraw

namespace HasPlainIds

variable {inv : Inventory} (h : inv.HasPlainIds)

include h

/-- The id of an entry leads to that entry. -/
theorem device_eq {fields : Fields} (hfields : fields ∈ inv.deviceFields)
    (hid : Fields.contains fields "id") : inv.device (.text (idText fields)) = .ok fields := by
  rw [device]
  cases hfound : inv.deviceFields.find? (isCalled (.text (idText fields))) with
  | none =>
    exact absurd (isCalled_text_iff.mpr (.inl rfl)) (List.find?_eq_none.mp hfound fields hfields)
  | some other =>
    have hother := List.mem_of_find?_eq_some hfound
    rw [h.unshared fields hfields hid other hother (List.find?_some hfound)]

private theorem id_eq {fields : Fields} (hfields : fields ∈ inv.deviceFields) {n : Node}
    (hparse : Node.parse (.object fields) = .ok n) : n.id = idText fields := by
  obtain ⟨raw, hraw, hn⟩ := Node.id_eq_of_parse hparse
  obtain ⟨id, rfl⟩ := h.texts fields hfields raw hraw
  rw [hn, idText_eq hraw]
  rfl

/-- An entry that can be read has an id, which no other entry shares with it. -/
theorem hasOneReading : inv.HasOneReading := by
  intro wanted other fields fields' hfields hfields' hid n hparse
  have hsame : fields' = fields :=
    h.unshared fields (mem_deviceFields_of_device hfields) (contains_id_of_parse hparse) fields'
      (mem_deviceFields_of_device hfields') (isCalled_text_iff.mpr (.inl hid))
  rw [hsame]
  exact hparse

/-- A device that has been found is found again by its own id. -/
theorem readDevice_id {wanted : Document} {n : Node} (hn : inv.readDevice wanted = .ok n) :
    inv.readDevice (.text n.id) = .ok n := by
  obtain ⟨fields, hfields, _, hparse⟩ := exists_of_readDevice hn
  have hdevice := h.device_eq hfields (contains_id_of_parse hparse)
  rw [← h.id_eq hfields hparse] at hdevice
  rw [readDevice_eq hdevice, hparse]
  rfl

/-- The device that is listed for an id has that id. -/
theorem id_eq_of_readDevice {id : String} (hid : id ∈ inv.deviceIds) {n : Node}
    (hn : inv.readDevice (.text id) = .ok n) : n.id = id := by
  obtain ⟨listed, hlisted, rfl⟩ := List.mem_map.mp hid
  obtain ⟨hmem, hcontains⟩ := List.mem_filter.mp hlisted
  obtain ⟨fields, _, hdevice, hparse⟩ := exists_of_readDevice hn
  obtain rfl := Except.ok.inj ((h.device_eq hmem hcontains).symm.trans hdevice)
  exact h.id_eq hmem hparse

/-- A faithful cache answers for all nodes as new readings do. -/
theorem givesOn_nodes :
    inv.nodes.GivesOn (·.IsFaithful inv) (inv.deviceIds.mapM (inv.readDevice <| .text ·)) :=
  Session.GivesOn.mapM (fun id => givesOn_node h.hasOneReading (.text id)) inv.deviceIds

/-- A look-up and the script of the device that it finds: the device is looked up once more by its
    own id. -/
theorem givesOn_script (wanted : Document) :
    (do inv.script (← inv.node wanted)).GivesOn (·.IsFaithful inv) (inv.readScript wanted) := by
  refine (givesOn_node h.hasOneReading wanted).bind fun n hn => ?_
  have hagain := givesOn_node h.hasOneReading (.text n.id)
  rw [h.readDevice_id hn] at hagain
  rw [script_eq]
  exact hagain.bind_ok (givesOn_connections.bind fun _ _ => .ofResult _)

end HasPlainIds

namespace Session

variable {α β : Type} {Kept : Cache → Prop} {p : α → Prop} {q : Fault → Prop}

/-- A question that leaves a condition on what is kept as it is, and whose answer, or else whose
    failure, is as expected. -/
def Ensures (Kept : Cache → Prop) (p : α → Prop) (q : Fault → Prop) (question : Session α) : Prop :=
  ∀ cache : Cache, Kept cache →
    Kept (question.answer cache).2 ∧ Outcome.Ensures p q (question.answer cache).1

/-- A question of which only what it keeps matters. -/
abbrev Keeps (Kept : Cache → Prop) (question : Session α) : Prop :=
  question.Ensures Kept (fun _ => True) (fun _ => True)

/-- What an outcome ensures, the question with this outcome ensures. -/
theorem Ensures.ofResult {outcome : Except Fault α} (h : Outcome.Ensures p q outcome) :
    (ofResult outcome).Ensures Kept p q := fun _ hcache => ⟨hcache, h⟩

/-- A value ensures what holds of it. -/
theorem Ensures.pure {a : α} (h : p a) : (Pure.pure a : Session α).Ensures Kept p q :=
  fun _ hcache => ⟨hcache, .pure h⟩

/-- What is ensured may be weakened. -/
theorem Ensures.imp {p' : α → Prop} {q' : Fault → Prop} {question : Session α}
    (h : question.Ensures Kept p q) (hp : ∀ a, p a → p' a) (hq : ∀ fault, q fault → q' fault) :
    question.Ensures Kept p' q' :=
  fun cache hcache => ⟨(h cache hcache).1, ((h cache hcache).2.imp hp).imp_error hq⟩

/-- A question that ensures anything keeps the cache of its kind. -/
theorem Ensures.keeps {question : Session α} (h : question.Ensures Kept p q) :
    question.Keeps Kept := h.imp (fun _ _ => trivial) fun _ _ => trivial

/-- A question that gives an outcome ensures that it is this one. -/
theorem GivesOn.ensures {question : Session α} {outcome : Except Fault α}
    (h : question.GivesOn Kept outcome) :
    question.Ensures Kept (outcome = .ok ·) (outcome = .error ·) := by
  intro cache hcache
  obtain ⟨after, hafter, hanswer⟩ := h cache hcache
  rw [hanswer]
  exact ⟨hafter, ⟨id, id⟩⟩

/-- What the first question ensures is at hand for the second one. -/
theorem Ensures.bind {r : β → Prop} {question : Session α} {next : α → Session β}
    (h : question.Ensures Kept p q) (hnext : ∀ a, p a → (next a).Ensures Kept r q) :
    (question >>= next).Ensures Kept r q := by
  intro cache hcache
  obtain ⟨hmiddle, houtcome⟩ := h cache hcache
  cases hanswer : question.answer cache with
  | mk outcome middle =>
    rw [hanswer] at hmiddle houtcome
    cases outcome with
    | error fault =>
      rw [answer_bind_error hanswer]
      exact ⟨hmiddle, .throw (houtcome.error rfl)⟩
    | ok a =>
      rw [answer_bind hanswer]
      exact hnext a (houtcome.ok rfl) middle hmiddle

/-- What is ensured of each question is ensured of all of them. -/
theorem Ensures.mapM {r : β → Prop} {question : α → Session β} {as : List α}
    (h : ∀ a ∈ as, (question a).Ensures Kept r q) :
    (as.mapM question).Ensures Kept (∀ b ∈ ·, r b) q := by
  induction as with
  | nil => exact .pure fun _ hb => nomatch hb
  | cons a rest ih =>
    obtain ⟨hfirst, hrest⟩ := List.forall_mem_cons.mp h
    rw [List.mapM_cons]
    refine hfirst.bind fun b hb => (ih hrest).bind fun bs hbs => .pure ?_
    exact List.forall_mem_cons.mpr ⟨hb, hbs⟩

end Session

section Questions

variable {inv : Inventory} {Kept : Cache → Prop}

/-- Only devices and connections are kept. -/
theorem keeps_ask (hnode : ∀ wanted, (inv.node wanted).Keeps Kept)
    (hconnections : inv.allConnections.Keeps Kept) (question : Question) :
    (inv.ask question).Keeps Kept := by
  have hnodes : inv.nodes.Keeps Kept := (Session.Ensures.mapM fun id _ => hnode (.text id)).keeps
  cases question with
  | node wanted => exact (hnode wanted).bind fun n _ => .pure trivial
  | nodes => exact hnodes.bind fun found _ => .pure trivial
  | nodesOf vendor =>
    have hchosen : (inv.nodesOf vendor).Keeps Kept := by
      refine hnodes.bind fun found _ => ?_
      cases vendor with
      | text name => exact .pure trivial
      | _ =>
        dsimp only
        split
        · exact .pure trivial
        · exact .ofResult (.throw trivial)
    exact hchosen.bind fun found _ => .pure trivial
  | connections => exact hconnections.bind fun found _ => .pure trivial
  | nodeConnections wanted =>
    have htouching : (inv.nodeConnections wanted).Keeps Kept :=
      (hnode wanted).bind fun n _ => hconnections.bind fun found _ => .pure trivial
    exact htouching.bind fun found _ => .pure trivial

/-- What is kept after some further questions, answered or not. -/
inductive ReachedFrom (inv : Inventory) (start : Cache) : Cache → Prop
  | start : inv.ReachedFrom start start
  | ask {cache : Cache} (h : inv.ReachedFrom start cache) (question : Question) :
      inv.ReachedFrom start ((inv.ask question).answer cache).2

/-- What an inventory keeps after some questions. -/
abbrev Reached (inv : Inventory) (cache : Cache) : Prop := inv.ReachedFrom {} cache

/-- What every question keeps holds after any history of questions. -/
theorem ReachedFrom.kept {start cache : Cache} (h : inv.ReachedFrom start cache)
    (hstart : Kept start) (hask : ∀ question, (inv.ask question).Keeps Kept) : Kept cache := by
  induction h with
  | start => exact hstart
  | ask _ question ih => exact (hask question _ ih).1

end Questions

/-- Everything kept has been read from the inventory: each device from an entry whose id is its key
    as text. -/
structure Cache.IsDrawnFrom (cache : Cache) (inv : Inventory) : Prop where
  nodes : ∀ {key n}, cache.nodes.lookup key = some n →
    ∃ fields ∈ inv.deviceFields, idText fields = key ∧ Node.parse (.object fields) = .ok n
  connections : ∀ found, cache.connections = some found →
    Connection.parseList inv.connections = .ok found

/-- A device that is given out is the reading of the entry that is looked up, or of another one with
    the same id. -/
structure IsReading (inv : Inventory) (wanted : Document) (fields : Fields) (n : Node) : Prop where
  mem : fields ∈ inv.deviceFields
  id : ∃ found, inv.device wanted = .ok found ∧ idText found = idText fields
  parse : Node.parse (.object fields) = .ok n

section Readings

variable {inv : Inventory}

/-- The empty cache is drawn from every inventory. -/
theorem Cache.isDrawnFrom_empty : Cache.IsDrawnFrom {} inv :=
  ⟨fun h => (nomatch h), fun _ h => (nomatch h)⟩

private theorem Cache.IsDrawnFrom.keep {cache : Cache} (h : cache.IsDrawnFrom inv) {fields : Fields}
    (hfields : fields ∈ inv.deviceFields) {n : Node}
    (hparse : Node.parse (.object fields) = .ok n) :
    Cache.IsDrawnFrom { cache with nodes := cache.nodes ++ [(idText fields, n)] } inv := by
  refine ⟨fun {key m} hfound => ?_, h.connections⟩
  rw [List.lookup_append, Option.or_eq_some_iff] at hfound
  obtain hbefore | ⟨_, hnew⟩ := hfound
  · exact h.nodes hbefore
  · by_cases hkey : key = idText fields
    · rw [hkey, List.lookup_cons_self] at hnew
      exact ⟨fields, hfields, hkey.symm, Option.some.inj hnew ▸ hparse⟩
    · rw [List.lookup_cons, beq_eq_false_iff_ne.mpr hkey] at hnew
      cases hnew

/-- A device is the reading of an entry, given out from what is kept or read now; it is not given
    out where no entry answers, or where the entry cannot be read. -/
theorem ensures_node (wanted : Document) :
    (inv.node wanted).Ensures (·.IsDrawnFrom inv) (∃ fields, inv.IsReading wanted fields ·)
      (fun fault => inv.device wanted = .error fault ∨ ∃ e, fault = .shape e) := by
  rw [node_eq]
  cases hdevice : inv.device wanted with
  | error fault => exact fun cache hcache => ⟨hcache, .throw (.inl rfl)⟩
  | ok found =>
    have hfound := mem_deviceFields_of_device hdevice
    rw [ofResult_ok, pure_bind]
    intro cache hcache
    cases hkept : cache.nodes.lookup (idText found) with
    | some kept =>
      obtain ⟨fields, hfields, hid, hparse⟩ := hcache.nodes hkept
      rw [answer_readNode_of_kept hkept]
      exact ⟨hcache, .pure ⟨fields, hfields, ⟨found, hdevice, hid.symm⟩, hparse⟩⟩
    | none =>
      cases hparse : Node.parse (.object found) with
      | error e =>
        rw [answer_readNode_of_error hkept hparse]
        exact ⟨hcache, .throw (.inr ⟨e, rfl⟩)⟩
      | ok n =>
        rw [answer_readNode_of_new hkept hparse]
        exact ⟨hcache.keep hfound hparse, .pure ⟨found, hfound, ⟨found, hdevice, rfl⟩, hparse⟩⟩

/-- A cache that is drawn from the inventory answers for the connections as it does. -/
theorem givesOn_connections_of_isDrawnFrom : inv.allConnections.GivesOn (·.IsDrawnFrom inv)
    ((Connection.parseList inv.connections).mapError .shape) := by
  refine givesOn_allConnections (fun hcache => hcache.connections) fun hcache found hparse => ?_
  exact ⟨hcache.nodes, fun _ hkept => Option.some.inj hkept ▸ hparse⟩

/-- One question keeps only what it has read from the inventory. -/
theorem keeps_ask_isDrawnFrom (question : Question) :
    (inv.ask question).Keeps (·.IsDrawnFrom inv) :=
  keeps_ask (fun wanted => (ensures_node wanted).keeps)
    givesOn_connections_of_isDrawnFrom.ensures.keeps question

/-- Whatever has been asked, everything kept is the reading of an entry. -/
theorem ReachedFrom.isDrawnFrom {start cache : Cache} (h : inv.ReachedFrom start cache)
    (hstart : start.IsDrawnFrom inv) : cache.IsDrawnFrom inv := h.kept hstart keeps_ask_isDrawnFrom

/-- Where entries with one id are read alike, whatever has been asked, everything kept is what
    reading it again would give. -/
theorem Reached.isFaithful {cache : Cache} (h : inv.Reached cache) (hone : inv.HasOneReading) :
    cache.IsFaithful inv := by
  have hask (question : Question) : (inv.ask question).Keeps (·.IsFaithful inv) := by
    obtain ⟨outcome, hgives⟩ := isSteady_ask hone question
    exact hgives.ensures.keeps
  exact h.kept (Cache.isFaithful_empty inv) hask

/-- After any history of questions a device that is given out is the reading of an entry: of the one
    that is found, where entries with one id are read alike. -/
theorem Reached.exists_isReading {cache after : Cache} (h : inv.Reached cache) {wanted : Document}
    {n : Node} (hanswer : (inv.node wanted).answer cache = (.ok n, after)) :
    ∃ fields, inv.IsReading wanted fields n ∧
      (inv.HasOneReading → inv.device wanted = .ok fields) := by
  by_cases hone : inv.HasOneReading
  · obtain ⟨_, _, hread⟩ := givesOn_node hone wanted cache (h.isFaithful hone)
    have hn : inv.readDevice wanted = .ok n := (Prod.mk.inj (hread.symm.trans hanswer)).1
    obtain ⟨fields, hfields, hdevice, hparse⟩ := exists_of_readDevice hn
    exact ⟨fields, ⟨hfields, ⟨fields, hdevice, rfl⟩, hparse⟩, fun _ => hdevice⟩
  · have hdrawn := h.isDrawnFrom Cache.isDrawnFrom_empty
    obtain ⟨fields, hreading⟩ := (ensures_node wanted cache hdrawn).2.ok (congrArg Prod.fst hanswer)
    exact ⟨fields, hreading, fun hone' => absurd hone' hone⟩

/-- A device that has not been read before is read from the entry that is found. -/
theorem answer_node_of_new {cache : Cache} {wanted : Document} {fields : Fields} {n : Node}
    (hdevice : inv.device wanted = .ok fields)
    (hkept : cache.nodes.lookup (idText fields) = none)
    (hparse : Node.parse (.object fields) = .ok n) :
    (inv.node wanted).answer cache =
      (.ok n, { cache with nodes := cache.nodes ++ [(idText fields, n)] }) := by
  rw [node_eq, hdevice, ofResult_ok, pure_bind]
  exact answer_readNode_of_new hkept hparse

end Readings

end Netscribe.Inventory
