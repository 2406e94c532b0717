import Netscribe.Proofs.Inventory.Enumeration
/-!
Questions to an inventory without its memory. As long as ids are distinct, what is kept never
changes an answer: every question is answered, or fails, as if it were the first one.
-/
open Netscribe.Document (Fields)

namespace Netscribe.Inventory

/-- Everything kept is what reading it again would give. -/
structure Cache.IsOf (cache : Cache) (inv : Inventory) : Prop where
  nodes : cache.AgreesWith inv
  connections : ∀ {found}, cache.connections = some found →
    Connection.parseList inv.connections = .ok found

/-- The empty cache agrees with every inventory. -/
theorem Cache.isOf_empty (inv : Inventory) : Cache.IsOf {} inv :=
  ⟨agreesWith_empty, fun h => nomatch h⟩

section Results

variable {α β : Type}

/-- A result that is a value needs no cache. -/
theorem ofResult_ok (a : α) : ofResult (.ok a) = pure a := rfl

/-- A parsed value is a result whose failure is one of shape. -/
theorem ofParsed_eq (result : Except ParseError α) :
    ofParsed result = ofResult (result.mapError .shape) := by
  cases result <;> rfl

/-- Results are chained before or after they become questions. -/
theorem ofResult_bind (result : Except Fault α) (next : α → Except Fault β) :
    ofResult (result >>= next) = ofResult result >>= fun a => ofResult (next a) := by
  cases result <;> rfl

end Results

namespace Session

variable {α β : Type} {Kept : Cache → Prop}

/-- A question that has one outcome as long as what is kept meets a condition, and that leaves only
    what meets it. -/
def GivesOn (Kept : Cache → Prop) (question : Session α) (outcome : Except Fault α) : Prop :=
  ∀ cache : Cache, Kept cache →
    ∃ after : Cache, Kept after ∧ question.answer cache = (outcome, after)

/-- A question that always gives an outcome gives it for a cache at hand. -/
theorem GivesOn.outcome_eq {question : Session α} {outcome : Except Fault α}
    (h : question.GivesOn Kept outcome) {cache : Cache} (hcache : Kept cache) :
    (question.answer cache).1 = outcome := by
  obtain ⟨after, _, hanswer⟩ := h cache hcache
  rw [hanswer]

/-- An outcome that is at hand is given whatever the cache holds. -/
theorem GivesOn.ofResult (outcome : Except Fault α) : GivesOn Kept (ofResult outcome) outcome :=
  fun cache h => ⟨cache, h, rfl⟩

/-- A value is given whatever the cache holds. -/
theorem GivesOn.pure (a : α) : GivesOn Kept (Pure.pure a) (.ok a) := fun cache h => ⟨cache, h, rfl⟩

/-- A question that fails ends the chain, with the cache that it leaves. -/
theorem answer_bind_error {question : Session α} {next : α → Session β} {cache after : Cache}
    {fault : Fault} (h : question.answer cache = (.error fault, after)) :
    (question >>= next).answer cache = (.error fault, after) := by
  rw [answer] at h ⊢
  rw [ExceptT.run_bind, StateT.run_bind, h]
  rfl

/-- Questions that give their outcomes give the chained one together. -/
theorem GivesOn.bind {question : Session α} {outcome : Except Fault α} {next : α → Session β}
    {result : α → Except Fault β} (h : question.GivesOn Kept outcome)
    (hnext : ∀ a, outcome = .ok a → (next a).GivesOn Kept (result a)) :
    (question >>= next).GivesOn Kept (outcome >>= result) := by
  intro cache hcache
  obtain ⟨middle, hmiddle, hanswer⟩ := h cache hcache
  cases outcome with
  | error fault => exact ⟨middle, hmiddle, answer_bind_error hanswer⟩
  | ok a =>
    obtain ⟨after, hafter, hrest⟩ := hnext a rfl middle hmiddle
    exact ⟨after, hafter, (answer_bind hanswer).trans hrest⟩

/-- After a question that gives a value, the next one decides. -/
theorem GivesOn.bind_ok {question : Session α} {a : α} {next : α → Session β}
    {result : Except Fault β} (h : question.GivesOn Kept (.ok a))
    (hnext : (next a).GivesOn Kept result) : (question >>= next).GivesOn Kept result := by
  have hsame : ∀ b, Except.ok a = (.ok b : Except Fault α) → (next b).GivesOn Kept result := by
    rintro b ⟨⟩
    exact hnext
  exact h.bind hsame

/-- A question for each item gives the outcomes in their order. -/
theorem GivesOn.mapM {question : α → Session β} {outcome : α → Except Fault β}
    (h : ∀ a, (question a).GivesOn Kept (outcome a)) (as : List α) :
    (as.mapM question).GivesOn Kept (as.mapM outcome) := by
  induction as with
  | nil => exact .pure []
  | cons a rest ih =>
    rw [List.mapM_cons, List.mapM_cons]
    exact (h a).bind fun b _ => ih.bind fun bs _ => .pure (b :: bs)

/-- What is given out in the end does not change what is kept. -/
theorem GivesOn.map {question : Session α} {outcome : Except Fault α}
    (h : question.GivesOn Kept outcome) (f : α → β) :
    (question >>= fun a => Pure.pure (f a)).GivesOn Kept (outcome.map f) := by
  have hbind : outcome.map f = outcome >>= fun a => .ok (f a) := by cases outcome <;> rfl
  rw [hbind]
  exact h.bind fun a _ => .pure (f a)

end Session

/-- A question that has one outcome, whatever is kept of the inventory, and keeps only what is of
    the inventory itself. -/
def Session.Gives {α : Type} (question : Session α) (inv : Inventory) (outcome : Except Fault α) :
    Prop :=
  ∀ cache : Cache, cache.IsOf inv →
    ∃ after : Cache, after.IsOf inv ∧ question.answer cache = (outcome, after)

/-- A question with an outcome gives it for every cache that agrees with the inventory. -/
theorem Session.Gives.givesOn {α : Type} {question : Session α} {inv : Inventory}
    {outcome : Except Fault α} (h : question.Gives inv outcome) :
    question.GivesOn (·.IsOf inv) outcome := h

section Questions

variable {inv : Inventory}

section Kept

variable {Kept : Cache → Prop}

/-- A device is read as its entry whenever what is kept under its key is the reading of that entry,
    and stays so when the reading is added. -/
theorem givesOn_readNode {key : String} {entry : Document}
    (hfound : ∀ {cache : Cache}, Kept cache → ∀ n, cache.nodes.lookup key = some n →
      Node.parse entry = .ok n)
    (hkeep : ∀ {cache : Cache}, Kept cache → ∀ n, Node.parse entry = .ok n →
      Kept { cache with nodes := cache.nodes ++ [(key, n)] }) :
    (readNode key entry).GivesOn Kept ((Node.parse entry).mapError .shape) := by
  intro cache hcache
  cases hkept : cache.nodes.lookup key with
  | some kept =>
    rw [hfound hcache kept hkept]
    exact ⟨cache, hcache, answer_readNode_of_kept hkept⟩
  | none =>
    cases hparse : Node.parse entry with
    | error e => exact ⟨cache, hcache, answer_readNode_of_error hkept hparse⟩
    | ok n => exact ⟨_, hkeep hcache n hparse, answer_readNode_of_new hkept hparse⟩

/-- The connections are given as they are parsed, for every kind of cache that keeps them so. -/
theorem givesOn_allConnections
    (hfound : ∀ {cache : Cache}, Kept cache → ∀ found, cache.connections = some found →
      Connection.parseList inv.connections = .ok found)
    (hkeep : ∀ {cache : Cache}, Kept cache → ∀ found,
      Connection.parseList inv.connections = .ok found →
      Kept { cache with connections := some found }) :
    inv.allConnections.GivesOn Kept ((Connection.parseList inv.connections).mapError .shape) := by
  intro cache hcache
  rw [allConnections, Session.answer_bind (Session.answer_get cache)]
  cases hkept : cache.connections with
  | some kept =>
    rw [hfound hcache kept hkept]
    exact ⟨cache, hcache, rfl⟩
  | none =>
    dsimp only
    cases hparse : Connection.parseList inv.connections with
    | error e => exact ⟨cache, hcache, rfl⟩
    | ok found => exact ⟨_, hkeep hcache found hparse, rfl⟩

/-- A question for a device looks it up and reads its entry under the text of its id. -/
theorem node_eq (wanted : Document) : inv.node wanted = (do
    let fields ← ofResult (inv.device wanted)
    readNode (idText fields) (.object fields)) := by
  simp [node, keyedNode]

/-- For its script a device is looked up once more, by its own id. -/
theorem script_eq (n : Node) : inv.script n = (do
    let other ← inv.node (.text n.id)
    let found ← inv.allConnections
    ofResult (n.compile (found.filter (·.touches other.id)))) := by
  simp [script, nodeConnections]

end Kept

private theorem gives_readNode (hdistinct : inv.HasDistinctIds) {fields : Fields}
    (hfields : fields ∈ inv.deviceFields) :
    (readNode (idText fields) (.object fields)).Gives inv
      ((Node.parse (.object fields)).mapError .shape) :=
  givesOn_readNode (fun hcache n hkept => hcache.nodes fields hfields n hkept)
    fun hcache _ hparse => ⟨hcache.nodes.keep hdistinct hfields hparse, hcache.connections⟩

/-- A device that is found is one of the listed entries. -/
theorem mem_deviceFields_of_device {wanted : Document} {fields : Fields}
    (h : inv.device wanted = .ok fields) : fields ∈ inv.deviceFields := by
  rw [device] at h
  split at h
  next _ hfound =>
    cases h
    exact List.mem_of_find?_eq_some hfound
  next => cases h

/-- The device of an id or a name, read from its entry. -/
def readDevice (inv : Inventory) (wanted : Document) : Except Fault Node := do
  (Node.parse (.object (← inv.device wanted))).mapError .shape

/-- A device that is found is read as its entry is. -/
theorem readDevice_eq {wanted : Document} {fields : Fields} (h : inv.device wanted = .ok fields) :
    inv.readDevice wanted = (Node.parse (.object fields)).mapError .shape := by
  rw [readDevice, h]
  exact pure_bind fields fun fields => (Node.parse (.object fields)).mapError Fault.shape

/-- A device that is found under its id as text and can be read has that id. -/
theorem id_eq_of_readDevice {wanted : Document} {fields : Fields} {id : String} {n : Node}
    (h : inv.device wanted = .ok fields) (hid : Fields.get? fields "id" = some (.text id))
    (hn : inv.readDevice wanted = .ok n) : n.id = id := by
  rw [readDevice_eq h] at hn
  cases hparse : Node.parse (.object fields) with
  | error e =>
    rw [hparse] at hn
    cases hn
  | ok m =>
    rw [hparse] at hn
    obtain rfl := Except.ok.inj hn
    obtain ⟨raw, hraw, hsame⟩ := Node.id_eq_of_parse hparse
    obtain rfl := Option.some.inj (hid.symm.trans hraw)
    exact hsame

/-- With distinct ids a node is what its entry reads as. -/
theorem gives_node (hdistinct : inv.HasDistinctIds) (wanted : Document) :
    (inv.node wanted).Gives inv (inv.readDevice wanted) := by
  rw [node_eq]
  exact (Session.GivesOn.ofResult _).bind fun fields hdevice =>
    gives_readNode hdistinct (mem_deviceFields_of_device hdevice)

private theorem gives_allConnections :
    inv.allConnections.Gives inv ((Connection.parseList inv.connections).mapError .shape) := by
  refine givesOn_allConnections (fun hcache found hkept => hcache.connections hkept) ?_
  rintro cache hcache found hparse
  refine ⟨hcache.nodes, ?_⟩
  rintro _ ⟨⟩
  exact hparse

/-- A script is compiled with the connections that touch the device of that id. -/
theorem gives_script (hdistinct : inv.HasDistinctIds) {n : Node}
    (hdevice : inv.readDevice (.text n.id) = .ok n) :
    (inv.script n).Gives inv (do
      let found ← (Connection.parseList inv.connections).mapError .shape
      n.compile (found.filter (·.touches n.id))) := by
  have hnode := gives_node hdistinct (.text n.id)
  rw [hdevice] at hnode
  rw [script_eq]
  exact hnode.givesOn.bind_ok (gives_allConnections.givesOn.bind fun _ _ => .ofResult _)

end Questions

end Netscribe.Inventory
