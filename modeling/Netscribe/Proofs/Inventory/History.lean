import Netscribe.Proofs.Document.Fields
import Netscribe.Proofs.Inventory.Answers
/-!
Sequences of questions to one inventory. A device is kept under the text of its id, but it is looked
up by an id or a name, so two entries with one id share what is kept. Answers are independent of
what has been asked before exactly if such entries are read alike.
-/
open Netscribe.Document (Fields)

namespace Netscribe.Inventory

inductive Question where
  | node (wanted : Document)
  | nodes
  | nodesOf (vendor : Document)
  | connections
  | nodeConnections (wanted : Document)

inductive Answer where
  | node (n : Node)
  | nodes (found : List Node)
  | connections (found : List Connection)

section Asking

variable (inv : Inventory)

def ask : Question → Session Answer
  | .node wanted => do return .node (← inv.node wanted)
  | .nodes => do return .nodes (← inv.nodes)
  | .nodesOf vendor => do return .nodes (← inv.nodesOf vendor)
  | .connections => do return .connections (← inv.allConnections)
  | .nodeConnections wanted => do return .connections (← inv.nodeConnections wanted)

/-- The answers to a sequence of questions, each of which finds what the ones before it kept, those
    that failed included. -/
def answers : List Question → Cache → List (Except Fault Answer)
  | [], _ => []
  | question :: rest, cache =>
    let (outcome, after) := (inv.ask question).answer cache
    outcome :: answers rest after

/-- The answer of an inventory that has not been asked anything yet. -/
def firstAnswer (question : Question) : Except Fault Answer := ((inv.ask question).answer {}).1

/-- Whether entries that answer to an id or a name are read alike when the text of their id is the
    same, once one of them can be read. -/
def HasOneReading : Prop :=
  ∀ wanted other fields fields', inv.device wanted = .ok fields → inv.device other = .ok fields' →
    idText fields = idText fields' → ∀ n, Node.parse (.object fields) = .ok n →
    Node.parse (.object fields') = .ok n

end Asking

/-- Everything kept is what reading it again would give, whichever entry is looked up. -/
structure Cache.IsFaithful (cache : Cache) (inv : Inventory) : Prop where
  nodes : ∀ {wanted fields}, inv.device wanted = .ok fields →
    ∀ n, cache.nodes.lookup (idText fields) = some n → Node.parse (.object fields) = .ok n
  connections : ∀ found, cache.connections = some found →
    Connection.parseList inv.connections = .ok found

/-- The empty cache is faithful to every inventory. -/
theorem Cache.isFaithful_empty (inv : Inventory) : Cache.IsFaithful {} inv :=
  ⟨fun _ _ h => (nomatch h), fun _ h => (nomatch h)⟩

/-- Keeping the reading of one entry does not mislead another one with the same id. -/
theorem Cache.IsFaithful.keep {cache : Cache} {inv : Inventory} (h : cache.IsFaithful inv)
    (hone : inv.HasOneReading) {wanted : Document} {fields : Fields}
    (hdevice : inv.device wanted = .ok fields) {n : Node}
    (hparse : Node.parse (.object fields) = .ok n) :
    Cache.IsFaithful { cache with nodes := cache.nodes ++ [(idText fields, n)] } inv := by
  refine ⟨?_, h.connections⟩
  intro other fields' hother m hfound
  rw [List.lookup_append, Option.or_eq_some_iff] at hfound
  obtain hbefore | ⟨_, hnew⟩ := hfound
  · exact h.nodes hother m hbefore
  · by_cases hid : idText fields = idText fields'
    · rw [hid, List.lookup_cons_self] at hnew
      exact Option.some.inj hnew ▸ hone wanted other fields fields' hdevice hother hid n hparse
    · rw [List.lookup_cons, beq_eq_false_iff_ne.mpr (Ne.symm hid)] at hnew
      cases hnew

namespace Session

variable {α β : Type} {Kept : Cache → Prop}

/-- A question that has one outcome as long as what is kept meets a condition. -/
def IsSteady (Kept : Cache → Prop) (question : Session α) : Prop :=
  ∃ outcome, question.GivesOn Kept outcome

private theorem GivesOn.isSteady {question : Session α} {outcome : Except Fault α}
    (h : question.GivesOn Kept outcome) : question.IsSteady Kept := ⟨outcome, h⟩

private theorem IsSteady.bind {question : Session α} {next : α → Session β}
    (h : question.IsSteady Kept)
    (hnext : ∀ a, (next a).IsSteady Kept) : (question >>= next).IsSteady Kept := by
  obtain ⟨outcome, houtcome⟩ := h
  choose result hresult using hnext
  exact (houtcome.bind fun a _ => hresult a).isSteady

private theorem IsSteady.mapM {question : α → Session β} (h : ∀ a, (question a).IsSteady Kept)
    (as : List α) : (as.mapM question).IsSteady Kept := by
  choose outcome houtcome using h
  exact (GivesOn.mapM houtcome as).isSteady

end Session

section Questions

variable {inv : Inventory} (hone : inv.HasOneReading)

include hone

/-- A faithful cache answers for a node as a new reading does. -/
theorem givesOn_node (wanted : Document) :
    (inv.node wanted).GivesOn (·.IsFaithful inv) (inv.readDevice wanted) := by
  have hread : ∀ fields, inv.device wanted = .ok fields →
      (readNode (idText fields) (.object fields)).GivesOn (·.IsFaithful inv)
        ((Node.parse (.object fields)).mapError .shape) := by
    intro fields hdevice
    exact givesOn_readNode (fun hcache n hkept => hcache.nodes hdevice n hkept)
      fun hcache n hparse => hcache.keep hone hdevice hparse
  rw [node_eq]
  exact (Session.GivesOn.ofResult (inv.device wanted)).bind hread

private theorem isSteady_node (wanted : Document) : (inv.node wanted).IsSteady (·.IsFaithful inv) :=
  (givesOn_node hone wanted).isSteady

private theorem isSteady_nodes : inv.nodes.IsSteady (·.IsFaithful inv) :=
  Session.IsSteady.mapM (fun id => isSteady_node hone (.text id)) inv.deviceIds

private theorem isSteady_nodesOf (vendor : Document) :
    (inv.nodesOf vendor).IsSteady (·.IsFaithful inv) := by
  refine (isSteady_nodes hone).bind fun found => ?_
  cases vendor with
  | text name => exact (Session.GivesOn.pure _).isSteady
  | _ =>
    dsimp only
    split
    · exact (Session.GivesOn.pure _).isSteady
    · exact (Session.GivesOn.ofResult (.error _)).isSteady

omit hone in
/-- A faithful cache answers for the connections as a new reading does. -/
theorem givesOn_connections : inv.allConnections.GivesOn (·.IsFaithful inv)
    ((Connection.parseList inv.connections).mapError .shape) := by
  refine givesOn_allConnections (fun hcache => hcache.connections) ?_
  intro cache hcache found hparse
  refine ⟨hcache.nodes, ?_⟩
  rintro _ ⟨⟩
  exact hparse

private theorem isSteady_nodeConnections (wanted : Document) :
    (inv.nodeConnections wanted).IsSteady (·.IsFaithful inv) := by
  refine (isSteady_node hone wanted).bind fun n => ?_
  exact givesOn_connections.isSteady.bind fun found => (Session.GivesOn.pure _).isSteady

/-- One question: its outcome does not depend on what is kept, and what it keeps is faithful. -/
theorem isSteady_ask (question : Question) :
    (inv.ask question).IsSteady (·.IsFaithful inv) := by
  cases question with
  | node wanted =>
    exact (isSteady_node hone wanted).bind fun n => (Session.GivesOn.pure _).isSteady
  | nodes => exact (isSteady_nodes hone).bind fun found => (Session.GivesOn.pure _).isSteady
  | nodesOf vendor =>
    exact (isSteady_nodesOf hone vendor).bind fun found => (Session.GivesOn.pure _).isSteady
  | connections =>
    exact givesOn_connections.isSteady.bind fun found => (Session.GivesOn.pure _).isSteady
  | nodeConnections wanted =>
    exact (isSteady_nodeConnections hone wanted).bind fun found =>
      (Session.GivesOn.pure _).isSteady

/-- A whole sequence of questions, from whatever faithful readings are kept. -/
theorem answers_eq_of_isFaithful (questions : List Question) {cache : Cache}
    (hcache : cache.IsFaithful inv) :
    inv.answers questions cache = questions.map inv.firstAnswer := by
  induction questions generalizing cache with
  | nil => rfl
  | cons question rest ih =>
    obtain ⟨outcome, hgives⟩ := isSteady_ask hone question
    obtain ⟨after, hafter, hanswer⟩ := hgives cache hcache
    obtain ⟨_, _, hfirst⟩ := hgives {} (Cache.isFaithful_empty inv)
    have hsame : inv.firstAnswer question = outcome := congrArg Prod.fst hfirst
    rw [answers, hanswer, List.map_cons, hsame, ← ih hafter]

end Questions

private theorem answer_ask_node {inv : Inventory} {wanted : Document} {fields : Fields}
    {outcome : Except Fault Node} {cache after : Cache} (hdevice : inv.device wanted = .ok fields)
    (hread : (readNode (idText fields) (.object fields)).answer cache = (outcome, after)) :
    (inv.ask (.node wanted)).answer cache = (outcome.map .node, after) := by
  have hnode : (inv.node wanted).answer cache = (outcome, after) := by
    rw [node_eq, hdevice, ofResult_ok, pure_bind]
    exact hread
  cases outcome with
  | error fault => exact Session.answer_bind_error hnode
  | ok n => exact Session.answer_bind hnode

private theorem firstAnswer_node {inv : Inventory} {wanted : Document} {fields : Fields}
    (hdevice : inv.device wanted = .ok fields) :
    inv.firstAnswer (.node wanted) =
      ((Node.parse (.object fields)).mapError .shape).map .node := by
  rw [firstAnswer]
  cases hparse : Node.parse (.object fields) with
  | error e => rw [answer_ask_node hdevice (answer_readNode_of_error rfl hparse)]; rfl
  | ok n => rw [answer_ask_node hdevice (answer_readNode_of_new rfl hparse)]; rfl

/-- A device asked for after another entry of its id: the reading of that entry is given out. -/
theorem answers_node_node {inv : Inventory} {wanted other : Document} {fields fields' : Fields}
    {n : Node} (hfields : inv.device wanted = .ok fields)
    (hfields' : inv.device other = .ok fields')
    (hid : idText fields = idText fields') (hparse : Node.parse (.object fields) = .ok n) :
    inv.answers [.node wanted, .node other] {} = [.ok (.node n), .ok (.node n)] := by
  let kept : Cache := { nodes := [(idText fields, n)] }
  have hfirst : (inv.ask (.node wanted)).answer {} = (.ok (.node n), kept) :=
    answer_ask_node hfields (answer_readNode_of_new rfl hparse)
  have hkept : kept.nodes.lookup (idText fields') = some n := by
    rw [← hid]
    exact List.lookup_cons_self
  have hsecond : (inv.ask (.node other)).answer kept = (.ok (.node n), kept) :=
    answer_ask_node hfields' (answer_readNode_of_kept hkept)
  rw [answers, hfirst]
  change _ :: inv.answers [.node other] kept = _
  rw [answers, hsecond]
  rfl

private theorem hasOneReading_of_answers_eq {inv : Inventory}
    (h : ∀ questions, inv.answers questions {} = questions.map inv.firstAnswer) :
    inv.HasOneReading := by
  intro wanted other fields fields' hfields hfields' hid n hparse
  have hboth := (answers_node_node hfields hfields' hid hparse).symm.trans
    (h [.node wanted, .node other])
  have hsame : Except.ok (.node n) =
      ((Node.parse (.object fields')).mapError Fault.shape).map Answer.node := by
    rw [← firstAnswer_node hfields']
    exact (List.cons.inj (List.cons.inj hboth).2).1
  cases hother : Node.parse (.object fields') with
  | error e =>
    rw [hother] at hsame
    cases hsame
  | ok m =>
    rw [hother] at hsame
    cases hsame
    rfl

/-- For every history of questions, whether they were answered or failed, each answer is the one of
    an inventory that has not been asked anything, exactly if entries with one id are read alike. -/
theorem answers_eq_firstAnswers_iff (inv : Inventory) :
    (∀ questions, inv.answers questions {} = questions.map inv.firstAnswer) ↔
      inv.HasOneReading :=
  ⟨hasOneReading_of_answers_eq, fun hone questions =>
    answers_eq_of_isFaithful hone questions (Cache.isFaithful_empty inv)⟩

/-- Two entries of one id that go by their names: the second one is answered with the first one. -/
theorem answers_mix_entries_of_one_id : ∃ inv first second,
    ofDocument "t.json" (.object [("nodes", .list
      [.object [("id", .text "a"), ("name", .text "x"), ("vendor", .text "Cisco")],
        .object [("id", .text "a"), ("name", .text "y"), ("vendor", .text "H3C")]])]) = .ok inv ∧
    inv.firstAnswer (.node (.text "x")) = .ok (.node first) ∧
    inv.firstAnswer (.node (.text "y")) = .ok (.node second) ∧ first.vendor ≠ second.vendor ∧
    inv.answers [.node (.text "x"), .node (.text "y")] {} =
      [.ok (.node first), .ok (.node first)] := by
  have hfirst : Node.parse (.object [("id", .text "a"), ("name", .text "x"),
      ("vendor", .text "Cisco")]) = .ok { id := "a", name := "x", vendor := .cisco } := rfl
  have hsecond : Node.parse (.object [("id", .text "a"), ("name", .text "y"),
      ("vendor", .text "H3C")]) = .ok { id := "a", name := "y", vendor := .h3c } := rfl
  let inv : Inventory := ⟨"t.json",
    [.object [("id", .text "a"), ("name", .text "x"), ("vendor", .text "Cisco")],
      .object [("id", .text "a"), ("name", .text "y"), ("vendor", .text "H3C")]], none⟩
  have hx : inv.device (.text "x") =
      .ok [("id", .text "a"), ("name", .text "x"), ("vendor", .text "Cisco")] := rfl
  have hy : inv.device (.text "y") =
      .ok [("id", .text "a"), ("name", .text "y"), ("vendor", .text "H3C")] := rfl
  refine ⟨inv, _, { id := "a", name := "y", vendor := .h3c }, rfl, ?_, ?_, ?_,
    answers_node_node hx hy rfl hfirst⟩
  · rw [firstAnswer_node hx, hfirst]
    rfl
  · rw [firstAnswer_node hy, hsecond]
    rfl
  · decide

end Netscribe.Inventory
