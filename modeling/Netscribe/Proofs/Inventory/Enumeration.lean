import Mathlib.Data.List.Nodup
import Netscribe.Inventory.Session
import Netscribe.Proofs.Document.Fields
import Netscribe.Proofs.Topology.Identity
/-!
Which devices an inventory lists. It looks every id up again among the ids and the names of all
entries, so that a device gives way to an earlier one that is named like its id; otherwise the list
is that of the entries. What is kept of earlier look-ups never changes an answer as long as ids are
distinct.
-/
open Netscribe.Document (Fields)

namespace Netscribe.Inventory

section Entries

/-- Defaults never replace a field of the device. -/
theorem get?_addMissing {defaults fields : Fields} {key : String}
    (h : Fields.contains fields key) :
    Fields.get? (addMissing defaults fields) key = Fields.get? fields key := by
  rw [addMissing]
  induction defaults generalizing fields with
  | nil => rfl
  | cons field rest ih =>
    rw [List.foldl_cons]
    split
    · exact ih h
    · rw [ih (Fields.contains_append_left h), Fields.get?_append_of_contains h]

/-- The id of a device that has a text for it. -/
theorem idText_eq {fields : Fields} {id : String} (h : Fields.get? fields "id" = some (.text id)) :
    idText fields = id := by
  rw [idText, h]
  rfl

/-- A device answers to the text of its id and to a text that is its name, to no other. -/
theorem isCalled_text_iff {id : String} {fields : Fields} :
    isCalled (.text id) fields ↔
      id = idText fields ∨ Fields.get? fields "name" = some (.text id) := by
  rw [isCalled, Bool.or_eq_true]
  refine or_congr beq_iff_eq ?_
  cases hname : Fields.get? fields "name" with
  | none => simp [Document.ofOption, Document.equals]
  | some name =>
    cases name <;> simp [Document.ofOption, Document.equals]

end Entries

section Answers

variable {inv : Inventory}

/-- The answer to a question, with what is kept afterwards. -/
def Session.answer {α : Type} (question : Session α) (cache : Cache) : Except Fault α × Cache :=
  question.run.run cache

/-- A question that is answered hands its cache on. -/
theorem Session.answer_bind {α β : Type} {question : Session α} {next : α → Session β}
    {cache after : Cache} {a : α} (h : question.answer cache = (.ok a, after)) :
    (question >>= next).answer cache = (next a).answer after := by
  rw [answer] at h ⊢
  rw [ExceptT.run_bind, StateT.run_bind, h]
  rfl

/-- Asking for the cache changes nothing. -/
theorem Session.answer_get (cache : Cache) :
    (get : Session Cache).answer cache = (.ok cache, cache) := rfl

/-- A device that has been read before is not read again. -/
theorem answer_readNode_of_kept {cache : Cache} {key : String} {entry : Document} {n : Node}
    (h : cache.nodes.lookup key = some n) : (readNode key entry).answer cache = (.ok n, cache) := by
  rw [readNode, Session.answer_bind (Session.answer_get cache), h]
  rfl

/-- The reading of a device is kept under its key. -/
theorem answer_readNode_of_new {cache : Cache} {key : String} {entry : Document} {n : Node}
    (h : cache.nodes.lookup key = none) (hparse : Node.parse entry = .ok n) :
    (readNode key entry).answer cache =
      (.ok n, { cache with nodes := cache.nodes ++ [(key, n)] }) := by
  have hparsed : (ofParsed (Node.parse entry)).answer cache = (.ok n, cache) := by
    rw [hparse]
    rfl
  rw [readNode, Session.answer_bind (Session.answer_get cache), h]
  exact Session.answer_bind hparsed

/-- A device that cannot be read leaves what is kept as it was. -/
theorem answer_readNode_of_error {cache : Cache} {key : String} {entry : Document} {e : ParseError}
    (h : cache.nodes.lookup key = none) (hparse : Node.parse entry = .error e) :
    (readNode key entry).answer cache = (.error (.shape e), cache) := by
  rw [readNode, Session.answer_bind (Session.answer_get cache), h, hparse]
  rfl

/-- Everything kept is what reading the entry of that id gives. -/
def Cache.AgreesWith (cache : Cache) (inv : Inventory) : Prop :=
  ∀ fields ∈ inv.deviceFields, ∀ n, cache.nodes.lookup (idText fields) = some n →
    Node.parse (.object fields) = .ok n

/-- The empty cache agrees with every inventory. -/
theorem Cache.agreesWith_empty : Cache.AgreesWith {} inv := by
  intro fields _ n hfound
  cases hfound

/-- Whether no two devices of an inventory have the same id as text. -/
def HasDistinctIds (inv : Inventory) : Prop := (inv.deviceFields.map idText).Nodup

private theorem eq_of_idText_eq (h : inv.HasDistinctIds) {fields other : Fields}
    (hfields : fields ∈ inv.deviceFields) (hother : other ∈ inv.deviceFields)
    (heq : idText fields = idText other) : fields = other :=
  List.inj_on_of_nodup_map h hfields hother heq

/-- Keeping a device under its id keeps the agreement. -/
theorem Cache.AgreesWith.keep {cache : Cache} (h : cache.AgreesWith inv)
    (hdistinct : inv.HasDistinctIds) {fields : Fields} (hfields : fields ∈ inv.deviceFields)
    {n : Node} (hparse : Node.parse (.object fields) = .ok n) :
    Cache.AgreesWith { cache with nodes := cache.nodes ++ [(idText fields, n)] } inv := by
  intro other hother m hfound
  rw [List.lookup_append, Option.or_eq_some_iff] at hfound
  obtain hbefore | ⟨_, hnew⟩ := hfound
  · exact h other hother m hbefore
  · by_cases hkey : idText other = idText fields
    · rw [hkey, List.lookup_cons_self] at hnew
      obtain rfl := eq_of_idText_eq hdistinct hother hfields hkey
      exact Option.some.inj hnew ▸ hparse
    · rw [List.lookup_cons, beq_eq_false_iff_ne.mpr hkey] at hnew
      cases hnew

/-- What is read under the id of an entry is what reading the entry gives, whether the device has
    been read before or not. -/
theorem answer_readNode {cache : Cache} (h : cache.AgreesWith inv) (hdistinct : inv.HasDistinctIds)
    {fields : Fields} (hfields : fields ∈ inv.deviceFields) {n : Node}
    (hparse : Node.parse (.object fields) = .ok n) :
    ∃ after : Cache, after.AgreesWith inv ∧
      (readNode (idText fields) (.object fields)).answer cache = (.ok n, after) := by
  cases hkept : cache.nodes.lookup (idText fields) with
  | some kept =>
    obtain rfl := Except.ok.inj (hparse.symm.trans (h fields hfields kept hkept))
    exact ⟨cache, h, answer_readNode_of_kept hkept⟩
  | none => exact ⟨_, h.keep hdistinct hfields hparse, answer_readNode_of_new hkept hparse⟩

private theorem answer_node {cache : Cache} (h : cache.AgreesWith inv)
    (hdistinct : inv.HasDistinctIds)
    {wanted : Document} {fields : Fields} (hdevice : inv.device wanted = .ok fields)
    (hfields : fields ∈ inv.deviceFields) {n : Node}
    (hparse : Node.parse (.object fields) = .ok n) :
    ∃ after : Cache, after.AgreesWith inv ∧ (inv.node wanted).answer cache = (.ok n, after) := by
  obtain ⟨after, hafter, hread⟩ := answer_readNode h hdistinct hfields hparse
  refine ⟨after, hafter, ?_⟩
  have hentry : (ofResult (inv.device wanted)).answer cache = (.ok fields, cache) := by
    rw [hdevice]
    rfl
  have hkeyed : (inv.keyedNode wanted).answer cache = (.ok (idText fields, n), after) := by
    rw [keyedNode, Session.answer_bind hentry, Session.answer_bind hread]
    rfl
  rw [node, Session.answer_bind hkeyed]
  rfl

/-- A pass of look-ups gives what reading the entries gives, in the order of the questions. -/
theorem answer_mapM_node (hdistinct : inv.HasDistinctIds) {wanted : List Document}
    {found : List Node}
    (hfound : List.Forall₂ (fun w n => ∃ fields ∈ inv.deviceFields,
      inv.device w = .ok fields ∧ Node.parse (.object fields) = .ok n) wanted found)
    {cache : Cache} (h : cache.AgreesWith inv) :
    ∃ after : Cache, after.AgreesWith inv ∧
      (wanted.mapM inv.node).answer cache = (.ok found, after) := by
  induction hfound generalizing cache with
  | nil => exact ⟨cache, h, rfl⟩
  | cons hhead _ ih =>
    obtain ⟨fields, hfields, hdevice, hparse⟩ := hhead
    obtain ⟨middle, hmiddle, hfirst⟩ := answer_node h hdistinct hdevice hfields hparse
    obtain ⟨after, hafter, hrest⟩ := ih hmiddle
    refine ⟨after, hafter, ?_⟩
    rw [List.mapM_cons, Session.answer_bind hfirst, Session.answer_bind hrest]
    rfl

/-- Whether no device is named like the id of a later one. -/
def HasClearNames (inv : Inventory) : Prop :=
  inv.deviceFields.Pairwise fun earlier later =>
    Fields.get? earlier "name" ≠ some (.text (idText later))

/-- Every id leads to its own device exactly if no earlier device bears it as a name. -/
theorem find?_isCalled_iff (hdistinct : inv.HasDistinctIds) :
    (∀ fields ∈ inv.deviceFields,
      inv.deviceFields.find? (isCalled (.text (idText fields))) = some fields) ↔
      inv.HasClearNames := by
  have hindex {i j : Nat} (hi : i < inv.deviceFields.length) (hj : j < inv.deviceFields.length)
      (heq : idText inv.deviceFields[i] = idText inv.deviceFields[j]) : i = j := by
    have hleft : i < (inv.deviceFields.map idText).length := by simpa using hi
    have hright : j < (inv.deviceFields.map idText).length := by simpa using hj
    have hmapped : (inv.deviceFields.map idText)[i] = (inv.deviceFields.map idText)[j] := by
      simpa using heq
    exact (List.Nodup.getElem_inj_iff hdistinct).mp hmapped
  rw [HasClearNames, List.pairwise_iff_getElem]
  constructor
  · intro hfind i j hi hj hlt hname
    obtain ⟨_, k, hk, hsame, hbefore⟩ :=
      List.find?_eq_some_iff_getElem.mp (hfind _ (List.getElem_mem hj))
    obtain rfl := hindex hk hj (congrArg idText hsame)
    have hcalled := isCalled_text_iff.mpr (.inr hname)
    simpa [hcalled] using hbefore i hlt
  · intro hclear fields hfields
    obtain ⟨j, hj, rfl⟩ := List.getElem_of_mem hfields
    refine List.find?_eq_some_iff_getElem.mpr
      ⟨isCalled_text_iff.mpr (.inl rfl), j, hj, rfl, fun i hlt => ?_⟩
    have hnot : ¬ isCalled (.text (idText inv.deviceFields[j])) inv.deviceFields[i] := by
      rw [isCalled_text_iff]
      rintro (hid | hname)
      · exact absurd (hindex hj (Nat.lt_trans hlt hj) hid) (Nat.ne_of_gt hlt)
      · exact hclear i j (Nat.lt_trans hlt hj) hj hlt hname
    simpa using hnot

/-- The devices of an inventory that has a text as the id of every device, as their entries are
    read. -/
def Reads (inv : Inventory) (parsed : List Node) : Prop :=
  List.Forall₂ (fun fields n => (∃ id, Fields.get? fields "id" = some (.text id)) ∧
    Node.parse (.object fields) = .ok n) inv.deviceFields parsed

private theorem Reads.deviceIds_eq {parsed : List Node} (h : inv.Reads parsed) :
    inv.deviceIds = inv.deviceFields.map idText := by
  refine congrArg (List.map idText) (List.filter_eq_self.mpr fun fields hfields => ?_)
  obtain ⟨_, _, ⟨id, hid⟩, _⟩ := Outcome.exists_of_forall₂_left h hfields
  exact Fields.contains_of_get?_eq_some hid

private theorem Reads.id_eq {parsed : List Node} (h : inv.Reads parsed) {fields : Fields}
    (hfields : fields ∈ inv.deviceFields) {n : Node}
    (hparse : Node.parse (.object fields) = .ok n) : n.id = idText fields := by
  obtain ⟨_, _, ⟨id, hid⟩, _⟩ := Outcome.exists_of_forall₂_left h hfields
  obtain ⟨raw, hraw, hn⟩ := Node.id_eq_of_parse hparse
  rw [hid] at hraw
  rw [hn, idText_eq hid, ← Option.some.inj hraw]
  rfl

/-- The listing has one device for each id: the first one that answers to it. -/
theorem answer_nodes {parsed : List Node} (h : inv.Reads parsed) (hdistinct : inv.HasDistinctIds) :
    ∃ found, (inv.nodes.answer {}).1 = .ok found ∧
      List.Forall₂ (fun fields n => ∃ first,
        inv.deviceFields.find? (isCalled (.text (idText fields))) = some first ∧
        Node.parse (.object first) = .ok n) inv.deviceFields found := by
  have hexists : ∀ fields ∈ inv.deviceFields, ∃ n first,
      inv.deviceFields.find? (isCalled (.text (idText fields))) = some first ∧
      Node.parse (.object first) = .ok n := by
    intro fields hfields
    cases hfirst : inv.deviceFields.find? (isCalled (.text (idText fields))) with
    | none =>
      exact absurd (isCalled_text_iff.mpr (.inl rfl)) (List.find?_eq_none.mp hfirst fields hfields)
    | some first =>
      obtain ⟨n, _, _, hparse⟩ :=
        Outcome.exists_of_forall₂_left h (List.mem_of_find?_eq_some hfirst)
      exact ⟨n, first, rfl, hparse⟩
  obtain ⟨found, hfound⟩ := Outcome.exists_forall₂ hexists
  refine ⟨found, ?_, hfound⟩
  have hlookups : List.Forall₂ (fun wanted n => ∃ fields ∈ inv.deviceFields,
      inv.device wanted = .ok fields ∧ Node.parse (.object fields) = .ok n)
      (inv.deviceIds.map .text) found := by
    rw [h.deviceIds_eq, List.map_map, List.forall₂_map_left_iff]
    refine hfound.imp fun fields n ⟨first, hfirst, hparse⟩ => ?_
    refine ⟨first, List.mem_of_find?_eq_some hfirst, ?_, hparse⟩
    rw [device, Function.comp_apply, hfirst]
  obtain ⟨after, _, hanswer⟩ := answer_mapM_node hdistinct hlookups Cache.agreesWith_empty
  rw [List.mapM_map] at hanswer
  exact congrArg Prod.fst hanswer

private theorem answer_nodes_eq_iff {parsed : List Node} (h : inv.Reads parsed)
    (hdistinct : inv.HasDistinctIds) :
    (inv.nodes.answer {}).1 = .ok parsed ↔ inv.HasClearNames := by
  obtain ⟨found, hanswer, hfound⟩ := answer_nodes h hdistinct
  rw [hanswer, ← find?_isCalled_iff hdistinct]
  constructor
  · intro heq fields hfields
    obtain rfl := Except.ok.inj heq
    obtain ⟨n, ⟨_, hparse⟩, first, hfirst, hsame⟩ :=
      Outcome.forall_mem_of_forall₂ h hfound fields hfields
    have hmem := List.mem_of_find?_eq_some hfirst
    rw [hfirst, eq_of_idText_eq hdistinct hmem hfields]
    rw [← h.id_eq hmem hsame, h.id_eq hfields hparse]
  · intro hfind
    have hunique : ∀ fields ∈ inv.deviceFields, ∀ n m, Node.parse (.object fields) = .ok n →
        (∃ first, inv.deviceFields.find? (isCalled (.text (idText fields))) = some first ∧
          Node.parse (.object first) = .ok m) → m = n := by
      rintro fields hfields n m hparse ⟨first, hfirst, hsame⟩
      obtain rfl := Option.some.inj ((hfind fields hfields).symm.trans hfirst)
      exact Except.ok.inj (hsame.symm.trans hparse)
    exact congrArg _ (Outcome.eq_of_forall₂ h hfound fun fields hfields n m hn hm =>
      hunique fields hfields n m hn.2 hm).symm

end Answers

section Files

/-- The entry of an object is an object with the same fields and some of the defaults behind
    them. -/
theorem withDefaults_eq_ok {defaults entry : Document} {item : Fields}
    (h : withDefaults defaults (.object item) = .ok entry) :
    ∃ fields, entry = .object fields ∧ ∀ key, Fields.contains item key →
      Fields.get? fields key = Fields.get? item key := by
  cases defaults with
  | object missing =>
    cases h
    exact ⟨_, rfl, fun key hkey => get?_addMissing hkey⟩
  | _ => cases h

/-- A device of a file as it is read: the object with the defaults of the file. -/
def IsReadAs (fields item : Fields) (n : Node) : Prop :=
  ∃ entry,
    withDefaults (Document.orEmpty (Fields.get? fields "defaults")) (.object item) = .ok entry ∧
    Node.parse entry = .ok n

/-- A list has its own items. -/
theorem itemsOf_list (items : List Document) : itemsOf (some (.list items)) = .ok items := by
  cases items <;> rfl

/-- Items that can be read are objects with the defaults as well, under the ids that they had. -/
theorem exists_entries_of_isReadAs {fields : Fields} {items : List Fields} {parsed : List Node}
    (hids : ∀ item ∈ items, ∃ id, Fields.get? item "id" = some (.text id))
    (hparsed : List.Forall₂ (IsReadAs fields) items parsed) :
    ∃ entries : List Fields,
      (items.map Document.object).mapM
        (withDefaults (Document.orEmpty (Fields.get? fields "defaults"))) =
          .ok (entries.map .object) ∧
      List.Forall₂ (fun entry n => (∃ id, Fields.get? entry "id" = some (.text id)) ∧
        Node.parse (.object entry) = .ok n) entries parsed ∧
      entries.map idText = items.map idText := by
  induction hparsed with
  | nil => exact ⟨[], rfl, .nil, rfl⟩
  | cons hhead _ ih =>
    obtain ⟨⟨id, hid⟩, hrest⟩ := List.forall_mem_cons.mp hids
    obtain ⟨entries, hmap, hread, hsame⟩ := ih hrest
    obtain ⟨entry, hentry, hparse⟩ := hhead
    obtain ⟨first, rfl, hkept⟩ := withDefaults_eq_ok hentry
    have hfirst := (hkept "id" (Fields.contains_of_get?_eq_some hid)).trans hid
    refine ⟨first :: entries, ?_, .cons ⟨⟨id, hfirst⟩, hparse⟩ hread, ?_⟩
    · rw [List.map_cons, List.mapM_cons, hentry, hmap]
      rfl
    · rw [List.map_cons, List.map_cons, hsame, idText_eq hfirst, idText_eq hid]

/-- A file of objects that can all be read has an inventory of exactly those devices. -/
theorem ofDocument_eq_ok {path : String} {fields : Fields} {items : List Fields}
    {parsed : List Node}
    (hnodes : Fields.get? fields "nodes" = some (.list (items.map .object)))
    (hids : ∀ item ∈ items, ∃ id, Fields.get? item "id" = some (.text id))
    (hdistinct : (items.map idText).Nodup)
    (hparsed : List.Forall₂ (IsReadAs fields) items parsed) :
    ∃ inv, ofDocument path (.object fields) = .ok inv ∧ inv.Reads parsed ∧ inv.HasDistinctIds := by
  let defaults := Document.orEmpty (Fields.get? fields "defaults")
  obtain ⟨entries, hmap, hread, hsame⟩ := exists_entries_of_isReadAs hids hparsed
  let inv : Inventory := ⟨path, entries.map .object, Fields.get? fields "connections"⟩
  have hfields : inv.deviceFields = entries := by
    rw [deviceFields, List.filterMap_map]
    exact List.filterMap_some
  refine ⟨inv, ?_, ?_, ?_⟩
  · have hvalue : ofDocument path (.object fields) = (do
        let listed ← itemsOf (Fields.get? fields "nodes")
        return ⟨path, ← listed.mapM (withDefaults defaults), Fields.get? fields "connections"⟩) :=
      rfl
    rw [hvalue, hnodes, itemsOf_list]
    change ((items.map Document.object).mapM (withDefaults defaults)).bind _ = _
    rw [hmap]
    rfl
  · rw [Reads, hfields]
    exact hread
  · rw [HasDistinctIds, hfields, hsame]
    exact hdistinct

/-- A file of objects with texts as distinct ids, all of which can be read with the defaults of the
    file, gives one device for each of them, in the order of the file: the first one that answers to
    its id. These are the devices of the file, each of them once, exactly if no device is named like
    the id of a later one. -/
theorem nodes_lists_file_iff_names_clear {path : String} {fields : Fields} {items : List Fields}
    {parsed : List Node}
    (hnodes : Fields.get? fields "nodes" = some (.list (items.map .object)))
    (hids : ∀ item ∈ items, ∃ id, Fields.get? item "id" = some (.text id))
    (hdistinct : (items.map idText).Nodup)
    (hparsed : List.Forall₂ (IsReadAs fields) items parsed) :
    ∃ inv found, ofDocument path (.object fields) = .ok inv ∧
      (inv.nodes.answer {}).1 = .ok found ∧
      List.Forall₂ (fun entry n => ∃ first,
        inv.deviceFields.find? (isCalled (.text (idText entry))) = some first ∧
        Node.parse (.object first) = .ok n) inv.deviceFields found ∧
      (found = parsed ↔ inv.HasClearNames) := by
  obtain ⟨inv, hinv, hreads, hclear⟩ := ofDocument_eq_ok hnodes hids hdistinct hparsed
  obtain ⟨found, hanswer, hfound⟩ := answer_nodes hreads hclear
  refine ⟨inv, found, hinv, hanswer, hfound, ?_⟩
  rw [← answer_nodes_eq_iff hreads hclear, hanswer]
  exact ⟨congrArg _, Except.ok.inj⟩

/-- Two devices that take their vendor from the defaults, the later one named like the id of the
    earlier one. -/
theorem nodes_lists_file_of_clear_names : ∃ inv,
    ofDocument "topology.json" (.object [("defaults", .object [("vendor", .text "H3C")]),
      ("nodes", .list [.object [("id", .text "core"), ("name", .text "CORE")],
        .object [("id", .text "edge"), ("name", .text "core")]])]) = .ok inv ∧
    (inv.nodes.answer {}).1 = .ok [{ id := "core", name := "CORE", vendor := .h3c },
      { id := "edge", name := "core", vendor := .h3c }] := by
  have hids : ∀ item ∈ ([[("id", .text "core"), ("name", .text "CORE")],
      [("id", .text "edge"), ("name", .text "core")]] : List Fields),
      ∃ id, Fields.get? item "id" = some (.text id) :=
    List.forall_mem_cons.mpr ⟨⟨"core", rfl⟩, List.forall_mem_singleton.mpr ⟨"edge", rfl⟩⟩
  have hcore : Node.parse (.object [("id", .text "core"), ("name", .text "CORE"),
      ("vendor", .text "H3C")]) = .ok { id := "core", name := "CORE", vendor := .h3c } := rfl
  have hedge : Node.parse (.object [("id", .text "edge"), ("name", .text "core"),
      ("vendor", .text "H3C")]) = .ok { id := "edge", name := "core", vendor := .h3c } := rfl
  obtain ⟨inv, found, hinv, hanswer, _, hiff⟩ :=
    @nodes_lists_file_iff_names_clear "topology.json"
      [("defaults", .object [("vendor", .text "H3C")]),
        ("nodes", .list [.object [("id", .text "core"), ("name", .text "CORE")],
          .object [("id", .text "edge"), ("name", .text "core")]])]
      _ _ rfl hids (by decide) (.cons ⟨_, rfl, hcore⟩ (.cons ⟨_, rfl, hedge⟩ .nil))
  have hdevices : inv.deviceFields =
      [[("id", .text "core"), ("name", .text "CORE"), ("vendor", .text "H3C")],
        [("id", .text "edge"), ("name", .text "core"), ("vendor", .text "H3C")]] := by
    obtain rfl := Except.ok.inj hinv
    rfl
  have hclear : inv.HasClearNames := by
    rw [HasClearNames, hdevices, List.pairwise_pair]
    intro hname
    exact absurd (Document.text.inj (Option.some.inj hname)) (by decide)
  exact ⟨inv, hinv, hanswer.trans (congrArg _ (hiff.mpr hclear))⟩

/-- A device that is named like the id of the next one is listed in its place as well. -/
theorem nodes_repeats_device_named_like_id : ∃ inv first second,
    ofDocument "t.json" (.object [("nodes", .list
      [.object [("id", .text "a"), ("name", .text "b")],
        .object [("id", .text "b"), ("name", .text "B")]])]) = .ok inv ∧
    Node.parse (.object [("id", .text "a"), ("name", .text "b")]) = .ok first ∧
    Node.parse (.object [("id", .text "b"), ("name", .text "B")]) = .ok second ∧
    first.id ≠ second.id ∧ (inv.nodes.answer {}).1 = .ok [first, first] := by
  have hfirst : Node.parse (.object [("id", .text "a"), ("name", .text "b")]) =
      .ok { id := "a", name := "b" } := rfl
  have hsecond : Node.parse (.object [("id", .text "b"), ("name", .text "B")]) =
      .ok { id := "b", name := "B" } := rfl
  obtain ⟨inv, hinv, hreads, hdistinct⟩ :=
    @ofDocument_eq_ok "t.json" [("nodes", .list
      [.object [("id", .text "a"), ("name", .text "b")],
        .object [("id", .text "b"), ("name", .text "B")]])]
      [[("id", .text "a"), ("name", .text "b")], [("id", .text "b"), ("name", .text "B")]]
      [{ id := "a", name := "b" }, { id := "b", name := "B" }] rfl
      (List.forall_mem_cons.mpr ⟨⟨"a", rfl⟩, List.forall_mem_singleton.mpr ⟨"b", rfl⟩⟩) (by decide)
      (.cons ⟨_, rfl, hfirst⟩ (.cons ⟨_, rfl, hsecond⟩ .nil))
  have hdevices : inv.deviceFields =
      [[("id", .text "a"), ("name", .text "b")], [("id", .text "b"), ("name", .text "B")]] := by
    obtain rfl := Except.ok.inj hinv
    rfl
  obtain ⟨found, hanswer, hfound⟩ := answer_nodes hreads hdistinct
  rw [hdevices] at hfound
  obtain ⟨n, _, ⟨shown, hshown, hn⟩, hrest, rfl⟩ := List.forall₂_cons_left_iff.mp hfound
  obtain ⟨m, _, ⟨again, hagain, hm⟩, hnil, rfl⟩ := List.forall₂_cons_left_iff.mp hrest
  obtain rfl := List.forall₂_nil_left_iff.mp hnil
  obtain rfl : _ = shown := Option.some.inj hshown
  obtain rfl : _ = again := Option.some.inj hagain
  obtain rfl := Except.ok.inj (hfirst.symm.trans hn)
  obtain rfl := Except.ok.inj (hfirst.symm.trans hm)
  exact ⟨inv, _, _, hinv, hfirst, hsecond, by decide, hanswer⟩

end Files

end Netscribe.Inventory
