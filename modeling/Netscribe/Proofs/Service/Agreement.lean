import Mathlib.Data.List.Nodup
import Netscribe.Proofs.Document.Fields
import Netscribe.Proofs.Inventory.Answers
import Netscribe.Proofs.LinkMode.Headers
import Netscribe.Proofs.Outcome
import Netscribe.Proofs.Script.Failures
import Netscribe.Script.Compile
import Netscribe.Service.Answer
/-!
A device of a topology file and the same device given inline. The inventory hands only the links of
a device to the compiler, an inline request all of them: a link without an end at the device adds no
VLAN and sets no port, and it cannot fail, so it may as well not be there. The inventory also looks
the device up by its id. Both lead to one script as long as the id leads to that device.
-/
open Netscribe.Document (Fields)

namespace Netscribe

/-- Elements that give nothing may be left out of a pass, whether it succeeds or fails. -/
theorem Outcome.mapM_filter_of_eq_empty {ε α : Type} {f : α → Except ε String} {p : α → Bool}
    {xs : List α} (h : ∀ x ∈ xs, p x = false → f x = .ok "") :
    ((xs.filter p).mapM f).map (·.filter (· ≠ "")) = (xs.mapM f).map (·.filter (· ≠ "")) := by
  induction xs with
  | nil => rfl
  | cons x xs ih =>
    obtain ⟨hx, hrest⟩ := List.forall_mem_cons.mp h
    have hcons (ys : List α) : ((x :: ys).mapM f).map (·.filter (· ≠ "")) = do
        let text ← f x
        let texts ← (ys.mapM f).map (·.filter (· ≠ ""))
        return if text = "" then texts else text :: texts := by
      rw [List.mapM_cons]
      cases f x with
      | error e => rfl
      | ok text =>
        cases ys.mapM f with
        | error e => rfl
        | ok texts =>
          by_cases htext : text = "" <;>
            simp [htext, bind, Except.bind, pure, Except.pure, Except.map]
    cases hp : p x with
    | true => rw [List.filter_cons_of_pos hp, hcons, hcons, ih hrest]
    | false =>
      rw [List.filter_cons_of_neg (by rw [hp]; decide), hcons, hx hp, ih hrest]
      cases (xs.mapM f).map (·.filter (· ≠ "")) <;> rfl

namespace Node

variable (node : Node) (connections : List Connection)

private theorem linkMode_eq_empty {c : Connection} (h : c.touches node.id = false) :
    node.linkMode c = .ok "" := by
  have hport : node.localPort c = "" := by
    by_contra hne
    rw [touches_of_localPort hne] at h
    cases h
  rw [linkMode, hport]
  rfl

private theorem linkModes_filter_touches :
    node.linkModes (connections.filter (·.touches node.id)) = node.linkModes connections := by
  have hmap (cs : List Connection) : node.linkModes cs =
      ((cs.mapM node.linkMode).map (·.filter (· ≠ ""))).map (⟨Text.unlines ·, ""⟩) := by
    rw [linkModes]
    cases cs.mapM node.linkMode <;> rfl
  rw [hmap, hmap, Outcome.mapM_filter_of_eq_empty fun c _ => node.linkMode_eq_empty]

private theorem vlanDatabase_filter_touches :
    node.vlanDatabase (connections.filter (·.touches node.id)) =
      node.vlanDatabase connections := by
  rw [vlanDatabase, vlanIds, referencedIds, List.filter_filter]
  simp only [Bool.and_self]
  rfl

/-- Only the section on link modes looks at the connections. -/
theorem sectionBlocks_filter_touches :
    node.sectionBlocks (connections.filter (·.touches node.id)) =
      node.sectionBlocks connections := by
  refine List.map_congr_left fun s hs => congrArg (Section.block s.title) ?_
  have hrender : s.render node (connections.filter (·.touches node.id)) =
      s.render node connections := by
    obtain hmodes | hother | hother | ⟨feature, hother, -⟩ :=
      Section.render_cases (List.mem_of_mem_filter hs)
    · rw [hmodes]
      exact node.linkModes_filter_touches connections
    all_goals rw [hother]
  rw [Section.text, Section.text, hrender]

private theorem compile_filter_touches :
    node.compile (connections.filter (·.touches node.id)) = node.compile connections := by
  rw [compile, compile, vlanDatabase_filter_touches, sectionBlocks_filter_touches]

end Node

/-- The fields of a topology file without defaults, in which every device has a text as its id, and
    neither an id nor a name of another device is the same text. -/
structure Inventory.IsPlainFile (fields : Fields) (items : List Fields) : Prop where
  defaults : Document.orEmpty (Fields.get? fields "defaults") = .object []
  nodes : Fields.get? fields "nodes" = some (.list (items.map .object))
  ids : ∀ item ∈ items, ∃ id, Fields.get? item "id" = some (.text id)
  distinct : (items.map idText).Nodup
  names : ∀ item ∈ items, ∀ other ∈ items, other ≠ item →
    Fields.get? other "name" ≠ some (.text (idText item))

deriving instance DecidableEq for Inventory

namespace Inventory.IsPlainFile

variable {fields : Fields} {items : List Fields} (h : IsPlainFile fields items)

include h

private theorem ofDocument_eq (path : String) : ofDocument path (.object fields) =
    .ok ⟨path, items.map .object, Fields.get? fields "connections"⟩ := by
  have hentries : (items.map Document.object).mapM (withDefaults (.object [])) =
      .ok (items.map .object) := by
    have hkept : ∀ entry ∈ items.map Document.object,
        withDefaults (.object []) entry = .ok (id entry) := by
      intro entry hentry
      obtain ⟨item, _, rfl⟩ := List.mem_map.mp hentry
      rfl
    rw [Outcome.mapM_eq_ok hkept, List.map_id]
  rw [ofDocument, h.defaults, h.nodes, itemsOf_list]
  refine Outcome.bind_eq_ok_iff.mpr ⟨items.map .object, rfl, ?_⟩
  exact Outcome.bind_eq_ok_iff.mpr ⟨items.map .object, hentries, rfl⟩

variable {path : String} {inv : Inventory}
  (hinv : ofDocument path (.object fields) = .ok inv)

include hinv

private theorem deviceFields_eq : inv.deviceFields = items := by
  obtain rfl := Except.ok.inj ((h.ofDocument_eq path).symm.trans hinv)
  rw [deviceFields, List.filterMap_map]
  exact List.filterMap_some

private theorem connections_eq : inv.connections = Fields.get? fields "connections" := by
  obtain rfl := Except.ok.inj ((h.ofDocument_eq path).symm.trans hinv)
  rfl

private theorem hasDistinctIds : inv.HasDistinctIds := by
  rw [HasDistinctIds, h.deviceFields_eq hinv]
  exact h.distinct

private theorem hasClearNames : inv.HasClearNames := by
  rw [HasClearNames, h.deviceFields_eq hinv]
  refine (List.Nodup.of_map _ h.distinct).pairwise_of_forall_ne
    fun other hother item hitem hne => ?_
  exact h.names item hitem other hother hne

/-- The id of a device leads to its own entry. -/
theorem device_eq {item : Fields} (hitem : item ∈ items) {id : String}
    (hid : Fields.get? item "id" = some (.text id)) : inv.device (.text id) = .ok item := by
  have hfind := (find?_isCalled_iff (h.hasDistinctIds hinv)).mpr (h.hasClearNames hinv) item
    (by rwa [h.deviceFields_eq hinv])
  rw [idText_eq hid] at hfind
  rw [device, hfind]

end Inventory.IsPlainFile

namespace Service

open Inventory (Session ofResult ofParsed)

/-- The answer to a request for the script of a device among connections. -/
def compiled (node : Document) (connections : Option Document) : Except Fault Document := do
  let n ← (Node.parse node).mapError .shape
  let found ← (Connection.parseList connections).mapError .shape
  return scriptAnswer n (← n.compile found)

private theorem compileNode_eq {arguments : Fields} {node : Document}
    (hnode : Fields.get? arguments "node" = some node) :
    compileNode arguments =
      ofResult (compiled node (Fields.get? arguments "connections")) := by
  have hargument : argument arguments "node" = .ok node := by rw [argument, hnode]
  rw [compileNode, hargument, compiled, Inventory.ofResult_ok, pure_bind, Inventory.ofResult_bind,
    ← Inventory.ofParsed_eq]
  refine bind_congr fun n => ?_
  rw [Inventory.ofResult_bind, ← Inventory.ofParsed_eq]
  refine bind_congr fun found => ?_
  exact (Inventory.ofResult_bind (n.compile found) _).symm

/-- The connections of other devices may be left out of a request. -/
theorem compiled_eq (node : Document) (connections : Option Document) :
    compiled node connections = (do
      let n ← (Node.parse node).mapError .shape
      (do
        let found ← (Connection.parseList connections).mapError Fault.shape
        n.compile (found.filter (·.touches n.id))).map (scriptAnswer n)) := by
  refine bind_congr fun n => ?_
  cases Connection.parseList connections with
  | error e => rfl
  | ok found =>
    change (do return scriptAnswer n (← n.compile found)) =
      (n.compile (found.filter (·.touches n.id))).map (scriptAnswer n)
    rw [n.compile_filter_touches]
    cases n.compile found <;> rfl

private theorem gives_compileDevice {w : Workspace} {arguments : Fields} {inv : Inventory}
    (hinv : inventory w = .ok inv) (hdistinct : inv.HasDistinctIds) {id : String} {item : Fields}
    (hargument : Fields.get? arguments "device_id" = some (.text id))
    (hdevice : inv.device (.text id) = .ok item)
    (hid : Fields.get? item "id" = some (.text id)) :
    (compileDevice w arguments).Gives inv (compiled (.object item) inv.connections) := by
  have hwanted : argument arguments "device_id" = .ok (.text id) := by rw [argument, hargument]
  have hread := Inventory.readDevice_eq hdevice
  rw [compiled_eq, ← hread, compileDevice, hinv, hwanted, Inventory.ofResult_ok, pure_bind,
    Inventory.ofResult_ok, pure_bind]
  refine (Inventory.gives_node hdistinct (.text id)).givesOn.bind fun n hn => ?_
  refine (Inventory.gives_script hdistinct ?_).givesOn.map (scriptAnswer n)
  have hsame : n.id = id := Inventory.id_eq_of_readDevice hdevice hid hn
  rwa [hsame]

/-- Links of other devices never matter. So the script of a device of a topology file is the one of
    the same device given inline with all links of the file, whatever has been asked before; and
    where one request fails, the other one fails alike. -/
theorem compileDevice_agrees_with_compileNode :
    (∀ (node : Node) (connections : List Connection),
      node.compile (connections.filter (·.touches node.id)) = node.compile connections) ∧
    ∀ {w : Workspace} {path : String} {fields : Fields} {items : List Fields} {inv : Inventory}
      {item : Fields} {id : String} {requested inline : Fields} {cache other : Inventory.Cache},
      Inventory.IsPlainFile fields items →
      Inventory.ofDocument path (.object fields) = .ok inv → inventory w = .ok inv →
      cache.IsOf inv → item ∈ items → Fields.get? item "id" = some (.text id) →
      Fields.get? requested "device_id" = some (.text id) →
      Fields.get? inline "node" = some (.object item) →
      Fields.get? inline "connections" = Fields.get? fields "connections" →
      ((compileDevice w requested).answer cache).1 = ((compileNode inline).answer other).1 := by
  refine ⟨Node.compile_filter_touches, ?_⟩
  intro w path fields items inv item id requested inline cache other hfile hdocument hinv hcache
    hitem hid hrequested hnode hconnections
  have hdevice := hfile.device_eq hdocument hitem hid
  obtain ⟨after, _, hanswer⟩ := gives_compileDevice hinv (hfile.hasDistinctIds hdocument)
    hrequested hdevice hid cache hcache
  rw [hanswer, compileNode_eq hnode, hconnections, hfile.connections_eq hdocument]
  rfl

/-- A device next to another one that has a link. -/
theorem compileDevice_agrees_beside_linked_device :
    let linked : Fields := [("id", .text "a")]
    let alone : Fields := [("id", .text "b")]
    let links : Document := .list [.object [("to", .object [("nodeId", .text "a")])]]
    let w : Workspace :=
      { files := [("n.json", "\x7b\"nodes\":[\x7b\"id\":\"a\"\x7d,\x7b\"id\":\"b\"\x7d]," ++
          "\"connections\":[\x7b\"to\":\x7b\"nodeId\":\"a\"\x7d\x7d]\x7d")]
        environment := [("CLIFORGE_TOPOLOGY", "n.json")] }
    inventory w = .ok ⟨"n.json", [.object linked, .object alone], some links⟩ ∧
    ((compileDevice w [("device_id", .text "b")]).answer {}).1 =
      ((compileNode [("node", .object alone), ("connections", links)]).answer {}).1 := by
  intro linked alone links w
  have hfile : Inventory.IsPlainFile
      [("nodes", .list [.object linked, .object alone]), ("connections", links)]
      [linked, alone] := by
    constructor
    case defaults => rfl
    case nodes => rfl
    case ids =>
      exact List.forall_mem_cons.mpr ⟨⟨"a", rfl⟩, List.forall_mem_singleton.mpr ⟨"b", rfl⟩⟩
    case distinct => decide
    case names => decide
  have hinv : inventory w = .ok ⟨"n.json", [.object linked, .object alone], some links⟩ := by
    decide +kernel
  exact ⟨hinv, compileDevice_agrees_with_compileNode.2 hfile (hfile.ofDocument_eq _) hinv
    (Inventory.Cache.isOf_empty _) (.tail _ (.head _)) rfl rfl rfl rfl⟩

end Service
end Netscribe
