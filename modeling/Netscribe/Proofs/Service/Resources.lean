import Netscribe.Proofs.Inventory.Reached
import Netscribe.Proofs.Script.Containment
import Netscribe.Proofs.Service.Agreement
/-!
Resources that are listed and then read. The URI of a device has its id in it as it stands, and it
is read up to the first slash behind the scheme, so that an id with a slash in it leads elsewhere.
-/
open Netscribe.Document (Fields)

namespace Netscribe.Service

open Inventory (Session ofResult)

section Uris

private theorem deviceOfUri?_uri (n : Node) : deviceOfUri? (resourceOf n).uri =
    match Text.splitOn '/' (n.id ++ "/cli") with
    | id :: "cli" :: _ => some id
    | _ => none := by
  have huri : (resourceOf n).uri = scheme ++ (n.id ++ "/cli") := by
    rw [resourceOf, ← String.append_assoc]
    rfl
  have hrest : String.ofList ((resourceOf n).uri.toList.drop scheme.toList.length) =
      n.id ++ "/cli" := by
    rw [huri, String.toList_append, List.drop_left, String.ofList_toList]
  rw [deviceOfUri?, hrest, huri]
  exact if_pos (Text.hasStart_append scheme _)

/-- A URI leads back to the device that it is of exactly if there is no slash in the id. -/
theorem deviceOfUri?_uri_eq_id_iff (n : Node) :
    deviceOfUri? (resourceOf n).uri = some n.id ↔ '/' ∉ n.id.toList := by
  rw [deviceOfUri?_uri]
  constructor
  · intro hdevice
    split at hdevice
    next id _ hsplit =>
      obtain rfl := Option.some.inj hdevice
      exact Text.not_mem_of_mem_splitOn (hsplit ▸ List.mem_cons_self)
    next => cases hdevice
  · intro hslash
    have hsplit : Text.splitOn '/' (n.id ++ "/cli") = [n.id, "cli"] := by
      have happend : (n.id ++ "/cli").toList = n.id.toList ++ '/' :: "cli".toList := by
        rw [String.toList_append]
        rfl
      have hname : '/' ∉ "cli".toList := by decide
      rw [Text.splitOn_eq_map, happend, List.splitOn_append_cons_self_of_not_mem hslash,
        List.splitOn_eq_singleton hname, List.map_cons, List.map_singleton, String.ofList_toList,
        String.ofList_toList]
    rw [hsplit]
    rfl

end Uris

section Reading

variable {w : Workspace} {inv : Inventory}

/-- What is said of a text that names no device. -/
def unknownResource (uri : String) : String :=
  (Document.object [("error", .text s!"Unknown resource: {uri}")]).writeCompact

private theorem readResource_of_none {uri : String} (h : deviceOfUri? uri = none)
    (cache : Inventory.Cache) :
    (readResource w uri).answer cache = (.ok (unknownResource uri), cache) := by
  rw [readResource, h]
  rfl

/-- A script never looks like the answer to an unknown text, which starts with a brace. -/
theorem compile_ne_unknownResource (n : Node) (connections : List Connection) (uri : String) :
    n.compile connections ≠ .ok (unknownResource uri) := by
  intro hscript
  have hbrace : (unknownResource uri).toList.head? = some '\x7b' := by
    rw [unknownResource, Document.writeCompact]
    exact Text.head?_append (Text.head?_append rfl _) _
  obtain hempty | ⟨c, hc, hhead⟩ := Node.head?_compile hscript
  · rw [hempty] at hbrace
    cases hbrace
  · obtain rfl := Option.some.inj (hbrace.symm.trans hhead)
    exact absurd hc (by decide)

private theorem givesOn_readResource (hinv : inventory w = .ok inv) (hids : inv.HasPlainIds)
    {uri id : String} (h : deviceOfUri? uri = some id) :
    (readResource w uri).GivesOn (·.IsFaithful inv) (inv.readScript (.text id)) := by
  rw [readResource, h]
  dsimp only
  rw [hinv, Inventory.ofResult_ok, pure_bind]
  exact hids.givesOn_script (.text id)

private theorem givesOn_resources (hinv : inventory w = .ok inv) (hids : inv.HasPlainIds) :
    (resources w).GivesOn (·.IsFaithful inv)
      ((inv.deviceIds.mapM fun id => inv.readDevice (.text id)).map (·.map resourceOf)) := by
  rw [resources, hinv, Inventory.ofResult_ok, pure_bind]
  exact hids.givesOn_nodes.map _

/-- Reading the URI of a device that an id leads to: without a slash in the id it has the outcome of
    compiling the device, and otherwise it gives its script only where that is also the script of
    the device that stands before the slash. -/
theorem answer_readResource_uri (hinv : inventory w = .ok inv) (hids : inv.HasPlainIds) {n : Node}
    {cache : Inventory.Cache} (hcache : cache.IsFaithful inv) :
    ('/' ∉ n.id.toList → ((readResource w (resourceOf n).uri).answer cache).1 =
      inv.readScript (.text n.id)) ∧
    ∀ script, inv.readScript (.text n.id) = .ok script →
      (((readResource w (resourceOf n).uri).answer cache).1 = .ok script ↔
        '/' ∉ n.id.toList ∨ ∃ other ≠ n.id, deviceOfUri? (resourceOf n).uri = some other ∧
          inv.readScript (.text other) = .ok script) := by
  have hread {id : String} (h : deviceOfUri? (resourceOf n).uri = some id) :
      ((readResource w (resourceOf n).uri).answer cache).1 = inv.readScript (.text id) := by
    obtain ⟨_, _, hanswer⟩ := givesOn_readResource hinv hids h cache hcache
    rw [hanswer]
  have hown (hslash : '/' ∉ n.id.toList) := hread ((deviceOfUri?_uri_eq_id_iff n).mpr hslash)
  refine ⟨hown, fun script hscript => ⟨fun hanswer => ?_, ?_⟩⟩
  · cases hdevice : deviceOfUri? (resourceOf n).uri with
    | none =>
      rw [readResource_of_none hdevice] at hanswer
      obtain ⟨m, _, hrest⟩ := Outcome.bind_eq_ok_iff.mp hscript
      obtain ⟨found, _, hcompile⟩ := Outcome.bind_eq_ok_iff.mp hrest
      exact absurd (hcompile.trans hanswer.symm) (compile_ne_unknownResource m _ _)
    | some other =>
      by_cases hsame : other = n.id
      · exact .inl ((deviceOfUri?_uri_eq_id_iff n).mp (hdevice.trans (congrArg some hsame)))
      · exact .inr ⟨other, hsame, rfl, (hread hdevice).symm.trans hanswer⟩
  · rintro (hslash | ⟨other, _, hdevice, hother⟩)
    · exact (hown hslash).trans hscript
    · exact (hread hdevice).trans hother

/-- Where ids are plain, each device is listed under its own id. Reading what is listed for it gives
    its script, or fails as compiling it does, if there is no slash in the id, whatever has been
    asked before; otherwise the URI names no device or another one, so that its script is given only
    where both have the same one. -/
theorem listed_resources_readable_iff (hinv : inventory w = .ok inv) (hids : inv.HasPlainIds)
    {cache : Inventory.Cache} (hcache : cache.IsFaithful inv) {listed : List Resource}
    (hlisted : ((resources w).answer cache).1 = .ok listed) :
    ((resources w).answer cache).2.IsFaithful inv ∧
    List.Forall₂ (fun id r => ∃ n, inv.readDevice (.text id) = .ok n ∧ n.id = id ∧
      r = resourceOf n ∧ ∀ later : Inventory.Cache, later.IsFaithful inv →
        ('/' ∉ id.toList →
          ((readResource w r.uri).answer later).1 = inv.readScript (.text id)) ∧
        ∀ script, inv.readScript (.text id) = .ok script →
          (((readResource w r.uri).answer later).1 = .ok script ↔
            '/' ∉ id.toList ∨ ∃ other ≠ id, deviceOfUri? r.uri = some other ∧
              inv.readScript (.text other) = .ok script)) inv.deviceIds listed := by
  obtain ⟨after, hafter, hanswer⟩ := givesOn_resources hinv hids cache hcache
  rw [hanswer] at hlisted ⊢
  refine ⟨hafter, ?_⟩
  cases hdevices : inv.deviceIds.mapM fun id => inv.readDevice (.text id) with
  | error fault =>
    rw [hdevices] at hlisted
    cases hlisted
  | ok devices =>
    rw [hdevices] at hlisted
    obtain rfl := Except.ok.inj hlisted
    rw [List.forall₂_map_right_iff]
    have hread := (List.forall₂_and_left inv.deviceIds devices).mpr
      ⟨fun id hid => hid, Outcome.mapM_eq_ok_iff.mp hdevices⟩
    refine hread.imp fun id n ⟨hid, hn⟩ => ?_
    obtain rfl := hids.id_eq_of_readDevice hid hn
    exact ⟨n, hn, rfl, rfl, fun later hlater => answer_readResource_uri hinv hids hlater⟩

/-- A device whose id starts the id of another one. -/
theorem listed_resources_readable_core :
    let w : Workspace :=
      { files := [("n.json", "\x7b\"nodes\":[\x7b\"id\":\"core\",\"name\":\"CORE\"," ++
          "\"vendor\":\"Cisco\"\x7d,\x7b\"id\":\"core2\"\x7d]\x7d")]
        environment := [("CLIFORGE_TOPOLOGY", "n.json")] }
    let core : Node := { id := "core", name := "CORE", vendor := .cisco }
    ((resources w).answer {}).1 = .ok [resourceOf core, resourceOf { id := "core2" }] ∧
      ((readResource w (resourceOf core).uri).answer {}).1 =
        .ok "configure terminal\nhostname CORE" := by
  intro w core
  have hcore : Node.parse (.object [("id", .text "core"), ("name", .text "CORE"),
      ("vendor", .text "Cisco")]) = .ok { id := "core", name := "CORE", vendor := .cisco } := rfl
  have hother : Node.parse (.object [("id", .text "core2")]) = .ok { id := "core2" } := rfl
  let first : Fields := [("id", .text "core"), ("name", .text "CORE"), ("vendor", .text "Cisco")]
  let second : Fields := [("id", .text "core2")]
  let inv : Inventory := ⟨"n.json", [.object first, .object second], none⟩
  have hinv : inventory w = .ok inv := by decide +kernel
  have hids : inv.HasPlainIds := by
    constructor
    case texts =>
      refine List.forall_mem_cons.mpr ⟨?_, List.forall_mem_singleton.mpr ?_⟩
      · rintro _ ⟨⟩
        exact ⟨"core", rfl⟩
      · rintro _ ⟨⟩
        exact ⟨"core2", rfl⟩
    case unshared => decide
  have hcache := Inventory.Cache.isFaithful_empty inv
  have hlisted : ((resources w).answer {}).1 =
      .ok [resourceOf core, resourceOf { id := "core2" }] := by
    have hfirst : inv.readDevice (.text "core") = .ok core := by
      have hdevice : inv.device (.text "core") = .ok first := rfl
      rw [Inventory.readDevice_eq hdevice, hcore]
      rfl
    have hsecond : inv.readDevice (.text "core2") = .ok { id := "core2" } := by
      have hdevice : inv.device (.text "core2") = .ok second := rfl
      rw [Inventory.readDevice_eq hdevice, hother]
      rfl
    have hdevices : inv.deviceIds.mapM (fun id => inv.readDevice (.text id)) =
        .ok [core, { id := "core2" }] :=
      Outcome.mapM_eq_ok_iff.mpr (.cons hfirst (.cons hsecond .nil))
    obtain ⟨_, _, hanswer⟩ := givesOn_resources hinv hids {} hcache
    rw [hanswer, hdevices]
    rfl
  have hscript : inv.readScript (.text "core") = .ok "configure terminal\nhostname CORE" := by
    decide +kernel
  obtain ⟨_, hread⟩ := listed_resources_readable_iff hinv hids hcache hlisted
  obtain ⟨n, _, hid, huri, hsame⟩ := (List.forall₂_cons.mp hread).1
  exact ⟨hlisted, ((hsame {} hcache).1 (by decide)).trans hscript⟩

/-- A device with a slash in its id: what is listed for it is answered as unknown. -/
theorem listed_resource_with_slash_unknown :
    let w : Workspace :=
      { files := [("n.json", "\x7b\"nodes\":[\x7b\"id\":\"a/b\",\"name\":\"SW1\"," ++
          "\"vendor\":\"Cisco\"\x7d]\x7d")]
        environment := [("CLIFORGE_TOPOLOGY", "n.json")] }
    let n : Node := { id := "a/b", name := "SW1", vendor := .cisco }
    ∃ inv, inventory w = .ok inv ∧ inv.HasPlainIds ∧ inv.readDevice (.text "a/b") = .ok n ∧
      ((resources w).answer {}).1 = .ok [resourceOf n] ∧
      (resourceOf n).uri = "topology://a/b/cli" ∧
      inv.readScript (.text "a/b") = .ok "configure terminal\nhostname SW1" ∧
      ((readResource w "topology://a/b/cli").answer {}).1 =
        .ok "\x7b\"error\": \"Unknown resource: topology://a/b/cli\"\x7d" := by
  intro w n
  have hparse : Node.parse (.object [("id", .text "a/b"), ("name", .text "SW1"),
      ("vendor", .text "Cisco")]) = .ok { id := "a/b", name := "SW1", vendor := .cisco } := rfl
  let fields : Fields := [("id", .text "a/b"), ("name", .text "SW1"), ("vendor", .text "Cisco")]
  let inv : Inventory := ⟨"n.json", [.object fields], none⟩
  have hinv : inventory w = .ok inv := by decide +kernel
  have hids : inv.HasPlainIds := by
    constructor
    case texts =>
      refine List.forall_mem_singleton.mpr ?_
      rintro _ ⟨⟩
      exact ⟨"a/b", rfl⟩
    case unshared => decide
  have hread : inv.readDevice (.text "a/b") = .ok n := by
    have hdevice : inv.device (.text "a/b") = .ok fields := rfl
    rw [Inventory.readDevice_eq hdevice, hparse]
    rfl
  have hlisted : ((resources w).answer {}).1 = .ok [resourceOf n] := by
    have hdevices : inv.deviceIds.mapM (fun id => inv.readDevice (.text id)) = .ok [n] :=
      Outcome.mapM_eq_ok_iff.mpr (.cons hread .nil)
    obtain ⟨_, _, hanswer⟩ :=
      givesOn_resources hinv hids {} (Inventory.Cache.isFaithful_empty inv)
    rw [hanswer, hdevices]
    rfl
  refine ⟨inv, hinv, hids, hread, hlisted, by decide, by decide +kernel, ?_⟩
  rw [readResource_of_none (by decide)]
  decide

end Reading

end Netscribe.Service
