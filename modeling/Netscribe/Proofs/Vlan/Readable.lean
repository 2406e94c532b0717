import Netscribe.Proofs.Number.Decimal
import Netscribe.Proofs.Outcome
import Netscribe.Proofs.Text.Pieces
import Netscribe.Proofs.Vlan.Runs
import Netscribe.Vlan.Database
/-!
Which lists of VLAN ids can be read. Items of no known form are passed over, but an item of digits
in the wide sense that are no decimal digits makes the whole list unreadable. A device refers to
VLANs by such lists and by two other sorts of settings.
-/
namespace Netscribe

namespace Vlan

/-- One end of a range, or a single id, that looks like a number and is none. -/
def IsFalseNumber (part : String) : Prop :=
  Text.allDigits part ∧ part.toList.all Text.isDecimal = false

/-- An item in one of the two known forms, with an end that looks like a number and is none. -/
def IsUnreadable (item : String) : Prop :=
  (Text.splitOn '-' item).length ≤ 2 ∧
    (∀ part ∈ Text.splitOn '-' item, Text.allDigits part) ∧
    ∃ part ∈ Text.splitOn '-' item, IsFalseNumber part

/-- The two known forms of an item, and all others. -/
theorem itemIds_cases (item : String) :
    (∃ low high, Text.splitOn '-' item = [low, high] ∧ Text.allDigits low ∧ Text.allDigits high ∧
      itemIds item = do return idsBetween (← digitsNumber low) (← digitsNumber high)) ∨
    (Text.splitOn '-' item = [item] ∧ Text.allDigits item ∧
      itemIds item = do
        let n ← digitsNumber item
        return if isId n then [(n : Int)] else []) ∨
    (((Text.splitOn '-' item).length ≤ 2 → ¬ ∀ part ∈ Text.splitOn '-' item, Text.allDigits part) ∧
      itemIds item = .ok []) := by
  rw [itemIds]
  split
  next hdash =>
    split
    next low high hparts =>
      by_cases hdigits : Text.allDigits low && Text.allDigits high
      · rw [if_pos hdigits]
        rw [Bool.and_eq_true] at hdigits
        exact .inl ⟨low, high, hparts, hdigits.1, hdigits.2, rfl⟩
      · rw [if_neg hdigits]
        refine .inr (.inr ⟨fun _ hall => hdigits ?_, rfl⟩)
        simpa [hparts] using hall
    next hparts =>
      refine .inr (.inr ⟨fun hlength => ?_, rfl⟩)
      have hpositive : 0 < item.toList.count '-' :=
        List.count_pos_iff.mpr (by simpa [Text.contains] using hdash)
      have htwo : (Text.splitOn '-' item).length = 2 := by
        rw [Text.length_splitOn] at hlength ⊢
        omega
      obtain ⟨low, high, hpair⟩ := List.length_eq_two.mp htwo
      exact absurd hpair (hparts low high)
  next hdash =>
    have hsingle := Text.splitOn_of_not_contains (Bool.eq_false_iff.mpr hdash)
    by_cases hdigits : Text.allDigits item
    · rw [if_pos hdigits]
      exact .inr (.inl ⟨hsingle, hdigits, rfl⟩)
    · rw [if_neg hdigits]
      refine .inr (.inr ⟨fun _ hall => hdigits ?_, rfl⟩)
      simpa [hsingle] using hall

private theorem itemIds_eq_error {item : String} {fault : Fault} (h : itemIds item = .error fault) :
    IsUnreadable item ∧
      ∃ part ∈ Text.splitOn '-' item, IsFalseNumber part ∧ fault = .badInteger part := by
  obtain ⟨low, high, hparts, hlow, hhigh, hitem⟩ | ⟨hparts, hdigits, hitem⟩ | ⟨_, hitem⟩ :=
    itemIds_cases item
  · have hfalse : ∃ part ∈ Text.splitOn '-' item,
        IsFalseNumber part ∧ fault = .badInteger part := by
      rw [hparts]
      rw [hitem] at h
      obtain hfirst | ⟨first, _, hrest⟩ := Outcome.bind_eq_error_iff.mp h
      · obtain ⟨hfault, hdecimal⟩ := digitsNumber_eq_error hfirst
        exact ⟨low, by simp, ⟨hlow, hdecimal⟩, hfault⟩
      · have hlast := Outcome.bind_pure_eq_error_iff.mp hrest
        obtain ⟨hfault, hdecimal⟩ := digitsNumber_eq_error hlast
        exact ⟨high, by simp, ⟨hhigh, hdecimal⟩, hfault⟩
    refine ⟨⟨by simp [hparts], by simp [hparts, hlow, hhigh], ?_⟩, hfalse⟩
    exact hfalse.imp fun _ hpart => ⟨hpart.1, hpart.2.1⟩
  · rw [hitem] at h
    have hnumber := Outcome.bind_pure_eq_error_iff.mp h
    obtain ⟨hfault, hdecimal⟩ := digitsNumber_eq_error hnumber
    have hfalse : IsFalseNumber item := ⟨hdigits, hdecimal⟩
    simp only [IsUnreadable, hparts, List.mem_singleton, forall_eq, exists_eq_left]
    exact ⟨⟨by simp, hdigits, hfalse⟩, hfalse, hfault⟩
  · rw [hitem] at h
    cases h

/-- An item is read unless one of its ends looks like a number and is none. -/
theorem itemIds_succeeds_iff (item : String) :
    (∃ ids, itemIds item = .ok ids) ↔ ¬ IsUnreadable item := by
  constructor
  · rintro ⟨ids, hids⟩ ⟨hlength, hall, part, hpart, hfalse⟩
    have hnumber : ∃ n, digitsNumber part = .ok n := by
      obtain ⟨low, high, hparts, _, _, hitem⟩ | ⟨hparts, _, hitem⟩ | ⟨hother, _⟩ :=
        itemIds_cases item
      · rw [hitem] at hids
        obtain ⟨first, hfirst, hrest⟩ := Outcome.bind_eq_ok_iff.mp hids
        obtain ⟨last, hlast, _⟩ := Outcome.bind_eq_ok_iff.mp hrest
        rw [hparts, List.mem_pair] at hpart
        obtain rfl | rfl := hpart
        · exact ⟨first, hfirst⟩
        · exact ⟨last, hlast⟩
      · rw [hitem] at hids
        obtain ⟨n, hn, _⟩ := Outcome.bind_eq_ok_iff.mp hids
        rw [hparts, List.mem_singleton] at hpart
        exact ⟨n, hpart ▸ hn⟩
      · exact absurd hall (hother hlength)
    rw [digitsNumber_succeeds_iff, hfalse.2] at hnumber
    cases hnumber
  · intro hread
    cases h : itemIds item with
    | ok ids => exact ⟨ids, rfl⟩
    | error fault => exact absurd (itemIds_eq_error h).1 hread

/-- A list that can be read: none of its items has an end that looks like a number and is none. -/
def IsReadable (text : String) : Prop := ∀ item ∈ items text, ¬ IsUnreadable item

/-- A list is read exactly if it is readable. -/
theorem parseIds_succeeds_iff (text : String) :
    (∃ ids, parseIds text = .ok ids) ↔ IsReadable text := by
  simp only [IsReadable, ← itemIds_succeeds_iff, ← Outcome.mapM_succeeds_iff, parseIds,
    Outcome.bind_eq_ok_iff]
  constructor
  · rintro ⟨_, ids, hids, _⟩
    exact ⟨ids, hids⟩
  · rintro ⟨ids, hids⟩
    exact ⟨_, ids, hids, rfl⟩

/-- What a reader complains about is one end of an item that cannot be read. -/
theorem parseIds_eq_error {text : String} {fault : Fault} (h : parseIds text = .error fault) :
    ∃ item ∈ items text, IsUnreadable item ∧
      ∃ part ∈ Text.splitOn '-' item, IsFalseNumber part ∧ fault = .badInteger part := by
  rw [parseIds] at h
  obtain hitems | ⟨ids, _, hrest⟩ := Outcome.bind_eq_error_iff.mp h
  · obtain ⟨item, hitem, hfail⟩ := Outcome.exists_of_mapM_eq_error hitems
    exact ⟨item, hitem, itemIds_eq_error hfail⟩
  · cases hrest

end Vlan

namespace Node

/-- The ids that the aggregation groups refer to, group by group. -/
def groupIds (node : Node) : Except Fault (List (List Int)) :=
  if node.config.linkAggregation.enabled then
    node.config.linkAggregation.groups.mapM (·.vlanIds)
  else .ok []

/-- The ids that the links refer to, link by link. -/
def linkIds (node : Node) (connections : List Connection) : Except Fault (List (List Int)) :=
  (connections.filter (·.touches node.id)).mapM (·.config.vlanIds)

/-- The referenced ids are those of the VLAN interfaces, of the groups and of the links. -/
theorem referencedIds_eq (node : Node) (connections : List Connection) :
    node.referencedIds connections = do
      let groups ← node.groupIds
      let links ← node.linkIds connections
      return node.config.vlan.vlanInterfaces.flatMap (fun i => Vlan.singleId i.vlanId)
        ++ groups.flatten ++ links.flatten := by
  rw [referencedIds, groupIds]
  split <;> rfl

/-- The VLANs of a device are those of its VLAN interfaces, of its aggregation groups and of its
    links, in ascending order. -/
theorem vlanIds_eq_ok {node : Node} {connections : List Connection} {ids : List Int}
    (h : node.vlanIds connections = .ok ids) :
    ∃ groups links, node.groupIds = .ok groups ∧ node.linkIds connections = .ok links ∧
      ids.Pairwise (· < ·) ∧ ∀ id, id ∈ ids ↔
        (∃ i ∈ node.config.vlan.vlanInterfaces, id ∈ Vlan.singleId i.vlanId) ∨
        (∃ found ∈ groups, id ∈ found) ∨ ∃ found ∈ links, id ∈ found := by
  obtain ⟨referenced, hreferenced, hsorted⟩ := Outcome.bind_eq_ok_iff.mp h
  rw [referencedIds_eq] at hreferenced
  obtain ⟨groups, hgroups, hrest⟩ := Outcome.bind_eq_ok_iff.mp hreferenced
  obtain ⟨links, hlinks, hvalue⟩ := Outcome.bind_eq_ok_iff.mp hrest
  cases hvalue
  cases hsorted
  refine ⟨groups, links, hgroups, hlinks, Vlan.pairwise_sortedDistinct _, fun id => ?_⟩
  rw [Vlan.mem_sortedDistinct, List.nil_append, List.mem_append, List.mem_append, List.mem_flatMap,
    List.mem_flatten, List.mem_flatten, or_assoc]

/-- The ids of each group are among those of all groups. -/
theorem exists_mem_of_groupIds {node : Node} {groups : List (List Int)}
    (h : node.groupIds = .ok groups) (henabled : node.config.linkAggregation.enabled)
    {g : AggregationGroup} (hg : g ∈ node.config.linkAggregation.groups) :
    ∃ found ∈ groups, g.vlanIds = .ok found := by
  rw [groupIds, if_pos henabled, Outcome.mapM_eq_ok_iff] at h
  exact Outcome.exists_of_forall₂_left h hg

/-- The ids of each link at the device are among those of all links. -/
theorem exists_mem_of_linkIds {node : Node} {connections : List Connection}
    {links : List (List Int)} (h : node.linkIds connections = .ok links) {c : Connection}
    (hc : c ∈ connections) (htouches : c.touches node.id) :
    ∃ found ∈ links, c.config.vlanIds = .ok found :=
  Outcome.exists_of_forall₂_left (Outcome.mapM_eq_ok_iff.mp h) (List.mem_filter.mpr ⟨hc, htouches⟩)

end Node
end Netscribe
