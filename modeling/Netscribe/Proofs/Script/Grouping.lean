import Mathlib.Data.List.Induction
import Mathlib.Data.List.Nodup
import Netscribe.Script.Grouping
/-!
Grouping by key, read as one pass over the values: each value goes to the group of its key, and a
key without a group opens one at the end. No value is lost or repeated, and none is moved before
another one of its group.
-/
namespace Netscribe

variable {α : Type} {key : α → String} {xs : List α} {table : List (String × List α)}

/-- Every item is in the group of its key. -/
theorem mem_groupByKey (key : α → String) {x : α} (h : x ∈ xs) :
    ∃ group, (key x, group) ∈ groupByKey key xs ∧ x ∈ group := by
  refine ⟨xs.filter fun y => key y == key x, ?_, List.mem_filter.mpr ⟨h, beq_self_eq_true _⟩⟩
  exact List.mem_map.mpr ⟨key x, List.mem_eraseDups.mpr (List.mem_map_of_mem h), rfl⟩

/-- Groups hold only values that were given, under the key of one of these. -/
theorem of_mem_groupByKey {group : List α} {name : String}
    (h : (name, group) ∈ groupByKey key xs) : (∃ x ∈ xs, key x = name) ∧ ∀ x ∈ group, x ∈ xs := by
  obtain ⟨k, hk, heq⟩ := List.mem_map.mp h
  obtain ⟨rfl, rfl⟩ := Prod.mk.inj heq
  exact ⟨List.mem_map.mp (List.mem_eraseDups.mp hk), fun x => List.mem_of_mem_filter⟩

/-- Where a key first appears. -/
def firstIndex (key : α → String) (xs : List α) (k : String) : Nat := xs.findIdx (key · == k)

private theorem firstIndex_lt_length {k : String} (h : k ∈ xs.map key) :
    firstIndex key xs k < xs.length := by
  obtain ⟨x, hx, rfl⟩ := List.mem_map.mp h
  exact List.findIdx_lt_length_of_exists ⟨x, hx, beq_self_eq_true _⟩

private theorem firstIndex_append {k : String} (h : k ∈ xs.map key) (ys : List α) :
    firstIndex key (xs ++ ys) k = firstIndex key xs k := by
  have hlt := firstIndex_lt_length h
  rw [firstIndex] at hlt
  rw [firstIndex, List.findIdx_append, if_pos hlt, firstIndex]

private theorem firstIndex_concat_self {x : α} (h : key x ∉ xs.map key) :
    firstIndex key (xs ++ [x]) (key x) = xs.length := by
  have hnone : ∀ y ∈ xs, (key y == key x) = false := by
    intro y hy
    rw [beq_eq_false_iff_ne]
    exact fun hsame => h (List.mem_map.mpr ⟨y, hy, hsame⟩)
  have hlength := List.findIdx_eq_length_of_false hnone
  rw [firstIndex, List.findIdx_append, if_neg (by omega), List.findIdx_singleton, beq_self_eq_true,
    if_pos rfl, Nat.zero_add]

/-- The groups of values: one for each key, in the order in which the keys first appear, with the
    values of that key in their own order. -/
structure IsGrouping (key : α → String) (xs : List α) (table : List (String × List α)) : Prop where
  ordered : table.Pairwise fun group later => firstIndex key xs group.1 < firstIndex key xs later.1
  members : ∀ group ∈ table, group.2 = xs.filter (key · == group.1)
  present : ∀ k, k ∈ table.map (·.1) ↔ k ∈ xs.map key

private theorem filter_eq_nil_of_notMem {k : String} (h : k ∉ xs.map key) :
    xs.filter (key · == k) = [] := by
  refine List.filter_eq_nil_iff.mpr fun x hx hsame => h ?_
  exact List.mem_map.mpr ⟨x, hx, eq_of_beq hsame⟩

/-- One value more, added to its group. -/
def addToGroups (key : α → String) (table : List (String × List α)) (x : α) :
    List (String × List α) :=
  if key x ∈ table.map (·.1) then
    table.map fun group => if group.1 = key x then (group.1, group.2 ++ [x]) else group
  else table ++ [(key x, [x])]

private theorem filter_concat_self (key : α → String) (xs : List α) (x : α) :
    (xs ++ [x]).filter (key · == key x) = xs.filter (key · == key x) ++ [x] := by
  rw [List.filter_append, List.filter_singleton, beq_self_eq_true, cond_true]

private theorem filter_concat_of_ne {x : α} {k : String} (h : k ≠ key x) :
    (xs ++ [x]).filter (key · == k) = xs.filter (key · == k) := by
  rw [List.filter_append, List.filter_singleton, beq_false_of_ne h.symm, cond_false,
    List.append_nil]

namespace IsGrouping

/-- Nothing is grouped into no group. -/
theorem nil (key : α → String) : IsGrouping key [] [] :=
  ⟨.nil, List.forall_mem_nil _, fun _ => Iff.rfl⟩

/-- The pass keeps the groups of what it has seen. -/
theorem concat (h : IsGrouping key xs table) (x : α) :
    IsGrouping key (xs ++ [x]) (addToGroups key table x) := by
  have hearlier : table.Pairwise fun group later =>
      firstIndex key (xs ++ [x]) group.1 < firstIndex key (xs ++ [x]) later.1 := by
    refine h.ordered.imp_of_mem fun hgroup hlater hlt => ?_
    rwa [firstIndex_append ((h.present _).mp (List.mem_map_of_mem hgroup)),
      firstIndex_append ((h.present _).mp (List.mem_map_of_mem hlater))]
  rw [addToGroups]
  split
  next hknown =>
    have hkeys : (table.map fun group => if group.1 = key x then (group.1, group.2 ++ [x])
        else group).map (·.1) = table.map (·.1) := by
      rw [List.map_map]
      refine List.map_congr_left fun group _ => ?_
      dsimp only [Function.comp_apply]
      split
      · rfl
      · rfl
    refine ⟨?_, List.forall_mem_map.mpr fun group hgroup => ?_, fun k => ?_⟩
    · rw [← List.pairwise_map (R := fun k l => firstIndex key (xs ++ [x]) k <
        firstIndex key (xs ++ [x]) l)] at hearlier ⊢
      rwa [hkeys]
    · split
      next hsame => rw [hsame, filter_concat_self, ← hsame, h.members group hgroup]
      next hother => rw [filter_concat_of_ne hother, h.members group hgroup]
    · rw [hkeys, h.present, List.map_append, List.mem_append, List.map_singleton,
        List.mem_singleton]
      exact ⟨.inl, fun hk => hk.elim id fun hself => hself ▸ (h.present _).mp hknown⟩
  next hnew =>
    have hfresh : key x ∉ xs.map key := fun hmem => hnew ((h.present _).mpr hmem)
    refine ⟨?_, ?_, fun k => ?_⟩
    · refine List.pairwise_append.mpr ⟨hearlier, List.pairwise_singleton _ _, ?_⟩
      intro group hgroup last hlast
      have hseen := (h.present _).mp (List.mem_map_of_mem hgroup)
      rw [List.mem_singleton.mp hlast, firstIndex_concat_self hfresh, firstIndex_append hseen]
      exact firstIndex_lt_length hseen
    · refine List.forall_mem_append.mpr ⟨fun group hgroup => ?_, List.forall_mem_singleton.mpr ?_⟩
      · have hother : group.1 ≠ key x := fun hsame => hnew (hsame ▸ List.mem_map_of_mem hgroup)
        rw [filter_concat_of_ne hother, h.members group hgroup]
      · rw [filter_concat_self, filter_eq_nil_of_notMem hfresh]
        rfl
    · simp only [List.map_append, List.mem_append, h.present, List.map_singleton]

end IsGrouping

private theorem map_fst_groupByKey (key : α → String) (xs : List α) :
    (groupByKey key xs).map (·.1) = (xs.map key).eraseDups := by
  rw [groupByKey, List.map_map]
  exact List.map_id _

private theorem groupByKey_concat (key : α → String) (xs : List α) (x : α) :
    groupByKey key (xs ++ [x]) = addToGroups key (groupByKey key xs) x := by
  have hkeys : ((xs ++ [x]).map key).eraseDups =
      (xs.map key).eraseDups ++ ([key x].removeAll (xs.map key)).eraseDups := by
    rw [List.map_append, List.eraseDups_append, List.map_singleton]
  rw [groupByKey, hkeys, addToGroups, map_fst_groupByKey]
  by_cases hknown : key x ∈ xs.map key
  · have hnothing : [key x].removeAll (xs.map key) = [] := by simpa [List.removeAll] using hknown
    rw [if_pos (List.mem_eraseDups.mpr hknown), hnothing, List.eraseDups_nil, List.append_nil,
      groupByKey, List.map_map]
    refine List.map_congr_left fun k _ => ?_
    dsimp only [Function.comp_apply]
    split
    next hsame => rw [hsame, filter_concat_self]
    next hother => rw [filter_concat_of_ne hother]
  · have hone : [key x].removeAll (xs.map key) = [key x] := by simpa [List.removeAll] using hknown
    rw [if_neg (mt List.mem_eraseDups.mp hknown), hone, List.map_append, groupByKey]
    congr 1
    · refine List.map_congr_left fun k hk => ?_
      have hother : k ≠ key x := fun hsame => hknown (hsame ▸ List.mem_eraseDups.mp hk)
      rw [filter_concat_of_ne hother]
    · change [(key x, (xs ++ [x]).filter (key · == key x))] = _
      rw [filter_concat_self, filter_eq_nil_of_notMem hknown, List.nil_append]

/-- Grouping by key is one pass over the values. -/
theorem groupByKey_eq_foldl (key : α → String) (xs : List α) :
    groupByKey key xs = xs.foldl (addToGroups key) [] := by
  induction xs using List.reverseRecOn with
  | nil => rfl
  | append_singleton xs x ih => rw [groupByKey_concat, ih, List.foldl_concat]

/-- The table of the groups is a grouping. -/
theorem isGrouping_groupByKey (key : α → String) (xs : List α) :
    IsGrouping key xs (groupByKey key xs) := by
  rw [groupByKey_eq_foldl]
  induction xs using List.reverseRecOn with
  | nil => exact .nil key
  | append_singleton xs x ih =>
    rw [List.foldl_concat]
    exact ih.concat x

end Netscribe
