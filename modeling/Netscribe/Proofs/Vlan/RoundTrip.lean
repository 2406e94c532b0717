import Mathlib.Logic.Function.Basic
import Netscribe.Proofs.Vlan.ListForms
/-!
Writing a list of ids and reading it again. Either form gives back the VLANs among the ids, each
once and in ascending order, so that a list in the form with words is left as it is when it is
brought into that form again.
-/
namespace Netscribe.Vlan

/-- The runs of a list depend on nothing but its elements. -/
theorem contiguousRuns_eq_of_mem_iff {xs ys : List Int} (h : ∀ x, x ∈ xs ↔ x ∈ ys) :
    contiguousRuns xs = contiguousRuns ys := by
  rw [contiguousRuns, sortedDistinct_eq_of_mem_iff h, contiguousRuns]

private theorem spacedList_eq_of_mem_iff {xs ys : List Int} (h : ∀ x, x ∈ xs ↔ x ∈ ys) :
    spacedList xs = spacedList ys := by
  rw [spacedList, contiguousRuns_eq_of_mem_iff h, spacedList]

private theorem mem_validIds {id : Int} {ids : List Int} :
    id ∈ validIds ids ↔ id ∈ ids ∧ (minId : Int) ≤ id ∧ id ≤ maxId := by
  rw [validIds, List.mem_filter, decide_eq_true_eq]

/-- The VLANs of a list of numbers in ascending order. -/
def vlansOf (ids : List Nat) : List Nat :=
  (sortedDistinct (validIds (ids.map Int.ofNat))).map Int.toNat

private theorem map_vlansOf (ids : List Nat) :
    (vlansOf ids).map Int.ofNat = sortedDistinct (validIds (ids.map Int.ofNat)) := by
  have hsame : ∀ id ∈ sortedDistinct (validIds (ids.map Int.ofNat)), Int.ofNat id.toNat = id := by
    intro id hid
    have hvalid := (mem_validIds.mp (mem_sortedDistinct.mp hid)).2
    rw [Int.ofNat_eq_natCast]
    omega
  rw [vlansOf, List.map_map]
  exact (List.map_congr_left hsame).trans (List.map_id _)

private theorem mem_vlansOf {n : Nat} {ids : List Nat} :
    n ∈ vlansOf ids ↔ n ∈ ids ∧ 1 ≤ n ∧ n ≤ 4094 := by
  have hinjective : Function.Injective Int.ofNat := fun _ _ => Int.ofNat.inj
  rw [← List.mem_map_of_injective hinjective, map_vlansOf, mem_sortedDistinct, mem_validIds,
    List.mem_map_of_injective hinjective]
  apply and_congr_right
  intro _
  rw [Int.ofNat_eq_natCast, minId, maxId]
  omega

private theorem pairwise_vlansOf (ids : List Nat) : (vlansOf ids).Pairwise (· < ·) := by
  have hascending := pairwise_sortedDistinct (validIds (ids.map Int.ofNat))
  rw [← map_vlansOf, List.pairwise_map] at hascending
  apply hascending.imp
  intro m n hlt
  rw [Int.ofNat_eq_natCast, Int.ofNat_eq_natCast] at hlt
  omega

private theorem normalList_eq_of_parseIds {text : String} {ids : List Int}
    (h : parseIds text = .ok ids) :
    normalList text = .ok (spacedList ids) := by
  rw [normalList, h]
  rfl

/-- A list that consists of VLANs is read back with the same elements. -/
theorem normalList_spacedList {ids : List Int} (h : ∀ id ∈ ids, (minId : Int) ≤ id ∧ id ≤ maxId) :
    normalList (spacedList ids) = .ok (spacedList ids) := by
  have hpositive : ∀ id ∈ ids, 0 ≤ id := by
    intro id hid
    have hbounds := h id hid
    omega
  rw [normalList_eq_of_parseIds (parseIds_spacedList hpositive)]
  refine congrArg Except.ok (spacedList_eq_of_mem_iff fun id => ?_)
  rw [mem_sortedDistinct, mem_validIds, and_iff_left_iff_imp]
  exact h id

/-- Numbers written in either list form are read back as the VLANs among them, in strictly ascending
    order; and what a list that can be read is brought into stays as it is. -/
theorem written_lists_read_back :
    (∀ ids : List Nat, ∃ vlans : List Nat, vlans.Pairwise (· < ·) ∧
      (∀ n, n ∈ vlans ↔ n ∈ ids ∧ 1 ≤ n ∧ n ≤ 4094) ∧
      parseIds (dashedList (ids.map Int.ofNat)) = .ok (vlans.map Int.ofNat) ∧
      parseIds (spacedList (ids.map Int.ofNat)) = .ok (vlans.map Int.ofNat)) ∧
    ∀ text ids, parseIds text = .ok ids →
      ∃ list, normalList text = .ok list ∧ normalList list = .ok list := by
  constructor
  · intro ids
    have hpositive : ∀ id ∈ ids.map Int.ofNat, 0 ≤ id := by
      rw [List.forall_mem_map]
      intro n _
      exact Int.natCast_nonneg n
    refine ⟨vlansOf ids, pairwise_vlansOf ids, fun n => mem_vlansOf, ?_, ?_⟩
    · rw [parseIds_dashedList hpositive, map_vlansOf]
    · rw [parseIds_spacedList hpositive, map_vlansOf]
  · intro text ids hids
    refine ⟨spacedList ids, normalList_eq_of_parseIds hids, normalList_spacedList ?_⟩
    intro id hid
    exact le_of_mem_parseIds hids hid

/-- Runs of one, two and three ids that touch one another, in disorder and beyond both bounds. -/
theorem written_lists_read_back_across_bounds :
    dashedList ([4095, 11, 0, 10, 12, 1, 4094, 11].map Int.ofNat) =
        "0,1,10-12,4094,4095" ∧
      spacedList ([4095, 11, 0, 10, 12, 1, 4094, 11].map Int.ofNat) =
        "0 1 10 to 12 4094 4095" ∧
      parseIds "0,1,10-12,4094,4095" = .ok [1, 10, 11, 12, 4094] ∧
      ∃ list, normalList "0,1,10-12,4094,4095" = .ok list ∧ normalList list = .ok list := by
  have hread : parseIds "0,1,10-12,4094,4095" = .ok [1, 10, 11, 12, 4094] := by
    rw [parseIds_eq_insertionSort]
    decide +kernel
  refine ⟨?_, ?_, hread, written_lists_read_back.2 _ _ hread⟩
  · rw [dashedList, contiguousRuns, sortedDistinct_eq_insertionSort]
    decide +kernel
  · rw [spacedList, contiguousRuns, sortedDistinct_eq_insertionSort]
    decide +kernel

end Netscribe.Vlan
