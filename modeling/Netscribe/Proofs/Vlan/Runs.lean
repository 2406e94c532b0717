import Mathlib.Data.List.Sort
import Netscribe.Vlan.IdList
/-!
Ascending lists of ids and their runs. An ascending list is determined by its elements, and the
runs of a list hold exactly its elements: they are the intervals of them that cannot be extended.
-/
namespace Netscribe.Vlan

private theorem mem_collapse {x : Int} {xs : List Int} : x ∈ collapse xs ↔ x ∈ xs := by
  fun_induction collapse xs with
  | case1 | case2 => rfl
  | case3 y rest ih => simp [ih]
  | case4 y z rest _ ih => simp [ih]

private theorem pairwise_collapse {xs : List Int} (h : xs.Pairwise (· ≤ ·)) :
    (collapse xs).Pairwise (· < ·) := by
  fun_induction collapse xs with
  | case1 | case2 => simp
  | case3 y rest ih => exact ih h.of_cons
  | case4 y z rest hne ih =>
    refine List.pairwise_cons.mpr ⟨fun x hx => ?_, ih h.of_cons⟩
    have hhead : y ≤ z := List.rel_of_pairwise_cons h List.mem_cons_self
    have htail : z ≤ x := by
      obtain rfl | hrest := List.mem_cons.mp (mem_collapse.mp hx)
      · exact le_rfl
      · exact List.rel_of_pairwise_cons h.of_cons hrest
    omega

@[simp]
theorem mem_sortedDistinct {x : Int} {xs : List Int} : x ∈ sortedDistinct xs ↔ x ∈ xs := by
  rw [sortedDistinct, mem_collapse, List.mem_mergeSort]

/-- The distinct elements come in strictly ascending order. -/
theorem pairwise_sortedDistinct (xs : List Int) : (sortedDistinct xs).Pairwise (· < ·) := by
  apply pairwise_collapse
  have hsorted : (xs.mergeSort fun a b => decide (a ≤ b)).Pairwise (fun a b => decide (a ≤ b)) :=
    List.pairwise_mergeSort (fun a b c hab hbc => by simp only [decide_eq_true_eq] at *; omega)
    (fun a b => by simp only [Bool.or_eq_true, decide_eq_true_eq]; omega) xs
  simpa using hsorted

/-- Sorting by insertion comes to the same, and unlike merging it recurs on the list, so that what a
    closed list comes to can be computed. -/
theorem sortedDistinct_eq_insertionSort (xs : List Int) :
    sortedDistinct xs = collapse (xs.insertionSort (· ≤ ·)) := by
  rw [sortedDistinct, List.mergeSort_eq_insertionSort]

/-- A list is read with its ids sorted by insertion. -/
theorem parseIds_eq_insertionSort (text : String) : parseIds text = do
    return collapse ((← (items text).mapM itemIds).flatten.insertionSort (· ≤ ·)) := by
  simp only [parseIds, sortedDistinct_eq_insertionSort]

/-- Ascending lists with the same elements are equal. -/
theorem sortedDistinct_eq_of_mem_iff {xs ys : List Int} (h : ∀ x, x ∈ xs ↔ x ∈ ys) :
    sortedDistinct xs = sortedDistinct ys := by
  apply (pairwise_sortedDistinct xs).eq_of_mem_iff (pairwise_sortedDistinct ys)
  simpa using h

private theorem le_of_mem_runsFrom {run : Int × Int} {first last : Int} {xs : List Int}
    (hrun : first ≤ last) (h : run ∈ runsFrom first last xs) : run.1 ≤ run.2 := by
  induction xs generalizing first last with
  | nil =>
    rw [runsFrom, List.mem_singleton] at h
    rwa [h]
  | cons x xs ih =>
    rw [runsFrom] at h
    split at h
    · exact ih (by omega) h
    · obtain rfl | hrest := List.mem_cons.mp h
      · exact hrun
      · exact ih le_rfl hrest

/-- A run does not end before its start. -/
theorem le_of_mem_contiguousRuns {run : Int × Int} {ids : List Int}
    (h : run ∈ contiguousRuns ids) : run.1 ≤ run.2 := by
  rw [contiguousRuns] at h
  split at h
  · cases h
  · exact le_of_mem_runsFrom le_rfl h

/-- A number of a run, from its first one to its last. -/
def InRun (n : Int) (run : Int × Int) : Prop := run.1 ≤ n ∧ n ≤ run.2

/-- The runs cover the run in the making and all elements that are still to come. -/
theorem exists_inRun_runsFrom_iff {n first last : Int} {xs : List Int} (hrun : first ≤ last) :
    (∃ run ∈ runsFrom first last xs, InRun n run) ↔ InRun n (first, last) ∨ n ∈ xs := by
  induction xs generalizing first last with
  | nil => simp [runsFrom]
  | cons x xs ih =>
    rw [runsFrom]
    split
    next hnext =>
      rw [ih (by omega)]
      simp only [InRun, List.mem_cons]
      constructor
      · rintro (⟨hfirst, hlast⟩ | hxs)
        · by_cases hx : n = x
          · exact .inr (.inl hx)
          · exact .inl ⟨hfirst, by omega⟩
        · exact .inr (.inr hxs)
      · rintro (⟨hfirst, hlast⟩ | rfl | hxs)
        · exact .inl ⟨hfirst, by omega⟩
        · exact .inl ⟨by omega, le_rfl⟩
        · exact .inr hxs
    next =>
      rw [List.exists_mem_cons_iff, ih le_rfl, List.mem_cons]
      have hsingle : InRun n (x, x) ↔ n = x := by simp only [InRun]; omega
      rw [hsingle]

/-- The runs of a list hold exactly its elements. -/
theorem exists_inRun_contiguousRuns_iff {n : Int} {ids : List Int} :
    (∃ run ∈ contiguousRuns ids, InRun n run) ↔ n ∈ ids := by
  rw [contiguousRuns, ← mem_sortedDistinct]
  split
  next hnil => simp [hnil]
  next x xs hcons =>
    rw [exists_inRun_runsFrom_iff le_rfl, hcons, List.mem_cons]
    have hsingle : InRun n (x, x) ↔ n = x := by simp only [InRun]; omega
    rw [hsingle]

/-- A run starts with one of the ids. -/
theorem mem_of_mem_contiguousRuns {run : Int × Int} {ids : List Int}
    (h : run ∈ contiguousRuns ids) : run.1 ∈ ids :=
  exists_inRun_contiguousRuns_iff.mp ⟨run, h, le_rfl, le_of_mem_contiguousRuns h⟩

/-- Neighbouring runs leave out at least one number between them. -/
theorem pairwise_runsFrom {first last : Int} {xs : List Int} (hlast : ∀ x ∈ xs, last < x)
    (hascending : xs.Pairwise (· < ·)) :
    (runsFrom first last xs).Pairwise (fun r s => r.2 + 1 < s.1) ∧
      ∀ run ∈ (runsFrom first last xs), run.1 = first ∨ last < run.1 := by
  induction xs generalizing first last with
  | nil => simp [runsFrom]
  | cons x xs ih =>
    obtain ⟨hx, hxs⟩ := List.pairwise_cons.mp hascending
    have hnext := hlast x List.mem_cons_self
    rw [runsFrom]
    split
    next hx' =>
      obtain ⟨hpairwise, hstart⟩ := @ih first x hx hxs
      refine ⟨hpairwise, fun run hrun => (hstart run hrun).imp_right fun h => ?_⟩
      omega
    next hgap =>
      obtain ⟨hpairwise, hstart⟩ := @ih x x hx hxs
      have hlater : ∀ run ∈ runsFrom x x xs, x ≤ run.1 := by
        intro run hrun
        obtain hsame | hmore := hstart run hrun
        · exact hsame.ge
        · exact hmore.le
      refine ⟨List.pairwise_cons.mpr ⟨fun run hrun => ?_, hpairwise⟩, ?_⟩
      · have hle := hlater run hrun
        omega
      · refine List.forall_mem_cons.mpr ⟨.inl rfl, fun run hrun => .inr ?_⟩
        have hle := hlater run hrun
        omega

/-- Between two runs at least one id is missing. -/
theorem pairwise_contiguousRuns (ids : List Int) :
    (contiguousRuns ids).Pairwise fun r s => r.2 + 1 < s.1 := by
  have hascending := pairwise_sortedDistinct ids
  rw [contiguousRuns]
  split
  next => exact .nil
  next x xs hcons =>
    rw [hcons] at hascending
    obtain ⟨hx, hxs⟩ := List.pairwise_cons.mp hascending
    exact (pairwise_runsFrom hx hxs).1

/-- An interval of numbers that all stand in a list and that cannot be extended at either end. -/
structure IsMaximalRun (ids : List Int) (run : Int × Int) : Prop where
  upward : run.1 ≤ run.2
  covered : ∀ n, InRun n run → n ∈ ids
  start : run.1 - 1 ∉ ids
  stop : run.2 + 1 ∉ ids

section Runs

variable {ids : List Int} {run other : Int × Int} {n : Int}

private theorem mem_of_inRun (h : run ∈ contiguousRuns ids) (hn : InRun n run) : n ∈ ids :=
  exists_inRun_contiguousRuns_iff.mp ⟨run, h, hn⟩

/-- Whichever of two runs comes first, a number is left out between them. -/
theorem apart_of_mem_contiguousRuns (h : run ∈ contiguousRuns ids)
    (hother : other ∈ contiguousRuns ids) (hne : run ≠ other) :
    run.2 + 1 < other.1 ∨ other.2 + 1 < run.1 := by
  have hgaps := List.pairwise_iff_getElem.mp (pairwise_contiguousRuns ids)
  obtain ⟨i, hi, rfl⟩ := List.getElem_of_mem h
  obtain ⟨j, hj, rfl⟩ := List.getElem_of_mem hother
  obtain hbefore | rfl | hafter := lt_trichotomy i j
  · exact .inl (hgaps i j hi hj hbefore)
  · exact absurd rfl hne
  · exact .inr (hgaps j i hj hi hafter)

private theorem eq_of_inRun (h : run ∈ contiguousRuns ids) (hother : other ∈ contiguousRuns ids)
    (hn : InRun n run) (hn' : InRun n other) : run = other := by
  by_contra hne
  obtain ⟨hfirst, hlast⟩ := hn
  obtain ⟨hfirst', hlast'⟩ := hn'
  obtain hgap | hgap := apart_of_mem_contiguousRuns h hother hne
  · omega
  · omega

private theorem isMaximalRun_of_mem_contiguousRuns (h : run ∈ contiguousRuns ids) :
    IsMaximalRun ids run := by
  have hupward := le_of_mem_contiguousRuns h
  -- A neighbour of the run lies in no other run, since the runs leave a number out between them.
  have houtside {n : Int} (hnot : ¬InRun n run) (hnear : run.1 - 1 ≤ n ∧ n ≤ run.2 + 1) :
      n ∉ ids := by
    intro hn
    obtain ⟨other, hother, hfirst, hlast⟩ := exists_inRun_contiguousRuns_iff.mpr hn
    have hne : run ≠ other := by
      rintro rfl
      exact hnot ⟨hfirst, hlast⟩
    obtain hgap | hgap := apart_of_mem_contiguousRuns h hother hne
    · omega
    · omega
  refine ⟨hupward, fun n => mem_of_inRun h, houtside ?_ ?_, houtside ?_ ?_⟩
  · rintro ⟨hfirst, _⟩
    omega
  · omega
  · rintro ⟨_, hlast⟩
    omega
  · omega

/-- The runs of a list are the intervals of its elements that cannot be extended. -/
theorem mem_contiguousRuns_iff : run ∈ contiguousRuns ids ↔ IsMaximalRun ids run := by
  refine ⟨isMaximalRun_of_mem_contiguousRuns, fun h => ?_⟩
  obtain ⟨hupward, hcovered, hstart, hstop⟩ := h
  obtain ⟨found, hfound, hfirst, hlast⟩ :=
    exists_inRun_contiguousRuns_iff.mpr (hcovered run.1 ⟨le_rfl, hupward⟩)
  have hmaximal := isMaximalRun_of_mem_contiguousRuns hfound
  have hsameFirst : found.1 = run.1 := by
    by_contra hne
    exact hstart (hmaximal.covered _ ⟨by omega, by omega⟩)
  have hnotShorter : ¬ found.2 < run.2 :=
    fun hshort => hmaximal.stop (hcovered _ ⟨by omega, by omega⟩)
  have hnotLonger : ¬ run.2 < found.2 :=
    fun hlong => hstop (hmaximal.covered _ ⟨by omega, by omega⟩)
  have hsame : found = run := Prod.ext hsameFirst (by omega)
  exact hsame ▸ hfound

/-- The runs of any list of numbers are the intervals of its elements that cannot be extended, in
    ascending order and with a number left out after each of them, so that exactly the elements lie
    in a run, each of them in one. -/
theorem contiguousRuns_exact_and_maximal (ids : List Int) :
    (∀ run, run ∈ contiguousRuns ids ↔ IsMaximalRun ids run) ∧
      (contiguousRuns ids).Pairwise (fun run next => run.2 + 1 < next.1) ∧
      ∀ n, n ∈ ids ↔ ∃! run, run ∈ contiguousRuns ids ∧ InRun n run := by
  refine ⟨fun run => mem_contiguousRuns_iff, pairwise_contiguousRuns ids, fun n => ?_⟩
  constructor
  · intro hn
    obtain ⟨run, hrun, hin⟩ := exists_inRun_contiguousRuns_iff.mpr hn
    exact ⟨run, ⟨hrun, hin⟩, fun other hother => eq_of_inRun hother.1 hrun hother.2 hin⟩
  · rintro ⟨run, ⟨hrun, hin⟩, _⟩
    exact mem_of_inRun hrun hin

end Runs
end Netscribe.Vlan
