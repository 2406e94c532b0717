import Netscribe.LinkMode.Commands
import Netscribe.Proofs.Number.Decimal
import Netscribe.Proofs.Outcome
import Netscribe.Proofs.Vlan.Runs
/-!
Ranges of port numbers, and the base that ports share which differ in their last number. A range is
read as exactly the numbers that its items name, and a number behind the base of a name makes a name
with the same base, so that a link shares its mode with ports of the same base only.
-/
namespace Netscribe

namespace Port

/-- The numbers that an item of a range names: the one that it spells, or all from the one that
    stands before a dash to the one behind it. -/
inductive ItemNames (item : String) : Int → Prop
  | single {n : Nat} : Text.Spells item n → ItemNames item n
  | range {low high : String} {first last : Nat} {n : Int} : item = low ++ "-" ++ high →
      Text.Spells (Text.trim low) first → Text.Spells (Text.trim high) last →
      first ≤ n → n ≤ last → ItemNames item n

variable {item low high text name port : String} {first last n : Nat} {z : Int} {numbers : List Int}

private theorem dash_not_mem (h : Text.Spells (Text.trim text) n) : '-' ∉ text.toList := by
  intro hdash
  exact absurd (h.isDigit '-' (Text.mem_trim hdash (by decide))) (by decide)

/-- The two ends of a range are what it is split into. -/
theorem splitOn_range (hlow : Text.Spells (Text.trim low) first)
    (hhigh : Text.Spells (Text.trim high) last) :
    Text.splitOn '-' (low ++ "-" ++ high) = [low, high] := by
  have hjoin : low ++ "-" ++ high = Text.join "-" [low, high] := by simp [Text.join]
  rw [hjoin]
  refine Text.splitOn_join_of_not_mem rfl (List.cons_ne_nil _ _) fun piece hpiece => ?_
  obtain rfl | rfl := List.mem_pair.mp hpiece
  · exact dash_not_mem hlow
  · exact dash_not_mem hhigh

/-- The numbers from one to another, both of them included. -/
def numbersBetween (first last : Nat) : List Int :=
  (List.range (last + 1 - first)).map fun i => ((first + i : Nat) : Int)

private theorem mem_numbersBetween : z ∈ numbersBetween first last ↔ first ≤ z ∧ z ≤ last := by
  rw [numbersBetween, List.mem_map]
  constructor
  · rintro ⟨i, hi, rfl⟩
    rw [List.mem_range] at hi
    omega
  · rintro ⟨hfirst, hlast⟩
    exact ⟨(z - first).toNat, List.mem_range.mpr (by omega), by omega⟩

private theorem itemNumbers_range (hlow : Text.Spells (Text.trim low) first)
    (hhigh : Text.Spells (Text.trim high) last) :
    itemNumbers (low ++ "-" ++ high) = .ok (numbersBetween first last) := by
  have hdash : Text.contains '-' (low ++ "-" ++ high) := by simp [Text.contains]
  rw [itemNumbers, if_pos hdash, splitOn_range hlow hhigh]
  simp only [List.map_cons, List.map_nil, hlow.allDigits, hhigh.allDigits, Bool.and_self, if_true,
    hlow.digitsNumber, hhigh.digitsNumber]
  rfl

private theorem itemNumbers_single (h : Text.Spells item n) :
    itemNumbers item = .ok [(n : Int)] := by
  have hdash : ¬ Text.contains '-' item := by
    intro hdash
    have hmem : '-' ∈ item.toList := by simpa [Text.contains] using hdash
    exact absurd (h.isDigit '-' hmem) (by decide)
  rw [itemNumbers, if_neg hdash, if_pos h.allDigits, h.digitsNumber]
  rfl

/-- The two known forms of an item, and all others, which name nothing. -/
theorem itemNumbers_cases (item : String) :
    (∃ low high, item = low ++ "-" ++ high ∧ Text.allDigits (Text.trim low) ∧
      Text.allDigits (Text.trim high) ∧
      itemNumbers item = do
        let first ← digitsNumber (Text.trim low)
        let last ← digitsNumber (Text.trim high)
        return numbersBetween first last) ∨
    (Text.allDigits item ∧ itemNumbers item = do return [((← digitsNumber item : Nat) : Int)]) ∨
    itemNumbers item = .ok [] := by
  rw [itemNumbers]
  split
  next =>
    split
    next low high hparts =>
      obtain ⟨before, more, hsplit, rfl, hmore⟩ := List.map_eq_cons_iff.mp hparts
      obtain ⟨after, rfl, rfl⟩ := List.map_eq_singleton_iff.mp hmore
      split
      next hdigits =>
        rw [Bool.and_eq_true] at hdigits
        have hjoin : Text.join "-" (Text.splitOn '-' item) = item := Text.join_splitOn rfl item
        rw [hsplit] at hjoin
        refine .inl ⟨before, after, ?_, hdigits.1, hdigits.2, rfl⟩
        simpa [Text.join] using hjoin.symm
      next => exact .inr (.inr rfl)
    next => exact .inr (.inr rfl)
  next =>
    split
    next hdigits => exact .inr (.inl ⟨hdigits, rfl⟩)
    next => exact .inr (.inr rfl)

private theorem itemNames_of_mem (h : itemNumbers item = .ok numbers) (hz : z ∈ numbers) :
    ItemNames item z := by
  obtain ⟨low, high, hitem, hlow, hhigh, hread⟩ | ⟨hdigits, hread⟩ | hread :=
    itemNumbers_cases item
  · rw [hread] at h
    obtain ⟨first, hfirst, hrest⟩ := Outcome.bind_eq_ok_iff.mp h
    obtain ⟨last, hlast, hrange⟩ := Outcome.bind_eq_ok_iff.mp hrest
    cases hrange
    obtain ⟨hbefore, hafter⟩ := mem_numbersBetween.mp hz
    exact .range hitem (Text.spells_iff.mpr ⟨hlow, hfirst⟩) (Text.spells_iff.mpr ⟨hhigh, hlast⟩)
      hbefore hafter
  · rw [hread] at h
    obtain ⟨n, hn, hsingle⟩ := Outcome.bind_eq_ok_iff.mp h
    cases hsingle
    rw [List.mem_singleton.mp hz]
    exact .single (Text.spells_iff.mpr ⟨hdigits, hn⟩)
  · rw [hread] at h
    cases h
    cases hz

private theorem mem_itemNumbers_iff (h : itemNumbers item = .ok numbers) :
    z ∈ numbers ↔ ItemNames item z := by
  refine ⟨itemNames_of_mem h, ?_⟩
  rintro (hsingle | ⟨rfl, hlow, hhigh, hfirst, hlast⟩)
  · rw [itemNumbers_single hsingle] at h
    cases h
    exact List.mem_singleton_self _
  · rw [itemNumbers_range hlow hhigh] at h
    cases h
    exact mem_numbersBetween.mpr ⟨hfirst, hlast⟩

private theorem itemNumbers_succeeds (h : Text.HasDecimalDigits item) :
    ∃ numbers, itemNumbers item = .ok numbers := by
  obtain ⟨low, high, rfl, hlow, hhigh, hread⟩ | ⟨hdigits, hread⟩ | hread := itemNumbers_cases item
  · have hbefore : low.toList ⊆ (low ++ "-" ++ high).toList := by
      intro c hc
      simp [hc]
    have hafter : high.toList ⊆ (low ++ "-" ++ high).toList := by
      intro c hc
      simp [hc]
    obtain ⟨first, hfirst⟩ := Text.exists_spells (h.of_subset hbefore).trim hlow
    obtain ⟨last, hlast⟩ := Text.exists_spells (h.of_subset hafter).trim hhigh
    exact ⟨_, itemNumbers_range hfirst hlast⟩
  · obtain ⟨n, hn⟩ := Text.exists_spells h hdigits
    exact ⟨_, itemNumbers_single hn⟩
  · exact ⟨[], hread⟩

/-- A range names what its items name, each number once and in ascending order. -/
theorem parseRange_eq_ok (h : parseRange text = .ok numbers) :
    numbers.Pairwise (· < ·) ∧
      ∀ z, z ∈ numbers ↔ ∃ item ∈ Text.splitOn ',' text, ItemNames (Text.trim item) z := by
  obtain ⟨lists, hlists, hsorted⟩ := Outcome.bind_eq_ok_iff.mp h
  cases hsorted
  refine ⟨Vlan.pairwise_sortedDistinct _, fun z => ?_⟩
  rw [Vlan.mem_sortedDistinct, Outcome.mem_flatten_iff hlists mem_itemNumbers_iff]
  simp only [List.mem_map, exists_exists_and_eq_and]

private theorem parseRange_succeeds (h : Text.HasDecimalDigits text) :
    ∃ numbers, parseRange text = .ok numbers := by
  have hitems : ∀ item ∈ (Text.splitOn ',' text).map Text.trim,
      ∃ numbers, itemNumbers item = .ok numbers := by
    rw [List.forall_mem_map]
    exact fun item hitem =>
      itemNumbers_succeeds (h.of_subset (Text.subset_of_mem_splitOn hitem)).trim
  obtain ⟨lists, hlists⟩ := Outcome.mapM_succeeds_iff.mpr hitems
  exact ⟨_, Outcome.bind_eq_ok_iff.mpr ⟨lists, hlists, rfl⟩⟩

private theorem nonneg_of_itemNames (h : ItemNames item z) : 0 ≤ z := by
  obtain _ | ⟨-, -, -, hfirst, -⟩ := h
  · omega
  · omega

section Base

variable {cs ds : List Char}

private theorem mem_of_mem_dropNumber {name : List Char} {c : Char} (h : c ∈ dropNumber name) :
    c ∈ name := by
  rw [dropNumber] at h
  split at h
  next rest hreverse =>
    rw [← List.mem_reverse, hreverse]
    obtain hrest | hfeed := List.mem_append.mp h
    · exact List.mem_cons_of_mem _ ((List.dropWhile_sublist _).mem (List.mem_reverse.mp hrest))
    · exact List.mem_singleton.mp hfeed ▸ List.mem_cons_self
  next =>
    exact List.mem_reverse.mp ((List.dropWhile_sublist _).mem (List.mem_reverse.mp h))

/-- The base of a name holds no character that the name does not hold. -/
theorem mem_of_mem_base {name : String} {c : Char} (h : c ∈ (base name).toList) :
    c ∈ name.toList := by
  rw [base] at h
  split at h
  · rw [String.toList_ofList, List.mem_reverse] at h
    exact List.mem_reverse.mp ((List.dropWhile_sublist _).mem h)
  · rw [String.toList_ofList] at h
    exact mem_of_mem_dropNumber h

private theorem dropNumber_eq_rdropWhile (h : cs.getLast? ≠ some '\n') :
    dropNumber cs = cs.rdropWhile Text.isDecimal := by
  rw [dropNumber]
  split
  next rest hfeed =>
    rw [← List.head?_reverse, hfeed] at h
    exact absurd rfl h
  next => rfl

/-- No digit stands at the end any more. -/
theorem last_dropNumber (cs : List Char) :
    ∀ c ∈ (dropNumber cs).getLast?, Text.isDecimal c = false := by
  intro c hc
  rw [dropNumber] at hc
  split at hc
  next =>
    rw [List.getLast?_concat] at hc
    obtain rfl := Option.some.inj hc
    decide
  next =>
    rw [List.getLast?_reverse] at hc
    have hhead := List.head?_dropWhile_not Text.isDecimal cs.reverse
    rw [hc] at hhead
    simpa using hhead

/-- A number behind a name that ends in no digit is all that is dropped. -/
theorem dropNumber_append (hlast : ∀ c ∈ cs.getLast?, Text.isDecimal c = false) (hne : ds ≠ [])
    (hds : ∀ c ∈ ds, Text.isDecimal c) : dropNumber (cs ++ ds) = cs := by
  have hfeed : (cs ++ ds).getLast? ≠ some '\n' := by
    rw [List.getLast?_append_of_ne_nil _ hne]
    intro hfeed
    exact absurd (hds '\n' (List.mem_of_getLast? hfeed)) (by decide)
  rw [dropNumber_eq_rdropWhile hfeed, Text.rdropWhile_append_of_pos hds,
    List.rdropWhile_eq_self_iff]
  intro hcs
  rw [hlast _ (List.getLast_mem_getLast? hcs)]
  exact Bool.false_ne_true

private theorem base_of_slash {name : String} (h : '/' ∈ name.toList) :
    base name = .ofList (name.toList.rdropWhile (· ≠ '/')) := by
  have hcontains : name.toList.contains '/' := by simpa using h
  rw [base, if_pos hcontains]
  rfl

private theorem base_of_no_slash {name : String} (h : '/' ∉ name.toList) :
    base name = .ofList (dropNumber name.toList) := by
  have hcontains : ¬ name.toList.contains '/' := by simpa using h
  rw [base, if_neg hcontains]

private theorem slash_mem_rdropWhile (h : '/' ∈ cs) : '/' ∈ cs.rdropWhile (· ≠ '/') := by
  rw [List.rdropWhile, List.mem_reverse]
  exact Text.mem_dropWhile_of_neg (List.mem_reverse.mpr h) (by decide)

/-- A number put behind the base of a name gives a name with that base. -/
theorem base_append_number (name : String) (n : Nat) :
    base (base name ++ toString n) = base name := by
  have hdigits : ∀ c ∈ (toString n).toList, c.isDigit := fun _ => Text.isDigit_of_mem_toString
  by_cases hslash : '/' ∈ name.toList
  · have hnone : ∀ c ∈ (toString n).toList, decide (c ≠ '/') := fun c hc =>
      decide_eq_true (Text.ne_of_isDigit (hdigits c hc) (by decide))
    have hkept := slash_mem_rdropWhile hslash
    rw [base_of_slash hslash, base_of_slash, String.toList_append, String.toList_ofList,
      Text.rdropWhile_append_of_pos hnone, List.rdropWhile_idempotent]
    rw [String.toList_append, String.toList_ofList]
    exact List.mem_append_left _ hkept
  · have hne : (toString n).toList ≠ [] := by
      obtain ⟨c, cs, hcons, -⟩ := Text.exists_toString_eq_cons n
      rw [hcons]
      exact List.cons_ne_nil c cs
    have hnone : '/' ∉ dropNumber name.toList ++ (toString n).toList := by
      rw [List.mem_append, not_or]
      refine ⟨fun hmem => hslash (mem_of_mem_dropNumber hmem), fun hmem => ?_⟩
      exact absurd (hdigits '/' hmem) (by decide)
    have hdecimal : ∀ c ∈ (toString n).toList, Text.isDecimal c := fun c hc =>
      Text.isDecimal_of_isDigit (hdigits c hc)
    rw [base_of_no_slash hslash, base_of_no_slash, String.toList_append, String.toList_ofList,
      dropNumber_append (last_dropNumber _) hne hdecimal]
    rwa [String.toList_append, String.toList_ofList]

end Base

end Port

namespace LinkConfig

private theorem portNames_succeeds {c : LinkConfig} (port : String)
    (h : Text.HasDecimalDigits c.applyToPortRange) : ∃ names, c.portNames port = .ok names := by
  obtain ⟨numbers, hnumbers⟩ := Port.parseRange_succeeds h
  rw [portNames, hnumbers]
  cases numbers with
  | nil => exact ⟨_, rfl⟩
  | cons => exact ⟨_, rfl⟩

/-- All ports that share the mode of a link have the base of its own port. -/
theorem base_of_mem_portNames {c : LinkConfig} {port sibling : String} {names : List String}
    (h : c.portNames port = .ok names) (hsibling : sibling ∈ names) :
    Port.base sibling = Port.base port := by
  obtain ⟨numbers, hnumbers, hnames⟩ := Outcome.bind_eq_ok_iff.mp h
  split at hnames
  next =>
    cases hnames
    rw [List.mem_singleton.mp hsibling]
  next =>
    cases hnames
    obtain ⟨z, hz, rfl⟩ := List.mem_map.mp hsibling
    obtain ⟨item, -, hitem⟩ := ((Port.parseRange_eq_ok hnumbers).2 z).mp hz
    obtain ⟨n, rfl⟩ := Int.eq_ofNat_of_zero_le (Port.nonneg_of_itemNames hitem)
    rw [Text.toString_natCast, Port.base_append_number]

/-- A range whose digits are all decimal ones gives the numbers that its items name, each once and
    in ascending order, and no others. The base of a name stays the base when a number, whatever it
    is, is put behind it, so that all ports that share the mode of a link have the base of its own
    port. -/
theorem port_ranges_name_siblings :
    (∀ text, Text.HasDecimalDigits text → ∃ numbers, Port.parseRange text = .ok numbers ∧
      numbers.Pairwise (· < ·) ∧
      ∀ z, z ∈ numbers ↔ ∃ item ∈ Text.splitOn ',' text, Port.ItemNames (Text.trim item) z) ∧
    (∀ name (n : Nat), Port.base (Port.base name ++ toString n) = Port.base name) ∧
    ∀ (c : LinkConfig) port, Text.HasDecimalDigits c.applyToPortRange →
      ∃ names, c.portNames port = .ok names ∧
        ∀ sibling ∈ names, Port.base sibling = Port.base port := by
  refine ⟨fun text h => ?_, Port.base_append_number, fun c port h => ?_⟩
  · obtain ⟨numbers, hnumbers⟩ := Port.parseRange_succeeds h
    exact ⟨numbers, hnumbers, Port.parseRange_eq_ok hnumbers⟩
  · obtain ⟨names, hnames⟩ := portNames_succeeds port h
    exact ⟨names, hnames, fun sibling => base_of_mem_portNames hnames⟩

/-- Numbers in disorder, a leading zero, blanks within a range, a range that is upside down, and
    items of no known form. -/
theorem port_ranges_name_siblings_of_mixed_items :
    Text.HasDecimalDigits "07, 2 - 4,9-8,1-2-3,x" ∧
      Port.parseRange "07, 2 - 4,9-8,1-2-3,x" = .ok [2, 3, 4, 7] ∧
      portNames "Gi1/0/1" { applyToPortRange := "07, 2 - 4,9-8,1-2-3,x" } =
        .ok ["Gi1/0/2", "Gi1/0/3", "Gi1/0/4", "Gi1/0/7"] ∧
      ∀ sibling ∈ ["Gi1/0/2", "Gi1/0/3", "Gi1/0/4", "Gi1/0/7"],
        Port.base sibling = Port.base "Gi1/0/1" := by
  have hdecimal : Text.HasDecimalDigits "07, 2 - 4,9-8,1-2-3,x" := by decide
  have hsorted : Vlan.sortedDistinct [7, 2, 3, 4] = [2, 3, 4, 7] := by
    refine (Vlan.pairwise_sortedDistinct _).eq_of_mem_iff (by decide) fun z => ?_
    simp only [Vlan.mem_sortedDistinct, List.mem_cons, List.not_mem_nil, or_false]
    omega
  have hitems : ((Text.splitOn ',' "07, 2 - 4,9-8,1-2-3,x").map Text.trim).mapM Port.itemNumbers =
      .ok [[7], [2, 3, 4], [], [], []] := rfl
  have hrange : Port.parseRange "07, 2 - 4,9-8,1-2-3,x" = .ok [2, 3, 4, 7] := by
    rw [Port.parseRange, hitems]
    exact congrArg Except.ok hsorted
  have hnames : portNames "Gi1/0/1" { applyToPortRange := "07, 2 - 4,9-8,1-2-3,x" } =
      .ok ["Gi1/0/2", "Gi1/0/3", "Gi1/0/4", "Gi1/0/7"] := by
    rw [portNames, hrange]
    rfl
  refine ⟨hdecimal, hrange, hnames, ?_⟩
  obtain ⟨names, hsame, hbase⟩ := port_ranges_name_siblings.2.2 { applyToPortRange := _ }
    "Gi1/0/1" hdecimal
  cases hnames.symm.trans hsame
  exact hbase

end LinkConfig

end Netscribe
