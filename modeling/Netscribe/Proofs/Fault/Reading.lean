import Netscribe.Port.Name
import Netscribe.Proofs.Outcome
import Netscribe.Proofs.Text.OneLine
import Netscribe.Proofs.Vlan.ListForms
/-!
The faults that reading settings can lead to. They are few: digits that denote no number and a text
without words. Their messages take one line and have nothing blank at the end, so that a comment
made of such a message stands in a script as it is. What lists and addresses are brought into takes
one line as well.
-/
namespace Netscribe

namespace Text

/-- Characters of ranges that keep apart from the blank ones are not blank. -/
theorem isBlank_eq_false_of_inRanges {ranges : List (Nat × Nat)}
    (hapart : ∀ range ∈ ranges, ∀ blank ∈ blankRanges,
      blank.2 < range.1 ∨ range.2 < blank.1)
    {c : Char} (h : inRanges ranges c) : isBlank c = false := by
  rw [inRanges, List.any_eq_true] at h
  obtain ⟨range, hrange, hc⟩ := h
  rw [Bool.and_eq_true, decide_eq_true_eq, decide_eq_true_eq] at hc
  rw [isBlank, inRanges, List.any_eq_false]
  intro blank hblank hinside
  rw [Bool.and_eq_true, decide_eq_true_eq, decide_eq_true_eq] at hinside
  have hdisjoint := hapart range hrange blank hblank
  omega

private theorem isBlank_eq_false_of_isDecimal {c : Char} (h : isDecimal c) : isBlank c = false := by
  have hapart : ∀ range ∈ decimalZeros.map (fun start => (start, start + 9)), ∀ blank ∈ blankRanges,
      blank.2 < range.1 ∨ range.2 < blank.1 := by decide
  rw [isDecimal, decimalValue?] at h
  split at h
  · split at h
    next hascii => exact isBlank_of_isDigit hascii
    next => cases h
  · rw [Option.isSome_map, List.find?_isSome] at h
    obtain ⟨start, hstart, hc⟩ := h
    rw [Bool.and_eq_true, decide_eq_true_eq, decide_eq_true_eq] at hc
    apply isBlank_eq_false_of_inRanges hapart
    rw [inRanges, List.any_map, List.any_eq_true]
    refine ⟨start, hstart, ?_⟩
    rw [Function.comp_apply, Bool.and_eq_true, decide_eq_true_eq, decide_eq_true_eq]
    omega

/-- No digit in the wide sense is blank. -/
theorem isBlank_eq_false_of_mem_allDigits {s : String} (h : allDigits s) {c : Char}
    (hc : c ∈ s.toList) : isBlank c = false := by
  rw [allDigits, Bool.and_eq_true, List.all_eq_true] at h
  have hdigit := h.2 c hc
  rw [isDigit, Bool.or_eq_true] at hdigit
  obtain hdecimal | htypographic := hdigit
  · exact isBlank_eq_false_of_isDecimal hdecimal
  · exact isBlank_eq_false_of_inRanges (by decide) htypographic

private theorem isBlank_eq_false_of_mem_hex {width n : Nat} {c : Char} (h : c ∈ hex width n) :
    isBlank c = false := by
  obtain ⟨digit, hdigit, rfl⟩ := exists_eq_hexDigit h
  have hdigits : ∀ n < 16, isBlank (hexDigit n) = false := by decide
  exact hdigits digit hdigit

/-- Quoting a character that is not blank adds nothing blank to it. -/
theorem isBlank_eq_false_of_mem_quoteChar {mark c d : Char} (hc : isBlank c = false)
    (hd : d ∈ quoteChar mark c) : isBlank d = false := by
  have hletter {letter : Char} (h : isBlank letter = false) :
      ∀ e ∈ ['\\', letter], isBlank e = false :=
    List.forall_mem_cons.mpr ⟨by decide, List.forall_mem_singleton.mpr h⟩
  have hescaped {width n : Nat} {letter : Char} (h : isBlank letter = false)
      (hmem : d ∈ ['\\', letter] ++ hex width n) : isBlank d = false := by
    obtain hleft | hright := List.mem_append.mp hmem
    · exact hletter h d hleft
    · exact isBlank_eq_false_of_mem_hex hright
  rw [quoteChar] at hd
  split_ifs at hd
  · obtain rfl | rfl := List.mem_pair.mp hd
    · decide
    · exact hc
  · exact hletter (by decide) d hd
  · exact hletter (by decide) d hd
  · exact hletter (by decide) d hd
  · exact List.mem_singleton.mp hd ▸ hc
  · exact hescaped (by decide) hd
  · exact hescaped (by decide) hd
  · exact hescaped (by decide) hd

/-- Without the mark of kept surrogates every code point is a character of the text. -/
theorem exists_mem_of_mem_ofChars {cs : List Char} (h : CodePoint.mark ∉ cs) {p : CodePoint}
    (hp : p ∈ CodePoint.ofChars cs) : ∃ c ∈ cs, p = .char c := by
  fun_induction CodePoint.ofChars cs with
  | case1 => cases hp
  | case2 c => exact ⟨c, List.mem_cons_self, List.mem_singleton.mp hp⟩
  | case3 d rest ih => exact absurd List.mem_cons_self h
  | case4 c d rest hmark ih =>
    obtain rfl | hrest := List.mem_cons.mp hp
    · exact ⟨c, List.mem_cons_self, rfl⟩
    · obtain ⟨e, he, rfl⟩ := ih (fun hmem => h (List.mem_cons_of_mem c hmem)) hrest
      exact ⟨e, List.mem_cons_of_mem c he, rfl⟩

/-- Digits between quotation marks have nothing blank about them. -/
theorem isBlank_eq_false_of_mem_quoted {s : String} (h : allDigits s) {c : Char}
    (hc : c ∈ (quoted s).toList) : isBlank c = false := by
  have hmark : CodePoint.mark ∉ s.toList := by
    intro hmem
    have hdigit : isDigit CodePoint.mark := by
      rw [allDigits, Bool.and_eq_true, List.all_eq_true] at h
      exact h.2 _ hmem
    exact absurd hdigit (by decide)
  have hbetween {mark : Char} (hsolid : isBlank mark = false)
      (hmem : c ∈ mark :: (codePoints s).flatMap (quoteCodePoint mark) ++ [mark]) :
      isBlank c = false := by
    rw [List.cons_append, List.mem_cons, List.mem_append, List.mem_singleton,
      List.mem_flatMap] at hmem
    obtain rfl | ⟨p, hp, hpoint⟩ | rfl := hmem
    · exact hsolid
    · obtain ⟨d, hd, rfl⟩ := exists_mem_of_mem_ofChars hmark hp
      exact isBlank_eq_false_of_mem_quoteChar (isBlank_eq_false_of_mem_allDigits h hd) hpoint
    · exact hsolid
  rw [quoted, String.toList_ofList] at hc
  split at hc
  · exact hbetween (by decide) hc
  · exact hbetween (by decide) hc

private theorem endsSolid_quotedWithin {width : Nat} (hwidth : 0 < width) {s : String}
    (h : allDigits s) :
    endsSolid (quotedWithin width s) := by
  apply endsSolid_of_solid
  · intro hempty
    have hnil : (quoted s).toList.take width = [] := by
      rw [← String.toList_inj, quotedWithin, String.toList_ofList] at hempty
      exact hempty
    rw [List.take_eq_nil_iff, quoted, String.toList_ofList] at hnil
    obtain hnothing | hquoted := hnil
    · omega
    · exact absurd hquoted (List.cons_ne_nil _ _)
  · intro c hc
    rw [quotedWithin, String.toList_ofList] at hc
    exact isBlank_eq_false_of_mem_quoted h (List.mem_of_mem_take hc)

end Text

open Outcome (Ensures)

/-- A fault with a message of one line. -/
def Fault.IsOneLine (fault : Fault) : Prop := Text.IsOneLine fault.message

/-- A fault that reading settings can lead to. -/
inductive Fault.IsOfReading : Fault → Prop
  /-- Digits in the wide sense are taken for a number, which only decimal ones denote. -/
  | digits {text : String} : Text.allDigits text → IsOfReading (.badInteger text)
  | noWord : IsOfReading .noWord

namespace Fault.IsOfReading

variable {fault : Fault}

/-- A fault of reading is told in one line. -/
theorem isOneLine (h : fault.IsOfReading) : fault.IsOneLine := by
  cases h with
  | digits => exact Text.isOneLine_append.mpr ⟨by decide, Text.isOneLine_quotedWithin 200 _⟩
  | noWord => exact (by decide : Text.IsOneLine "list index out of range")

/-- The message of a fault of reading ends in something visible. -/
theorem endsSolid_message (h : fault.IsOfReading) : Text.endsSolid fault.message := by
  cases h with
  | digits hdigits =>
    exact Text.endsSolid_append _ (Text.endsSolid_quotedWithin (by decide) hdigits)
  | noWord => exact (by decide : Text.endsSolid "list index out of range")

end Fault.IsOfReading

/-- A step that fails in reading settings only. -/
abbrev OnlyReads {α : Type} (x : Except Fault α) : Prop :=
  Ensures (fun _ => True) Fault.IsOfReading x

private theorem onlyReads_digitsNumber {s : String} (h : Text.allDigits s) :
    OnlyReads (digitsNumber s) := by
  rw [digitsNumber]
  split
  · exact .pure trivial
  · exact .throw (.digits h)

/-- Of the two ends of a range, one may fail after the other was read. -/
theorem onlyReads_digitsNumber_pair {α : Type} {first last : String}
    (h : Text.allDigits first && Text.allDigits last) (range : Nat → Nat → α) :
    OnlyReads (do return range (← digitsNumber first) (← digitsNumber last)) := by
  rw [Bool.and_eq_true] at h
  exact (onlyReads_digitsNumber h.1).bind fun _ _ => (onlyReads_digitsNumber h.2).bind fun _ _ =>
    .pure trivial

namespace Ipv4

private theorem onlyReads_octets? (parts : List String) : OnlyReads (octets? parts) := by
  induction parts with
  | nil => exact .pure trivial
  | cons part rest ih =>
    rw [octets?]
    split
    next => exact .pure trivial
    next hdigits =>
      rw [Bool.not_eq_true', Bool.not_eq_false] at hdigits
      refine (onlyReads_digitsNumber hdigits).bind fun n _ => ?_
      split
      · exact .pure trivial
      · exact ih.bind fun _ _ => .pure trivial

/-- An address in an unknown form is a fault of reading. -/
theorem onlyReads_toHex (address : String) (capital : Bool) :
    OnlyReads (toHex address capital) := by
  delta toHex
  -- No step below may compute with the parts, which are those of an unknown text.
  generalize Text.splitOn '.' (Text.trim address) = parts
  refine iteInduction (fun _ => .pure trivial) fun _ =>
    (onlyReads_octets? parts).bind fun octets _ => ?_
  cases octets with
  | none => exact .pure trivial
  | some octets => exact .pure trivial

end Ipv4

namespace Vlan

private theorem onlyReads_itemIds (item : String) : OnlyReads (itemIds item) := by
  rw [itemIds]
  split
  · split
    · split
      next hdigits => exact onlyReads_digitsNumber_pair hdigits _
      next => exact .pure trivial
    · exact .pure trivial
  · split
    next hdigits => exact (onlyReads_digitsNumber hdigits).bind fun _ _ => .pure trivial
    next => exact .pure trivial

/-- A list of VLANs fails with a fault of reading only. -/
theorem onlyReads_parseIds (text : String) : OnlyReads (parseIds text) :=
  (Ensures.mapM fun item _ => onlyReads_itemIds item).bind fun _ _ => .pure trivial

/-- Bringing a list into its normal form fails as reading it does. -/
theorem onlyReads_normalList (text : String) : OnlyReads (normalList text) :=
  (onlyReads_parseIds text).bind fun _ _ => .pure trivial

end Vlan

namespace Port

private theorem onlyReads_itemNumbers (item : String) : OnlyReads (itemNumbers item) := by
  rw [itemNumbers]
  split
  · split
    · split
      next hdigits => exact onlyReads_digitsNumber_pair hdigits _
      next => exact .pure trivial
    · exact .pure trivial
  · split
    next hdigits => exact (onlyReads_digitsNumber hdigits).bind fun _ _ => .pure trivial
    next => exact .pure trivial

/-- A range of ports fails with a fault of reading only. -/
theorem onlyReads_parseRange (text : String) : OnlyReads (parseRange text) :=
  (Ensures.mapM fun item _ => onlyReads_itemNumbers item).bind fun _ _ => .pure trivial

end Port

open Text (IsOneLine)

/-- A step that fails in reading settings only tells so in one line. -/
theorem OnlyReads.ensures {α : Type} {x : Except Fault α} (h : OnlyReads x) :
    Ensures (fun _ => True) Fault.IsOneLine x :=
  h.imp_error fun _ hfault => hfault.isOneLine

namespace Ipv4

private theorem linefeed_not_mem_digits (octets : List Nat) :
    '\n' ∉ octets.flatMap (Text.hex 2) := by
  intro hfeed
  obtain ⟨octet, _, hfeed⟩ := List.mem_flatMap.mp hfeed
  exact Text.linefeed_not_mem_hex 2 octet hfeed

private theorem linefeed_not_mem_capitals (octets : List Nat) :
    '\n' ∉ (octets.flatMap (Text.hex 2)).map Char.toUpper := by
  intro hfeed
  obtain ⟨c, hc, hupper⟩ := List.mem_map.mp hfeed
  obtain ⟨octet, _, hc⟩ := List.mem_flatMap.mp hc
  obtain ⟨digit, hdigit, rfl⟩ := Text.exists_eq_hexDigit hc
  have hletters : ∀ n < 16, (Text.hexDigit n).toUpper ≠ '\n' := by decide
  exact hletters digit hdigit hupper

/-- The hexadecimal form of an address takes one line. -/
theorem ensures_toHex (address : String) (capital : Bool) :
    Ensures IsOneLine Fault.IsOneLine (toHex address capital) := by
  have hempty : IsOneLine "" := by decide
  delta toHex
  -- No step below may compute with the parts, which are those of an unknown text.
  generalize Text.splitOn '.' (Text.trim address) = parts
  refine iteInduction (fun _ => .pure hempty) fun _ =>
    (onlyReads_octets? parts).ensures.bind fun octets _ => ?_
  cases octets with
  | none => exact .pure hempty
  | some octets =>
    cases capital with
    | false => exact .pure (Text.isOneLine_ofList (linefeed_not_mem_digits octets))
    | true => exact .pure (Text.isOneLine_ofList (linefeed_not_mem_capitals octets))

end Ipv4

namespace Vlan

/-- What goes wrong with a list of VLANs is told in one line. -/
theorem ensures_parseIds (text : String) :
    Ensures (fun _ => True) Fault.IsOneLine (parseIds text) :=
  (onlyReads_parseIds text).ensures

/-- The normal form of a list is one line, and so is the fault. -/
theorem ensures_normalList (text : String) :
    Ensures IsOneLine Fault.IsOneLine (normalList text) :=
  (ensures_parseIds text).bind fun ids _ => .pure (linefeed_not_mem_spacedList ids)

/-- A list in words is one line. -/
theorem isOneLine_spelledList (text : String) : IsOneLine (spelledList text) :=
  Text.isOneLine_unwords.mpr fun _ hword => Text.isOneLine_of_mem_words hword

end Vlan

end Netscribe
