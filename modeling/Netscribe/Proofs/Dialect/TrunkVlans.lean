import Mathlib.Data.Set.Basic
import Netscribe.Proofs.Dialect.StandardRules
import Netscribe.Proofs.Text.Line
import Netscribe.Proofs.Vlan.ListForms
/-!
Lists of VLANs that a trunk lets pass, put into the other two dialects. The list that comes out
names the same VLANs; whether the line lets them pass or takes them away is kept for every keyword
but the one for exceptions, whose list is let through.
-/
namespace Netscribe

namespace Text

private theorem replaceChar_append (target : Char) (replacement s t : String) :
    replaceChar target replacement (s ++ t) =
      replaceChar target replacement s ++ replaceChar target replacement t := by
  simp [replaceChar, String.ofList_append]

/-- A character that does not occur is replaced nowhere. -/
theorem replaceChar_of_not_mem {target : Char} {s : String} (h : target ∉ s.toList)
    (replacement : String) : replaceChar target replacement s = s := by
  have hkept : (s.toList.flatMap fun c => if c = target then replacement.toList else [c]) =
      s.toList.flatMap fun c => [c] := by
    refine List.flatMap_congr fun c hc => if_neg ?_
    rintro rfl
    exact h hc
  rw [replaceChar, hkept, List.flatMap_singleton', String.ofList_toList]

/-- A character is replaced in each piece and in what separates them. -/
theorem replaceChar_join (target : Char) (replacement separator : String) (pieces : List String) :
    replaceChar target replacement (join separator pieces) =
      join (replaceChar target replacement separator)
        (pieces.map (replaceChar target replacement)) := by
  induction pieces with
  | nil => rfl
  | cons piece rest ih =>
    by_cases hrest : rest = []
    · subst hrest
      simp [join]
    · have hmap : rest.map (replaceChar target replacement) ≠ [] := by simpa using hrest
      rw [join, String.intercalate_cons_of_ne_nil hrest, replaceChar_append, replaceChar_append,
        List.map_cons, join, String.intercalate_cons_of_ne_nil hmap]
      exact congrArg _ ih

end Text

namespace Vlan

private theorem spellOut_append (s t : String) : spellOut (s ++ t) = spellOut s ++ spellOut t := by
  rw [spellOut, Text.replaceChar_append, Text.replaceChar_append]
  rfl

private theorem spellOut_of_digits (n : Text.Numeral) : spellOut n.text = n.text := by
  have hnot {c : Char} (hc : c.isDigit = false) : c ∉ n.text.toList := fun hmem => by
    rw [n.all c hmem] at hc
    cases hc
  rw [spellOut, Text.replaceChar_of_not_mem (hnot (by decide)),
    Text.replaceChar_of_not_mem (hnot (by decide))]

private theorem Span.spellOut_item (span : Span) : spellOut (span.item "-") = span.item " to " := by
  rw [item, item]
  split
  · exact spellOut_of_digits span.first
  next last _ =>
    have hdash : spellOut "-" = " to " := by decide
    rw [spellOut_append, spellOut_append, spellOut_of_digits, spellOut_of_digits, hdash]

/-- A list with commas and dashes is spelled out span by span. -/
theorem Span.spellOut_join_items (spans : List Span) :
    spellOut (Text.join "," (spans.map (item "-"))) = Text.unwords (spans.map (item " to ")) := by
  have hcomma : spellOut "," = " " := by decide
  have hjoin : spellOut (Text.join "," (spans.map (item "-"))) =
      Text.join (spellOut ",") ((spans.map (item "-")).map spellOut) := by
    rw [spellOut, Text.replaceChar_join, Text.replaceChar_join, List.map_map]
    rfl
  rw [hjoin, hcomma, List.map_map, List.map_congr_left fun span _ => span.spellOut_item]
  rfl

end Vlan

namespace Dialect

open Vlan (Span)

/-- A keyword in front of the VLANs of a trunk. -/
inductive TrunkKeyword
  | add
  | remove
  | except
  deriving DecidableEq

namespace TrunkKeyword

def word : TrunkKeyword → String
  | add => "add"
  | remove => "remove"
  | except => "except"

/-- The VLANs that may pass after a command with a keyword, or without one, when some might pass
    before it. -/
def passing (keyword : Option TrunkKeyword) (listed before : Set Int) : Set Int :=
  match keyword with
  | none => listed
  | some add => before ∪ listed
  | some remove => before \ listed
  | some except => listedᶜ

/-- The command for the VLANs of a trunk, with a keyword or without one. -/
def command (keyword : Option TrunkKeyword) (spans : List Span) : String :=
  Text.unwords ("switchport trunk allowed vlan" ::
    (keyword.toList.map word ++ [Text.join "," (spans.map (Span.item "-"))]))

end TrunkKeyword

/-- A command of the other two dialects for the VLANs of a trunk. -/
structure TrunkChange where
  /-- Whether the VLANs of the list are let through; otherwise they are taken away. -/
  lets : Bool
  list : String
  deriving DecidableEq

def TrunkChange.passing (change : TrunkChange) (listed before : Set Int) : Set Int :=
  if change.lets then before ∪ listed else before \ listed

def TrunkChange.read? (words line : String) : Option TrunkChange :=
  match Text.after? (words ++ " ") line with
  | some list => some ⟨true, list⟩
  | none => (Text.after? ("undo " ++ words ++ " ") line).map fun list => ⟨false, list⟩

/-- The words of the command in another dialect. -/
def trunkWords : Vendor → String
  | .huawei => "port trunk allow-pass vlan"
  | _ => "port trunk permit vlan"

/-- The change that a command comes out as. -/
def changeOf (keyword : Option TrunkKeyword) (spans : List Span) : TrunkChange :=
  ⟨keyword ≠ some .remove, Text.unwords (spans.map (Span.item " to "))⟩

section Lines

variable (keyword : Option TrunkKeyword) (first : Span) (rest : List Span)

private theorem exists_join_items_eq_cons :
    ∃ c cs, (Text.join "," ((first :: rest).map (Span.item "-"))).toList = c :: cs ∧ c.isDigit := by
  obtain ⟨tail, htail⟩ := Text.exists_toList_join_cons "," (first.item "-")
    (rest.map (Span.item "-"))
  obtain ⟨c, cs, hcs, hc⟩ := first.exists_item_eq_cons "-"
  exact ⟨c, cs ++ tail, by rw [List.map_cons, htail, hcs, List.cons_append], hc⟩

/-- Spans with commas between them are one word. -/
theorem isWord_join_items : Text.IsWord (Text.join "," ((first :: rest).map (Span.item "-"))) := by
  refine ⟨?_, Span.isBlank_of_mem_join (first :: rest)⟩
  obtain ⟨c, cs, hcs, _⟩ := exists_join_items_eq_cons first rest
  intro hempty
  rw [hempty] at hcs
  cases hcs

private theorem isCall_command : Rule.IsCall "switchport trunk allowed vlan"
    (keyword.toList.map TrunkKeyword.word ++ [Text.join "," ((first :: rest).map (Span.item "-"))])
    (TrunkKeyword.command keyword (first :: rest)) := by
  have hfront : Text.startsSolid (Text.unwords ["switchport trunk allowed vlan"]) := by decide
  refine Rule.isCall_unwords hfront (by simp) (List.forall_mem_append.mpr ⟨?_, ?_⟩)
  · intro word hword
    obtain ⟨k, _, rfl⟩ := List.mem_map.mp hword
    cases k <;> decide
  · exact List.forall_mem_singleton.mpr (isWord_join_items first rest)

/-- The keyword is told from the list by its letters. -/
theorem trunkArguments_eq :
    Cisco.trunkArguments (keyword.toList.map TrunkKeyword.word ++
        [Text.join "," ((first :: rest).map (Span.item "-"))]) =
      ((keyword.map TrunkKeyword.word).getD "",
        [Text.join "," ((first :: rest).map (Span.item "-"))]) := by
  cases keyword with
  | some k => cases k <;> rfl
  | none =>
    obtain ⟨c, cs, hcs, hc⟩ := exists_join_items_eq_cons first rest
    have hnot : Text.join "," ((first :: rest).map (Span.item "-")) ∉ Cisco.trunkKeywords := by
      intro hmem
      have hstart : ∀ word ∈ Cisco.trunkKeywords, word.toList.head?.any Char.isDigit = false := by
        decide
      have hletter := hstart _ hmem
      rw [hcs, List.head?_cons, Option.any_some, hc] at hletter
      cases hletter
    exact if_neg (by simpa using hnot)

/-- Only the keyword for taking away is acted upon. -/
theorem trunkLine_eq (words : String) :
    Cisco.trunkLine words (keyword.toList.map TrunkKeyword.word ++
        [Text.join "," ((first :: rest).map (Span.item "-"))]) [] =
      (if keyword = some .remove then "undo " else "") ++ words ++ " " ++
        Text.unwords ((first :: rest).map (Span.item " to ")) := by
  have hone (s : String) : Text.unwords [s] = s := by simp [Text.unwords, Text.join]
  rw [Cisco.trunkLine, trunkArguments_eq, ← Span.spellOut_join_items]
  dsimp only
  rw [hone]
  obtain _ | _ | _ | _ := keyword <;> rfl

private theorem read?_trunkLine {words : String} (hwords : Text.diverge (words ++ " ") "undo ") :
    TrunkChange.read? words ((if keyword = some .remove then "undo " else "") ++ words ++ " " ++
        Text.unwords ((first :: rest).map (Span.item " to "))) =
      some (changeOf keyword (first :: rest)) := by
  by_cases hremove : keyword = some .remove
  · have hnone := Text.after?_eq_none hwords (Text.hasStart_append "undo "
      (words ++ " " ++ Text.unwords ((first :: rest).map (Span.item " to "))))
    have hundo := Text.after?_append ("undo " ++ words ++ " ")
      (Text.unwords ((first :: rest).map (Span.item " to ")))
    rw [← String.append_assoc, ← String.append_assoc] at hnone
    rw [TrunkChange.read?, if_pos hremove, hnone, hundo, changeOf, hremove]
    rfl
  · rw [TrunkChange.read?, if_neg hremove, String.empty_append, Text.after?_append, changeOf]
    simp [hremove]

/-- A command for a list of VLANs comes out as one for the list, and undone for `remove`. -/
theorem translate_command {target : Vendor} (htarget : target ∈ targets .cisco) :
    RuleTables.standard.translate .cisco target (TrunkKeyword.command keyword (first :: rest)) =
      .text ((if keyword = some .remove then "undo " else "") ++ trunkWords target ++ " " ++
        Text.unwords ((first :: rest).map (Span.item " to "))) := by
  have hconversion : List.lookup target
      [toHuaweiBy (Cisco.trunkLine "port trunk allow-pass vlan"),
        toH3cBy (Cisco.trunkLine "port trunk permit vlan")] =
      some (.computed (Cisco.trunkLine (trunkWords target))) := by
    obtain rfl | rfl := List.mem_pair.mp htarget <;> rfl
  rw [translate_only (mem_contenders rfl) htarget hconversion (isCall_command keyword first rest)]
  exact congrArg _ (trunkLine_eq keyword first rest (trunkWords target))

/-- The list that comes out names the VLANs of the list that went in. -/
theorem parseIds_changeOf (spans : List Span) :
    Vlan.parseIds (changeOf keyword spans).list =
      Vlan.parseIds (Text.join "," (spans.map (Span.item "-"))) := by
  rw [Vlan.parseIds_of_items (Span.items_dashed spans)]
  exact Vlan.parseIds_of_items (Span.items_spaced spans)

end Lines

/-- What a change does to the VLANs of its list is what the command with the keyword does to them,
    unless there are some and they are exceptions. -/
theorem passing_changeOf_iff (keyword : Option TrunkKeyword) (spans : List Span)
    (listed : Set Int) :
    (∀ before, ∀ id ∈ listed,
        (id ∈ (changeOf keyword spans).passing listed before ↔
          id ∈ TrunkKeyword.passing keyword listed before)) ↔
      (keyword = some .except → listed = ∅) := by
  constructor
  · rintro hsame rfl
    refine Set.eq_empty_of_forall_notMem fun id hid => ?_
    exact (hsame ∅ id hid).mp (.inr hid) hid
  · intro hempty before id hid
    match keyword with
    | none => exact iff_of_true (.inr hid) hid
    | some .add => exact Iff.rfl
    | some .remove => exact Iff.rfl
    | some .except =>
      rw [hempty rfl] at hid
      exact hid.elim

/-- The line for the VLANs of a trunk comes out, in each of the other dialects, as a line whose list
    names the same VLANs; it lets the same ones of them pass and takes the same ones away, exactly
    when the keyword is not the one for exceptions, or the list names no VLAN. -/
theorem translate_trunk_keeps_polarity_iff (keyword : Option TrunkKeyword) (first : Span)
    (rest : List Span) {target : Vendor} (htarget : target ∈ targets .cisco) :
    ∃ line change ids,
      RuleTables.standard.translate .cisco target
        (TrunkKeyword.command keyword (first :: rest)) = .text line ∧
      TrunkChange.read? (trunkWords target) line = some change ∧
      Vlan.parseIds (Text.join "," ((first :: rest).map (Span.item "-"))) = .ok ids ∧
      Vlan.parseIds change.list = .ok ids ∧
      (∀ id : Int, id ∈ ids ↔ (Vlan.minId ≤ id ∧ id ≤ Vlan.maxId) ∧
        ∃ span ∈ first :: rest, span.low ≤ id ∧ id ≤ span.high) ∧
      ((∀ before, ∀ id ∈ ids,
          (id ∈ change.passing {id | id ∈ ids} before ↔
            id ∈ TrunkKeyword.passing keyword {id | id ∈ ids} before)) ↔
        (keyword = some .except → ids = [])) := by
  have hundo : Text.diverge (trunkWords target ++ " ") "undo " := by
    obtain rfl | rfl := List.mem_pair.mp htarget <;> decide
  have hids := Vlan.parseIds_of_items (Span.items_dashed (first :: rest))
  refine ⟨_, changeOf keyword (first :: rest), _, translate_command keyword first rest htarget,
    read?_trunkLine keyword first rest hundo, hids,
    (parseIds_changeOf keyword (first :: rest)).trans hids,
    fun _ => Vlan.mem_sortedDistinct_spans, ?_⟩
  have hpolarity := passing_changeOf_iff keyword (first :: rest)
    {id | id ∈ Vlan.sortedDistinct
      ((first :: rest).flatMap fun span => Vlan.idsBetween span.low span.high)}
  simpa only [Set.mem_ofPred_eq, Set.eq_empty_iff_forall_notMem, List.eq_nil_iff_forall_not_mem]
    using hpolarity

/-- A VLAN that is taken away comes out as taken away. -/
theorem translate_trunk_keeps_polarity_of_remove :
    Vendor.h3c ∈ targets .cisco ∧
    ∃ line change ids,
      RuleTables.standard.translate .cisco .h3c
        "switchport trunk allowed vlan remove 10,20-30" = .text line ∧
      TrunkChange.read? "port trunk permit vlan" line = some change ∧
      Vlan.parseIds change.list = .ok ids ∧ 25 ∈ ids ∧
      ∀ before, 25 ∉ change.passing {id | id ∈ ids} before := by
  have htarget : Vendor.h3c ∈ targets .cisco := by decide
  obtain ⟨line, change, ids, hline, hchange, _, hids, hmem, hpolarity⟩ :=
    translate_trunk_keeps_polarity_iff (some .remove) ⟨.ofNat 10, none⟩
      [⟨.ofNat 20, some (.ofNat 30)⟩] htarget
  have hlisted : 25 ∈ ids := (hmem 25).mpr ⟨by decide, _, List.mem_cons_of_mem _
    (List.mem_singleton_self _), by decide, by decide⟩
  refine ⟨htarget, line, change, ids, hline, hchange, hids, hlisted, fun before hpasses => ?_⟩
  have hsame := hpolarity.mpr (fun hexcept => by cases hexcept) before 25 hlisted
  exact (hsame.mp hpasses).2 hlisted

/-- A VLAN that the line excepts is let through by what comes out. -/
theorem translate_trunk_lets_exception_pass :
    RuleTables.standard.translate .cisco .h3c "switchport trunk allowed vlan except 40" =
        .text "port trunk permit vlan 40" ∧
      TrunkChange.read? "port trunk permit vlan" "port trunk permit vlan 40" =
        some ⟨true, "40"⟩ ∧
      Vlan.parseIds "40" = .ok [40] ∧
      40 ∈ TrunkChange.passing ⟨true, "40"⟩ {40} ∅ ∧
      40 ∉ TrunkKeyword.passing (some .except) {40} ∅ := by
  have hline := translate_command (some .except) ⟨.ofNat 40, none⟩ []
    (show Vendor.h3c ∈ targets .cisco by decide)
  have hids : Vlan.parseIds "40" = .ok [40] :=
    (Vlan.parseIds_of_items (Span.items_dashed [⟨.ofNat 40, none⟩])).trans (by decide +kernel)
  exact ⟨hline, by decide, hids, .inr rfl, fun hpasses => hpasses rfl⟩

end Dialect

end Netscribe
