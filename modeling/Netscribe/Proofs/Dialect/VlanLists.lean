import Netscribe.Proofs.Dialect.TrunkVlans
/-!
Lists of VLANs put into the form with commas and dashes, and back into the form with blanks. Either
rewrite goes through the text of the list; on lists of spans one undoes the other.
-/
namespace Netscribe

namespace Text

private theorem unwords_flatMap {α : Type} {f : α → List String} (hf : ∀ x, f x ≠ [])
    (xs : List α) :
    unwords (xs.flatMap f) = unwords (xs.map fun x => unwords (f x)) := by
  induction xs with
  | nil => rfl
  | cons x rest ih =>
    by_cases hrest : rest = []
    · subst hrest
      rw [List.flatMap_singleton]
      rfl
    · have hwords : rest.flatMap f ≠ [] := by
        obtain ⟨next, rest, rfl⟩ := List.exists_cons_of_ne_nil hrest
        simp [hf next]
      have hmap : rest.map (fun x => unwords (f x)) ≠ [] := by simpa using hrest
      rw [List.flatMap_cons, unwords_append (hf x) hwords, ih, List.map_cons,
        ← List.singleton_append, unwords_append (List.cons_ne_nil _ _) hmap]
      rfl

private theorem replaceChars_of_not_prefix {needle replacement rest : List Char} {c : Char}
    (h : ¬ needle <+: c :: rest) :
    replaceChars needle replacement (c :: rest) = c :: replaceChars needle replacement rest := by
  rw [replaceChars, if_neg fun hstart => h hstart.2]

private theorem lowerChar_of_isDigit {c : Char} (h : c.isDigit) : lowerChar c = [c] := by
  obtain ⟨hzero, hnine⟩ := Char.isDigit_iff_toNat.mp h
  have hascii : c.toNat < 0x80 := hnine.trans_lt (by decide)
  have hcapital : ¬ (c.val ≥ 'A'.val ∧ c.val ≤ 'Z'.val) := by
    rintro ⟨hletter, _⟩
    have hbound : 'A'.toNat ≤ c.toNat := UInt32.le_iff_toNat_le.mp hletter
    exact absurd (hbound.trans hnine) (by decide)
  have hsmall : c.toLower = c := dif_neg hcapital
  rw [lowerChar, if_pos hascii, hsmall]

/-- A text that starts with a digit still does so in small letters. -/
theorem head?_lower {s : String} {c : Char} (h : s.toList.head? = some c) (hc : c.isDigit) :
    (lower s).toList.head? = some c := by
  obtain ⟨rest, hrest⟩ := List.head?_eq_some_iff.mp h
  have hsigma : c ≠ 'Σ' := ne_of_isDigit hc (by decide)
  rw [lower, hrest, lowerChars, if_neg hsigma, lowerChar_of_isDigit hc, String.toList_ofList]
  rfl

end Text

namespace Vlan

/-- The translation to commas brings both ways to write a span into one as well. -/
theorem joinsSpans_replaceChars : JoinsSpans (Text.replaceChars " to ".toList "-".toList) where
  nil := by rw [Text.replaceChars]
  digit hc rest := by
    refine Text.replaceChars_of_not_prefix fun hstart => ?_
    exact absurd (List.cons_prefix_cons.mp hstart).1 (Text.ne_of_isDigit hc (by decide)).symm
  blank hc rest := by
    refine Text.replaceChars_of_not_prefix fun hstart => ?_
    have hword := (List.cons_prefix_cons.mp hstart).2
    exact absurd (List.cons_prefix_cons.mp hword).1 (Text.ne_of_isDigit hc (by decide)).symm
  word hc rest := by
    change Text.replaceChars _ _ (' ' :: 't' :: 'o' :: ' ' :: _ :: rest) = _
    rw [Text.replaceChars, if_pos ⟨by decide, rest.cons _, rfl⟩]
    rfl

namespace Span

/-- The words of a span that is not written with a dash. -/
def words (span : Span) : List String :=
  match span.last with
  | none => [span.first.text]
  | some last => [span.first.text, "to", last.text]

/-- A span is one number, or two with a word between them. -/
theorem unwords_words (span : Span) : Text.unwords span.words = span.item " to " := by
  rw [words, item]
  cases span.last with
  | none => rfl
  | some last =>
    have hword : " " ++ "to" ++ " " = " to " := by decide
    dsimp only
    rw [← hword, Text.unwords, Text.join, String.intercalate_cons_of_ne_nil (List.cons_ne_nil _ _),
      String.intercalate_cons_of_ne_nil (List.cons_ne_nil _ _), String.intercalate_singleton]
    simp only [String.append_assoc]

private theorem words_ne_nil (span : Span) : span.words ≠ [] := by
  rw [words]
  split <;> exact List.cons_ne_nil _ _

/-- Each part of a span is a word. -/
theorem isWord_of_mem_words {span : Span} : ∀ word ∈ span.words, Text.IsWord word := by
  intro word hword
  rw [words] at hword
  split at hword
  · rw [List.mem_singleton.mp hword]
    exact span.first.isWord
  next last _ =>
    simp only [List.mem_cons, List.not_mem_nil, or_false] at hword
    obtain rfl | rfl | rfl := hword
    · exact span.first.isWord
    · decide
    · exact last.isWord

private theorem unwords_flatMap_words (spans : List Span) :
    Text.unwords (spans.flatMap words) = Text.unwords (spans.map (item " to ")) := by
  rw [Text.unwords_flatMap words_ne_nil, List.map_congr_left fun span _ => span.unwords_words]

end Span

end Vlan

namespace Dialect

open Vlan (Span)

private theorem dashedArguments_words (spans : List Span) :
    dashedArguments (spans.flatMap Span.words) = Text.join "," (spans.map (Span.item "-")) := by
  have hkept : ∀ item ∈ spans.map (Span.item "-"), Text.replaceChar ' ' "," item = item := by
    intro item hitem
    obtain ⟨span, _, rfl⟩ := List.mem_map.mp hitem
    refine Text.replaceChar_of_not_mem (fun hblank => ?_) ","
    obtain hdigit | hdash := Span.mem_item hblank
    · exact absurd hdigit (by decide)
    · exact absurd hdash (by decide)
  have hcomma : Text.replaceChar ' ' "," " " = "," := by decide
  rw [dashedArguments, Vlan.Span.unwords_flatMap_words, Text.replace,
    Vlan.joinsSpans_replaceChars.items, String.ofList_toList, Text.unwords, Text.replaceChar_join,
    hcomma, List.map_congr_left hkept, List.map_id']

/-- A command with a list of VLANs. -/
inductive VlanCommand
  | create
  | allow

namespace VlanCommand

/-- The words of the command in one of the dialects whose lists have blanks. -/
def words : VlanCommand → Vendor → String
  | create, .huawei => "vlan batch"
  | create, _ => "vlan"
  | allow, vendor => trunkWords vendor

/-- The words of the command in the dialect whose lists have commas. -/
def ciscoWords : VlanCommand → String
  | create => "vlan"
  | allow => "switchport trunk allowed vlan"

def ciscoLine : VlanCommand → List String → Captures → String
  | create => ciscoVlanLine
  | allow => ciscoTrunkLine

end VlanCommand

section Lines

variable (command : VlanCommand) (first : Span) (rest : List Span) {vendor : Vendor}

/-- A list of VLANs is not the word that may stand in its place. -/
theorem lower_spaced_ne_all :
    Text.lower (Text.unwords ((first :: rest).map (Span.item " to "))) ≠ "all" := by
  obtain ⟨c, cs, hcs, hc⟩ := first.exists_item_eq_cons " to "
  have hhead : (Text.unwords ((first :: rest).map (Span.item " to "))).toList.head? = some c :=
    Text.head?_join (by rw [hcs, List.head?_cons]) (rest.map (Span.item " to "))
  have hlower := Text.head?_lower hhead hc
  intro hall
  rw [hall] at hlower
  obtain rfl := Option.some.inj hlower
  exact absurd hc (by decide)

private theorem ciscoLine_words :
    command.ciscoLine ((first :: rest).flatMap Span.words) [] =
      command.ciscoWords ++ " " ++ Text.join "," ((first :: rest).map (Span.item "-")) := by
  rw [← dashedArguments_words]
  cases command with
  | create => rfl
  | allow =>
    have hall := lower_spaced_ne_all first rest
    rw [← Vlan.Span.unwords_flatMap_words] at hall
    exact if_neg hall

section Vendors

variable (hvendor : vendor ∈ targets .cisco)

include hvendor

private theorem only_words_mem_contenders :
    only (command.words vendor) [toCiscoBy command.ciscoLine] ∈ contenders vendor := by
  obtain rfl | rfl := List.mem_pair.mp hvendor
  · cases command <;> exact mem_contenders rfl
  · cases command <;> exact mem_contenders rfl

private theorem isCall_spaced :
    Rule.IsCall (command.words vendor) ((first :: rest).flatMap Span.words)
    (command.words vendor ++ " " ++ Text.unwords ((first :: rest).map (Span.item " to "))) := by
  have hfront : Text.startsSolid (Text.unwords [command.words vendor]) :=
    startsSolid_command (only_words_mem_contenders command hvendor)
  have hargs : (first :: rest).flatMap Span.words ≠ [] := by simp [first.words_ne_nil]
  have hcall := Rule.isCall_unwords hfront hargs fun word hword => by
    obtain ⟨span, _, hword⟩ := List.mem_flatMap.mp hword
    exact Span.isWord_of_mem_words word hword
  rw [Text.unwords_append (List.cons_ne_nil _ _) hargs, Vlan.Span.unwords_flatMap_words,
    ← String.append_assoc] at hcall
  exact hcall

private theorem translate_spaced :
    RuleTables.standard.translate vendor .cisco
        (command.words vendor ++ " " ++ Text.unwords ((first :: rest).map (Span.item " to "))) =
      .text (command.ciscoWords ++ " "
        ++ Text.join "," ((first :: rest).map (Span.item "-"))) := by
  have htarget : Vendor.cisco ∈ targets vendor := by
    obtain rfl | rfl := List.mem_pair.mp hvendor <;> decide
  rw [← ciscoLine_words]
  exact translate_only (only_words_mem_contenders command hvendor) htarget rfl
    (isCall_spaced command first rest hvendor)

private theorem translate_dashed :
    RuleTables.standard.translate .cisco vendor
        (command.ciscoWords ++ " " ++ Text.join "," ((first :: rest).map (Span.item "-"))) =
      .text (command.words vendor ++ " "
        ++ Text.unwords ((first :: rest).map (Span.item " to "))) := by
  cases command with
  | allow => exact translate_command none first rest hvendor
  | create =>
    have hconversion : List.lookup vendor
        [toHuaweiBy (Cisco.vlanLine "vlan batch"), toH3cBy (Cisco.vlanLine "vlan")] =
        some (.computed (Cisco.vlanLine (VlanCommand.create.words vendor))) := by
      obtain rfl | rfl := List.mem_pair.mp hvendor <;> rfl
    have hfront : Text.startsSolid (Text.unwords ["vlan"]) := by decide
    have hcall : Rule.IsCall "vlan" [Text.join "," ((first :: rest).map (Span.item "-"))]
        ("vlan" ++ " " ++ Text.join "," ((first :: rest).map (Span.item "-"))) :=
      Rule.isCall_unwords hfront (List.cons_ne_nil _ _)
        (List.forall_mem_singleton.mpr (isWord_join_items first rest))
    have hline : Cisco.vlanLine (VlanCommand.create.words vendor)
          [Text.join "," ((first :: rest).map (Span.item "-"))] [] =
        VlanCommand.create.words vendor ++ " "
          ++ Text.unwords ((first :: rest).map (Span.item " to ")) := by
      rw [Cisco.vlanLine, String.join_cons, String.join_nil, String.append_empty,
        Span.spellOut_join_items]
      rfl
    exact (translate_only (mem_contenders rfl) hvendor hconversion hcall).trans
      (congrArg Wording.text hline)

end Vendors

end Lines

/-- A command with a list of spans comes out with commas and dashes, and from there as the line that
    it was. The list in between names the VLANs that the spans cover, as the list itself does. -/
theorem translate_vlans_there_and_back (command : VlanCommand) (first : Span) (rest : List Span)
    {vendor : Vendor} (hvendor : vendor ∈ targets .cisco) :
    ∃ line list ids,
      line = command.words vendor ++ " " ++ Text.unwords ((first :: rest).map (Span.item " to ")) ∧
      RuleTables.standard.translate vendor .cisco line =
        .text (command.ciscoWords ++ " " ++ list) ∧
      RuleTables.standard.translate .cisco vendor (command.ciscoWords ++ " " ++ list) =
        .text line ∧
      Vlan.parseIds (Text.unwords ((first :: rest).map (Span.item " to "))) = .ok ids ∧
      Vlan.parseIds list = .ok ids ∧
      ∀ id : Int, id ∈ ids ↔ (Vlan.minId ≤ id ∧ id ≤ Vlan.maxId) ∧
        ∃ span ∈ first :: rest, span.low ≤ id ∧ id ≤ span.high :=
  ⟨_, _, _, rfl, translate_spaced command first rest hvendor,
    translate_dashed command first rest hvendor,
    Vlan.parseIds_of_items (Span.items_spaced (first :: rest)),
    Vlan.parseIds_of_items (Span.items_dashed (first :: rest)),
    fun _ => Vlan.mem_sortedDistinct_spans⟩

/-- One VLAN and a range of them. -/
theorem translate_batch_there_and_back :
    Vendor.huawei ∈ targets .cisco ∧
    ∃ list ids,
      RuleTables.standard.translate .huawei .cisco "vlan batch 10 20 to 30" =
        .text ("vlan " ++ list) ∧
      RuleTables.standard.translate .cisco .huawei ("vlan " ++ list) =
        .text "vlan batch 10 20 to 30" ∧
      Vlan.parseIds list = .ok ids ∧ 25 ∈ ids ∧ 15 ∉ ids := by
  have hvendor : Vendor.huawei ∈ targets .cisco := by decide
  obtain ⟨line, list, ids, rfl, hthere, hback, _, hids, hmem⟩ :=
    translate_vlans_there_and_back .create ⟨.ofNat 10, none⟩ [⟨.ofNat 20, some (.ofNat 30)⟩] hvendor
  refine ⟨hvendor, list, ids, hthere, hback, hids, (hmem 25).mpr ?_, fun hbetween => ?_⟩
  · exact ⟨by decide, _, List.mem_cons_of_mem _ (List.mem_singleton_self _), by decide, by decide⟩
  · obtain ⟨_, span, hspan, hlow, hhigh⟩ := (hmem 15).mp hbetween
    obtain rfl | rfl := List.mem_pair.mp hspan
    · exact absurd hhigh (by decide)
    · exact absurd hlow (by decide)

end Dialect

end Netscribe
