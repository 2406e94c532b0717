import Mathlib.Data.List.Forall2
import Netscribe.Dialect.Translate
import Netscribe.Proofs.Text.Line
import Netscribe.Proofs.Text.OneLine
/-!
Scripts translated line by line: what becomes of a line depends on nothing but the line, and each
line has something in its place.
-/
namespace Netscribe

namespace Text

/-- A line that is a text with solid ends, with an indentation and perhaps blanks behind it. -/
structure IsIndented (line indent text : String) : Prop where
  line_eq : ∃ after, allBlank after ∧ line = indent ++ text ++ after
  indent_blank : allBlank indent
  starts : startsSolid text
  ends : endsSolid text

private theorem isBlank_head?_of_startsSolid {s : String} (h : startsSolid s) :
    ∃ c rest, s.toList = c :: rest ∧ isBlank c = false := by
  unfold startsSolid at h
  cases hs : s.toList with
  | nil => simp [hs] at h
  | cons c rest => exact ⟨c, rest, rfl, by simpa [hs] using h⟩

namespace IsIndented

variable {line indent text : String}

private theorem trim_eq (h : IsIndented line indent text) : trim line = text := by
  obtain ⟨after, hafter, rfl⟩ := h.line_eq
  rw [trim_append_right hafter, trim_append_left h.indent_blank, trim_eq_self h.starts h.ends]

private theorem indentation_eq (h : IsIndented line indent text) :
    RuleTables.indentation line = indent := by
  obtain ⟨after, _, rfl⟩ := h.line_eq
  obtain ⟨c, rest, hcons, hc⟩ := isBlank_head?_of_startsSolid h.starts
  have hblank : ∀ c ∈ indent.toList, isBlank c := List.all_eq_true.mp h.indent_blank
  rw [RuleTables.indentation, String.toList_append, String.toList_append, hcons, List.append_assoc,
    List.cons_append, List.takeWhile_append_of_pos hblank,
    List.takeWhile_cons_of_neg (by simp [hc]), List.append_nil, String.ofList_toList]

private theorem trimEnd_eq (h : IsIndented line indent text) : trimEnd line = indent ++ text := by
  obtain ⟨after, hafter, rfl⟩ := h.line_eq
  rw [trimEnd_append_right hafter, trimEnd_eq_self (endsSolid_append indent h.ends)]

end IsIndented

/-- A line that is not blank is a text with an indentation. -/
theorem exists_isIndented {line : String} (h : allBlank line = false) :
    IsIndented line (RuleTables.indentation line) (trim line) where
  line_eq := by
    refine ⟨.ofList ((line.toList.dropWhile isBlank).rtakeWhile isBlank), ?_, ?_⟩
    · rw [allBlank, String.toList_ofList, List.all_eq_true]
      exact fun c => List.mem_rtakeWhile_imp
    · rw [RuleTables.indentation, trim, trimChars_eq_rdropWhile, ← String.ofList_append,
        ← String.ofList_append, List.append_assoc, List.rdropWhile_append_rtakeWhile,
        List.takeWhile_append_dropWhile, String.ofList_toList]
  indent_blank := by
    rw [RuleTables.indentation, allBlank, String.toList_ofList]
    exact List.all_takeWhile
  starts := startsSolid_trim h
  ends := endsSolid_trim h

end Text

namespace RuleTables

open Text (IsIndented)

/-- Whether a text without blanks around it is a comment. -/
def IsComment (text : String) : Prop := Text.hasStart "#" text ∨ Text.hasStart "!" text

/-- What comes out for a line: the lines in its place, and the note about it if there is one. -/
structure LineOutcome where
  lines : List String
  note : Option String

/-- What the translation of scripts has for a line. -/
def outcomeOf (tables : RuleTables) (source target : Vendor) (line : String) : LineOutcome :=
  ⟨tables.translateLine source target line, tables.lineNote? source line⟩

/-- What is to stand in place of a command. In its own dialect it stays as it is. In another one it
    is what the rule that recognises it has for that dialect; a comment says so if the rule has
    nothing, and another one if there is no rule. -/
inductive Replaces (tables : RuleTables) (source target : Vendor) (text : String) : String → Prop
  | itself : source = target → Replaces tables source target text text
  | converted {found conversion} : source ≠ target → tables.findRule source text = some found →
      found.rule.conversionTo? target = some conversion →
      Replaces tables source target text (conversion.render found.args found.captures)
  | inexpressible {found} : source ≠ target → tables.findRule source text = some found →
      found.rule.conversionTo? target = none →
      Replaces tables source target text s!"# No direct conversion for \"{text}\" to {target.name}"
  | unknown : source ≠ target → tables.findRule source text = none →
      Replaces tables source target text s!"# No conversion found for \"{text}\""

/-- What is to come out for a line of a script. -/
inductive ComesOut (tables : RuleTables) (source target : Vendor) : String → LineOutcome → Prop
  | blank {line} : Text.allBlank line → ComesOut tables source target line ⟨[""], none⟩
  | comment {line indent text} : IsIndented line indent text → IsComment text →
      ComesOut tables source target line ⟨[indent ++ text], none⟩
  | command {line indent text written} : IsIndented line indent text → ¬ IsComment text →
      Replaces tables source target text written →
      ComesOut tables source target line
        ⟨(Text.splitOn '\n' written).map (indent ++ ·),
          some s!"`{text}`: {tables.explain source text}"⟩

section Outcome

variable {tables : RuleTables} {source target : Vendor} {line : String} {outcome : LineOutcome}

private theorem isPassedOver_iff {text : String} (h : Text.startsSolid text) :
    isPassedOver text ↔ IsComment text := by
  have hne : text ≠ "" := by
    rintro rfl
    cases h
  rw [isPassedOver, Bool.or_eq_true, Bool.or_eq_true, beq_iff_eq, IsComment]
  simp [hne]

/-- The translation does not look at the blanks around a command. -/
theorem translate_eq_of_isIndented {indent text : String} (h : IsIndented line indent text) :
    tables.translate source target line = tables.translate source target text := by
  rw [translate, translate, h.trim_eq, Text.trim_eq_self h.starts h.ends]

/-- The translation of a command without blanks around it, comments included. -/
theorem replaces_iff {text written : String} (htrim : Text.trim text = text) :
    Replaces tables source target text written ↔
      written = (tables.translate source target text).toText := by
  rw [translate, htrim]
  constructor
  · intro h
    cases h with
    | itself hsame => rw [if_pos hsame, Wording.toText_text]
    | converted hother hfound hconversion =>
      simp only [hother, hfound, hconversion, if_false, Wording.toText_text]
    | inexpressible hother hfound hnone =>
      simp only [hother, hfound, hnone, if_false, Wording.toText_inexpressible]
    | unknown hother hnone => simp only [hother, hnone, if_false, Wording.toText_unknown]
  · rintro rfl
    by_cases hsame : source = target
    · rw [if_pos hsame, Wording.toText_text]
      exact .itself hsame
    · rw [if_neg hsame]
      cases hfound : tables.findRule source text with
      | none => exact .unknown hsame hfound
      | some found =>
        dsimp only
        cases hconversion : found.rule.conversionTo? target with
        | none => exact .inexpressible hsame hfound hconversion
        | some conversion => exact .converted hsame hfound hconversion

/-- Nothing else comes out for a line than what the translation has for it. -/
theorem ComesOut.outcome_eq (h : ComesOut tables source target line outcome) :
    outcome = tables.outcomeOf source target line := by
  cases h with
  | blank hblank =>
    have hpassed : isPassedOver "" := by decide
    rw [outcomeOf, translateLine, lineNote?, Text.trim_eq_empty hblank, if_pos hpassed,
      if_pos hpassed, Text.trimEnd_eq_empty hblank]
  | comment hline hcomment =>
    have hpassed := (isPassedOver_iff hline.starts).mpr hcomment
    rw [outcomeOf, translateLine, lineNote?, hline.trim_eq, if_pos hpassed, if_pos hpassed,
      hline.trimEnd_eq]
  | command hline hcomment hwritten =>
    have hpassed := (isPassedOver_iff hline.starts).not.mpr hcomment
    have htrim := Text.trim_eq_self hline.starts hline.ends
    rw [outcomeOf, translateLine, lineNote?, translate_eq_of_isIndented hline, hline.trim_eq,
      if_neg hpassed, if_neg hpassed, hline.indentation_eq, (replaces_iff htrim).mp hwritten]

private theorem exists_comesOut (tables : RuleTables) (source target : Vendor) (line : String) :
    ∃ outcome, ComesOut tables source target line outcome := by
  by_cases hblank : Text.allBlank line
  · exact ⟨_, .blank hblank⟩
  · have hline := Text.exists_isIndented (Bool.eq_false_iff.mpr hblank)
    by_cases hcomment : IsComment (Text.trim line)
    · exact ⟨_, .comment hline hcomment⟩
    · have htrim := Text.trim_eq_self hline.starts hline.ends
      exact ⟨_, .command hline hcomment ((replaces_iff htrim).mpr rfl)⟩

private theorem comesOut_outcomeOf :
    ComesOut tables source target line (tables.outcomeOf source target line) := by
  obtain ⟨outcome, houtcome⟩ := exists_comesOut tables source target line
  rwa [← houtcome.outcome_eq]

/-- What comes out for several lines is what the translation has for them. -/
theorem eq_map_of_forall₂_comesOut {lines : List String} {outcomes : List LineOutcome}
    (h : List.Forall₂ (ComesOut tables source target) lines outcomes) :
    outcomes = lines.map (tables.outcomeOf source target) := by
  induction h with
  | nil => rfl
  | cons hline _ ih => rw [hline.outcome_eq, ih, List.map_cons]

private theorem ComesOut.lines_ne_nil (h : ComesOut tables source target line outcome) :
    outcome.lines ≠ [] := by
  cases h with
  | blank => exact List.cons_ne_nil _ _
  | comment => exact List.cons_ne_nil _ _
  | command => simpa using Text.splitOn_ne_nil '\n' _

/-- Each of the lines in place of a line takes a single line. -/
theorem ComesOut.isOneLine_of_mem (h : ComesOut tables source target line outcome)
    (hline : Text.IsOneLine line) : ∀ written ∈ outcome.lines, Text.IsOneLine written := by
  cases h with
  | blank => exact List.forall_mem_singleton.mpr (by decide)
  | comment hindented =>
    rw [List.forall_mem_singleton, ← hindented.trimEnd_eq]
    exact hline.trimEnd
  | command hindented =>
    obtain ⟨after, _, rfl⟩ := hindented.line_eq
    obtain ⟨hfront, _⟩ := Text.isOneLine_append.mp hline
    obtain ⟨hindent, _⟩ := Text.isOneLine_append.mp hfront
    refine List.forall_mem_map.mpr fun part hpart => ?_
    exact Text.isOneLine_append.mpr ⟨hindent, Text.not_mem_of_mem_splitOn hpart⟩

/-- A line in the same dialect comes out as it is, up to the blanks behind it. -/
theorem translateLine_self {vendor : Vendor} (h : Text.IsOneLine line) :
    tables.translateLine vendor vendor line = [Text.trimEnd line] := by
  rw [translateLine]
  split
  · rfl
  next hpassed =>
    have hsolid : Text.allBlank line = false := by
      refine Bool.eq_false_iff.mpr fun hblank => hpassed ?_
      rw [Text.trim_eq_empty hblank]
      decide
    have hline := Text.exists_isIndented hsolid
    have htext : (tables.translate vendor vendor line).toText = Text.trim line := by
      rw [translate, if_pos rfl]
      rfl
    have hfeed : Text.contains '\n' (Text.trim line) = false := by
      simpa [Text.contains, Text.IsOneLine] using h.trim
    rw [htext, Text.splitOn_of_not_contains hfeed, List.map_singleton, hline.trimEnd_eq]

end Outcome

/-- A script consists of its lines, and the translation of it of what comes out for each of them,
    in their order and whatever the other lines are; a command without a translation leaves one of
    two comments. Of the notes there is one for each command. In
    its own dialect a script comes out as it is, up to the blanks behind its lines. -/
theorem translateScript_line_by_line (tables : RuleTables) (source target : Vendor)
    (script : String) :
    (∀ line, ∃! outcome, ComesOut tables source target line outcome) ∧
    (∃ outcomes,
      Text.ConsistsOf script.toList ((Text.lines script).map String.toList) ∧
      List.Forall₂ (ComesOut tables source target) (Text.lines script) outcomes ∧
      (∀ outcome ∈ outcomes, outcome.lines ≠ [] ∧ ∀ line ∈ outcome.lines, '\n' ∉ line.toList) ∧
      (tables.translateScript source target script).cli =
        Text.trimNewlines (Text.unlines (outcomes.flatMap (·.lines))) ∧
      (tables.translateScript source target script).explanation =
        Text.unlines (outcomes.filterMap (·.note))) ∧
    (tables.translateScript source source script).cli =
      Text.trimNewlines (Text.unlines ((Text.lines script).map Text.trimEnd)) := by
  have hscript : ∀ line ∈ Text.lines script, Text.IsOneLine line :=
    fun _ => Text.isOneLine_of_mem_lines
  refine ⟨fun line => ⟨_, comesOut_outcomeOf, fun outcome h => h.outcome_eq⟩,
    ⟨(Text.lines script).map (tables.outcomeOf source target), Text.consistsOf_lines script,
      ?_, ?_, ?_, ?_⟩, ?_⟩
  · rw [List.forall₂_map_right_iff, List.forall₂_same]
    exact fun line _ => comesOut_outcomeOf
  · refine List.forall_mem_map.mpr fun line hline => ?_
    exact ⟨comesOut_outcomeOf.lines_ne_nil,
      comesOut_outcomeOf.isOneLine_of_mem (hscript line hline)⟩
  · rw [List.flatMap_map]
    rfl
  · rw [List.filterMap_map]
    rfl
  · have hself : (Text.lines script).flatMap (tables.translateLine source source) =
        (Text.lines script).map Text.trimEnd := by
      rw [List.map_eq_flatMap]
      exact List.flatMap_congr fun line hline => translateLine_self (hscript line hline)
    rw [translateScript, hself]

/-- Lines of a dialect with one rule, which has no conversion: a command that no rule recognises, a
    comment, and a command that the rule recognises. -/
theorem translateScript_comments_out_commands :
    ∃ outcomes,
      List.Forall₂ (ComesOut (fun _ => [rule "vlan" "Declare VLANs." []]) .cisco .h3c)
        ["interface GE1/0/1", "! uplink", " vlan 10"] outcomes ∧
      outcomes.map (·.lines) =
        [["# No conversion found for \"interface GE1/0/1\""], ["! uplink"],
          [" # No direct conversion for \"vlan 10\" to H3C"]] ∧
      (translateScript (fun _ => [rule "vlan" "Declare VLANs." []]) .cisco .h3c
          "interface GE1/0/1\n! uplink\n vlan 10").cli =
        Text.trimNewlines (Text.unlines (outcomes.flatMap (·.lines))) := by
  obtain ⟨_, ⟨outcomes, _, hlines, _, hcli, _⟩, _⟩ :=
    translateScript_line_by_line (fun _ => [rule "vlan" "Declare VLANs." []]) .cisco .h3c
      "interface GE1/0/1\n! uplink\n vlan 10"
  have hscript : Text.lines "interface GE1/0/1\n! uplink\n vlan 10" =
      ["interface GE1/0/1", "! uplink", " vlan 10"] := by decide +kernel
  rw [hscript] at hlines
  have houtcomes := eq_map_of_forall₂_comesOut hlines
  refine ⟨outcomes, hlines, ?_, hcli⟩
  rw [houtcomes]
  decide +kernel

end RuleTables

end Netscribe
