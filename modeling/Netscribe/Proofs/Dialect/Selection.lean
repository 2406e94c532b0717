import Mathlib.Data.List.MinMax
import Netscribe.Proofs.Dialect.RuleSearch
import Netscribe.Proofs.Text.Trimmed
/-!
Which match the search for a rule ends with: of the matches with the longest command the one whose
rule stands first. Two matches of one line have equally long commands only if they have the same
command, so that nothing but the order of the rules for one command counts.
-/
namespace Netscribe

namespace Text

/-- A text that stands for a sequence of code points, as all texts do that are read; a mark without
    a character behind it stands for none. -/
def IsKept (s : String) : Prop := ∃ ps, s = ofCodePoints ps

private theorem isKept_of_not_mem {s : String} (h : CodePoint.mark ∉ s.toList) : IsKept s := by
  refine ⟨s.toList.map .char, ?_⟩
  have hkept : (s.toList.map CodePoint.char).flatMap CodePoint.kept = s.toList.flatMap ([·]) := by
    rw [List.flatMap_map]
    refine List.flatMap_congr fun c hc => if_neg ?_
    rintro rfl
    exact h hc
  rw [ofCodePoints, hkept, List.flatMap_singleton', String.ofList_toList]

private theorem CodePoint.ofChars_flatMap_kept_append (ps : List CodePoint) (cs : List Char) :
    ofChars (ps.flatMap kept ++ cs) = ps ++ ofChars cs := by
  induction ps with
  | nil => rfl
  | cons p rest ih =>
    rw [List.flatMap_cons, List.append_assoc, ofChars_kept_append, ih, List.cons_append]

private theorem size_eq_length_codePoints (s : String) : size s = (codePoints s).length :=
  CodePoint.length_groups s.toList

/-- What stands behind a text adds to its size. -/
theorem eq_of_prefix_of_size_eq {s t : String} (hs : IsKept s) (h : s.toList <+: t.toList)
    (hsize : size s = size t) : s = t := by
  obtain ⟨ps, rfl⟩ := hs
  obtain ⟨rest, hrest⟩ := h
  rw [ofCodePoints, String.toList_ofList] at hrest
  have hfront : codePoints (ofCodePoints ps) = ps := by
    rw [codePoints, ofCodePoints, String.toList_ofList, CodePoint.ofChars_flatMap_kept]
  have hwhole : codePoints t = ps ++ CodePoint.ofChars rest := by
    rw [codePoints, ← hrest, CodePoint.ofChars_flatMap_kept_append]
  rw [size_eq_length_codePoints, size_eq_length_codePoints, hfront, hwhole,
    List.length_append] at hsize
  have hnothing : CodePoint.ofChars rest = [] := List.eq_nil_of_length_eq_zero (by omega)
  have hflat := CodePoint.flatten_groups rest
  have hgroups : CodePoint.groups rest = [] := by
    rw [← List.length_eq_zero_iff, CodePoint.length_groups, hnothing, List.length_nil]
  rw [hgroups, List.flatten_nil] at hflat
  rw [← hflat, List.append_nil] at hrest
  rw [← String.toList_inj, ofCodePoints, String.toList_ofList, hrest]

end Text

/-- A rule applies to a line that consists of its command and of a rest that is empty or starts
    with a blank or a digit, where its guard lets the line pass. -/
structure Rule.AppliesTo (r : Rule) (line : String) : Prop where
  starts : ∃ rest, line.toList = r.command.toList ++ rest ∧
    ∀ c ∈ rest.head?, Text.isBlank c || Text.isDigit c
  passes : ∀ guard ∈ r.guard, (guard.find? line).isSome

namespace Rule

variable {r : Rule} {line : String} {m : RuleMatch}

private theorem isSome_match?_iff : (r.match? line).isSome ↔ r.AppliesTo line := by
  have hguard : (r.capture? line).isSome ↔ ∀ guard ∈ r.guard, (guard.find? line).isSome := by
    rw [capture?]
    cases r.guard <;> simp
  rw [match?_eq, Option.isSome_bind, Option.any_eq_true]
  constructor
  · rintro ⟨rest, hrest, hcapture⟩
    rw [Option.isSome_map] at hcapture
    exact ⟨isSome_after?_iff.mp (by rw [hrest]; rfl), hguard.mp hcapture⟩
  · rintro ⟨hstarts, hpasses⟩
    obtain ⟨rest, hrest⟩ := Option.isSome_iff_exists.mp (isSome_after?_iff.mpr hstarts)
    exact ⟨rest, hrest, by rw [Option.isSome_map]; exact hguard.mpr hpasses⟩

private theorem match?_eq_none_iff : r.match? line = none ↔ ¬ r.AppliesTo line := by
  rw [← isSome_match?_iff, Option.not_isSome_iff_eq_none]

private theorem appliesTo_of_match? (h : r.match? line = some m) : r.AppliesTo line :=
  isSome_match?_iff.mp (by rw [h]; rfl)

end Rule

namespace RuleTables

/-- Of the matches with the longest command the one whose rule stands first. -/
structure IsFirstLongest (rules : List Rule) (line : String) (m : RuleMatch) : Prop where
  match_eq : m.rule.match? line = some m
  splits : ∃ before after, rules = before ++ m.rule :: after ∧
    (∀ r ∈ before, r.AppliesTo line → Text.size r.command < Text.size m.rule.command) ∧
    ∀ r ∈ after, r.AppliesTo line → Text.size r.command ≤ Text.size m.rule.command

/-- Two rules for one command that stand in opposite orders in two tables. -/
def SwapsRules (rules other : List Rule) : Prop :=
  ∃ r s, r ≠ s ∧ r.command = s.command ∧ [r, s].Sublist rules ∧ [s, r].Sublist other

section Longest

variable {rules other : List Rule} {line : String} {m found : RuleMatch} {r : Rule}

private theorem longestMatch_eq_argmax (rules : List Rule) (line : String) :
    longestMatch rules line = (rules.filterMap (·.match? line)).argmax reach := by
  have hstep : longer = List.argAux fun found best : RuleMatch => reach best < reach found := by
    funext best found
    cases best <;> rfl
  rw [longestMatch, hstep]
  rfl

private theorem longestMatch_cons_of_none (h : r.match? line = none) :
    longestMatch (r :: rules) line = longestMatch rules line := by
  rw [longestMatch, List.filterMap_cons, h]
  rfl

/-- A match gives way to a longer one behind it only. -/
theorem longestMatch_cons_of_some (h : r.match? line = some found) :
    longestMatch (r :: rules) line = (longestMatch rules line).elim (some found) fun later =>
      if reach found < reach later then some later else some found := by
  rw [longestMatch_eq_argmax, List.filterMap_cons, h, List.argmax_cons, longestMatch_eq_argmax]
  cases (rules.filterMap (·.match? line)).argmax reach <;> rfl

private theorem longestMatch_eq_none_iff :
    longestMatch rules line = none ↔ ∀ r ∈ rules, ¬ r.AppliesTo line := by
  rw [longestMatch_eq_argmax, List.argmax_eq_none, List.filterMap_eq_nil_iff]
  exact forall₂_congr fun r _ => Rule.match?_eq_none_iff

private theorem IsFirstLongest.rule_mem (h : IsFirstLongest rules line m) : m.rule ∈ rules := by
  obtain ⟨before, after, rfl, _⟩ := h.splits
  exact List.mem_append_right before List.mem_cons_self

private theorem IsFirstLongest.appliesTo (h : IsFirstLongest rules line m) :
    m.rule.AppliesTo line :=
  Rule.appliesTo_of_match? h.match_eq

private theorem IsFirstLongest.size_le (h : IsFirstLongest rules line m) (hr : r ∈ rules)
    (happlies : r.AppliesTo line) : Text.size r.command ≤ Text.size m.rule.command := by
  obtain ⟨before, after, rfl, hbefore, hafter⟩ := h.splits
  obtain hmem | hmem := List.mem_append.mp hr
  · exact (hbefore r hmem happlies).le
  · obtain rfl | hmem := List.mem_cons.mp hmem
    · exact le_rfl
    · exact hafter r hmem happlies

/-- Any other rule with as long a command stands behind. -/
theorem IsFirstLongest.sublist (h : IsFirstLongest rules line m) (hr : r ∈ rules)
    (happlies : r.AppliesTo line) (hne : m.rule ≠ r)
    (hsize : Text.size m.rule.command ≤ Text.size r.command) : [m.rule, r].Sublist rules := by
  obtain ⟨before, after, rfl, hbefore, hafter⟩ := h.splits
  have hbehind : r ∈ after := by
    obtain hmem | hmem := List.mem_append.mp hr
    · exact absurd (hbefore r hmem happlies) (not_lt.mpr hsize)
    · obtain rfl | hmem := List.mem_cons.mp hmem
      · exact absurd rfl hne
      · exact hmem
  refine List.Sublist.trans ?_ (List.sublist_append_right before _)
  exact (List.singleton_sublist.mpr hbehind).cons_cons m.rule

private theorem isFirstLongest_cons_iff :
    IsFirstLongest (r :: rules) line m ↔
      (m.rule = r ∧ r.match? line = some m ∧
        ∀ s ∈ rules, s.AppliesTo line → Text.size s.command ≤ Text.size r.command) ∨
      (IsFirstLongest rules line m ∧
        (r.AppliesTo line → Text.size r.command < Text.size m.rule.command)) := by
  constructor
  · rintro ⟨hmatch, before, after, hsplit, hbefore, hafter⟩
    cases before with
    | nil =>
      obtain ⟨rfl, rfl⟩ := List.cons.inj hsplit
      exact .inl ⟨rfl, hmatch, hafter⟩
    | cons first before =>
      obtain ⟨rfl, rfl⟩ := List.cons.inj hsplit
      obtain ⟨hfirst, hrest⟩ := List.forall_mem_cons.mp hbefore
      exact .inr ⟨⟨hmatch, before, after, rfl, hrest, hafter⟩, hfirst⟩
  · rintro (⟨rfl, hmatch, hafter⟩ | ⟨⟨hmatch, before, after, rfl, hbefore, hafter⟩, hfirst⟩)
    · exact ⟨hmatch, [], rules, rfl, List.forall_mem_nil _, hafter⟩
    · exact ⟨hmatch, r :: before, after, rfl, List.forall_mem_cons.mpr ⟨hfirst, hbefore⟩, hafter⟩

private theorem IsFirstLongest.unique {other : RuleMatch} (h : IsFirstLongest rules line m)
    (hother : IsFirstLongest rules line other) : m = other := by
  induction rules with
  | nil => exact absurd h.rule_mem List.not_mem_nil
  | cons r rest ih =>
    obtain ⟨rfl, hmatch, hlongest⟩ | ⟨hrest, hlonger⟩ := isFirstLongest_cons_iff.mp h
    · obtain ⟨-, hsame, -⟩ | ⟨hrest, hlonger⟩ := isFirstLongest_cons_iff.mp hother
      · exact Option.some.inj (hmatch.symm.trans hsame)
      · exact absurd (hlongest _ hrest.rule_mem hrest.appliesTo)
          (not_le.mpr (hlonger (Rule.appliesTo_of_match? hmatch)))
    · obtain ⟨rfl, hmatch, hlongest⟩ | ⟨hsame, -⟩ := isFirstLongest_cons_iff.mp hother
      · exact absurd (hlongest _ hrest.rule_mem hrest.appliesTo)
          (not_le.mpr (hlonger (Rule.appliesTo_of_match? hmatch)))
      · exact ih hrest hsame

/-- What the search ends with is the first longest match. -/
theorem isFirstLongest_of_longestMatch (h : longestMatch rules line = some m) :
    IsFirstLongest rules line m := by
  induction rules generalizing m with
  | nil => cases h
  | cons r rest ih =>
    rw [isFirstLongest_cons_iff]
    cases hr : r.match? line with
    | none =>
      rw [longestMatch_cons_of_none hr] at h
      exact .inr ⟨ih h, fun happlies => absurd happlies (Rule.match?_eq_none_iff.mp hr)⟩
    | some found =>
      obtain rfl : found.rule = r := Rule.rule_of_match? hr
      rw [longestMatch_cons_of_some hr] at h
      cases hlater : longestMatch rest line with
      | none =>
        rw [hlater] at h
        obtain rfl := Option.some.inj h
        have hnone := longestMatch_eq_none_iff.mp hlater
        exact .inl ⟨rfl, rfl, fun s hs happlies => absurd happlies (hnone s hs)⟩
      | some later =>
        have hlongest := ih hlater
        rw [hlater] at h
        dsimp only [Option.elim_some] at h
        split at h
        next hlonger =>
          obtain rfl := Option.some.inj h
          exact .inr ⟨hlongest, fun _ => hlonger⟩
        next hshorter =>
          obtain rfl := Option.some.inj h
          refine .inl ⟨rfl, rfl, fun s hs happlies => ?_⟩
          exact (hlongest.size_le hs happlies).trans (not_lt.mp hshorter)

/-- The search ends with the first longest match, and with no other. -/
theorem longestMatch_eq_some_iff :
    longestMatch rules line = some m ↔ IsFirstLongest rules line m := by
  refine ⟨isFirstLongest_of_longestMatch, fun h => ?_⟩
  cases hfound : longestMatch rules line with
  | none => exact absurd h.appliesTo (longestMatch_eq_none_iff.mp hfound _ h.rule_mem)
  | some found => rw [(isFirstLongest_of_longestMatch hfound).unique h]

/-- Commands of one line are equally long only if they are the same. -/
theorem command_eq_of_size_eq {s : Rule} (hr : Text.IsKept r.command) (hs : Text.IsKept s.command)
    (hrApplies : r.AppliesTo line) (hsApplies : s.AppliesTo line)
    (hsize : Text.size r.command = Text.size s.command) : r.command = s.command := by
  obtain ⟨rest, hrest, _⟩ := hrApplies.starts
  obtain ⟨more, hmore, _⟩ := hsApplies.starts
  have hrPrefix : r.command.toList <+: line.toList := ⟨rest, hrest.symm⟩
  have hsPrefix : s.command.toList <+: line.toList := ⟨more, hmore.symm⟩
  obtain hshort | hshort := List.prefix_or_prefix_of_prefix hrPrefix hsPrefix
  · exact Text.eq_of_prefix_of_size_eq hr hshort hsize
  · exact (Text.eq_of_prefix_of_size_eq hs hshort hsize.symm).symm

/-- Another order of the rules leads to another match only if two rules for one command have
    changed places. -/
theorem longestMatch_eq_of_perm (hkept : ∀ r ∈ rules, Text.IsKept r.command)
    (hperm : rules.Perm other) (hswaps : ¬ SwapsRules rules other) :
    longestMatch other line = longestMatch rules line := by
  cases hfirst : longestMatch rules line with
  | none =>
    have hnone := longestMatch_eq_none_iff.mp hfirst
    exact longestMatch_eq_none_iff.mpr fun r hr => hnone r (hperm.mem_iff.mpr hr)
  | some m =>
    have hm := longestMatch_eq_some_iff.mp hfirst
    have hmMem : m.rule ∈ other := hperm.mem_iff.mp hm.rule_mem
    cases hsecond : longestMatch other line with
    | none => exact absurd hm.appliesTo (longestMatch_eq_none_iff.mp hsecond m.rule hmMem)
    | some found =>
      have hfound := longestMatch_eq_some_iff.mp hsecond
      have hfoundMem : found.rule ∈ rules := hperm.mem_iff.mpr hfound.rule_mem
      have hle := hm.size_le hfoundMem hfound.appliesTo
      have hge := hfound.size_le hmMem hm.appliesTo
      by_cases hrule : m.rule = found.rule
      · have hsame := hm.match_eq
        rw [hrule, hfound.match_eq] at hsame
        exact hsame
      · refine absurd ⟨m.rule, found.rule, hrule, ?_, ?_, ?_⟩ hswaps
        · exact command_eq_of_size_eq (hkept _ hm.rule_mem) (hkept _ hfoundMem) hm.appliesTo
            hfound.appliesTo (hge.antisymm hle)
        · exact hm.sublist hfoundMem hfound.appliesTo hrule hge
        · exact hfound.sublist hmMem hm.appliesTo (Ne.symm hrule) hle

end Longest

section Lines

variable {tables other : RuleTables} {source target : Vendor} {line : String}

/-- What a line is translated to depends on the rules by way of the search alone. -/
theorem translate_eq_of_findRule_eq
    (h : other.findRule source (Text.trim line) = tables.findRule source (Text.trim line)) :
    other.translate source target line = tables.translate source target line := by
  rw [translate, translate, h]

private theorem explain_eq_of_findRule_eq
    (h : other.findRule source (Text.trim line) = tables.findRule source (Text.trim line)) :
    other.explain source line = tables.explain source line := by
  rw [explain, explain, h]

private theorem findRule_eq_of_perm (hkept : ∀ r ∈ tables source, Text.IsKept r.command)
    (hperm : (tables source).Perm (other source))
    (hswaps : ¬ SwapsRules (tables source) (other source)) (line : String) :
    other.findRule source line = tables.findRule source line :=
  longestMatch_eq_of_perm hkept hperm hswaps

private theorem trim_surrounded {before after : String} (hbefore : Text.allBlank before)
    (hafter : Text.allBlank after) (line : String) :
    Text.trim (before ++ line ++ after) = Text.trim line := by
  rw [Text.trim_append_right hafter, Text.trim_append_left hbefore]

end Lines

/-- No rule is found for a line exactly if none applies to it without the blanks around it;
    otherwise the first one with the longest command among those that apply. Another order of the
    rules, if the rules for each command keep theirs, and blanks around the line change neither
    what is found nor what the line is translated to or explained by. -/
theorem findRule_first_longest (tables : RuleTables) (source : Vendor) (line : String) :
    (tables.findRule source line = none ↔
      ∀ r ∈ tables source, ¬ r.AppliesTo (Text.trim line)) ∧
    (∀ m, tables.findRule source line = some m ↔
      IsFirstLongest (tables source) (Text.trim line) m) ∧
    (∀ other : RuleTables, (∀ r ∈ tables source, Text.IsKept r.command) →
      (tables source).Perm (other source) → ¬ SwapsRules (tables source) (other source) →
      other.findRule source line = tables.findRule source line ∧
      (∀ target, other.translate source target line = tables.translate source target line) ∧
      other.explain source line = tables.explain source line) ∧
    ∀ before after, Text.allBlank before → Text.allBlank after →
      tables.findRule source (before ++ line ++ after) = tables.findRule source line ∧
      (∀ target, tables.translate source target (before ++ line ++ after) =
        tables.translate source target line) ∧
      tables.explain source (before ++ line ++ after) = tables.explain source line := by
  refine ⟨longestMatch_eq_none_iff, fun m => longestMatch_eq_some_iff, ?_, ?_⟩
  · intro other hkept hperm hswaps
    have hsame := findRule_eq_of_perm hkept hperm hswaps
    exact ⟨hsame line, fun target => translate_eq_of_findRule_eq (hsame _),
      explain_eq_of_findRule_eq (hsame _)⟩
  · intro before after hbefore hafter
    have htrim := trim_surrounded hbefore hafter line
    refine ⟨?_, fun target => ?_, ?_⟩
    · rw [findRule, findRule, htrim]
    · rw [translate, translate, htrim]
    · rw [explain, explain, htrim]

/-- Rules for two commands change places, and blanks come around the line. -/
theorem findRule_first_longest_of_exchanged :
    let rules := [rule "ping" "Ping $1." [toH3c "ping $1"],
      rule "ping ip" "Ping address $1." [toH3c "ping -a $1"]]
    let tables : RuleTables := fun _ => rules
    let other : RuleTables := fun _ => rules.reverse
    other.translate .cisco .h3c "ping ip 10.0.0.1" = .text "ping -a 10.0.0.1" ∧
    tables.translate .cisco .h3c " ping ip 10.0.0.1\t" = .text "ping -a 10.0.0.1" := by
  intro rules tables other
  have hline : tables.translate .cisco .h3c "ping ip 10.0.0.1" = .text "ping -a 10.0.0.1" := by
    decide +kernel
  have hkept : ∀ r ∈ tables .cisco, Text.IsKept r.command := by
    refine List.forall_mem_cons.mpr ⟨?_, List.forall_mem_singleton.mpr ?_⟩
    · exact Text.isKept_of_not_mem (by decide)
    · exact Text.isKept_of_not_mem (by decide)
  have hswaps : ¬ SwapsRules (tables .cisco) (other .cisco) := by
    rintro ⟨r, s, _, hcommand, hsublist, _⟩
    have hboth : [r, s] = rules := hsublist.eq_of_length rfl
    obtain ⟨rfl, hrest⟩ := List.cons.inj hboth
    obtain ⟨rfl, _⟩ := List.cons.inj hrest
    exact absurd hcommand (by decide)
  obtain ⟨_, _, hreordered, hsurrounded⟩ := findRule_first_longest tables .cisco "ping ip 10.0.0.1"
  obtain ⟨_, htranslate, _⟩ :=
    hreordered other hkept (List.reverse_perm rules).symm hswaps
  obtain ⟨_, hblanks, _⟩ := hsurrounded " " "\t" (by decide) (by decide)
  exact ⟨(htranslate .h3c).trans hline, (hblanks .h3c).trans hline⟩

/-- Of two rules for one command the order counts. -/
example : RuleTables.translate
    (fun _ => [rule "ping" "" [toH3c "first $1"], rule "ping" "" [toH3c "second $1"]])
    .cisco .h3c "ping 10.0.0.1" = .text "first 10.0.0.1" := by
  decide +kernel

end RuleTables
end Netscribe
