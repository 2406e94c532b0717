import Netscribe.Dialect.Tables
import Netscribe.Proofs.Text.Pieces
import Netscribe.Proofs.Text.Written
/-!
Which rule a line goes by. The rules that apply to a line have commands that it starts with, so that
of two of them one command starts with the other. A rule can therefore be overtaken only by rules
whose commands are lines of its own command, and those are few.
-/
namespace Netscribe

namespace Text

private theorem length_groups_append {cs : List Char} (h : CodePoint.mark ∉ cs) (ds : List Char) :
    (CodePoint.groups (cs ++ ds)).length = cs.length + (CodePoint.groups ds).length := by
  induction cs with
  | nil => simp
  | cons c rest ih =>
    obtain ⟨hc, hrest⟩ := not_or.mp (List.mem_cons.not.mp h)
    have hlength := ih hrest
    cases hcs : rest ++ ds with
    | nil =>
      obtain ⟨rfl, rfl⟩ := List.append_eq_nil_iff.mp hcs
      rfl
    | cons d after =>
      rw [hcs] at hlength
      rw [List.cons_append, hcs, CodePoint.groups, if_neg (Ne.symm hc), List.length_cons, hlength,
        List.length_cons]
      omega

/-- A text is longer than what is in front of it, where no surrogates are kept. -/
theorem size_lt_of_prefix {s t : String} (ht : CodePoint.mark ∉ t.toList)
    (h : s.toList <+: t.toList) (hne : s ≠ t) : size s < size t := by
  obtain ⟨rest, hrest⟩ := h
  have hs : CodePoint.mark ∉ s.toList := fun hmark =>
    ht (hrest ▸ List.mem_append_left rest hmark)
  have hlong := length_groups_append ht []
  have hshort := length_groups_append hs []
  rw [List.append_nil, ← hrest, List.length_append] at hlong
  rw [List.append_nil] at hshort
  have hpositive : 0 < rest.length := by
    rw [List.length_pos_iff]
    rintro rfl
    exact hne (String.toList_inj.mp (by simpa using hrest))
  rw [size, size, ← hrest, hlong, hshort]
  omega

private theorem size_le_of_prefix {s t : String} (hs : CodePoint.mark ∉ s.toList)
    (h : s.toList <+: t.toList) : size s ≤ size t := by
  obtain ⟨rest, hrest⟩ := h
  have hshort := length_groups_append hs []
  rw [List.append_nil] at hshort
  rw [size, size, ← hrest, length_groups_append hs, hshort]
  exact Nat.add_le_add_left (Nat.zero_le _) _

end Text

namespace Rule

/-- A command applies where a blank or a digit follows it, or nothing at all. -/
theorem isSome_after?_iff {command line : String} :
    (after? command line).isSome ↔ ∃ rest, line.toList = command.toList ++ rest ∧
      ∀ c ∈ rest.head?, Text.isBlank c || Text.isDigit c := by
  rw [after?]
  constructor
  · intro h
    split at h
    next hstart =>
      obtain ⟨rest, hrest⟩ := List.isPrefixOf_iff_prefix.mp hstart
      refine ⟨rest, hrest.symm, ?_⟩
      rw [← hrest, List.drop_left] at h
      intro c hc
      obtain ⟨after, rfl⟩ := List.head?_eq_some_iff.mp hc
      by_contra hnot
      dsimp only at h
      rw [if_neg hnot] at h
      cases h
    next => cases h
  · rintro ⟨rest, hrest, hhead⟩
    have hstart : Text.hasStart command line :=
      List.isPrefixOf_iff_prefix.mpr ⟨rest, hrest.symm⟩
    rw [if_pos hstart, hrest, List.drop_left]
    cases rest with
    | nil => rfl
    | cons c after =>
      dsimp only
      rw [if_pos (hhead c rfl)]
      rfl

/-- Of two commands of one line, the longer one is a line of the shorter one. -/
theorem isSome_after?_of_prefix {command other line : String} (hline : (after? command line).isSome)
    (hother : other.toList <+: line.toList) (h : command.toList <+: other.toList) :
    (after? command other).isSome := by
  obtain ⟨rest, hrest, hhead⟩ := isSome_after?_iff.mp hline
  obtain ⟨more, hmore⟩ := h
  refine isSome_after?_iff.mpr ⟨more, hmore.symm, ?_⟩
  rw [hrest, ← hmore, List.prefix_append_right_inj] at hother
  intro c hc
  obtain ⟨after, rfl⟩ := List.head?_eq_some_iff.mp hc
  obtain ⟨behind, rfl⟩ := hother
  exact hhead c rfl

/-- A rule matches in two steps: by its command, and then by its pattern. -/
theorem match?_eq (r : Rule) (line : String) :
    r.match? line = (after? r.command line).bind fun rest =>
      (r.capture? line).map fun captures => ⟨r, Text.words rest, captures⟩ := by
  refine congrArg (Option.bind (after? r.command line)) (funext fun rest => ?_)
  cases r.capture? line <;> rfl

/-- What a match consists of: the words behind the command and what the pattern captures. -/
theorem match?_eq_some_iff {r : Rule} {line : String} {m : RuleMatch} :
    r.match? line = some m ↔ ∃ rest captures, after? r.command line = some rest ∧
      r.capture? line = some captures ∧ m = ⟨r, Text.words rest, captures⟩ := by
  simp only [match?_eq, Option.bind_eq_some_iff, Option.map_eq_some_iff]
  constructor
  · rintro ⟨rest, hrest, captures, hcaptures, rfl⟩
    exact ⟨rest, captures, hrest, hcaptures, rfl⟩
  · rintro ⟨rest, captures, hrest, hcaptures, rfl⟩
    exact ⟨rest, hrest, captures, hcaptures, rfl⟩

/-- A match names the rule that it comes from. -/
theorem rule_of_match? {r : Rule} {line : String} {m : RuleMatch} (h : r.match? line = some m) :
    m.rule = r := by
  obtain ⟨_, _, _, _, rfl⟩ := match?_eq_some_iff.mp h
  rfl

private theorem isSome_after?_of_match? {r : Rule} {line : String} {m : RuleMatch}
    (h : r.match? line = some m) : (after? r.command line).isSome := by
  obtain ⟨_, _, hrest, _, _⟩ := match?_eq_some_iff.mp h
  rw [hrest]
  rfl

/-- What a rule reads and what it says in some dialects, without its explanation. -/
def restrict (targets : List Vendor) (r : Rule) : Rule :=
  { r with
    explanation := ""
    conversions := r.conversions.filter fun conversion => targets.contains conversion.1 }

private theorem match?_restrict (targets : List Vendor) (r : Rule) (line : String) :
    (r.restrict targets).match? line =
      (r.match? line).map fun m => { m with rule := m.rule.restrict targets } := by
  rw [match?_eq, match?_eq, Option.map_bind]
  refine congrArg (Option.bind (after? r.command line)) (funext fun rest => ?_)
  rw [Function.comp_apply, Option.map_map]
  rfl

private theorem conversionTo?_restrict {targets : List Vendor} {target : Vendor}
    (h : target ∈ targets)
    (r : Rule) : (r.restrict targets).conversionTo? target = r.conversionTo? target := by
  rw [conversionTo?, conversionTo?, restrict]
  induction r.conversions with
  | nil => rfl
  | cons conversion rest ih =>
    by_cases hvendor : target = conversion.1
    · rw [List.filter_cons_of_pos (by simpa [← hvendor] using h), List.lookup_cons,
        List.lookup_cons, hvendor, beq_self_eq_true]
    · have hbeq : (target == conversion.1) = false := beq_eq_false_iff_ne.mpr hvendor
      rw [List.lookup_cons, hbeq, ← ih, List.filter_cons]
      split
      · rw [List.lookup_cons, hbeq]
      · rfl

end Rule

namespace RuleTables

section Longest

/-- The length of the command that a line has been found to start with. -/
def reach (m : RuleMatch) : Nat := Text.size m.rule.command

variable {ms : List RuleMatch} {reached : Nat}

/-- Once a match reaches far enough, those that do not are passed over. -/
theorem foldl_longer_filter {best : RuleMatch} (hbest : reached ≤ reach best) :
    ms.foldl longer (some best) =
      (ms.filter (reached ≤ reach ·)).foldl longer (some best) := by
  induction ms generalizing best with
  | nil => rfl
  | cons m rest ih =>
    by_cases hm : reached ≤ reach m
    · rw [List.filter_cons_of_pos (by simpa using hm), List.foldl_cons, List.foldl_cons, longer]
      split
      · exact ih hm
      · exact ih hbest
    · have hkept : longer (some best) m = some best := if_neg (by simp only [reach] at *; omega)
      rw [List.filter_cons_of_neg (by simpa using hm), List.foldl_cons, hkept]
      exact ih hbest

/-- Where some match reaches far enough, the choice is among those that do. -/
theorem foldl_longer_eq_of_filter {best : Option RuleMatch} {m : RuleMatch}
    (hbest : ∀ b ∈ best, reach b < reached)
    (hm : (ms.filter (reached ≤ reach ·)).foldl longer none = some m) :
    ms.foldl longer best = some m := by
  induction ms generalizing best with
  | nil => cases hm
  | cons first rest ih =>
    rw [List.foldl_cons]
    by_cases hfirst : reached ≤ reach first
    · have hnew : longer best first = some first := by
        cases best with
        | none => rfl
        | some b => exact if_pos ((hbest b rfl).trans_le hfirst)
      rw [List.filter_cons_of_pos (by simpa using hfirst), List.foldl_cons] at hm
      rw [hnew, foldl_longer_filter hfirst]
      exact hm
    · rw [List.filter_cons_of_neg (by simpa using hfirst)] at hm
      refine ih ?_ hm
      intro b hb
      rw [longer.eq_def] at hb
      split at hb
      next => exact Option.some.inj hb ▸ not_le.mp hfirst
      next old =>
        split at hb
        · exact Option.some.inj hb ▸ not_le.mp hfirst
        · exact Option.some.inj hb ▸ hbest old rfl

end Longest

/-- The rules that lines of a command can go by at the expense of it: their commands are such lines
    themselves. -/
def rivals (rules : List Rule) (command : String) : List Rule :=
  rules.filter fun r => (Rule.after? command r.command).isSome

/-- The rivals are found among the few rules whose commands begin with the same bytes. -/
theorem rivals_eq_filter_bytes (rules : List Rule) (command : String) :
    rivals rules command =
      (rules.filter fun r => (Text.bytes command).isPrefixOf (Text.bytes r.command)).filter
        fun r => (Rule.after? command r.command).isSome := by
  rw [rivals, List.filter_filter]
  refine List.filter_congr fun r _ => ?_
  cases hrival : (Rule.after? command r.command).isSome with
  | false => rfl
  | true =>
    obtain ⟨rest, hrest, _⟩ := Rule.isSome_after?_iff.mp hrival
    exact (List.isPrefixOf_iff_prefix.mpr (Text.bytes_prefix_of_prefix ⟨rest, hrest.symm⟩)).symm

/-- A line of a command goes by the rule that it goes by among the rivals alone. -/
theorem longestMatch_eq_of_rivals {rules : List Rule} {command line : String} {m : RuleMatch}
    (hmark : Text.CodePoint.mark ∉ command.toList) (hline : (Rule.after? command line).isSome)
    (h : longestMatch (rivals rules command) line = some m) :
    longestMatch rules line = some m := by
  have hreach : ∀ r ∈ rules, ∀ found, r.match? line = some found →
      ((Rule.after? command r.command).isSome ↔ Text.size command ≤ reach found) := by
    intro r hr found hfound
    obtain rfl := Rule.rule_of_match? hfound
    obtain ⟨rest, hrest, _⟩ := Rule.isSome_after?_iff.mp (Rule.isSome_after?_of_match? hfound)
    obtain ⟨behind, hbehind, _⟩ := Rule.isSome_after?_iff.mp hline
    have hcommand : command.toList <+: line.toList := ⟨behind, hbehind.symm⟩
    have hrule : found.rule.command.toList <+: line.toList := ⟨rest, hrest.symm⟩
    constructor
    · intro hrival
      obtain ⟨more, hmore, _⟩ := Rule.isSome_after?_iff.mp hrival
      exact Text.size_le_of_prefix hmark ⟨more, hmore.symm⟩
    · intro hsize
      obtain hlonger | hshorter := List.prefix_or_prefix_of_prefix hcommand hrule
      · exact Rule.isSome_after?_of_prefix hline hrule hlonger
      · by_cases heq : found.rule.command = command
        · exact Rule.isSome_after?_of_prefix hline hrule (heq ▸ List.prefix_rfl)
        · exact absurd (Text.size_lt_of_prefix hmark hshorter heq) (not_lt.mpr hsize)
  have hmatches : (rules.filterMap (·.match? line)).filter (Text.size command ≤ reach ·) =
      (rivals rules command).filterMap (·.match? line) := by
    rw [rivals, List.filter_filterMap, List.filterMap_filter]
    refine List.filterMap_congr fun r hr => ?_
    cases hfound : r.match? line with
    | none => simp
    | some found => simp [Option.filter, hreach r hr found hfound]
  rw [longestMatch, ← hmatches] at h
  exact foldl_longer_eq_of_filter (fun b hb => (nomatch hb)) h

private theorem foldl_longer_map {f : Rule → Rule} (hf : ∀ r, (f r).command = r.command)
    (best : Option RuleMatch) (ms : List RuleMatch) :
    (ms.map fun m => { m with rule := f m.rule }).foldl longer
        (best.map fun m => { m with rule := f m.rule }) =
      (ms.foldl longer best).map fun m => { m with rule := f m.rule } := by
  induction ms generalizing best with
  | nil => rfl
  | cons m rest ih =>
    rw [List.map_cons, List.foldl_cons, List.foldl_cons, ← ih]
    refine congrArg (List.foldl longer · _) ?_
    cases best with
    | none => rfl
    | some b =>
      simp only [Option.map_some, longer, hf]
      split
      · rfl
      · rfl

private theorem longestMatch_map_restrict (targets : List Vendor) (rules : List Rule)
    (line : String) :
    longestMatch (rules.map (Rule.restrict targets)) line =
      (longestMatch rules line).map fun m => { m with rule := m.rule.restrict targets } := by
  have hmatches : (rules.map (Rule.restrict targets)).filterMap (·.match? line) =
      (rules.filterMap (·.match? line)).map
        fun m => { m with rule := m.rule.restrict targets } := by
    rw [List.filterMap_map, List.map_filterMap]
    exact List.filterMap_congr fun r _ => r.match?_restrict targets line
  rw [longestMatch, hmatches]
  exact foldl_longer_map (f := Rule.restrict targets) (fun _ => rfl) none _

/-- A line of a command is translated by the rule that it goes by among the rivals, of which only
    the forms in the dialects in question matter. -/
theorem translate_eq_text {tables : RuleTables} {source target : Vendor} {targets : List Vendor}
    {command line : String} {listed : List Rule} {m : RuleMatch} {conversion : Conversion}
    (hne : source ≠ target) (htarget : target ∈ targets)
    (hmark : Text.CodePoint.mark ∉ command.toList)
    (hrivals : (rivals (tables source) command).map (Rule.restrict targets) = listed)
    (htrim : Text.trim line = line) (hline : (Rule.after? command line).isSome)
    (hm : longestMatch listed line = some m)
    (hconversion : m.rule.conversionTo? target = some conversion) :
    tables.translate source target line = .text (conversion.render m.args m.captures) := by
  rw [← hrivals, longestMatch_map_restrict, Option.map_eq_some_iff] at hm
  obtain ⟨found, hfound, rfl⟩ := hm
  have hfind : tables.findRule source line = some found := by
    rw [findRule, htrim]
    exact longestMatch_eq_of_rivals hmark hline hfound
  rw [Rule.conversionTo?_restrict htarget] at hconversion
  rw [translate, htrim, if_neg hne, hfind]
  dsimp only
  rw [hconversion]

end RuleTables

namespace Text

variable {ws : List String}

/-- Words that are written with blanks are read back. -/
theorem words_unwords (h : ∀ w ∈ ws, IsWord w) : words (unwords ws) = ws :=
  tokens_join rfl (by decide) h

private theorem words_blank_append (s : String) : words (" " ++ s) = words s := by
  have hsplit : splitChars isBlank (" " ++ s).toList = [] :: splitChars isBlank s.toList := by
    rw [String.toList_append]
    rfl
  rw [words, words, tokens, tokens, hsplit, List.filter_cons_of_neg (by simp)]

/-- Words end where a blank follows. -/
theorem words_append (s : String) {t : String} (ht : ∀ c ∈ t.toList.head?, isBlank c) :
    words (s ++ t) = words s ++ words t := by
  rw [words, words, words, tokens, tokens, tokens, String.toList_append]
  cases hcs : t.toList with
  | nil => simp [splitChars]
  | cons c cs =>
    have hc : isBlank c := ht c (by rw [hcs]; rfl)
    have hstart : splitChars isBlank (c :: cs) = [] :: splitChars isBlank cs := by
      rw [splitChars, if_pos hc]
    rw [splitChars_append_cons hc, hstart, List.filter_append, List.filter_cons_of_neg (by simp),
      List.map_append]

/-- What comes out as a word has no blank and is not empty. -/
theorem isWord_of_mem_words {s word : String} (h : word ∈ words s) : IsWord word := by
  obtain ⟨cs, hcs, rfl⟩ := List.mem_map.mp h
  obtain ⟨hpiece, hne⟩ := List.mem_filter.mp hcs
  refine ⟨by simpa using hne, fun c hc => ?_⟩
  rw [String.toList_ofList] at hc
  exact (of_mem_splitChars hpiece hc).2

/-- Between two parts that have words stands one blank. -/
theorem unwords_append {front : List String} (hfront : front ≠ []) (hws : ws ≠ []) :
    unwords (front ++ ws) = unwords front ++ (" " ++ unwords ws) := by
  rw [unwords, join, String.intercalate_append_of_ne_nil hfront hws, String.append_assoc]
  rfl

/-- A blank goes in front of each word but the first. -/
theorem unwords_cons (word : String) (ws : List String) :
    unwords (word :: ws) = word ++ String.join (ws.map (" " ++ ·)) := by
  induction ws generalizing word with
  | nil =>
    rw [List.map_nil, String.join_nil, String.append_empty]
    rfl
  | cons next rest ih =>
    rw [← List.singleton_append, unwords_append (List.cons_ne_nil word [])
      (List.cons_ne_nil next rest), ih, List.map_cons, String.join_cons, String.append_assoc]
    rfl

/-- A word may itself be several words. -/
theorem unwords_unwords (w : String) (hws : ws ≠ []) :
    unwords [w, unwords ws] = unwords (w :: ws) := by
  have hone (s : String) : unwords [s] = s := rfl
  rw [← List.singleton_append, unwords_append (List.cons_ne_nil _ _) (List.cons_ne_nil _ _),
    hone (unwords ws), ← List.singleton_append (l := ws), unwords_append (List.cons_ne_nil _ _) hws]

/-- What may follow a line: nothing, or a blank and something that ends the line. -/
structure IsOption (t : String) : Prop where
  blank : ∀ c ∈ t.toList.head?, isBlank c
  ends : t ≠ "" → endsSolid t

namespace IsOption

private theorem empty : IsOption "" := ⟨nofun, fun h => absurd rfl h⟩

/-- A blank and a text that ends solid make an option. -/
theorem of_blank {s : String} (h : endsSolid s) : IsOption (" " ++ s) where
  blank := by
    rw [String.toList_append]
    rintro c ⟨⟩
    decide
  ends _ := endsSolid_append " " h

/-- Options follow one another. -/
theorem append {s t : String} (hs : IsOption s) (ht : IsOption t) : IsOption (s ++ t) := by
  by_cases hempty : s = ""
  · rwa [hempty, String.empty_append]
  · refine ⟨fun c hc => hs.blank c ?_, fun _ => ?_⟩
    · rwa [String.toList_append, List.head?_append_of_ne_nil _ (by simpa using hempty)] at hc
    · by_cases hlast : t = ""
      · rw [hlast, String.append_empty]
        exact hs.ends hempty
      · exact endsSolid_append s (ht.ends hlast)

/-- A condition makes an option of one. -/
theorem textIf {p : Prop} [Decidable p] {s : String} (h : IsOption s) :
    IsOption (Netscribe.textIf p s) := by
  rw [Netscribe.textIf]
  split
  · exact h
  · exact empty

end IsOption

end Text

namespace Rule

/-- A line that consists of a command and of arguments. -/
structure IsCall (command : String) (args : List String) (line : String) : Prop where
  trimmed : Text.trim line = line
  words : ∃ rest, after? command line = some rest ∧ Text.words rest = args

variable {command line : String} {args : List String}

/-- A rule sees its command at the start of a call. -/
theorem IsCall.isSome_after? (h : IsCall command args line) : (after? command line).isSome := by
  obtain ⟨rest, hrest, _⟩ := h.words
  rw [hrest]
  rfl

/-- A rule without a pattern matches each call of its command and captures nothing. -/
theorem IsCall.match? (h : IsCall command args line) (explanation : String)
    (conversions : List (Vendor × Conversion)) :
    (rule command explanation conversions).match? line =
      some ⟨rule command explanation conversions, args, []⟩ := by
  obtain ⟨rest, hrest, rfl⟩ := h.words
  exact match?_eq_some_iff.mpr ⟨rest, [], hrest, rfl, rfl⟩

private theorem after?_append {rest : String}
    (h : ∀ c ∈ rest.toList.head?, Text.isBlank c || Text.isDigit c) :
    after? command (command ++ rest) = some rest := by
  have hstart : Text.hasStart command (command ++ rest) := by simp [Text.hasStart]
  rw [after?, if_pos hstart, String.toList_append, List.drop_left]
  cases hrest : rest.toList with
  | nil =>
    obtain rfl : rest = "" := by simpa using hrest
    rfl
  | cons c after =>
    have hc := h c (by rw [hrest]; rfl)
    dsimp only
    rw [if_pos hc, ← hrest, String.ofList_toList]

/-- Options behind the arguments are arguments too. -/
theorem isCall_unwords_append {front args : List String} {option : String}
    (hfront : Text.startsSolid (Text.unwords front)) (hargs : args ≠ [])
    (hwords : ∀ arg ∈ args, Text.IsWord arg) (hoption : Text.IsOption option) :
    IsCall (Text.unwords front) (args ++ Text.words option)
      (Text.unwords (front ++ args) ++ option) := by
  have hne : front ≠ [] := by
    rintro rfl
    exact absurd hfront (by decide)
  have hend : Text.endsSolid (Text.unwords args) :=
    Text.endsSolid_join " " hargs fun arg harg => (hwords arg harg).endsSolid
  rw [Text.unwords_append hne hargs, String.append_assoc, String.append_assoc]
  refine ⟨Text.trim_eq_self ?_ ?_, " " ++ (Text.unwords args ++ option), after?_append ?_, ?_⟩
  · exact Text.startsSolid_append hfront _
  · refine Text.endsSolid_append _ (Text.endsSolid_append _ ?_)
    by_cases hempty : option = ""
    · rwa [hempty, String.append_empty]
    · exact Text.endsSolid_append _ (hoption.ends hempty)
  · rw [String.toList_append]
    rintro c ⟨⟩
    decide
  · rw [Text.words_blank_append, Text.words_append _ hoption.blank, Text.words_unwords hwords]

/-- Arguments behind the words of a command. -/
theorem isCall_unwords {front : List String} (hfront : Text.startsSolid (Text.unwords front))
    (hargs : args ≠ []) (hwords : ∀ arg ∈ args, Text.IsWord arg) :
    IsCall (Text.unwords front) args (Text.unwords (front ++ args)) := by
  have hcall := isCall_unwords_append hfront hargs hwords .empty
  have hnone : Text.words "" = [] := rfl
  rwa [hnone, List.append_nil, String.append_empty] at hcall

/-- A number directly behind a command. -/
theorem isCall_append {number : String} (hcommand : Text.startsSolid command)
    (hnumber : Text.IsWord number) (hdigits : ∀ c ∈ number.toList, Text.isDigit c) :
    IsCall command [number] (command ++ number) := by
  refine ⟨Text.trim_eq_self ?_ ?_, number, after?_append fun c hc => ?_, ?_⟩
  · exact Text.startsSolid_append hcommand number
  · exact Text.endsSolid_append command hnumber.endsSolid
  · rw [hdigits c (List.mem_of_mem_head? hc), Bool.or_true]
  · have hwords := Text.words_unwords (List.forall_mem_singleton.mpr hnumber)
    simpa [Text.unwords, Text.join] using hwords

end Rule

end Netscribe
