import Netscribe.Proofs.Dialect.StandardRules
import Netscribe.Proofs.Dialect.TemplateWords
/-!
Lines of words, put into another dialect. Which rule reads a line, and what its template is filled
with, is decided word by word, so that the words that come out can be computed from those that go in
without a look at their characters.
-/
namespace Netscribe.Dialect

open Text (Name Dotted Numeral)
open Template (Word)
open Rule (spelled)

/-- The words that are names. -/
abbrev texts (names : List Name) : List String := names.map Text.Written.text

/-- A line of the words of a command and its arguments. -/
abbrev phrase (front : List String) (args : List Name) : String :=
  Text.unwords (front ++ texts args)

/-- What holds of both members holds of a pair. -/
theorem forall_mem_pair {α : Type} {p : α → Prop} {a b : α} :
    (∀ x ∈ [a, b], p x) ↔ p a ∧ p b := by
  rw [List.forall_mem_cons, List.forall_mem_singleton]

private theorem dollar_not_mem_text (args : List Name) : ∀ arg ∈ texts args, '$' ∉ arg.toList := by
  intro arg harg
  obtain ⟨name, _, rfl⟩ := List.mem_map.mp harg
  exact Name.dollar_not_mem name

private theorem isWord_text (args : List Name) : ∀ arg ∈ texts args, Text.IsWord arg := by
  intro arg harg
  obtain ⟨name, _, rfl⟩ := List.mem_map.mp harg
  exact Name.isWord name

private theorem exists_texts_eq {ws : List String} (h : ws.all Text.isName) :
    ∃ names, texts names = ws := by
  have hnames : ∀ w ∈ ws, Text.isName w := List.all_eq_true.mp h
  refine ⟨ws.pmap Name.of hnames, ?_⟩
  rw [texts, List.map_pmap]
  exact (List.pmap_eq_map (f := id) hnames).trans (List.map_id ws)

private theorem phrase_append {front : List String} (hfront : front ≠ []) (first : Name)
    (rest : List Name) :
    phrase front (first :: rest) =
      Text.unwords front ++ (" " ++ Text.unwords (texts (first :: rest))) :=
  Text.unwords_append hfront (List.cons_ne_nil _ _)

section Lines

variable {source target : Vendor} {conversions : List (Vendor × Conversion)} {listed : List Rule}

/-- A line that one of the rules reads, which has a template for the other dialect. -/
theorem translate_filled {command line : String} {args : List Name} {captures : Captures} {r : Rule}
    (index : Nat) (ws : List Word) (htarget : target ∈ targets source)
    (hlisted : (contenders source).lookup command = some listed) (hr : listed[index]? = some r)
    (hconversion : r.conversionTo? target = some (.template (Text.unwords (ws.map Word.source))))
    (hcall : Rule.IsCall command (texts args) line)
    (hm : r.match? line = some ⟨r, texts args, captures⟩)
    (hothers : ∀ other ∈ listed.eraseIdx index, other.match? line = none)
    (hnames : (captures.map Prod.fst).all (·.toList.all Char.isAlpha))
    (hvalues : ∀ capture ∈ captures, '$' ∉ capture.2.toList)
    (hdefined : ws.all (Word.isDefined args.length (captures.map Prod.fst))) :
    RuleTables.standard.translate source target line =
      .text (Text.unwords (ws.map (Word.value (texts args) captures))) := by
  obtain ⟨hindex, rfl⟩ := List.getElem?_eq_some_iff.mp hr
  have hsplit : listed = listed.take index ++ listed[index] :: listed.drop (index + 1) := by
    rw [List.getElem_cons_drop, List.take_append_drop]
  have hletters : ∀ capture ∈ captures, capture.1.toList.all Char.isAlpha := fun capture hmem =>
    List.all_eq_true.mp hnames capture.1 (List.mem_map_of_mem hmem)
  rw [List.eraseIdx_eq_take_drop_succ] at hothers
  rw [translate_eq_text (mem_contenders hlisted) htarget hcall.trimmed hcall.isSome_after? hsplit hm
    hothers hconversion]
  refine congrArg _ (Word.fill_unwords_source hletters (dollar_not_mem_text args) hvalues rfl ?_)
  rwa [List.length_map]

section Words

variable (front : List String) (first : Name) (rest : List Name) (ws : List Word)

/-- The words of a command with arguments behind them are a call of it. -/
theorem isCall_phrase (hlisted : (contenders source).lookup (Text.unwords front) = some listed) :
    Rule.IsCall (Text.unwords front) (texts (first :: rest)) (phrase front (first :: rest)) :=
  Rule.isCall_unwords (startsSolid_command (mem_contenders hlisted)) (List.cons_ne_nil _ _)
    (isWord_text (first :: rest))

/-- The words of a command and its arguments, where the first rule reads any line. -/
theorem translate_words_first {others : List Rule} (htarget : target ∈ targets source)
    (hlisted : (contenders source).lookup (Text.unwords front) =
      some (rule (Text.unwords front) "" conversions :: others))
    (hconversion : conversions.lookup target =
      some (.template (Text.unwords (ws.map Word.source))))
    (hdefined : ws.all (Word.isDefined (first :: rest).length []))
    (hothers : ∀ other ∈ others, other.match? (phrase front (first :: rest)) = none) :
    RuleTables.standard.translate source target (phrase front (first :: rest)) =
      .text (Text.unwords (ws.map (Word.value (texts (first :: rest)) []))) := by
  have hcall := isCall_phrase front first rest hlisted
  exact translate_filled 0 ws htarget hlisted rfl hconversion hcall (hcall.match? "" conversions)
    hothers rfl (fun _ hcapture => (nomatch hcapture)) hdefined

/-- The words of a command with a single rule, and then its arguments. -/
theorem translate_words (htarget : target ∈ targets source)
    (hlisted : (contenders source).lookup (Text.unwords front) =
      some [rule (Text.unwords front) "" conversions])
    (hconversion : conversions.lookup target =
      some (.template (Text.unwords (ws.map Word.source))))
    (hdefined : ws.all (Word.isDefined (first :: rest).length [])) :
    RuleTables.standard.translate source target (phrase front (first :: rest)) =
      .text (Text.unwords (ws.map (Word.value (texts (first :: rest)) []))) :=
  translate_words_first front first rest ws htarget hlisted hconversion hdefined
    (fun _ hother => (nomatch hother))

/-- A line that one of several rules reads word by word. -/
theorem translate_spelled {ps : List WordPattern} (index : Nat) (found : Captures)
    (htarget : target ∈ targets source) (hfront : front.all Text.isName)
    (hlisted : (contenders source).lookup (Text.unwords front) = some listed)
    (hr : listed[index]? = some (spelled ps (Text.unwords front) conversions))
    (hconversion : conversions.lookup target =
      some (.template (Text.unwords (ws.map Word.source))))
    (hps : ps ≠ [] ∧ ∀ p ∈ ps, p.IsTight)
    (hnames : (LinePattern.line (ps.map WordPattern.pattern)).names.all
      (·.toList.all Char.isAlpha))
    (hread : WordPattern.readWords? ps (front ++ texts (first :: rest)) = some found)
    (hfound : ((LinePattern.line (ps.map WordPattern.pattern)).names.map fun name =>
      (name, (found.lookup name).getD "")) = found)
    (hdefined : ws.all (Word.isDefined (first :: rest).length (found.map Prod.fst)))
    (hothers : Rule.IsCall (Text.unwords front) (texts (first :: rest))
        (phrase front (first :: rest)) →
      ∀ other ∈ listed.eraseIdx index, other.match? (phrase front (first :: rest)) = none) :
    RuleTables.standard.translate source target (phrase front (first :: rest)) =
      .text (Text.unwords (ws.map (Word.value (texts (first :: rest)) found))) := by
  obtain ⟨names, rfl⟩ := exists_texts_eq hfront
  have hcall := isCall_phrase (texts names) first rest hlisted
  rw [phrase, ← List.map_append] at hcall ⊢
  rw [← List.map_append] at hread
  have hm := hcall.match?_spelled hps.2 hps.1 (isWord_text _) (by simp) conversions
  rw [hread, Option.map_some, hfound] at hm
  have hletters : (found.map Prod.fst).all (·.toList.all Char.isAlpha) := by
    rw [← hfound, List.map_map]
    exact (congrArg (List.all · _) (List.map_id _)).trans hnames
  rw [phrase, ← List.map_append] at hothers
  exact translate_filled index ws htarget hlisted hr hconversion hcall hm (hothers hcall) hletters
    (fun capture hcapture => dollar_not_mem_text _ _
      (WordPattern.mem_of_readWords? hread hcapture)) hdefined

end Words

section LastWords

variable (front : List String) (last : String) (ws : List Word)

/-- A command with a single rule, and a number directly behind its last word. -/
theorem translate_numbered (n : Numeral) (htarget : target ∈ targets source)
    (hlisted : (contenders source).lookup (Text.unwords (front ++ [last])) =
      some [rule (Text.unwords (front ++ [last])) "" conversions])
    (hconversion : conversions.lookup target =
      some (.template (Text.unwords (ws.map Word.source))))
    (hdefined : ws.all (Word.isDefined 1 [])) (hfront : front ≠ []) :
    RuleTables.standard.translate source target (Text.unwords (front ++ [last ++ n.text])) =
      .text (Text.unwords (ws.map (Word.value [n.text] []))) := by
  have hline : Text.unwords (front ++ [last ++ n.text]) =
      Text.unwords (front ++ [last]) ++ n.text := by
    rw [Text.unwords_append hfront (List.cons_ne_nil _ _),
      Text.unwords_append hfront (List.cons_ne_nil _ _), String.append_assoc, String.append_assoc]
    rfl
  have hcall : Rule.IsCall (Text.unwords (front ++ [last])) (texts [n.toName])
      (Text.unwords (front ++ [last ++ n.text])) := by
    rw [hline]
    exact Rule.isCall_append (startsSolid_command (mem_contenders hlisted)) n.isWord n.isDigit
  exact translate_filled 0 ws htarget hlisted rfl hconversion hcall (hcall.match? "" conversions)
    (fun _ hother => (nomatch hother)) rfl (fun _ hcapture => (nomatch hcapture)) hdefined

/-- A command whose rule captures the last word of the line. -/
theorem translate_lastToken (name : Name) (capture : String) (htarget : target ∈ targets source)
    (hlisted : (contenders source).lookup (Text.unwords front) =
      some [guarded (.lastToken capture) (Text.unwords front) "" conversions])
    (hconversion : conversions.lookup target =
      some (.template (Text.unwords (ws.map Word.source))))
    (hletters : capture.toList.all Char.isAlpha) (hdefined : ws.all (Word.isDefined 1 [capture]))
    (hfront : front ≠ []) :
    RuleTables.standard.translate source target (phrase front [name]) =
      .text (Text.unwords (ws.map (Word.value [name.text] [(capture, name.text)]))) := by
  have hcall := isCall_phrase front name [] hlisted
  have hm : (guarded (.lastToken capture) (Text.unwords front) "" conversions).match?
      (phrase front [name]) =
        some ⟨guarded (.lastToken capture) (Text.unwords front) "" conversions, texts [name],
          [(capture, name.text)]⟩ := by
    obtain ⟨rest, hrest, hwords⟩ := hcall.words
    refine Rule.match?_eq_some_iff.mpr ⟨rest, _, hrest, ?_, by rw [hwords]⟩
    rw [phrase_append hfront]
    exact LinePattern.find?_lastToken (Name.isWord name) _
  refine translate_filled 0 ws htarget hlisted rfl hconversion hcall hm
    (fun _ hother => (nomatch hother)) ?_ ?_ hdefined
  · simpa using hletters
  · exact List.forall_mem_singleton.mpr (Name.dollar_not_mem name)

end LastWords

section Others

/-- A rule passes over a line whose words do not read as its pattern. -/
theorem match?_spelled_eq_none {command : String} {front args : List String}
    {ps : List WordPattern} {first : Name} {rest : List Name} (hfront : front.all Text.isName)
    (hcall : Rule.IsCall command args (phrase front (first :: rest)))
    (hps : ps ≠ [] ∧ ∀ p ∈ ps, p.IsTight)
    (hread : WordPattern.readWords? ps (front ++ texts (first :: rest)) = none) :
    (spelled ps command conversions).match? (phrase front (first :: rest)) = none := by
  obtain ⟨names, rfl⟩ := exists_texts_eq hfront
  rw [phrase, ← List.map_append] at hcall ⊢
  rw [← List.map_append] at hread
  rw [hcall.match?_spelled hps.2 hps.1 (isWord_text _) (by simp) conversions, hread]
  rfl

/-- A rule with a longer command passes over a line that goes on in digits or points. -/
theorem match?_eq_none_of_longer {r : Rule} (front more : String) (first : Dotted)
    (rest : List String) (hcommand : r.command = front ++ (" " ++ more))
    (hmore : more.toList.head?.any (!Text.isDottedChar ·)) :
    r.match? (Text.unwords (front :: first.text :: rest)) = none := by
  obtain ⟨c, hc, hother⟩ := (Option.any_eq_true _ _).mp hmore
  obtain ⟨behind, hbehind⟩ := List.head?_eq_some_iff.mp hc
  obtain ⟨d, ds, hds, hd⟩ := first.exists_eq_cons
  obtain ⟨tail, htail⟩ := Text.exists_toList_join_cons " " first.text rest
  have hnone : Rule.after? r.command (Text.unwords (front :: first.text :: rest)) = none := by
    refine if_neg fun hstart => ?_
    have hprefix := List.isPrefixOf_iff_prefix.mp hstart
    have hline : (Text.unwords (front :: first.text :: rest)).toList =
        front.toList ++ (" ".toList ++ d :: (ds ++ tail)) := by
      rw [Text.unwords, Text.join, String.intercalate_cons_of_ne_nil (List.cons_ne_nil _ _),
        ← Text.join, String.append_assoc, String.toList_append, String.toList_append, htail, hds]
      rfl
    rw [hline, hcommand, String.toList_append, String.toList_append, List.prefix_append_right_inj,
      List.prefix_append_right_inj, hbehind] at hprefix
    obtain rfl := (List.cons_prefix_cons.mp hprefix).1
    rw [hd, Bool.not_true] at hother
    cases hother
  rw [Rule.match?_eq, hnone]
  rfl

end Others

end Lines

end Netscribe.Dialect
