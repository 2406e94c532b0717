import Netscribe.Proofs.Text.Line
import Netscribe.Script.Draft
/-!
What is written into a draft stays in the text of its fragment: later entries only add to the lines,
and only blank lines are dropped at the ends.
-/
namespace Netscribe

namespace Text

/-- A text is blank exactly if both of its parts are. -/
theorem allBlank_append (s t : String) : allBlank (s ++ t) = (allBlank s && allBlank t) := by
  rw [allBlank, String.toList_append, List.all_append, allBlank, allBlank]

/-- A text with a front that is not blank is not blank. -/
theorem allBlank_append_left {s : String} (h : allBlank s = false) (t : String) :
    allBlank (s ++ t) = false := by
  rw [allBlank_append, h, Bool.false_and]

/-- What starts with something visible is not blank. -/
theorem allBlank_eq_false_of_hasStart {start s : String} (hstart : allBlank start = false)
    (h : hasStart start s) : allBlank s = false := by
  rw [hasStart, List.isPrefixOf_iff_prefix] at h
  obtain ⟨rest, hrest⟩ := h
  rw [allBlank] at hstart ⊢
  rw [← hrest, List.all_append, hstart, Bool.false_and]

/-- A text with a line that is not blank is not blank. -/
theorem allBlank_eq_false_of_hasLines {text line : String} (h : HasLines text [line])
    (hline : allBlank line = false) : allBlank text = false := by
  obtain ⟨lines, rfl, hsub⟩ := h
  obtain ⟨before, after, rfl⟩ := List.append_of_mem (List.singleton_sublist.mp hsub)
  have hshow : ∃ start rest, unlines (before ++ line :: after) = start ++ line ++ rest := by
    have hafter : ∃ rest, unlines (line :: after) = line ++ rest := by
      by_cases hnil : after = []
      · exact ⟨"", by simp [hnil, unlines, join]⟩
      · exact ⟨"\n" ++ unlines after, by rw [unlines_cons hnil, String.append_assoc]⟩
    obtain ⟨rest, hrest⟩ := hafter
    by_cases hnil : before = []
    · exact ⟨"", rest, by rw [hnil, List.nil_append, hrest, String.empty_append]⟩
    · refine ⟨unlines before ++ "\n", rest, ?_⟩
      rw [unlines_append hnil (List.cons_ne_nil _ _), hrest, String.append_assoc,
        String.append_assoc, String.append_assoc]
  obtain ⟨start, rest, htext⟩ := hshow
  rw [htext, allBlank_append, allBlank_append, hline, Bool.and_false, Bool.false_and]

end Text

/-- The line that an entry writes, if it writes one of its own. -/
def Entry.text? : Entry → Option String
  | .line text _ => some text
  | .comment text marker => some (Draft.commentLine marker text)
  | .blank | .note _ => none

@[simp]
theorem text?_command (text why : String) : (command text why).text? = some text := rfl

/-- Entries that write a line. -/
def Writes (entries : List Entry) (line : String) : Prop := ∃ e ∈ entries, e.text? = some line

namespace Writes

/-- Both parts write their lines. -/
theorem append_iff {before after : List Entry} {line : String} :
    Writes (before ++ after) line ↔ Writes before line ∨ Writes after line := by
  simp only [Writes, List.mem_append, or_and_right, exists_or]

/-- A first entry writes its own line. -/
theorem cons_iff {e : Entry} {rest : List Entry} {line : String} :
    Writes (e :: rest) line ↔ e.text? = some line ∨ Writes rest line := by
  simp only [Writes, List.mem_cons, or_and_right, exists_or, exists_eq_left]

theorem nil_iff {line : String} : Writes [] line ↔ False := by
  simp [Writes]

/-- A command writes one line. -/
theorem singleton_iff {text why line : String} : Writes [command text why] line ↔ line = text := by
  simp [Writes, eq_comm]

/-- Entries with a condition are written if it holds. -/
theorem onlyIf_iff {p : Prop} [Decidable p] {entries : List Entry} {line : String} :
    Writes (onlyIf p entries) line ↔ p ∧ Writes entries line := by
  rw [onlyIf]
  split
  next hp => simp only [hp, true_and]
  next hp => simp only [nil_iff, hp, false_and]

/-- The entries for each item write their lines. -/
theorem flatMap_iff {α : Type} {f : α → List Entry} {xs : List α} {line : String} :
    Writes (xs.flatMap f) line ↔ ∃ x ∈ xs, Writes (f x) line := by
  simp only [Writes, List.mem_flatMap]
  constructor
  · rintro ⟨e, ⟨x, hx, he⟩, hline⟩
    exact ⟨x, hx, e, he, hline⟩
  · rintro ⟨x, hx, e, he, hline⟩
    exact ⟨e, ⟨x, hx, he⟩, hline⟩

end Writes

/-- Entries with a line write something. -/
theorem writesLine_of_writes {entries : List Entry} {line : String} (h : Writes entries line) :
    writesLine entries := by
  obtain ⟨e, he, htext⟩ := h
  refine List.any_eq_true.mpr ⟨e, he, ?_⟩
  cases e with
  | line | comment => rfl
  | blank | note => cases htext

namespace Draft

private theorem mem_lines_write {d : Draft} {e : Entry} {line : String}
    (h : line ∈ d.lines ∨ e.text? = some line) : line ∈ (d.write e).lines := by
  cases e with
  | line text why =>
    obtain hbefore | hnew := h
    · exact List.mem_append_left _ hbefore
    · cases hnew
      exact List.mem_append_right _ List.mem_cons_self
  | blank =>
    obtain hbefore | hnew := h
    · change line ∈ d.blank.lines
      rw [blank]
      split
      · exact hbefore
      · exact hbefore
      · exact List.mem_append_left _ hbefore
    · cases hnew
  | comment text marker =>
    obtain hbefore | hnew := h
    · exact List.mem_append_left _ hbefore
    · cases hnew
      exact List.mem_append_right _ List.mem_cons_self
  | note text =>
    obtain hbefore | hnew := h
    · change line ∈ (d.note text).lines
      rw [note]
      split
      · exact hbefore
      · exact hbefore
    · cases hnew

private theorem mem_lines_foldl {entries : List Entry} {d : Draft} {line : String}
    (h : line ∈ d.lines ∨ Writes entries line) : line ∈ (entries.foldl write d).lines := by
  induction entries generalizing d with
  | nil => exact h.resolve_right fun hwrites => Writes.nil_iff.mp hwrites
  | cons e rest ih =>
    refine ih ?_
    rw [Writes.cons_iff, ← or_assoc] at h
    exact h.imp_left mem_lines_write

/-- What is written becomes a line of the draft. -/
theorem mem_lines_ofEntries {entries : List Entry} {line : String} (h : Writes entries line) :
    line ∈ (ofEntries entries).lines := mem_lines_foldl (.inr h)

private theorem mem_dropWhile {p : String → Bool} {lines : List String} {line : String}
    (hmem : line ∈ lines) (hkeep : p line = false) : line ∈ lines.dropWhile p := by
  rw [← List.takeWhile_append_dropWhile (p := p) (l := lines), List.mem_append] at hmem
  refine hmem.resolve_left fun htake => ?_
  rw [List.all_eq_true.mp List.all_takeWhile line htake] at hkeep
  cases hkeep

/-- Only blank lines are dropped at the ends of a draft. -/
theorem mem_body {d : Draft} {line : String} (hmem : line ∈ d.lines)
    (hline : Text.allBlank line = false) : line ∈ d.body := by
  rw [body, List.mem_reverse]
  exact mem_dropWhile (List.mem_reverse.mpr (mem_dropWhile hmem hline)) hline

/-- A line of the draft that is not blank stands in its text. -/
theorem hasLines_text {d : Draft} {line : String} (hmem : line ∈ d.lines)
    (hline : Text.allBlank line = false) : Text.HasLines d.text [line] :=
  Text.hasLines_of_mem (mem_body hmem hline)

end Draft

/-- Every line that is written and not blank is a line of the commands. -/
theorem Fragment.hasLines_ofEntries {entries : List Entry} {line : String}
    (h : Writes entries line) (hline : Text.allBlank line = false) (summary absent : String) :
    Text.HasLines (Fragment.ofEntries entries summary absent).cli [line] := by
  have hmem := Draft.mem_lines_ofEntries h
  have hne : (Draft.ofEntries entries).lines ≠ [] := List.ne_nil_of_mem hmem
  rw [Fragment.ofEntries, if_neg hne]
  exact Draft.hasLines_text hmem hline

end Netscribe
