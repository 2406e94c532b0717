import Mathlib.Data.List.Chain
import Mathlib.Logic.Function.Basic
import Netscribe.Proofs.Script.Written
import Netscribe.Proofs.Text.Line
/-!
Empty lines that separate. No two of them stand in a row in a draft, since one is only ever written
behind a line that is not empty, and none in a row in blocks with empty lines between them, since no
block starts or ends with one. Drafts that extend one another stay separated as well: an empty line
at the end of the one meets no other, since no draft starts with one.
-/
namespace Netscribe

namespace Text

/-- Lines of which no two in a row are empty. -/
def IsSpaced (lines : List String) : Prop :=
  lines.IsChain fun line next => line ≠ "" ∨ next ≠ ""

/-- Spaced lines that neither start nor end with an empty one. -/
structure IsCompact (lines : List String) : Prop where
  isSpaced : IsSpaced lines
  first : "" ∉ lines.head?
  last : "" ∉ lines.getLast?

section Lines

variable {lines before after : List String} {line : String}

/-- Lines are spaced exactly if no two empty ones follow one another. -/
theorem isSpaced_iff : IsSpaced lines ↔ ¬ ["", ""] <:+: lines := by
  rw [IsSpaced, List.isChain_iff_forall_rel_of_append_cons_cons]
  constructor
  · rintro h ⟨before, after, hsplit⟩
    have hpair : lines = before ++ "" :: "" :: after := by simp [← hsplit]
    exact (h hpair).elim (· rfl) (· rfl)
  · intro h line next before after hsplit
    by_contra hboth
    obtain ⟨rfl, rfl⟩ := (not_or.mp hboth).imp not_not.mp not_not.mp
    exact h ⟨before, after, by simp [hsplit]⟩

/-- A single line is spaced. -/
theorem isSpaced_singleton (line : String) : IsSpaced [line] := List.isChain_singleton line

/-- Lines that are not empty are spaced. -/
theorem isSpaced_of_forall_ne (h : ∀ line ∈ lines, line ≠ "") : IsSpaced lines :=
  (List.pairwise_of_forall_mem_list fun line hline _ _ => .inl (h line hline)).isChain

namespace IsSpaced

/-- A part of spaced lines is spaced. -/
theorem of_infix (h : IsSpaced lines) (hpart : before <:+: lines) : IsSpaced before :=
  List.IsChain.infix h hpart

/-- A line that is not empty may come first. -/
theorem cons (hline : line ≠ "") (h : IsSpaced lines) : IsSpaced (line :: lines) :=
  List.isChain_cons.mpr ⟨fun _ _ => .inl hline, h⟩

/-- Any line can stand before one that is not empty. -/
theorem cons_of_first (hfirst : "" ∉ lines.head?) (h : IsSpaced lines) :
    IsSpaced (line :: lines) := by
  refine List.isChain_cons.mpr ⟨fun next hnext => .inr ?_, h⟩
  rintro rfl
  exact hfirst hnext

/-- Spaced lines may follow spaced ones that do not end with an empty line. -/
theorem append (hbefore : IsSpaced before) (hlast : "" ∉ before.getLast?)
    (hafter : IsSpaced after) : IsSpaced (before ++ after) := by
  refine List.isChain_append.mpr ⟨hbefore, hafter, fun line hline _ _ => .inl ?_⟩
  rintro rfl
  exact hlast hline

/-- A line that is not empty can stand behind any other. -/
theorem concat (h : IsSpaced lines) (hline : line ≠ "") : IsSpaced (lines ++ [line]) := by
  refine List.isChain_append.mpr ⟨h, isSpaced_singleton line, fun _ _ next hnext => .inr ?_⟩
  obtain rfl : line = next := Option.some.inj hnext
  exact hline

end IsSpaced

/-- Compact groups of lines with an empty line between any two of them. -/
theorem isCompact_intercalate {groups : List (List String)} (hne : groups ≠ [])
    (h : ∀ lines ∈ groups, lines ≠ [] ∧ IsCompact lines) :
    IsCompact ([""].intercalate groups) := by
  induction groups with
  | nil => exact absurd rfl hne
  | cons lines rest ih =>
    obtain ⟨⟨hlines, hcompact⟩, hrest⟩ := List.forall_mem_cons.mp h
    by_cases hnil : rest = []
    · simpa [hnil] using hcompact
    have hmore := ih hnil hrest
    have hmoreNe : [""].intercalate rest ≠ [] := by
      obtain ⟨next, others, rfl⟩ := List.exists_cons_of_ne_nil hnil
      have hnext := (hrest next List.mem_cons_self).1
      cases others <;> simp [List.intercalate, hnext]
    rw [List.intercalate_cons_of_ne_nil hnil, List.append_assoc]
    refine ⟨hcompact.isSpaced.append hcompact.last (hmore.isSpaced.cons_of_first hmore.first),
      ?_, ?_⟩
    · rw [List.head?_append_of_ne_nil _ hlines]
      exact hcompact.first
    · rw [List.singleton_append, List.getLast?_append_of_ne_nil _ (List.cons_ne_nil _ _),
        List.getLast?_cons_of_ne_nil hmoreNe]
      exact hmore.last

end Lines

/-- Lines that start with one that is not empty, and of which no two in a row are empty. -/
structure IsSeparated (lines : List String) : Prop where
  isSpaced : IsSpaced lines
  first : "" ∉ lines.head?

namespace IsSeparated

variable {lines before after : List String} {line : String}

private theorem nil : IsSeparated [] := ⟨List.isChain_nil, nofun⟩

/-- An empty line at the end of the first part meets a line that is not empty. -/
theorem append (hbefore : IsSeparated before) (hafter : IsSeparated after) :
    IsSeparated (before ++ after) := by
  refine ⟨List.isChain_append.mpr ⟨hbefore.isSpaced, hafter.isSpaced, fun _ _ next hnext => ?_⟩, ?_⟩
  · refine .inr ?_
    rintro rfl
    exact hafter.first hnext
  · cases before with
    | nil => exact hafter.first
    | cons first rest => exact hbefore.first

private theorem concat (h : IsSeparated lines) (hline : line ≠ "") :
    IsSeparated (lines ++ [line]) :=
  h.append ⟨isSpaced_singleton line, by simpa using hline.symm⟩

end IsSeparated

end Text

/-- The note that an entry records, if it gives a reason. -/
def Entry.note? : Entry → Option String
  | .line text why => if why = "" then none else some s!"`{Text.trim text}`: {why}"
  | .note text => if text = "" then none else some text
  | .blank | .comment .. => none

namespace Draft

variable {d : Draft} {e : Entry} {entries : List Entry}

/-- An empty line is only written behind a line that is not empty. -/
theorem isSeparated_blank (h : Text.IsSeparated d.lines) : Text.IsSeparated d.blank.lines := by
  unfold blank
  split
  · exact h
  · exact h
  next last hother hlast =>
    have hne : d.lines ≠ [] := by
      intro hnil
      simp [hnil] at hlast
    refine ⟨h.isSpaced.append (fun hempty => ?_) (Text.isSpaced_singleton ""), ?_⟩
    · exact hother (Option.some.inj (hlast.symm.trans hempty))
    · rw [List.head?_append_of_ne_nil _ hne]
      exact h.first

private theorem isSeparated_write (h : Text.IsSeparated d.lines)
    (he : ∀ line ∈ e.text?, line ≠ "") :
    Text.IsSeparated (d.write e).lines := by
  cases e with
  | line text why => exact h.concat (he text rfl)
  | blank => exact isSeparated_blank h
  | comment text marker => exact h.concat (he _ rfl)
  | note text =>
    change Text.IsSeparated (d.note text).lines
    rw [note]
    split <;> exact h

/-- However entries follow each other, no two empty lines in a row are written. -/
theorem isSpaced_ofEntries (h : ∀ e ∈ entries, ∀ line ∈ e.text?, line ≠ "") :
    Text.IsSpaced (ofEntries entries).lines := by
  have hfoldl {d : Draft} (hd : Text.IsSeparated d.lines) :
      Text.IsSeparated (entries.foldl write d).lines := by
    induction entries generalizing d with
    | nil => exact hd
    | cons e rest ih =>
      obtain ⟨he, hrest⟩ := List.forall_mem_cons.mp h
      exact ih hrest (isSeparated_write hd he)
  exact (hfoldl Text.IsSeparated.nil).isSpaced

/-- Apart from the lines that separate, writing adds the line of the entry and nothing else. -/
theorem filter_ne_empty_lines_write (d : Draft) {e : Entry} (he : ∀ line ∈ e.text?, line ≠ "") :
    (d.write e).lines.filter (· ≠ "") = d.lines.filter (· ≠ "") ++ [e].filterMap Entry.text? := by
  have hadd {line : String} (hline : line ≠ "") :
      (d.lines ++ [line]).filter (· ≠ "") = d.lines.filter (· ≠ "") ++ [line] := by
    rw [List.filter_append, List.filter_singleton, decide_eq_true hline]
    rfl
  cases e with
  | line text why => exact hadd (he text rfl)
  | blank =>
    change d.blank.lines.filter (· ≠ "") = _
    rw [blank]
    split <;> simp [Entry.text?]
  | comment text marker => exact hadd (he _ rfl)
  | note text =>
    change (d.note text).lines.filter (· ≠ "") = _
    rw [note]
    split <;> simp [Entry.text?]

private theorem notes_write (d : Draft) (e : Entry) :
    (d.write e).notes = d.notes ++ [e].filterMap Entry.note? := by
  cases e with
  | line text why =>
    change (if why = "" then d.notes else _) = _
    split <;> simp [Entry.note?, *]
  | blank =>
    change d.blank.notes = _
    rw [blank]
    split <;> simp [Entry.note?]
  | comment text marker => simp [write, comment, Entry.note?]
  | note text =>
    change (d.note text).notes = _
    rw [note]
    split <;> simp [Entry.note?, *]

/-- What is done with the drafts of a family: an entry is written into one of them, or one of them
    is extended by another, which may be that draft itself. -/
inductive Operation (ι : Type)
  | write (target : ι) (entry : Entry)
  | extend (target source : ι)

section Family

variable {ι : Type} [DecidableEq ι]

def perform (drafts : ι → Draft) : Operation ι → ι → Draft
  | .write target entry => Function.update drafts target ((drafts target).write entry)
  | .extend target source => Function.update drafts target ((drafts target).extend (drafts source))

/-- The drafts of a family after operations, of which the first one finds all of them empty. -/
def ofOperations (operations : List (Operation ι)) : ι → Draft :=
  operations.foldl perform fun _ => {}

/-- The entries that have come into a draft by operations of which the latest is given first: those
    written into it and, in the place of each extension, those that its source had by then. -/
def entriesBackwards : List (Operation ι) → ι → List Entry
  | [], _ => []
  | .write target entry :: earlier, i =>
    entriesBackwards earlier i ++ if i = target then [entry] else []
  | .extend target source :: earlier, i =>
    entriesBackwards earlier i ++ if i = target then entriesBackwards earlier source else []

def entriesOf (operations : List (Operation ι)) (i : ι) : List Entry :=
  entriesBackwards operations.reverse i

variable {operations : List (Operation ι)} {i : ι}

private theorem ofOperations_concat (operations : List (Operation ι)) (op : Operation ι) :
    ofOperations (operations ++ [op]) = perform (ofOperations operations) op :=
  List.foldl_concat ..

/-- What holds of an empty draft without entries, and is kept by writing an entry and by extending,
    holds of every draft of a family and the entries that have come into it. -/
theorem ofOperations_induction {p : Entry → Prop} {r : Draft → List Entry → Prop} (hempty : r {} [])
    (hwrite : ∀ d entries e, p e → r d entries → r (d.write e) (entries ++ [e]))
    (hextend : ∀ d entries other others, r d entries → r other others →
      r (d.extend other) (entries ++ others))
    (h : ∀ target e, .write target e ∈ operations → p e) (i : ι) :
    r (ofOperations operations i) (entriesOf operations i) := by
  induction operations using List.reverseRecOn generalizing i with
  | nil => exact hempty
  | append_singleton before op ih =>
    have hbefore (i : ι) : r (ofOperations before i) (entriesOf before i) :=
      ih (fun target e he => h target e (List.mem_append_left _ he)) i
    rw [ofOperations_concat, entriesOf, List.reverse_append, List.reverse_singleton,
      List.singleton_append]
    cases op with
    | write target e =>
      rw [perform, entriesBackwards, Function.update_apply]
      split
      next htarget =>
        subst htarget
        exact hwrite _ _ e (h i e (by simp)) (hbefore i)
      next =>
        rw [List.append_nil]
        exact hbefore i
    | extend target source =>
      rw [perform, entriesBackwards, Function.update_apply]
      split
      next htarget =>
        subst htarget
        exact hextend _ _ _ _ (hbefore i) (hbefore source)
      next =>
        rw [List.append_nil]
        exact hbefore i

/-- Whatever is written into the drafts of a family and however these are spliced into one another
    or into themselves, the notes of a draft are those of the operations on it, in order and with
    the notes of a draft it was extended by in the place of that operation. The same goes for its
    lines, apart from separating ones, as long as no entry writes an empty line of its own, which a
    comment with a marker never does; and then no draft starts with an empty line or has two in a
    row. -/
theorem spliced_drafts_stay_separated (operations : List (Operation ι)) (i : ι) :
    (ofOperations operations i).notes = (entriesOf operations i).filterMap Entry.note? ∧
      ((∀ target e, .write target e ∈ operations → ∀ line ∈ e.text?, line ≠ "") →
        (ofOperations operations i).lines.filter (· ≠ "") =
            (entriesOf operations i).filterMap Entry.text? ∧
          "" ∉ (ofOperations operations i).lines.head? ∧
          ¬ ["", ""] <:+: (ofOperations operations i).lines) := by
  refine ⟨?_, fun h => ?_⟩
  · refine ofOperations_induction (p := fun _ => True)
      (r := fun d entries => d.notes = entries.filterMap Entry.note?) rfl ?_ ?_
      (fun _ _ _ => trivial) i
    · intro d entries e _ hnotes
      rw [notes_write, hnotes, List.filterMap_append]
    · intro d entries other others hnotes hothers
      rw [extend, hnotes, hothers, List.filterMap_append]
  · have hlines := ofOperations_induction
      (r := fun d entries => d.lines.filter (· ≠ "") = entries.filterMap Entry.text?) rfl
      (fun d entries e he hlines => ?_) (fun d entries other others hlines hothers => ?_) h i
    have hseparated := ofOperations_induction (r := fun d _ => Text.IsSeparated d.lines)
      Text.IsSeparated.nil (fun _ _ _ he hd => isSeparated_write hd he)
      (fun _ _ _ _ hd hother => hd.append hother) h i
    · exact ⟨hlines, hseparated.first, Text.isSpaced_iff.mp hseparated.isSpaced⟩
    · rw [filter_ne_empty_lines_write d he, hlines, List.filterMap_append]
    · rw [extend, List.filter_append, hlines, hothers, List.filterMap_append]

/-- A draft that ends with an empty line is extended by itself, and another one by it. -/
theorem spliced_drafts_stay_separated_at_seams :
    let operations : List (Operation (Fin 2)) :=
      [.write 0 (.line " vlan 10" "Creates it."), .write 0 .blank, .extend 0 0, .write 1 .blank,
        .write 1 (.comment "" "!"), .write 1 (.note "Ports."), .extend 1 0, .extend 0 1]
    ofOperations operations 0 =
        ⟨[" vlan 10", "", " vlan 10", "", "!", " vlan 10", "", " vlan 10", ""],
        ["`vlan 10`: Creates it.", "`vlan 10`: Creates it.", "Ports.", "`vlan 10`: Creates it.",
          "`vlan 10`: Creates it."]⟩ ∧
      (∀ target e, .write target e ∈ operations → ∀ line ∈ e.text?, line ≠ "") ∧
      ¬ ["", ""] <:+: (ofOperations operations 0).lines := by
  intro operations
  have hfilled : ∀ target e, .write target e ∈ operations → ∀ line ∈ e.text?, line ≠ "" := by
    intro target e he line hline
    simp only [operations, List.mem_cons, List.not_mem_nil, or_false, reduceCtorEq, false_or,
      Operation.write.injEq] at he
    obtain ⟨_, rfl⟩ | ⟨_, rfl⟩ | ⟨_, rfl⟩ | ⟨_, rfl⟩ | ⟨_, rfl⟩ := he
    · cases hline
      decide
    · cases hline
    · cases hline
    · cases hline
      decide
    · cases hline
  exact ⟨by decide +kernel, hfilled, ((spliced_drafts_stay_separated operations 0).2 hfilled).2.2⟩

end Family

end Draft
end Netscribe
