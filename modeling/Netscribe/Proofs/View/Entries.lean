import Netscribe.Proofs.Outcome
import Netscribe.Proofs.View.Blocks
import Netscribe.Script.Grouping
/-!
Entries that leave every view they enter. They are put together like the drafts that they are
entries of: a view is opened, filled and closed, and what is settled can stand next to each other.
-/
namespace Netscribe

open Text (IsOneLine isCommand isIndented opensCommand opensIndented)

section Text

variable {p : Prop} [Decidable p] {s t : String}

@[simp ↓]
theorem Text.opensIndented_ite :
    opensIndented (if p then s else t) ↔ (p → opensIndented s) ∧ (¬p → opensIndented t) := by
  split
  next hp => simp [hp]
  next hp => simp [hp]

@[simp ↓]
theorem Text.opensCommand_ite :
    opensCommand (if p then s else t) ↔ (p → opensCommand s) ∧ (¬p → opensCommand t) := by
  split
  next hp => simp [hp]
  next hp => simp [hp]

@[simp ↓]
theorem Text.opensIndented_textIf_append (hs : opensIndented s) (ht : opensIndented t) :
    opensIndented (textIf p s ++ t) := by
  rw [textIf]
  split
  · exact opensIndented_append t hs
  · rwa [String.empty_append]

@[simp ↓]
theorem Text.isOneLine_trimEnd (h : IsOneLine s) : IsOneLine (Text.trimEnd s) := h.trimEnd

@[simp ↓]
theorem View.isCommand_trimEnd_of_opens (h : opensCommand s) : isCommand (Text.trimEnd s) :=
  View.isCommand_trimEnd (Text.isCommand_of_opensCommand h)

end Text

namespace Entry

/-- An entry that can stand within a view: what it writes is indented. -/
def IsInside (e : Entry) : Prop := ∀ line ∈ e.text?, IsOneLine line ∧ isIndented line

/-- An entry at the outermost level that a device ignores: what it writes is a comment. -/
def IsAside (e : Entry) : Prop := ∀ line ∈ e.text?, IsOneLine line ∧ Text.startsRemark line

/-- A command at the outermost level other than the closing ones. -/
def IsCommand (e : Entry) : Prop := ∃ line, e.text? = some line ∧ IsOneLine line ∧ isCommand line

/-- An entry at the outermost level that closes nothing. -/
def IsOuter (e : Entry) : Prop := e.IsAside ∨ e.IsCommand

@[simp]
theorem isInside_blank : blank.IsInside := fun _ h => nomatch h

@[simp]
theorem isInside_note (text : String) : (note text).IsInside := fun _ h => nomatch h

@[simp ↓]
theorem isInside_command (text why : String) :
    (command text why).IsInside ↔ IsOneLine text ∧ isIndented text := by
  simp [IsInside]

@[simp ↓]
theorem isCommand_command (text why : String) :
    (command text why).IsCommand ↔ IsOneLine text ∧ isCommand text := by
  simp [IsCommand]

@[simp]
theorem isAside_blank : blank.IsAside := fun _ h => nomatch h

@[simp]
theorem isAside_note (text : String) : (note text).IsAside := fun _ h => nomatch h

/-- A comment is one line exactly if its marker and its text are. -/
theorem isOneLine_commentLine {text marker : String} :
    IsOneLine (Draft.commentLine marker text) ↔ IsOneLine marker ∧ IsOneLine text := by
  have hempty : IsOneLine "" := by decide
  have hblank : IsOneLine " " := by decide
  rw [Draft.commentLine]
  split
  next h => rw [h, and_iff_left hempty]
  next =>
    rw [Text.isOneLine_append, Text.isOneLine_append]
    exact and_congr_left fun _ => and_iff_left hblank

/-- A comment starts with its marker. -/
theorem hasStart_commentLine (marker text : String) :
    Text.hasStart marker (Draft.commentLine marker text) := by
  rw [Draft.commentLine]
  split
  · exact Text.hasStart_self marker
  · simp only [String.append_assoc]
    exact Text.hasStart_append marker _

/-- A comment begins as its marker does. -/
theorem any_head?_commentLine {p : Char → Bool} {marker : String} (text : String)
    (h : marker.toList.head?.any p) : (Draft.commentLine marker text).toList.head?.any p := by
  rw [Draft.commentLine]
  split
  · exact h
  · exact Text.any_head?_append (Text.any_head?_append h _) _

/-- A comment stands aside if its marker makes a remark. -/
theorem isAside_comment {marker : String} (text : String) (h : Text.startsRemark marker) :
    (comment text marker).IsAside ↔ IsOneLine marker ∧ IsOneLine text := by
  have hstart : Text.startsRemark (Draft.commentLine marker text) := any_head?_commentLine text h
  simp [IsAside, text?, isOneLine_commentLine, hstart]

@[simp ↓]
theorem isAside_remark (text : String) : (remark text).IsAside ↔ IsOneLine text := by
  rw [remark, isAside_comment text (by decide)]
  exact and_iff_right (by decide)

@[simp]
theorem isOuter_blank : blank.IsOuter := .inl isAside_blank

@[simp ↓]
theorem isOuter_remark (text : String) : (remark text).IsOuter ↔ IsOneLine text := by
  rw [IsOuter, isAside_remark, or_iff_left_of_imp]
  rintro ⟨line, hline, honeLine, _⟩
  obtain rfl : Draft.commentLine "#" text = line := Option.some.inj hline
  exact (isOneLine_commentLine.mp honeLine).2

@[simp ↓]
theorem isOuter_command {text : String} (why : String) (h : opensCommand text) :
    (command text why).IsOuter ↔ IsOneLine text := by
  rw [IsOuter, isCommand_command, and_iff_left (Text.isCommand_of_opensCommand h),
    or_iff_right_of_imp]
  exact fun haside => (haside text rfl).1

@[simp ↓]
theorem isOuter_command_trimEnd {text : String} (why : String) (h : opensCommand text)
    (hline : IsOneLine text) : (command (Text.trimEnd text) why).IsOuter := by
  rw [IsOuter, isCommand_command]
  exact .inr ⟨hline.trimEnd, View.isCommand_trimEnd_of_opens h⟩

/-- The comments within views are written with a blank in front. -/
@[simp ↓]
theorem isInside_comment (text : String) : (comment text " #").IsInside ↔ IsOneLine text := by
  have hstart : isIndented (Draft.commentLine " #" text) := any_head?_commentLine text (by decide)
  have hmarker : IsOneLine " #" := by decide
  simp [IsInside, text?, isOneLine_commentLine, hstart, hmarker]

@[simp ↓]
theorem isInside_ite {p : Prop} [Decidable p] {e other : Entry} :
    (if p then e else other).IsInside ↔ (p → e.IsInside) ∧ (¬p → other.IsInside) := by
  split
  next hp => simp [hp]
  next hp => simp [hp]

end Entry

/-- A numbered item is an item. -/
theorem mem_of_mem_numbered {α : Type} {start : Nat} {xs : List α} {numberedItem : Nat × α}
    (h : numberedItem ∈ numbered start xs) : numberedItem.2 ∈ xs := by
  obtain ⟨i, hi, rfl⟩ := List.mem_mapIdx.mp h
  exact List.getElem_mem hi

/-- The lines that entries write of their own. -/
def written (entries : List Entry) : List String := entries.filterMap Entry.text?

/-- Entries that can stand within a view. -/
def AreInside (entries : List Entry) : Prop := ∀ e ∈ entries, e.IsInside

/-- Entries that stand at the outermost level and close nothing. -/
def AreOuter (entries : List Entry) : Prop := ∀ e ∈ entries, e.IsOuter

/-- Entries that open a view, maybe after comments, and fill it. -/
def Opens : List Entry → Prop
  | [] => False
  | e :: rest => e.IsAside ∧ Opens rest ∨ e.IsCommand ∧ AreInside rest

/-- Entries that write single lines, none of them empty, and leave no view open. -/
structure Settled (vendor : Vendor) (entries : List Entry) : Prop where
  isLine : ∀ line ∈ written entries, IsOneLine line ∧ line ≠ ""
  settles : View.Settles vendor false (written entries)

section Inside

variable {α : Type} {p : Prop} [Decidable p] {e : Entry} {entries rest before after : List Entry}

@[simp ↓]
theorem areInside_nil : AreInside [] := fun _ h => nomatch h

@[simp ↓]
theorem areInside_cons : AreInside (e :: rest) ↔ e.IsInside ∧ AreInside rest := List.forall_mem_cons

@[simp ↓]
theorem areInside_append : AreInside (before ++ after) ↔ AreInside before ∧ AreInside after :=
  List.forall_mem_append

@[simp ↓]
theorem areInside_ite :
    AreInside (if p then before else after) ↔ (p → AreInside before) ∧ (¬p → AreInside after) := by
  split
  next hp => simp [hp]
  next hp => simp [hp]

@[simp ↓]
theorem areInside_onlyIf : AreInside (onlyIf p entries) ↔ (p → AreInside entries) := by
  rw [onlyIf, areInside_ite, and_iff_left fun _ => areInside_nil]

/-- The entries for each item are inside a view, if each of them is. -/
theorem AreInside.flatMap {f : α → List Entry} {xs : List α} (h : ∀ x ∈ xs, AreInside (f x)) :
    AreInside (xs.flatMap f) := by
  intro e he
  obtain ⟨x, hx, he⟩ := List.mem_flatMap.mp he
  exact h x hx e he

/-- An entry for each item is inside a view, if each of them is. -/
theorem AreInside.map {f : α → Entry} {xs : List α} (h : ∀ x ∈ xs, (f x).IsInside) :
    AreInside (xs.map f) := List.forall_mem_map.mpr h

/-- Blocks are inside a view, if each of them is. -/
theorem AreInside.flatten {blocks : List (List Entry)} (h : ∀ block ∈ blocks, AreInside block) :
    AreInside blocks.flatten := by
  intro e he
  obtain ⟨block, hblock, he⟩ := List.mem_flatten.mp he
  exact h block hblock e he

end Inside

section Outer

variable {α : Type} {p : Prop} [Decidable p] {e : Entry} {entries rest before after : List Entry}

@[simp ↓]
theorem areOuter_nil : AreOuter [] := fun _ h => nomatch h

@[simp ↓]
theorem areOuter_cons : AreOuter (e :: rest) ↔ e.IsOuter ∧ AreOuter rest := List.forall_mem_cons

@[simp ↓]
theorem areOuter_append : AreOuter (before ++ after) ↔ AreOuter before ∧ AreOuter after :=
  List.forall_mem_append

@[simp ↓]
theorem areOuter_ite :
    AreOuter (if p then before else after) ↔ (p → AreOuter before) ∧ (¬p → AreOuter after) := by
  split
  next hp => simp [hp]
  next hp => simp [hp]

@[simp ↓]
theorem areOuter_onlyIf : AreOuter (onlyIf p entries) ↔ (p → AreOuter entries) := by
  rw [onlyIf, areOuter_ite, and_iff_left fun _ => areOuter_nil]

/-- The entries for each item are outer ones, if each of them is. -/
theorem AreOuter.flatMap {f : α → List Entry} {xs : List α} (h : ∀ x ∈ xs, AreOuter (f x)) :
    AreOuter (xs.flatMap f) := by
  intro e he
  obtain ⟨x, hx, he⟩ := List.mem_flatMap.mp he
  exact h x hx e he

/-- Blocks are outer ones, if each of them is. -/
theorem AreOuter.flatten {blocks : List (List Entry)} (h : ∀ block ∈ blocks, AreOuter block) :
    AreOuter blocks.flatten := by
  intro e he
  obtain ⟨block, hblock, he⟩ := List.mem_flatten.mp he
  exact h block hblock e he

/-- An entry for each item is an outer one, if each of them is. -/
theorem AreOuter.map {f : α → Entry} {xs : List α} (h : ∀ x ∈ xs, (f x).IsOuter) :
    AreOuter (xs.map f) := List.forall_mem_map.mpr h

end Outer

section Opens

variable {e : Entry} {entries rest before after : List Entry}

/-- What opens a view may go on inside it. -/
theorem Opens.append (h : Opens entries) (hrest : AreInside rest) : Opens (entries ++ rest) := by
  induction entries with
  | nil => exact absurd h id
  | cons e more ih =>
    exact h.imp (And.imp_right ih) (And.imp_right fun hmore => areInside_append.mpr ⟨hmore, hrest⟩)

/-- A command opens a view for what is inside. -/
theorem Opens.of_command (he : e.IsCommand) (h : AreInside rest) : Opens (e :: rest) :=
  .inr ⟨he, h⟩

@[simp ↓]
theorem opens_nil_append : Opens ([] ++ after) ↔ Opens after := Iff.rfl

@[simp ↓]
theorem opens_cons_append : Opens ((e :: rest) ++ after) ↔ Opens (e :: (rest ++ after)) := Iff.rfl

@[simp ↓]
theorem opens_append_append :
    Opens (before ++ after ++ rest) ↔ Opens (before ++ (after ++ rest)) := by
  rw [List.append_assoc]

@[simp ↓]
theorem opens_blank : Opens (.blank :: rest) ↔ Opens rest := by
  simp [Opens, Entry.IsCommand, Entry.text?]

@[simp ↓]
theorem opens_remark {text : String} :
    Opens (remark text :: rest) ↔ IsOneLine text ∧ Opens rest := by
  have hnot : ¬ (remark text).IsCommand := by
    rintro ⟨line, hline, _, hcommand⟩
    obtain rfl : Draft.commentLine "#" text = line := Option.some.inj hline
    refine View.not_isAside_of_isCommand hcommand (.inr ?_)
    exact Entry.any_head?_commentLine text (by decide)
  simp [Opens, hnot]

@[simp ↓]
theorem opens_command {text : String} (why : String) (h : opensCommand text) :
    Opens (command text why :: rest) ↔ IsOneLine text ∧ AreInside rest := by
  have hcommand := Text.isCommand_of_opensCommand h
  have hnot : ¬ (command text why).IsAside := by
    intro haside
    exact View.not_isAside_of_isCommand hcommand (.inr (haside text rfl).2)
  simp [Opens, hnot, hcommand]

end Opens

section Settled

variable {α : Type} {vendor : Vendor} {e : Entry} {before after entries rest : List Entry}

/-- Both parts are written in order. -/
theorem written_append (before after : List Entry) :
    written (before ++ after) = written before ++ written after := List.filterMap_append

/-- An entry without a line writes nothing. -/
theorem written_cons_of_none (he : e.text? = none) (rest : List Entry) :
    written (e :: rest) = written rest := List.filterMap_cons_none he

/-- An entry with a line writes it first. -/
theorem written_cons_of_some {line : String} (he : e.text? = some line) (rest : List Entry) :
    written (e :: rest) = line :: written rest := List.filterMap_cons_some he

private theorem forall_mem_written_of_areInside (h : AreInside entries) :
    ∀ line ∈ written entries, IsOneLine line ∧ isIndented line := by
  intro line hline
  obtain ⟨e, he, htext⟩ := List.mem_filterMap.mp hline
  exact h e he line htext

namespace Settled

theorem nil : Settled vendor [] := ⟨fun _ h => (nomatch h), trivial⟩

/-- Settled entries may follow one another. -/
theorem append (hbefore : Settled vendor before) (hafter : Settled vendor after) :
    Settled vendor (before ++ after) := by
  constructor
  · rw [written_append]
    exact List.forall_mem_append.mpr ⟨hbefore.isLine, hafter.isLine⟩
  · rw [written_append]
    exact hbefore.settles.append hafter.settles

/-- An entry that stands aside may come first. -/
theorem cons_aside (he : e.IsAside) (h : Settled vendor rest) : Settled vendor (e :: rest) := by
  cases htext : e.text? with
  | none =>
    have hwritten := written_cons_of_none htext rest
    exact ⟨hwritten ▸ h.isLine, hwritten ▸ h.settles⟩
  | some line =>
    obtain ⟨hline, hremark⟩ := he line htext
    have hwritten := written_cons_of_some htext rest
    refine ⟨?_, ?_⟩
    · rw [hwritten]
      exact List.forall_mem_cons.mpr ⟨⟨hline, Text.ne_empty_of_any_head? hremark⟩, h.isLine⟩
    · rw [hwritten]
      exact .inl ⟨.inr hremark, h.settles⟩

/-- A command outside every view may come first. -/
theorem cons_command (he : e.IsCommand) (h : Settled vendor rest) :
    Settled vendor (e :: rest) := by
  obtain ⟨line, htext, hline, hcommand⟩ := he
  have hwritten := written_cons_of_some htext rest
  refine ⟨?_, ?_⟩
  · rw [hwritten]
    exact List.forall_mem_cons.mpr ⟨⟨hline, Text.ne_empty_of_isCommand hcommand⟩, h.isLine⟩
  · rw [hwritten]
    exact .inr ⟨hcommand, .inl h.settles⟩

/-- The closing command after a view that was opened and filled. -/
theorem close (hopens : Opens entries) (h : Settled vendor rest) (why : String) :
    Settled vendor (entries ++ command vendor.closer why :: rest) := by
  induction entries with
  | nil => exact absurd hopens id
  | cons e more ih =>
    obtain ⟨he, hmore⟩ | ⟨⟨line, htext, hline, hcommand⟩, hmore⟩ := hopens
    · exact (ih hmore).cons_aside he
    · have hinside := forall_mem_written_of_areInside hmore
      have hcloser : IsOneLine vendor.closer ∧ vendor.closer ≠ "" := by cases vendor <;> decide
      have hwritten : written (e :: more ++ command vendor.closer why :: rest) =
          line :: (written more ++ vendor.closer :: written rest) := by
        rw [List.cons_append, written_cons_of_some htext, written_append,
          written_cons_of_some (text?_command _ _)]
      refine ⟨?_, ?_⟩
      · rw [hwritten]
        refine List.forall_mem_cons.mpr ⟨⟨hline, Text.ne_empty_of_isCommand hcommand⟩,
          List.forall_mem_append.mpr ⟨?_, ?_⟩⟩
        · exact fun line hline =>
            (hinside line hline).imp_right Text.ne_empty_of_any_head?
        · exact List.forall_mem_cons.mpr ⟨hcloser, h.isLine⟩
      · rw [hwritten]
        refine .inr ⟨hcommand, .inr (View.Settles.inside_append ?_ (.inr ⟨rfl, h.settles⟩))⟩
        exact fun line hline => .inr (hinside line hline).2

/-- A view that is opened, filled and closed. -/
theorem block (hopens : Opens entries) : Settled vendor (entries ++ [command vendor.closer]) :=
  close hopens nil ""

/-- The entries for each item are settled, if each of them is. -/
theorem flatMap {f : α → List Entry} {xs : List α} (h : ∀ x ∈ xs, Settled vendor (f x)) :
    Settled vendor (xs.flatMap f) := by
  induction xs with
  | nil => exact nil
  | cons x xs ih =>
    obtain ⟨hx, hxs⟩ := List.forall_mem_cons.mp h
    rw [List.flatMap_cons]
    exact hx.append (ih hxs)

/-- Blocks are settled, if each of them is. -/
theorem flatten {blocks : List (List Entry)} (h : ∀ block ∈ blocks, Settled vendor block) :
    Settled vendor blocks.flatten := by
  rw [← List.flatMap_id]
  exact flatMap h

/-- Where nothing is closed, nothing needs to have been opened. -/
theorem of_areOuter (h : AreOuter entries) : Settled vendor entries := by
  induction entries with
  | nil => exact nil
  | cons e rest ih =>
    obtain ⟨haside | hcommand, hrest⟩ := List.forall_mem_cons.mp h
    · exact (ih hrest).cons_aside haside
    · exact (ih hrest).cons_command hcommand

/-- Entries with a condition are settled, if they are where it holds. -/
theorem onlyIf {p : Prop} [Decidable p] (h : p → Settled vendor entries) :
    Settled vendor (onlyIf p entries) := by
  rw [Netscribe.onlyIf]
  split
  next hp => exact h hp
  next => exact nil

private theorem remark {text : String} (htext : IsOneLine text) (h : Settled vendor rest) :
    Settled vendor (remark text :: rest) :=
  cons_aside ((Entry.isAside_comment text (by decide)).mpr ⟨by decide, htext⟩) h

/-- A title does not unsettle what stands under it. -/
theorem titled {title : String} (htitle : IsOneLine title) (h : Settled vendor entries) :
    Settled vendor (titled title entries) :=
  onlyIf fun _ => cons_aside Entry.isAside_blank (remark htitle h)

end Settled

end Settled

namespace Draft

private theorem filter_lines_write (d : Draft) (e : Entry) :
    (d.write e).lines.filter (!Text.allBlank ·) =
      d.lines.filter (!Text.allBlank ·) ++ (written [e]).filter (!Text.allBlank ·) := by
  cases e with
  | line text why => exact List.filter_append _ _
  | blank =>
    have hnothing : (written [Entry.blank]).filter (!Text.allBlank ·) = [] := rfl
    change d.blank.lines.filter _ = _
    rw [hnothing, List.append_nil, blank]
    split
    · rfl
    · rfl
    · rw [List.filter_append]
      exact List.append_nil _
  | comment text marker => exact List.filter_append _ _
  | note text =>
    have hnothing : (written [Entry.note text]).filter (!Text.allBlank ·) = [] := rfl
    change (d.note text).lines.filter _ = _
    rw [hnothing, List.append_nil, note]
    split <;> rfl

/-- Blank ones apart, the lines of a draft are those that its entries write. -/
theorem filter_lines_ofEntries (entries : List Entry) :
    (ofEntries entries).lines.filter (!Text.allBlank ·) =
      (written entries).filter (!Text.allBlank ·) := by
  have hfoldl (d : Draft) : (entries.foldl write d).lines.filter (!Text.allBlank ·) =
      d.lines.filter (!Text.allBlank ·) ++ (written entries).filter (!Text.allBlank ·) := by
    induction entries generalizing d with
    | nil => exact (List.append_nil _).symm
    | cons e rest ih =>
      have hcons : written (e :: rest) = written [e] ++ written rest :=
        written_append [e] rest
      rw [List.foldl_cons, ih, filter_lines_write, hcons, List.filter_append, List.append_assoc]
  exact hfoldl {}

private theorem forall_mem_lines_write {d : Draft} {e : Entry}
    (hd : ∀ line ∈ d.lines, IsOneLine line)
    (he : ∀ line ∈ e.text?, IsOneLine line) : ∀ line ∈ (d.write e).lines, IsOneLine line := by
  have hadd {line : String} (hline : IsOneLine line) :
      ∀ other ∈ d.lines ++ [line], IsOneLine other :=
    List.forall_mem_append.mpr ⟨hd, List.forall_mem_singleton.mpr hline⟩
  cases e with
  | line text why => exact hadd (he text rfl)
  | blank =>
    change ∀ line ∈ d.blank.lines, IsOneLine line
    rw [blank]
    split
    · exact hd
    · exact hd
    · exact hadd (by decide)
  | comment text marker => exact hadd (he _ rfl)
  | note text =>
    change ∀ line ∈ (d.note text).lines, IsOneLine line
    rw [note]
    split <;> exact hd

private theorem forall_mem_lines_ofEntries {entries : List Entry}
    (h : ∀ line ∈ written entries, IsOneLine line) :
    ∀ line ∈ (ofEntries entries).lines, IsOneLine line := by
  have hfoldl {d : Draft} (hd : ∀ line ∈ d.lines, IsOneLine line) :
      ∀ line ∈ (entries.foldl write d).lines, IsOneLine line := by
    induction entries generalizing d with
    | nil => exact hd
    | cons e rest ih =>
      have hcons : written (e :: rest) = written [e] ++ written rest := written_append [e] rest
      rw [hcons, List.forall_mem_append] at h
      refine ih h.2 (forall_mem_lines_write hd fun line hline => h.1 line ?_)
      exact List.mem_filterMap.mpr ⟨e, List.mem_cons_self, hline⟩
  exact hfoldl fun _ hline => nomatch hline

/-- The body has the lines of the draft but for blank ones. -/
theorem filter_body (d : Draft) :
    d.body.filter (!Text.allBlank ·) = d.lines.filter (!Text.allBlank ·) := by
  have hdrop (lines : List String) : (lines.dropWhile Text.allBlank).filter (!Text.allBlank ·) =
      lines.filter (!Text.allBlank ·) := by
    induction lines with
    | nil => rfl
    | cons line rest ih =>
      cases hline : Text.allBlank line with
      | true => rw [List.dropWhile_cons_of_pos hline, List.filter_cons_of_neg (by simp [hline]), ih]
      | false => rw [List.dropWhile_cons_of_neg (by simp [hline])]
  rw [body, List.filter_reverse, hdrop, ← List.filter_reverse, List.reverse_reverse, hdrop]

/-- What is read off lines that show, one by one, is read off what the entries write. -/
theorem filterMap_body {α : Type} {read : String → Option α}
    (hblank : ∀ line, Text.allBlank line → read line = none) (entries : List Entry) :
    (ofEntries entries).body.filterMap read = (written entries).filterMap read := by
  have hfilter (lines : List String) :
      (lines.filter (!Text.allBlank ·)).filterMap read = lines.filterMap read := by
    rw [List.filterMap_filter]
    refine List.filterMap_congr fun line _ => ?_
    cases hline : Text.allBlank line with
    | true => exact (hblank line hline).symm
    | false => rfl
  rw [← hfilter, filter_body, filter_lines_ofEntries, hfilter]

/-- The lines of a kind that shows are those that the entries write. -/
theorem filter_body_of_allBlank {p : String → Bool}
    (hblank : ∀ line, Text.allBlank line → p line = false) (entries : List Entry) :
    (ofEntries entries).body.filter p = (written entries).filter p := by
  have hnone (line : String) (hline : Text.allBlank line) : Option.guard p line = none :=
    Option.guard_eq_none_iff.mpr (hblank line hline)
  rw [← List.filterMap_eq_filter]
  exact filterMap_body hnone entries

private theorem isPrefix_body (d : Draft) : d.body <+: d.lines.dropWhile Text.allBlank :=
  List.rdropWhile_prefix _ _

/-- A line of the body is a line of the draft. -/
theorem mem_lines_of_mem_body {d : Draft} {line : String} (h : line ∈ d.body) : line ∈ d.lines :=
  (List.dropWhile_sublist _).mem (d.isPrefix_body.subset h)

/-- The body of entries that write single lines has single lines. -/
theorem forall_mem_body_ofEntries {entries : List Entry}
    (h : ∀ line ∈ written entries, IsOneLine line) :
    ∀ line ∈ (ofEntries entries).body, IsOneLine line :=
  fun line hline => forall_mem_lines_ofEntries h line (mem_lines_of_mem_body hline)

/-- The body does not begin with a blank line. -/
theorem allBlank_of_head?_body {d : Draft} {line : String} (h : line ∈ d.body.head?) :
    Text.allBlank line = false := by
  have hhead := List.head?_dropWhile_not Text.allBlank d.lines
  obtain ⟨dropped, hdropped⟩ := d.isPrefix_body
  rw [← hdropped, List.head?_append, h] at hhead
  simpa using hhead

/-- The body does not end with a blank line. -/
theorem allBlank_of_getLast?_body {d : Draft} {line : String} (h : line ∈ d.body.getLast?) :
    Text.allBlank line = false := by
  rw [body, List.getLast?_reverse] at h
  have hhead := List.head?_dropWhile_not Text.allBlank (d.lines.dropWhile Text.allBlank).reverse
  rw [h] at hhead
  simpa using hhead

/-- Entries that write lines which are not empty give a block with no two empty lines in a row. -/
theorem isSpaced_block {entries : List Entry} {title : String} (htitle : IsOneLine title)
    (h : ∀ line ∈ written entries, IsOneLine line ∧ line ≠ "") :
    Text.IsSpaced (Text.splitOn '\n' (Section.block title (ofEntries entries).text)) := by
  have hspaced : Text.IsSpaced (ofEntries entries).lines :=
    isSpaced_ofEntries fun e he line hline => (h line (List.mem_filterMap.mpr ⟨e, he, hline⟩)).2
  have hbody : (ofEntries entries).body <:+: (ofEntries entries).lines :=
    (isPrefix_body _).isInfix.trans (List.dropWhile_suffix _).isInfix
  exact View.isSpaced_block title htitle
    (forall_mem_body_ofEntries fun line hline => (h line hline).1) (hspaced.of_infix hbody)
    (fun line => allBlank_of_head?_body) fun line => allBlank_of_getLast?_body

end Draft

/-- A fragment of which every headed block leaves every view before the next command, and has no
    two empty lines in a row. -/
structure Fragment.IsTidy (vendor : Vendor) (f : Fragment) : Prop where
  leavesViews : ∀ title, IsOneLine title →
    LeavesViews vendor.closer (Text.shownLines (Section.block title f.cli))
  isSpaced : ∀ title, IsOneLine title →
    Text.IsSpaced (Text.splitOn '\n' (Section.block title f.cli))

/-- The body of settled entries has single lines. -/
theorem Settled.isOneLine_of_mem_body {vendor : Vendor} {entries : List Entry}
    (h : Settled vendor entries) : ∀ line ∈ (Draft.ofEntries entries).body, IsOneLine line :=
  Draft.forall_mem_body_ofEntries fun line hline => (h.isLine line hline).1

/-- The body of settled entries is settled. -/
theorem Settled.settles_body {vendor : Vendor} {entries : List Entry} (h : Settled vendor entries) :
    View.Settles vendor false (Draft.ofEntries entries).body := by
  refine View.Settles.of_filter ?_
  rw [Draft.filter_body, Draft.filter_lines_ofEntries]
  refine h.settles.filter fun line hline => View.isSilent_of_allBlank ?_
  simpa using hline

/-- The commands of settled entries are tidy. -/
theorem Settled.isTidy_build {vendor : Vendor} {entries : List Entry}
    (h : Settled vendor entries) (summary : String) :
    ((Draft.ofEntries entries).build summary).IsTidy vendor where
  leavesViews _ htitle := View.leavesViews_block _ htitle h.isOneLine_of_mem_body h.settles_body
    (fun _ => Draft.allBlank_of_head?_body) fun _ => Draft.allBlank_of_getLast?_body
  isSpaced _ htitle := Draft.isSpaced_block htitle h.isLine

/-- No command at all is tidy. -/
theorem Fragment.isTidy_nothing (vendor : Vendor) (reason : String) :
    (Fragment.nothing reason).IsTidy vendor where
  leavesViews _ _ := by
    have hblank : View.Settles vendor false [""] := .inl ⟨.inl rfl, trivial⟩
    exact View.leavesViews_of_settles hblank
  isSpaced _ _ := Text.isSpaced_singleton ""

section Unsupported

variable {feature name : String}

/-- The comment on what is not supported is one line. -/
theorem Fragment.isOneLine_unsupported (hfeature : IsOneLine feature) (hname : IsOneLine name) :
    IsOneLine (Fragment.unsupported feature name).cli := by
  change IsOneLine s!"# {feature} for {name} is not supported."
  simp +decide [hfeature, hname]

/-- The comment on what is not supported is a remark. -/
theorem Fragment.startsRemark_unsupported (feature name : String) :
    Text.startsRemark (Fragment.unsupported feature name).cli :=
  Text.startsRemark_append (Text.startsRemark_append (Text.startsRemark_append
    (Text.startsRemark_append (by decide) _) _) _) _

/-- The name of a vendor is one line. -/
theorem Vendor.isOneLine_name (vendor : Vendor) : IsOneLine vendor.name := by
  cases vendor <;> decide

/-- A comment leaves every view, there being none to leave. -/
theorem Fragment.isTidy_unsupported (vendor : Vendor) (hfeature : IsOneLine feature)
    (hname : IsOneLine name) : (Fragment.unsupported feature name).IsTidy vendor where
  leavesViews _ htitle := View.leavesViews_remark htitle (isOneLine_unsupported hfeature hname)
    (startsRemark_unsupported feature name)
  isSpaced _ htitle := View.isSpaced_remark htitle (isOneLine_unsupported hfeature hname)
    (startsRemark_unsupported feature name)

end Unsupported

/-- The commands of settled entries are tidy, or there are none. -/
theorem Settled.isTidy_ofEntries {vendor : Vendor} {entries : List Entry}
    (h : Settled vendor entries) (summary absent : String) :
    (Fragment.ofEntries entries summary absent).IsTidy vendor := by
  rw [Fragment.ofEntries]
  split
  · exact Fragment.isTidy_nothing vendor absent
  · exact h.isTidy_build summary

end Netscribe
