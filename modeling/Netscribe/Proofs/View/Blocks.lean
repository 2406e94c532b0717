import Netscribe.Proofs.Script.Spacing
import Netscribe.Proofs.View.Lines
import Netscribe.Script.Section
/-!
From lines that leave every view to the headed blocks of a script. Drafts put empty lines between
lines and drop those at the ends, and a block drops blanks at both ends of its text; neither changes
which views are entered and left.
-/
namespace Netscribe

namespace Text

/-- What is not blank keeps a character when its end is trimmed. -/
theorem trimEnd_ne_empty {s : String} (h : allBlank s = false) : (trimEnd s).toList ≠ [] := by
  rw [toList_trimEnd, ne_eq, List.rdropWhile_eq_nil_iff]
  simpa [allBlank] using h

/-- What is not blank keeps its first character when its end is trimmed. -/
theorem head?_trimEnd {s : String} (h : allBlank s = false) :
    (trimEnd s).toList.head? = s.toList.head? := by
  obtain ⟨dropped, hdropped⟩ := List.rdropWhile_prefix isBlank s.toList
  have hne := trimEnd_ne_empty h
  rw [toList_trimEnd] at hne ⊢
  obtain ⟨c, kept, hkept⟩ := List.exists_cons_of_ne_nil hne
  rw [hkept] at hdropped ⊢
  rw [← hdropped, List.cons_append, List.head?_cons, List.head?_cons]

private theorem hasStart_of_hasStart_trimEnd {start s : String} (h : hasStart start (trimEnd s)) :
    hasStart start s := by
  rw [hasStart, List.isPrefixOf_iff_prefix, toList_trimEnd] at h
  rw [hasStart, List.isPrefixOf_iff_prefix]
  exact h.trans (List.rdropWhile_prefix _ _)

/-- The last line of a text stands at its end. -/
theorem exists_toList_unlines_concat (front : List String) :
    ∃ before, ∀ line : String, (unlines (front ++ [line])).toList = before ++ line.toList := by
  by_cases hnil : front = []
  · exact ⟨[], fun line => by simp [hnil, unlines, join]⟩
  · refine ⟨(unlines front ++ "\n").toList, fun line => ?_⟩
    rw [unlines_append hnil (List.cons_ne_nil _ _), String.toList_append]
    simp [unlines, join]

/-- Only the last line of a text loses blanks at the end of the text. -/
theorem trim_unlines_concat {front : List String} {last : String}
    (hstart : startsSolid (unlines (front ++ [last]))) (hlast : allBlank last = false) :
    trim (unlines (front ++ [last])) = unlines (front ++ [trimEnd last]) := by
  obtain ⟨before, hbefore⟩ := exists_toList_unlines_concat front
  have hdrop : (unlines (front ++ [last])).toList.dropWhile isBlank =
      (unlines (front ++ [last])).toList := by
    unfold startsSolid at hstart
    cases htext : (unlines (front ++ [last])).toList with
    | nil => rfl
    | cons c rest =>
      rw [htext, List.head?_cons, Option.any_some] at hstart
      exact List.dropWhile_cons_of_neg (by simpa using hstart)
  have hkept : last.toList.reverse.dropWhile isBlank ≠ [] := by
    intro hnil
    refine trimEnd_ne_empty hlast ?_
    rw [toList_trimEnd, List.rdropWhile, hnil]
    rfl
  rw [trim, trimChars_eq_rdropWhile, hdrop, ← String.toList_inj, String.toList_ofList, hbefore,
    hbefore, toList_trimEnd, List.rdropWhile, List.reverse_append, List.dropWhile_append,
    if_neg (by simpa using hkept), List.reverse_append, List.reverse_reverse]
  rfl

end Text

namespace View

variable {vendor : Vendor}

/-- A command stays one when its end is trimmed. -/
theorem isCommand_trimEnd {line : String} (h : Text.isCommand line) :
    Text.isCommand (Text.trimEnd line) := by
  have hsolid := Text.allBlank_eq_false_of_startsSolid (startsSolid_of_isCommand h)
  have hstart {closing : String} (hnot : Text.hasStart closing line = false) :
      Text.hasStart closing (Text.trimEnd line) = false := by
    rw [Bool.eq_false_iff] at hnot ⊢
    exact fun hstart => hnot (Text.hasStart_of_hasStart_trimEnd hstart)
  simp only [Text.isCommand, Bool.and_eq_true, Bool.not_eq_true'] at h ⊢
  rw [Text.head?_trimEnd hsolid]
  exact ⟨⟨h.1.1, hstart h.1.2⟩, hstart h.2⟩

/-- A line stays indented when its end is trimmed. -/
theorem isIndented_trimEnd {line : String} (h : Text.isIndented line)
    (hshown : Text.allBlank line = false) : Text.isIndented (Text.trimEnd line) := by
  rwa [Text.isIndented, Text.head?_trimEnd hshown]

/-- Blanks at the end of the last line do not count. -/
theorem Settles.trimEnd_last {opened : Bool} {front : List String} {last : String}
    (h : Settles vendor opened (front ++ [last])) (hlast : Text.allBlank last = false) :
    Settles vendor opened (front ++ [Text.trimEnd last]) := by
  induction front generalizing opened with
  | cons line rest ih => exact h.cons fun _ => ih
  | nil =>
    cases opened with
    | false =>
      obtain ⟨haside, _⟩ | ⟨hcommand, hnone | hnone⟩ := h
      · refine .inl ⟨.inr ?_, trivial⟩
        rw [Text.startsRemark, Text.head?_trimEnd hlast]
        exact haside.resolve_left (by simp [hlast])
      · exact .inr ⟨isCommand_trimEnd hcommand, .inl trivial⟩
      · exact absurd hnone id
    | true =>
      obtain ⟨_, hnone⟩ | ⟨rfl, _⟩ := h
      · exact absurd hnone id
      · refine .inr ⟨?_, trivial⟩
        cases vendor <;> decide

/-- Lines that leave no view open start at the outermost level, if not with a blank line. -/
theorem Settles.startsSolid {line : String} {rest : List String}
    (h : Settles vendor false (line :: rest)) (hline : Text.allBlank line = false) :
    Text.startsSolid line := by
  obtain ⟨haside, _⟩ | ⟨hcommand, _⟩ := h
  · exact startsSolid_of_startsRemark (haside.resolve_left (by simp [hline]))
  · exact startsSolid_of_isCommand hcommand

/-- A heading is a remark. -/
theorem startsRemark_heading (title : String) :
    Text.startsRemark s!"! {title} Configuration" :=
  Text.startsRemark_append (Text.startsRemark_append (by decide) title) _

/-- The lines of a headed block are those of its heading and its own, of which only the last one
    loses blanks. -/
theorem splitOn_block {title last : String} {front : List String} (htitle : Text.IsOneLine title)
    (hlines : ∀ line ∈ front ++ [last], Text.IsOneLine line)
    (hstart : Text.startsSolid (Text.unlines (front ++ [last])))
    (hlast : Text.allBlank last = false) :
    Text.splitOn '\n' (Section.block title (Text.unlines (front ++ [last]))) =
      "!" :: s!"! {title} Configuration" :: "!" :: (front ++ [Text.trimEnd last]) := by
  have hblock : Section.block title (Text.unlines (front ++ [last])) =
      Text.unlines
        ("!" :: s!"! {title} Configuration" :: "!" :: (front ++ [Text.trimEnd last])) := by
    rw [Section.block, Text.allBlank_eq_false_of_startsSolid hstart, if_neg (by decide),
      Text.trim_unlines_concat hstart hlast, Text.unlines_cons (List.cons_ne_nil _ _),
      Text.unlines_cons (List.cons_ne_nil _ _), Text.unlines_cons (by simp), ← String.toList_inj]
    simp
    rfl
  have hheader : Text.IsOneLine s!"! {title} Configuration" :=
    Text.isOneLine_append.mpr ⟨Text.isOneLine_append.mpr ⟨by decide, htitle⟩, by decide⟩
  obtain ⟨hfront, hend⟩ := List.forall_mem_append.mp hlines
  have hfeeds : ∀ line ∈ "!" :: s!"! {title} Configuration" :: "!" ::
      (front ++ [Text.trimEnd last]), Text.IsOneLine line := by
    refine List.forall_mem_cons.mpr ⟨by decide, List.forall_mem_cons.mpr ⟨hheader,
      List.forall_mem_cons.mpr ⟨by decide, List.forall_mem_append.mpr ⟨hfront, ?_⟩⟩⟩⟩
    exact List.forall_mem_singleton.mpr (hend last List.mem_cons_self).trimEnd
  rw [hblock, Text.splitOn_unlines (List.cons_ne_nil _ _) hfeeds]

/-- A line of a headed block is an aside of its heading or a line of its own, of which only the last
    one loses blanks. -/
theorem exists_of_mem_splitOn_block {title line : String} {lines : List String}
    (htitle : Text.IsOneLine title) (hlines : ∀ line ∈ lines, Text.IsOneLine line)
    (hfirst : ∀ line ∈ lines.head?, Text.startsSolid line)
    (hlast : ∀ line ∈ lines.getLast?, Text.allBlank line = false)
    (h : line ∈ Text.splitOn '\n' (Section.block title (Text.unlines lines))) :
    IsAside line ∨ line ∈ lines ∨ ∃ last ∈ lines.getLast?, line = Text.trimEnd last := by
  obtain rfl | ⟨front, last, rfl⟩ := List.eq_nil_or_concat' lines
  · have hnothing : Text.splitOn '\n' (Section.block title (Text.unlines [])) = [""] := rfl
    rw [hnothing, List.mem_singleton] at h
    exact .inl (.inl (h ▸ rfl))
  have hstart : Text.startsSolid (Text.unlines (front ++ [last])) := by
    cases hsplit : front ++ [last] with
    | nil => simp at hsplit
    | cons first rest => exact Text.startsSolid_unlines (hfirst first (by rw [hsplit]; rfl)) rest
  rw [splitOn_block htitle hlines hstart (hlast last (by simp))] at h
  simp only [List.mem_cons, List.mem_append, List.not_mem_nil, or_false] at h
  obtain rfl | rfl | rfl | hfront | rfl := h
  · exact .inl (.inr rfl)
  · exact .inl (.inr (startsRemark_heading title))
  · exact .inl (.inr rfl)
  · exact .inr (.inl (List.mem_append_left _ hfront))
  · exact .inr (.inr ⟨last, by simp, rfl⟩)

private theorem heading_ne_empty (title : String) : s!"! {title} Configuration" ≠ "" :=
  Text.ne_empty_of_any_head? (startsRemark_heading title)

/-- A heading takes nothing from the spacing of the lines below it. -/
theorem isSpaced_block_concat {title last : String} {front : List String}
    (htitle : Text.IsOneLine title) (hlines : ∀ line ∈ front ++ [last], Text.IsOneLine line)
    (hspaced : Text.IsSpaced (front ++ [last]))
    (hstart : Text.startsSolid (Text.unlines (front ++ [last])))
    (hlast : Text.allBlank last = false) :
    Text.IsSpaced
      (Text.splitOn '\n' (Section.block title (Text.unlines (front ++ [last])))) := by
  rw [splitOn_block htitle hlines hstart hlast]
  refine .cons (by decide) (.cons (heading_ne_empty title) (.cons (by decide) ?_))
  refine (hspaced.of_infix (List.prefix_append _ _).isInfix).concat fun hempty => ?_
  exact Text.trimEnd_ne_empty hlast (by rw [hempty]; rfl)

/-- Blanks at the start of a text leave no trace in its block. -/
theorem block_append_left {blank : String} (h : Text.allBlank blank) (title cli : String) :
    Section.block title (blank ++ cli) = Section.block title cli := by
  rw [Section.block, Text.allBlank_append, h, Bool.true_and, Text.trim_append_left h]
  rfl

/-- The block of spaced lines is spaced, also where its first line loses the blanks before it. -/
theorem isSpaced_block {lines : List String} (title : String) (htitle : Text.IsOneLine title)
    (hlines : ∀ line ∈ lines, Text.IsOneLine line) (hspaced : Text.IsSpaced lines)
    (hfirst : ∀ line ∈ lines.head?, Text.allBlank line = false)
    (hlast : ∀ line ∈ lines.getLast?, Text.allBlank line = false) :
    Text.IsSpaced (Text.splitOn '\n' (Section.block title (Text.unlines lines))) := by
  by_cases hnil : lines = []
  · rw [hnil]
    exact Text.isSpaced_singleton ""
  obtain ⟨first, rest, rfl⟩ := List.exists_cons_of_ne_nil hnil
  obtain ⟨blank, kept, rfl, hblank, hkept⟩ := Text.exists_eq_append_startsSolid (hfirst first rfl)
  have hunlines :
      Text.unlines ((blank ++ kept) :: rest) = blank ++ Text.unlines (kept :: rest) := by
    by_cases hrest : rest = []
    · simp [hrest, Text.unlines, Text.join]
    · rw [Text.unlines_cons hrest, Text.unlines_cons hrest, String.append_assoc,
        String.append_assoc, String.append_assoc]
  have hkeptLines : ∀ line ∈ kept :: rest, Text.IsOneLine line := by
    obtain ⟨hline, hrest⟩ := List.forall_mem_cons.mp hlines
    exact List.forall_mem_cons.mpr ⟨(Text.isOneLine_append.mp hline).2, hrest⟩
  have hkeptSpaced : Text.IsSpaced (kept :: rest) :=
    .cons (Text.ne_empty_of_any_head? hkept) (hspaced.of_infix (List.suffix_cons _ _).isInfix)
  have hkeptShown := Text.allBlank_eq_false_of_startsSolid hkept
  have hkeptLast : ∀ line ∈ (kept :: rest).getLast?, Text.allBlank line = false := by
    cases rest with
    | nil => exact fun _ hline => Option.some.inj hline ▸ hkeptShown
    | cons next more => simpa using hlast
  have hstart := Text.startsSolid_unlines hkept rest
  rw [hunlines, block_append_left hblank]
  obtain ⟨front, last, hsplit⟩ : ∃ front last, kept :: rest = front ++ [last] :=
    (List.eq_nil_or_concat' _).resolve_left (List.cons_ne_nil _ _)
  rw [hsplit] at hkeptLines hkeptSpaced hkeptLast hstart ⊢
  exact isSpaced_block_concat htitle hkeptLines hkeptSpaced hstart (hkeptLast last (by simp))

/-- A headed block of lines that leave no view open leaves every view before the next command. -/
theorem leavesViews_block {lines : List String} (title : String) (htitle : Text.IsOneLine title)
    (hlines : ∀ line ∈ lines, Text.IsOneLine line) (h : Settles vendor false lines)
    (hfirst : ∀ line ∈ lines.head?, Text.allBlank line = false)
    (hlast : ∀ line ∈ lines.getLast?, Text.allBlank line = false) :
    LeavesViews vendor.closer (Text.shownLines (Section.block title (Text.unlines lines))) := by
  obtain rfl | ⟨front, last, rfl⟩ := List.eq_nil_or_concat' lines
  · have hnone : Settles vendor false [""] := .inl ⟨.inl rfl, trivial⟩
    exact leavesViews_of_settles hnone
  have hlastShown : Text.allBlank last = false := hlast last (by simp)
  have hstart : Text.startsSolid (Text.unlines (front ++ [last])) := by
    cases hsplit : front ++ [last] with
    | nil => simp at hsplit
    | cons line rest =>
      rw [hsplit] at h hfirst
      exact Text.startsSolid_unlines (h.startsSolid (hfirst line rfl)) rest
  have hheading : Settles vendor false
      ("!" :: s!"! {title} Configuration" :: "!" :: (front ++ [Text.trimEnd last])) :=
    .inl ⟨.inr rfl, .inl ⟨.inr (startsRemark_heading title),
      .inl ⟨.inr rfl, h.trimEnd_last hlastShown⟩⟩⟩
  rw [Text.shownLines, splitOn_block htitle hlines hstart hlastShown]
  exact leavesViews_of_settles hheading

/-- A comment leaves every view, there being none to leave. -/
theorem leavesViews_remark {title line : String} (htitle : Text.IsOneLine title)
    (hline : Text.IsOneLine line) (hremark : Text.startsRemark line) :
    LeavesViews vendor.closer (Text.shownLines (Section.block title line)) := by
  have hsolid := Text.allBlank_eq_false_of_startsSolid (startsSolid_of_startsRemark hremark)
  have hsettles : Settles vendor false [line] := .inl ⟨.inr hremark, trivial⟩
  have hblock : Text.unlines [line] = line := by simp [Text.unlines, Text.join]
  have hshown := leavesViews_block title htitle (List.forall_mem_singleton.mpr hline) hsettles
    (fun other hother => Option.some.inj hother ▸ hsolid)
    (fun other hother => Option.some.inj hother ▸ hsolid)
  rwa [hblock] at hshown

/-- The block of a single remark is spaced. -/
theorem isSpaced_remark {title line : String} (htitle : Text.IsOneLine title)
    (hline : Text.IsOneLine line) (hremark : Text.startsRemark line) :
    Text.IsSpaced (Text.splitOn '\n' (Section.block title line)) := by
  have hsolid := Text.allBlank_eq_false_of_startsSolid (startsSolid_of_startsRemark hremark)
  have hblock : Text.unlines [line] = line := by simp [Text.unlines, Text.join]
  have hspaced := isSpaced_block title htitle (List.forall_mem_singleton.mpr hline)
    (Text.isSpaced_singleton line)
    (fun other hother => Option.some.inj hother ▸ hsolid)
    (fun other hother => Option.some.inj hother ▸ hsolid)
  rwa [hblock] at hspaced

end View
end Netscribe
