import Netscribe.Proofs.Text.Pieces
/-!
Lines of a text as it was written: what was written as one line stays one, even if a line feed from
a setting stands in it. Where no written line holds one, the lines of the text are the written ones.
-/
namespace Netscribe.Text

/-- A text in which something was written as lines of their own, in the given order. -/
def HasLines (text : String) (lines : List String) : Prop :=
  ∃ all, text = unlines all ∧ lines.Sublist all

/-- A text in which something stands somewhere. -/
def HasPart (text part : String) : Prop := ∃ front rest, text = front ++ part ++ rest

/-- A text is a part of itself. -/
theorem hasPart_self (s : String) : HasPart s s := ⟨"", "", by simp⟩

/-- A part stays one behind a longer start. -/
theorem HasPart.append_left {s part : String} (h : HasPart s part) (start : String) :
    HasPart (start ++ s) part := by
  obtain ⟨front, rest, rfl⟩ := h
  exact ⟨start ++ front, rest, by simp only [String.append_assoc]⟩

/-- A part stays one before a longer end. -/
theorem HasPart.append_right {s part : String} (h : HasPart s part) (t : String) :
    HasPart (s ++ t) part := by
  obtain ⟨front, rest, rfl⟩ := h
  exact ⟨front, rest ++ t, by simp only [String.append_assoc]⟩

/-- Each line stands in the text. -/
theorem hasLines_of_mem {lines : List String} {line : String} (h : line ∈ lines) :
    HasLines (unlines lines) [line] :=
  ⟨lines, rfl, List.singleton_sublist.mpr h⟩

/-- Between two parts that have lines stands one line feed. -/
theorem unlines_append {before after : List String} (hbefore : before ≠ []) (hafter : after ≠ []) :
    unlines (before ++ after) = unlines before ++ "\n" ++ unlines after :=
  String.intercalate_append_of_ne_nil hbefore hafter

/-- A line feed goes behind each line but the last. -/
theorem unlines_cons {line : String} {rest : List String} (h : rest ≠ []) :
    unlines (line :: rest) = line ++ "\n" ++ unlines rest :=
  String.intercalate_cons_of_ne_nil h

/-- Pieces with an empty line between them. -/
theorem join_eq_unlines_intersperse (pieces : List String) :
    join "\n\n" pieces = unlines (pieces.intersperse "") := by
  induction pieces with
  | nil => rfl
  | cons piece rest ih =>
    cases rest with
    | nil => simp [unlines, join]
    | cons next rest =>
      have hne : (next :: rest).intersperse "" ≠ [] := by
        cases rest <;> simp
      rw [List.intersperse_cons_cons, unlines_cons (List.cons_ne_nil _ _), unlines_cons hne, ← ih,
        join, String.intercalate_cons_of_ne_nil (List.cons_ne_nil _ _), String.empty_append,
        ← String.append_assoc]
      simp only [join, String.append_assoc]
      rfl

/-- The lines keep their order between separators. -/
theorem sublist_intersperse (lines : List String) (separator : String) :
    lines.Sublist (lines.intersperse separator) := by
  induction lines with
  | nil => exact .slnil
  | cons line rest ih =>
    cases rest with
    | nil => exact .refl _
    | cons next rest =>
      rw [List.intersperse_cons_cons]
      exact (ih.cons separator).cons_cons line

/-- Lines without line feeds are what splitting at line feeds gives back. -/
theorem splitOn_unlines {lines : List String} (hne : lines ≠ [])
    (hfeeds : ∀ line ∈ lines, '\n' ∉ line.toList) : splitOn '\n' (unlines lines) = lines :=
  splitOn_join_of_not_mem rfl hne hfeeds

/-- Blank lines apart, this holds of no lines too. -/
theorem filter_splitOn_unlines {lines : List String}
    (hfeeds : ∀ line ∈ lines, '\n' ∉ line.toList) :
    (splitOn '\n' (unlines lines)).filter (!allBlank ·) = lines.filter (!allBlank ·) := by
  by_cases hnone : lines = []
  · rw [hnone]
    decide
  · rw [splitOn_unlines hnone hfeeds]

/-- A line feed separates the lines before it from those after it. -/
theorem splitOn_append_feed (s t : String) :
    splitOn '\n' (s ++ "\n" ++ t) = splitOn '\n' s ++ splitOn '\n' t := by
  have happend : (s ++ "\n" ++ t).toList = s.toList ++ '\n' :: t.toList := by simp
  rw [splitOn_eq_map, splitOn_eq_map, splitOn_eq_map, happend, ← List.map_append,
    List.splitOn_eq_splitOnP, List.splitOn_eq_splitOnP, List.splitOn_eq_splitOnP,
    List.splitOnP_append_cons _ _ (by decide)]

/-- The lines of joined texts are those of each of them. -/
theorem splitOn_unlines_eq_flatMap {texts : List String} (hne : texts ≠ []) :
    splitOn '\n' (unlines texts) = texts.flatMap (splitOn '\n') := by
  induction texts with
  | nil => exact absurd rfl hne
  | cons text rest ih =>
    by_cases hrest : rest = []
    · rw [hrest, List.flatMap_singleton]
      simp [unlines, join]
    · rw [unlines_cons hrest, splitOn_append_feed, ih hrest, List.flatMap_cons]

/-- Splitting gives one piece at least. -/
theorem splitOn_ne_nil (separator : Char) (s : String) : splitOn separator s ≠ [] := by
  rw [splitOn_eq_map, ne_eq, List.map_eq_nil_iff]
  exact List.splitOn_ne_nil separator s.toList

/-- Joining the lines of a text gives the text back. -/
theorem unlines_splitOn (s : String) : unlines (splitOn '\n' s) = s := join_splitOn rfl s

private theorem splitOn_join_cons (text : String) {rest : List String} (hrest : rest ≠ []) :
    splitOn '\n' (join "\n\n" (text :: rest)) =
      splitOn '\n' text ++ [""] ++ splitOn '\n' (join "\n\n" rest) := by
  have hnothing : splitOn '\n' "" = [""] := by decide
  have hjoin : join "\n\n" (text :: rest) = text ++ "\n" ++ "" ++ "\n" ++ join "\n\n" rest := by
    rw [join, String.intercalate_cons_of_ne_nil hrest, ← String.toList_inj]
    simp [join]
  rw [hjoin, splitOn_append_feed, splitOn_append_feed, hnothing]

/-- The lines of texts with an empty line between any two of them. -/
theorem splitOn_join {texts : List String} (hne : texts ≠ []) :
    splitOn '\n' (join "\n\n" texts) = [""].intercalate (texts.map (splitOn '\n')) := by
  induction texts with
  | nil => exact absurd rfl hne
  | cons text rest ih =>
    by_cases hrest : rest = []
    · simp [hrest, join]
    · rw [splitOn_join_cons text hrest, ih hrest, List.map_cons,
        List.intercalate_cons_of_ne_nil (by simpa using hrest)]

/-- What holds of empty lines and of every line of some texts holds of every line of the texts with
    empty lines between them. -/
theorem forall_mem_splitOn_join {q : String → Prop} (hempty : q "") (texts : List String) :
    (∀ line ∈ splitOn '\n' (join "\n\n" texts), q line) ↔
      ∀ text ∈ texts, ∀ line ∈ splitOn '\n' text, q line := by
  have hnothing : splitOn '\n' "" = [""] := by decide
  induction texts with
  | nil => simp [join, hnothing, hempty]
  | cons text rest ih =>
    by_cases hrest : rest = []
    · simp [hrest, join]
    · rw [splitOn_join_cons text hrest, List.forall_mem_append, List.forall_mem_append,
        List.forall_mem_singleton, and_iff_left hempty, List.forall_mem_cons]
      exact and_congr_right fun _ => ih

/-- What follows a text that starts as given. -/
def after? (start s : String) : Option String :=
  if hasStart start s then some (.ofList (s.toList.drop start.toList.length)) else none

/-- Whether two texts differ at a place that both have. -/
def diverge (s t : String) : Bool := !hasStart s t && !hasStart t s

/-- What is put in front is a start. -/
theorem hasStart_append (start s : String) : hasStart start (start ++ s) := by
  simp [hasStart]

/-- A start stays one before a longer end. -/
theorem hasStart_append_right {start s : String} (h : hasStart start s) (t : String) :
    hasStart start (s ++ t) := by
  rw [hasStart, List.isPrefixOf_iff_prefix] at h ⊢
  rw [String.toList_append]
  exact h.trans (List.prefix_append _ _)

/-- A text starts with itself. -/
theorem hasStart_self (s : String) : hasStart s s := by
  simp [hasStart]

/-- What something is found behind is a start. -/
theorem hasStart_of_after? {start s rest : String} (h : after? start s = some rest) :
    hasStart start s := by
  rw [after?] at h
  split at h
  next hstart => exact hstart
  next => cases h

/-- Behind the start comes what was put there. -/
theorem after?_append (start s : String) : after? start (start ++ s) = some s := by
  simp [after?, hasStart]

/-- What comes behind a start completes it. -/
theorem after?_eq_some_iff {start s rest : String} :
    after? start s = some rest ↔ s = start ++ rest := by
  constructor
  · intro h
    obtain ⟨behind, hbehind⟩ := List.isPrefixOf_iff_prefix.mp (hasStart_of_after? h)
    have hs : s = start ++ .ofList behind := by
      rw [← String.toList_inj, String.toList_append, String.toList_ofList, hbehind]
    rw [hs, after?_append] at h
    rw [hs, Option.some.inj h]
  · rintro rfl
    exact after?_append start rest

/-- A text that starts with something else does not start as given. -/
theorem hasStart_eq_false {start opening s : String} (h : diverge start opening)
    (hopening : hasStart opening s) : hasStart start s = false := by
  rw [Bool.eq_false_iff]
  intro hstart
  simp only [diverge, hasStart, Bool.and_eq_true, Bool.not_eq_true', Bool.eq_false_iff, ne_eq,
    List.isPrefixOf_iff_prefix] at h
  rw [hasStart, List.isPrefixOf_iff_prefix] at hopening hstart
  obtain hshort | hlong := List.prefix_or_prefix_of_prefix hstart hopening
  · exact h.1 hshort
  · exact h.2 hlong

/-- A text does not start in two ways that diverge. -/
theorem after?_eq_none {start opening s : String} (h : diverge start opening)
    (hopening : hasStart opening s) : after? start s = none := by
  rw [after?, hasStart_eq_false h hopening]
  rfl

private theorem filter_map_unlines_eq_nil_iff {groups : List (List String)}
    (h : ∀ group ∈ groups, group ≠ [] → unlines group ≠ "") :
    (groups.map unlines).filter (· ≠ "") = [] ↔ groups.flatten = [] := by
  simp only [List.filter_eq_nil_iff, List.mem_map, List.flatten_eq_nil_iff, decide_eq_true_eq,
    ne_eq, Decidable.not_not, forall_exists_index, and_imp, forall_apply_eq_imp_iff₂]
  constructor
  · intro hempty group hgroup
    cases group with
    | nil => rfl
    | cons line rest =>
      exact absurd (hempty _ hgroup) (h _ hgroup (List.cons_ne_nil line rest))
  · intro hempty group hgroup
    rw [hempty group hgroup]
    rfl

/-- Lines written group by group, where groups without lines leave no trace. -/
theorem unlines_filter_map_unlines {groups : List (List String)}
    (h : ∀ group ∈ groups, group ≠ [] → unlines group ≠ "") :
    unlines ((groups.map unlines).filter (· ≠ "")) = unlines groups.flatten := by
  induction groups with
  | nil => rfl
  | cons group rest ih =>
    obtain ⟨hgroup, hrest⟩ := List.forall_mem_cons.mp h
    have hnil := filter_map_unlines_eq_nil_iff hrest
    rw [List.map_cons, List.flatten_cons]
    by_cases hempty : group = []
    · rw [List.filter_cons_of_neg (by simp [hempty, unlines, join]), ih hrest, hempty,
        List.nil_append]
    · rw [List.filter_cons_of_pos (by simpa using hgroup hempty)]
      by_cases hlast : rest.flatten = []
      · rw [hnil.mpr hlast, hlast, List.append_nil]
        simp [unlines, join]
      · rw [unlines_cons (fun hfilter => hlast (hnil.mp hfilter)), ih hrest,
          unlines_append hempty hlast]

end Netscribe.Text
