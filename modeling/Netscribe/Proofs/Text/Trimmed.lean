import Mathlib.Data.List.DropRight
import Netscribe.Text.Blank
/-!
Texts that start and end with characters that are not blank. Trimming gives such a text and leaves
it as it is.
-/
namespace Netscribe.Text

/-- Whether a text starts with a character that is not blank. -/
def startsSolid (s : String) : Bool := s.toList.head?.any (!isBlank ·)

/-- Whether a text ends with a character that is not blank. -/
def endsSolid (s : String) : Bool := s.toList.getLast?.any (!isBlank ·)

/-- What is put behind does not change the first character. -/
theorem head?_append {s : String} {c : Char} (h : s.toList.head? = some c) (t : String) :
    (s ++ t).toList.head? = some c := by
  rw [String.toList_append, List.head?_append, h, Option.some_or]

/-- What is put behind does not change how a text starts. -/
theorem startsSolid_append {s : String} (h : startsSolid s) (t : String) :
    startsSolid (s ++ t) := by
  unfold startsSolid at h ⊢
  rw [String.toList_append, List.head?_append]
  cases hs : s.toList.head? with
  | none => simp [hs] at h
  | some c => simpa [hs] using h

/-- What is put in front does not change how a text ends. -/
theorem endsSolid_append (s : String) {t : String} (h : endsSolid t) : endsSolid (s ++ t) := by
  unfold endsSolid at h ⊢
  rw [String.toList_append, List.getLast?_append]
  cases ht : t.toList.getLast? with
  | none => simp [ht] at h
  | some c => simpa [ht] using h

/-- A text without blanks ends solid. -/
theorem endsSolid_of_solid {s : String} (hne : s ≠ "") (h : ∀ c ∈ s.toList, isBlank c = false) :
    endsSolid s := by
  unfold endsSolid
  cases hs : s.toList.getLast? with
  | none => exact absurd (by simpa using hs) hne
  | some c => simp [h c (List.mem_of_getLast? hs)]

/-- Joined pieces that start solid start solid. -/
theorem startsSolid_join (separator : String) {pieces : List String} (hne : pieces ≠ [])
    (h : ∀ piece ∈ pieces, startsSolid piece) : startsSolid (join separator pieces) := by
  obtain ⟨piece, rest, rfl⟩ := List.exists_cons_of_ne_nil hne
  have hpiece := h piece List.mem_cons_self
  by_cases hrest : rest = []
  · simpa [join, hrest] using hpiece
  · rw [join, String.intercalate_cons_of_ne_nil hrest, String.append_assoc]
    exact startsSolid_append hpiece _

/-- Lines start solid if the first one does. -/
theorem startsSolid_unlines {line : String} (h : startsSolid line) (rest : List String) :
    startsSolid (unlines (line :: rest)) := by
  by_cases hrest : rest = []
  · simpa [unlines, join, hrest] using h
  · rw [unlines, join, String.intercalate_cons_of_ne_nil hrest, String.append_assoc]
    exact startsSolid_append h _

/-- Joined pieces that end solid end solid. -/
theorem endsSolid_join (separator : String) {pieces : List String} (hne : pieces ≠ [])
    (h : ∀ piece ∈ pieces, endsSolid piece) : endsSolid (join separator pieces) := by
  induction pieces with
  | nil => exact absurd rfl hne
  | cons piece rest ih =>
    obtain ⟨hpiece, hall⟩ := List.forall_mem_cons.mp h
    by_cases hrest : rest = []
    · simpa [join, hrest] using hpiece
    · rw [join, String.intercalate_cons_of_ne_nil hrest]
      exact endsSolid_append _ (ih hrest hall)

/-- What starts solid is not blank. -/
theorem allBlank_eq_false_of_startsSolid {s : String} (h : startsSolid s) : allBlank s = false := by
  unfold startsSolid at h
  rw [allBlank]
  cases hs : s.toList with
  | nil => simp [hs] at h
  | cons c rest =>
    have hc : isBlank c = false := by simpa [hs] using h
    simp [hc]

/-- Characters are trimmed from the left and then from the right. -/
theorem trimChars_eq_rdropWhile (p : Char → Bool) (cs : List Char) :
    trimChars p cs = (cs.dropWhile p).rdropWhile p := rfl

/-- Trimming adds no character. -/
theorem trim_subset (s : String) : (trim s).toList ⊆ s.toList := by
  intro c hc
  rw [trim, String.toList_ofList] at hc
  exact (List.dropWhile_sublist _).mem ((List.rdropWhile_prefix _ _).subset hc)

/-- A character that is not dropped stays. -/
theorem mem_dropWhile_of_neg {p : Char → Bool} {cs : List Char} {c : Char} (hc : c ∈ cs)
    (h : p c = false) : c ∈ cs.dropWhile p := by
  rw [← List.takeWhile_append_dropWhile (p := p) (l := cs), List.mem_append] at hc
  refine hc.resolve_left fun hdropped => ?_
  rw [List.mem_takeWhile_imp hdropped] at h
  cases h

/-- What is not blank is not lost by trimming. -/
theorem mem_trim {s : String} {c : Char} (hc : c ∈ s.toList) (h : isBlank c = false) :
    c ∈ (trim s).toList := by
  rw [trim, String.toList_ofList, trimChars, List.mem_reverse]
  exact mem_dropWhile_of_neg (List.mem_reverse.mpr (mem_dropWhile_of_neg hc h)) h

/-- Dropping at both ends leaves a text alone whose ends are not to be dropped. -/
theorem trimChars_eq_self {p : Char → Bool} {cs : List Char}
    (hstart : cs.head?.any (!p ·)) (hend : cs.getLast?.any (!p ·)) : trimChars p cs = cs := by
  have hdrop : cs.dropWhile p = cs := by
    cases cs with
    | nil => rfl
    | cons c rest => exact List.dropWhile_cons_of_neg (by simpa using hstart)
  rw [trimChars_eq_rdropWhile, hdrop, List.rdropWhile_eq_self_iff]
  intro hne
  simpa [List.getLast?_eq_some_getLast hne] using hend

/-- A text that starts and ends solid is not trimmed. -/
theorem trim_eq_self {s : String} (hstart : startsSolid s) (hend : endsSolid s) : trim s = s := by
  rw [trim, trimChars_eq_self hstart hend, String.ofList_toList]

/-- Line feeds are blank. -/
theorem linefeed_ne_of_solid {c : Char} (h : isBlank c = false) : (c == '\n') = false := by
  rw [beq_eq_false_iff_ne]
  rintro rfl
  exact absurd h (by decide)

/-- A text with solid ends has no line feed to lose there. -/
theorem trimNewlines_eq_self {s : String} (hstart : startsSolid s) (hend : endsSolid s) :
    trimNewlines s = s := by
  unfold startsSolid at hstart
  unfold endsSolid at hend
  rw [trimNewlines, trimChars_eq_self, String.ofList_toList]
  · cases hs : s.toList.head? with
    | none => simp [hs] at hstart
    | some c => simpa [hs] using linefeed_ne_of_solid (by simpa [hs] using hstart)
  · cases hs : s.toList.getLast? with
    | none => simp [hs] at hend
    | some c => simpa [hs] using linefeed_ne_of_solid (by simpa [hs] using hend)

/-- A first character that is kept stays the first. -/
theorem head?_trimChars {p : Char → Bool} {cs : List Char} {c : Char} (h : cs.head? = some c)
    (hc : p c = false) : (trimChars p cs).head? = some c := by
  obtain ⟨rest, rfl⟩ := List.head?_eq_some_iff.mp h
  have hkeep : ¬ p c := by simp [hc]
  rw [trimChars_eq_rdropWhile, List.dropWhile_cons_of_neg hkeep]
  obtain ⟨dropped, hdropped⟩ := List.rdropWhile_prefix p (c :: rest)
  cases hkept : (c :: rest).rdropWhile p with
  | nil => exact absurd (List.rdropWhile_eq_nil_iff.mp hkept c List.mem_cons_self) hkeep
  | cons d kept =>
    rw [hkept] at hdropped
    rw [List.head?_cons, (List.cons.inj hdropped).1]

/-- A text that starts solid starts the same when it is trimmed. -/
theorem head?_trim {s : String} {c : Char} (h : s.toList.head? = some c) (hc : isBlank c = false) :
    (trim s).toList.head? = some c := by
  rw [trim, String.toList_ofList, head?_trimChars h hc]

/-- Where only blanks are dropped, what starts a text without one stays. -/
theorem startsSolid_trimChars {p : Char → Bool} {s : String}
    (hp : ∀ c, isBlank c = false → p c = false) (h : startsSolid s) :
    startsSolid (.ofList (trimChars p s.toList)) := by
  unfold startsSolid at h ⊢
  cases hs : s.toList.head? with
  | none => simp [hs] at h
  | some c =>
    have hsolid : isBlank c = false := by simpa [hs] using h
    rw [String.toList_ofList, head?_trimChars hs (hp c hsolid)]
    simpa using hsolid

/-- Trimming line feeds leaves a solid start as it is. -/
theorem startsSolid_trimNewlines {s : String} (h : startsSolid s) : startsSolid (trimNewlines s) :=
  startsSolid_trimChars (fun _ => linefeed_ne_of_solid) h

/-- Nothing is left exactly if every character is dropped. -/
theorem trimChars_eq_nil_iff {p : Char → Bool} {cs : List Char} :
    trimChars p cs = [] ↔ ∀ c ∈ cs, p c := by
  rw [trimChars_eq_rdropWhile, List.rdropWhile_eq_nil_iff]
  constructor
  · intro hdropped
    cases hrest : cs.dropWhile p with
    | nil => exact List.dropWhile_eq_nil_iff.mp hrest
    | cons c rest =>
      have hhead := List.head?_dropWhile_not p cs
      rw [hrest] at hhead hdropped
      exact absurd (hdropped c List.mem_cons_self) (by simpa using hhead)
  · intro hall
    rw [List.dropWhile_eq_nil_iff.mpr hall]
    simp

/-- What is to be dropped may as well stand before the text. -/
theorem trimChars_append_left {p : Char → Bool} {dropped : List Char} (h : ∀ c ∈ dropped, p c)
    (cs : List Char) : trimChars p (dropped ++ cs) = trimChars p cs := by
  rw [trimChars_eq_rdropWhile, trimChars_eq_rdropWhile, List.dropWhile_append_of_pos h]

/-- What is to be dropped at the end may as well stand there. -/
theorem rdropWhile_append_of_pos {p : Char → Bool} {dropped : List Char} (h : ∀ c ∈ dropped, p c)
    (cs : List Char) : (cs ++ dropped).rdropWhile p = cs.rdropWhile p := by
  have hreversed : ∀ c ∈ dropped.reverse, p c := fun c hc => h c (List.mem_reverse.mp hc)
  rw [List.rdropWhile, List.rdropWhile, List.reverse_append, List.dropWhile_append_of_pos hreversed]

private theorem trimChars_append_right {p : Char → Bool} {dropped : List Char}
    (h : ∀ c ∈ dropped, p c)
    (cs : List Char) : trimChars p (cs ++ dropped) = trimChars p cs := by
  by_cases hall : ∀ c ∈ cs, p c
  · have hboth : ∀ c ∈ cs ++ dropped, p c := List.forall_mem_append.mpr ⟨hall, h⟩
    rw [trimChars_eq_nil_iff.mpr hall, trimChars_eq_nil_iff.mpr hboth]
  · have hkept : (cs.dropWhile p).isEmpty = false := by
      rw [List.isEmpty_eq_false_iff]
      intro hnil
      exact hall (List.dropWhile_eq_nil_iff.mp hnil)
    rw [trimChars_eq_rdropWhile, trimChars_eq_rdropWhile, List.dropWhile_append, hkept,
      if_neg (by decide), rdropWhile_append_of_pos h]

/-- Blanks in front are trimmed away. -/
theorem trim_append_left {blank : String} (h : allBlank blank) (s : String) :
    trim (blank ++ s) = trim s := by
  rw [trim, trim, String.toList_append, trimChars_append_left (List.all_eq_true.mp h)]

/-- Blanks at the end are trimmed away. -/
theorem trim_append_right {blank : String} (h : allBlank blank) (s : String) :
    trim (s ++ blank) = trim s := by
  rw [trim, trim, String.toList_append, trimChars_append_right (List.all_eq_true.mp h)]

/-- The end is trimmed from the right. -/
theorem toList_trimEnd (s : String) : (trimEnd s).toList = s.toList.rdropWhile isBlank := by
  rw [trimEnd, String.toList_ofList]
  rfl

/-- A text is its trimmed start and the blanks behind it. -/
theorem exists_eq_trimEnd_append (s : String) :
    ∃ blank, allBlank blank ∧ s = trimEnd s ++ blank := by
  refine ⟨.ofList (s.toList.rtakeWhile isBlank), ?_, ?_⟩
  · rw [allBlank, String.toList_ofList]
    exact List.all_eq_true.mpr fun _ => List.mem_rtakeWhile_imp
  · rw [← String.toList_inj, String.toList_append, toList_trimEnd, String.toList_ofList,
      List.rdropWhile_append_rtakeWhile]

/-- Blanks at the end are no part of a text trimmed there. -/
theorem trimEnd_append_right {blank : String} (h : allBlank blank) (s : String) :
    trimEnd (s ++ blank) = trimEnd s := by
  rw [← String.toList_inj, toList_trimEnd, toList_trimEnd, String.toList_append,
    rdropWhile_append_of_pos (List.all_eq_true.mp h)]

/-- A text that ends solid is not trimmed at its end. -/
theorem trimEnd_eq_self {s : String} (h : endsSolid s) : trimEnd s = s := by
  rw [← String.toList_inj, toList_trimEnd, List.rdropWhile_eq_self_iff]
  intro hne
  unfold endsSolid at h
  simpa [List.getLast?_eq_some_getLast hne] using h

/-- Of a blank text nothing is left at the end. -/
theorem trimEnd_eq_empty {s : String} (h : allBlank s) : trimEnd s = "" := by
  rw [← String.toList_inj, toList_trimEnd]
  exact List.rdropWhile_eq_nil_iff.mpr (List.all_eq_true.mp h)

/-- Of a blank text nothing is left. -/
theorem trim_eq_empty {s : String} (h : allBlank s) : trim s = "" := by
  rw [← String.toList_inj, trim, String.toList_ofList]
  exact trimChars_eq_nil_iff.mpr (List.all_eq_true.mp h)

/-- What is not blank starts after some blanks. -/
theorem exists_eq_append_startsSolid {s : String} (h : allBlank s = false) :
    ∃ blank kept, s = blank ++ kept ∧ allBlank blank ∧ startsSolid kept := by
  refine ⟨.ofList (s.toList.takeWhile isBlank), .ofList (s.toList.dropWhile isBlank), ?_, ?_, ?_⟩
  · rw [← String.ofList_append, List.takeWhile_append_dropWhile, String.ofList_toList]
  · rw [allBlank, String.toList_ofList]
    exact List.all_takeWhile
  · have hdrop : s.toList.dropWhile isBlank ≠ [] := by
      rw [ne_eq, List.dropWhile_eq_nil_iff]
      simpa [allBlank] using h
    obtain ⟨c, rest, hcons⟩ := List.exists_cons_of_ne_nil hdrop
    have hhead := List.head?_dropWhile_not isBlank s.toList
    rw [hcons, List.head?_cons] at hhead
    rw [startsSolid, String.toList_ofList, hcons]
    simpa using hhead

/-- A trimmed text that is not blank starts solid. -/
theorem startsSolid_trim {s : String} (h : allBlank s = false) : startsSolid (trim s) := by
  obtain ⟨blank, kept, rfl, hblank, hkept⟩ := exists_eq_append_startsSolid h
  rw [trim_append_left hblank]
  exact startsSolid_trimChars (fun _ => id) hkept

/-- A trimmed text that is not blank ends solid. -/
theorem endsSolid_trim {s : String} (h : allBlank s = false) : endsSolid (trim s) := by
  have hne : trimChars isBlank s.toList ≠ [] := by
    rw [ne_eq, trimChars_eq_nil_iff]
    simpa [allBlank] using h
  have hlast := List.rdropWhile_last_not isBlank (s.toList.dropWhile isBlank) hne
  rw [endsSolid, trim, String.toList_ofList, List.getLast?_eq_some_getLast hne]
  simpa [trimChars_eq_rdropWhile] using hlast

end Netscribe.Text
