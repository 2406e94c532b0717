import Netscribe.Proofs.Text.Written
import Netscribe.Proofs.Vlan.Readable
import Netscribe.Proofs.Vlan.Runs
/-!
The two list forms are read back as the ids that were written. A list is a sequence of spans, and
the reader brings both ways to write a span into one.
-/
namespace Netscribe

namespace Vlan

/-- A blank, the word between two numbers and the blanks around it become one dash. -/
theorem joinRanges_cons_of_word {c b : Char} {rest after : List Char} (hc : Text.isBlank c)
    (hword : rest.dropWhile Text.isBlank = 't' :: 'o' :: b :: after) (hb : Text.isBlank b) :
    joinRanges (c :: rest) = '-' :: joinRanges (after.dropWhile Text.isBlank) := by
  rw [joinRanges, if_pos hc]
  split
  next b' after' hword' =>
    obtain ⟨rfl, rfl⟩ : b = b' ∧ after = after' := by simpa [hword] using hword'
    rw [if_pos hb]
  next hnone => exact absurd hword (hnone b after)

/-- A character that no such word follows is kept. -/
theorem joinRanges_cons_of_no_word {c : Char} {rest : List Char}
    (h : Text.isBlank c → ∀ b after, rest.dropWhile Text.isBlank = 't' :: 'o' :: b :: after →
      Text.isBlank b = false) :
    joinRanges (c :: rest) = c :: joinRanges rest := by
  rw [joinRanges]
  split
  next hc =>
    split
    next b after hword => rw [if_neg (by simp [h hc b after hword])]
    next => rfl
  next => rfl

/-- A character that is no blank stays where it is. -/
theorem joinRanges_cons_of_not_blank {c : Char} (h : Text.isBlank c = false) (rest : List Char) :
    joinRanges (c :: rest) = c :: joinRanges rest :=
  joinRanges_cons_of_no_word fun hblank => absurd hblank (by simp [h])

private theorem joinRanges_of_not_blank {cs : List Char} (h : ∀ c ∈ cs, Text.isBlank c = false) :
    joinRanges cs = cs := by
  induction cs with
  | nil => rw [joinRanges]
  | cons c cs ih =>
    obtain ⟨hc, hcs⟩ := List.forall_mem_cons.mp h
    rw [joinRanges_cons_of_not_blank hc, ih hcs]

private theorem joinRanges_blank {c : Char} (h : c.isDigit) (rest : List Char) :
    joinRanges (' ' :: c :: rest) = ' ' :: joinRanges (c :: rest) := by
  have hdrop : (c :: rest).dropWhile Text.isBlank = c :: rest :=
    List.dropWhile_cons_of_neg (by simp [Text.isBlank_of_isDigit h])
  refine joinRanges_cons_of_no_word fun _ b after hword => ?_
  rw [hdrop] at hword
  exact absurd (List.cons.inj hword).1 (Text.ne_of_isDigit h (by decide))

private theorem joinRanges_word {c : Char} (h : c.isDigit) (rest : List Char) :
    joinRanges (" to ".toList ++ c :: rest) = '-' :: joinRanges (c :: rest) := by
  have hdrop : (c :: rest).dropWhile Text.isBlank = c :: rest :=
    List.dropWhile_cons_of_neg (by simp [Text.isBlank_of_isDigit h])
  have hword : ('t' :: 'o' :: ' ' :: c :: rest).dropWhile Text.isBlank =
      't' :: 'o' :: ' ' :: c :: rest := List.dropWhile_cons_of_neg (by decide)
  change joinRanges (' ' :: 't' :: 'o' :: ' ' :: c :: rest) = _
  rw [joinRanges_cons_of_word (by decide) hword (by decide), hdrop]

/-- A span of ids as it is written: its first and its last id, or only one id. -/
structure Span where
  first : Text.Numeral
  last : Option Text.Numeral

namespace Span

def low (span : Span) : Nat := span.first.value

def high (span : Span) : Nat := (span.last.getD span.first).value

def item (range : String) (span : Span) : String :=
  match span.last with
  | none => span.first.text
  | some last => span.first.text ++ range ++ last.text

/-- A span begins with a digit. -/
theorem exists_item_eq_cons (range : String) (span : Span) :
    ∃ c cs, (span.item range).toList = c :: cs ∧ c.isDigit := by
  obtain ⟨c, cs, hcs, hc⟩ := span.first.exists_eq_cons
  rw [item]
  split
  · exact ⟨c, cs, hcs, hc⟩
  next last _ =>
    refine ⟨c, cs ++ (range ++ last.text).toList, ?_, hc⟩
    rw [String.append_assoc, String.toList_append, hcs, List.cons_append]

private theorem item_ne_empty (range : String) (span : Span) : span.item range ≠ "" := by
  obtain ⟨c, cs, hcs, _⟩ := exists_item_eq_cons range span
  intro h
  simp [h] at hcs

private theorem startsSolid_item (range : String) (span : Span) :
    Text.startsSolid (span.item range) := by
  obtain ⟨c, cs, hcs, hc⟩ := exists_item_eq_cons range span
  unfold Text.startsSolid
  simp [hcs, Text.isBlank_of_isDigit hc]

private theorem endsSolid_item (range : String) (span : Span) :
    Text.endsSolid (span.item range) := by
  rw [item]
  split
  · exact span.first.isWord.endsSolid
  next last _ => exact Text.endsSolid_append _ last.isWord.endsSolid

/-- A span has digits and what marks a range. -/
theorem mem_item {range : String} {span : Span} {c : Char} (h : c ∈ (span.item range).toList) :
    c.isDigit ∨ c ∈ range.toList := by
  rw [item] at h
  split at h
  · exact .inl (span.first.all c h)
  next last _ =>
    simp only [String.toList_append, List.mem_append] at h
    obtain (hfirst | hrange) | hlast := h
    · exact .inl (span.first.all c hfirst)
    · exact .inr hrange
    · exact .inl (last.all c hlast)

end Span

/-- Rewrites that put a dash in place of the word between two numbers, and that keep digits and the
    blanks in front of them. -/
structure JoinsSpans (f : List Char → List Char) : Prop where
  nil : f [] = []
  digit : ∀ {c}, c.isDigit → ∀ rest, f (c :: rest) = c :: f rest
  blank : ∀ {c}, c.isDigit → ∀ rest, f (' ' :: c :: rest) = ' ' :: f (c :: rest)
  word : ∀ {c}, c.isDigit → ∀ rest, f (" to ".toList ++ c :: rest) = '-' :: f (c :: rest)

namespace JoinsSpans

variable {f : List Char → List Char} (hf : JoinsSpans f)

include hf

private theorem numeral (n : Text.Numeral) (rest : List Char) :
    f (n.text.toList ++ rest) = n.text.toList ++ f rest := by
  have hdigits : ∀ c ∈ n.text.toList, c.isDigit := n.all
  generalize n.text.toList = digits at hdigits
  induction digits with
  | nil => rfl
  | cons c cs ih =>
    obtain ⟨hc, hcs⟩ := List.forall_mem_cons.mp hdigits
    rw [List.cons_append, hf.digit hc, ih hcs, List.cons_append]

private theorem item (span : Span) (rest : List Char) :
    f ((span.item " to ").toList ++ rest) = (span.item "-").toList ++ f rest := by
  rw [Span.item, Span.item]
  split
  · exact hf.numeral span.first rest
  next last _ =>
    obtain ⟨c, cs, hcs, hc⟩ := last.exists_eq_cons
    calc f ((span.first.text ++ " to " ++ last.text).toList ++ rest)
        = f (span.first.text.toList ++ (" to ".toList ++ c :: (cs ++ rest))) := by
          simp only [String.toList_append, hcs, List.append_assoc, List.cons_append]
      _ = span.first.text.toList ++ '-' :: f (last.text.toList ++ rest) := by
          rw [hf.numeral, hf.word hc, hcs, List.cons_append]
      _ = (span.first.text ++ "-" ++ last.text).toList ++ f rest := by
          rw [hf.numeral]
          simp

/-- Ranges in words become ranges with dashes. -/
theorem items (spans : List Span) :
    f (Text.unwords (spans.map (Span.item " to "))).toList =
      (Text.unwords (spans.map (Span.item "-"))).toList := by
  induction spans with
  | nil => simpa [Text.unwords, Text.join] using hf.nil
  | cons span rest ih =>
    cases rest with
    | nil =>
      have hlast := hf.item span []
      rw [hf.nil, List.append_nil, List.append_nil] at hlast
      simpa [Text.unwords, Text.join] using hlast
    | cons next rest =>
      have hcons (range : String) :
          (Text.unwords ((span :: next :: rest).map (Span.item range))).toList =
            (span.item range).toList
              ++ ' ' :: (Text.unwords ((next :: rest).map (Span.item range))).toList := by
        simp [Text.unwords, Text.join, String.intercalate_cons_of_ne_nil]
      obtain ⟨c, cs, hcs, hc⟩ := next.exists_item_eq_cons " to "
      obtain ⟨tail, htail⟩ := Text.exists_toList_join_cons " " (next.item " to ")
        (rest.map (Span.item " to "))
      rw [hcs, List.cons_append, ← Text.unwords] at htail
      rw [List.map_cons] at ih
      rw [hcons, hcons, hf.item, List.map_cons, htail, hf.blank hc, ← htail, ih, List.map_cons]

end JoinsSpans

/-- The reader of lists brings both ways to write a span into one. -/
theorem joinsSpans_joinRanges : JoinsSpans joinRanges where
  nil := by rw [joinRanges]
  digit hc := joinRanges_cons_of_not_blank (Text.isBlank_of_isDigit hc)
  blank := joinRanges_blank
  word := joinRanges_word

namespace Span

private theorem trim_join_items (separator range : String) (spans : List Span) :
    Text.trim (Text.join separator (spans.map (item range))) =
      Text.join separator (spans.map (item range)) := by
  have hsolid : ∀ written ∈ spans.map (item range),
      Text.startsSolid written ∧ Text.endsSolid written := by
    intro written hwritten
    obtain ⟨span, _, rfl⟩ := List.mem_map.mp hwritten
    exact ⟨startsSolid_item range span, endsSolid_item range span⟩
  by_cases hnil : spans.map (item range) = []
  · rw [hnil]
    rfl
  · exact Text.trim_eq_self
      (Text.startsSolid_join separator hnil fun written hwritten => (hsolid written hwritten).1)
      (Text.endsSolid_join separator hnil fun written hwritten => (hsolid written hwritten).2)

/-- The items of a list with dashes are no separators and hold none. -/
theorem tokens_join_items {separator : String} {c : Char} (hseparator : separator.toList = [c])
    (hc : isSeparator c) (spans : List Span) :
    Text.tokens isSeparator (Text.join separator (spans.map (item "-"))) =
      spans.map (item "-") := by
  refine Text.tokens_join hseparator hc fun written hwritten => ?_
  obtain ⟨span, _, rfl⟩ := List.mem_map.mp hwritten
  refine ⟨item_ne_empty "-" span, fun d hd => ?_⟩
  obtain hdigit | hdash := mem_item hd
  · simp [isSeparator, Text.isBlank_of_isDigit hdigit, Text.ne_of_isDigit hdigit]
  · rw [List.mem_singleton.mp hdash]
    decide

/-- Spans with commas between them have no blank. -/
theorem isBlank_of_mem_join (spans : List Span) :
    ∀ c ∈ (Text.join "," (spans.map (item "-"))).toList, Text.isBlank c = false := by
  intro c hc
  obtain hcomma | ⟨written, hwritten, hc⟩ := Text.mem_toList_join hc
  · rw [List.mem_singleton.mp hcomma]
    decide
  · obtain ⟨span, _, rfl⟩ := List.mem_map.mp hwritten
    obtain hdigit | hdash := mem_item hc
    · exact Text.isBlank_of_isDigit hdigit
    · rw [List.mem_singleton.mp hdash]
      decide

/-- The form with dashes is read as the items that were written. -/
theorem items_dashed (spans : List Span) :
    items (Text.join "," (spans.map (item "-"))) = spans.map (item "-") := by
  rw [items, trim_join_items, joinRanges_of_not_blank (isBlank_of_mem_join spans),
    String.ofList_toList]
  exact tokens_join_items rfl (by decide) spans

/-- The form with words is read as the items with dashes. -/
theorem items_spaced (spans : List Span) :
    items (Text.unwords (spans.map (item " to "))) = spans.map (item "-") := by
  have htrim := trim_join_items " " " to " spans
  rw [← Text.unwords] at htrim
  rw [items, htrim, joinsSpans_joinRanges.items, String.ofList_toList]
  exact tokens_join_items rfl (by decide) spans

end Span

/-- A span of ids as one item of a list: its first and last id, or only one if they agree. -/
def spanItem (range : String) (span : Nat × Nat) : String :=
  if span.1 = span.2 then toString span.1 else toString span.1 ++ range ++ toString span.2

/-- The span between two ids. -/
def Span.ofIds (ids : Nat × Nat) : Span :=
  ⟨.ofNat ids.1, if ids.1 = ids.2 then none else some (.ofNat ids.2)⟩

/-- A span of ids is written as an item of a list. -/
theorem spanItem_eq (range : String) (ids : Nat × Nat) :
    spanItem range ids = (Span.ofIds ids).item range := by
  by_cases h : ids.1 = ids.2
  · rw [spanItem, if_pos h, Span.ofIds, if_pos h]
    rfl
  · rw [spanItem, if_neg h, Span.ofIds, if_neg h]
    rfl

private theorem map_spanItem (range : String) (spans : List (Nat × Nat)) :
    spans.map (spanItem range) = (spans.map Span.ofIds).map (Span.item range) := by
  rw [List.map_map]
  exact List.map_congr_left fun span _ => spanItem_eq range span

/-- The spans of ids are their runs, where a run of two ids counts as two spans. -/
def spansOfRun (run : Int × Int) : List (Nat × Nat) :=
  if run.2 = run.1 + 1 then [(run.1.toNat, run.1.toNat), (run.2.toNat, run.2.toNat)]
  else [(run.1.toNat, run.2.toNat)]

def spans (ids : List Int) : List (Nat × Nat) := (contiguousRuns ids).flatMap spansOfRun

private theorem runItems_eq {run : Int × Int} (hpositive : 0 ≤ run.1) (hrun : run.1 ≤ run.2)
    (range : String) : runItems range run = (spansOfRun run).map (spanItem range) := by
  obtain ⟨first, last⟩ := run
  obtain ⟨m, rfl⟩ := Int.eq_ofNat_of_zero_le hpositive
  obtain ⟨n, rfl⟩ := Int.eq_ofNat_of_zero_le (hpositive.trans hrun)
  simp only [runItems, spansOfRun, Int.natCast_inj, Text.toString_natCast, Int.toNat_natCast]
  by_cases hsame : m = n
  · have hpair : ¬ (n : Int) = m + 1 := by omega
    rw [if_pos hsame, if_neg hpair, List.map_singleton, spanItem, if_pos hsame]
  · rw [if_neg hsame]
    by_cases hpair : (n : Int) = m + 1
    · rw [if_pos hpair, if_pos hpair, List.map_cons, List.map_singleton, spanItem, spanItem,
        if_pos rfl, if_pos rfl]
    · rw [if_neg hpair, if_neg hpair, List.map_singleton, spanItem, if_neg hsame]

/-- Between two numbers are the VLANs that are no smaller and no larger. -/
theorem mem_idsBetween {id : Int} {first last : Nat} :
    id ∈ idsBetween first last ↔
      (first : Int) ≤ id ∧ id ≤ last ∧ (minId : Int) ≤ id ∧ id ≤ maxId := by
  simp only [idsBetween, List.mem_map, List.mem_range]
  constructor
  · rintro ⟨i, hi, rfl⟩
    omega
  · rintro ⟨hfirst, hlast, hmin, hmax⟩
    refine ⟨id.toNat - max first minId, ?_, ?_⟩ <;> omega

private theorem le_of_mem_itemIds {item : String} {ids : List Int} {id : Int}
    (h : itemIds item = .ok ids) (hid : id ∈ ids) : (minId : Int) ≤ id ∧ id ≤ maxId := by
  obtain ⟨low, high, _, _, _, hitem⟩ | ⟨_, _, hitem⟩ | ⟨_, hitem⟩ := itemIds_cases item
  · rw [hitem] at h
    obtain ⟨first, _, hrest⟩ := Outcome.bind_eq_ok_iff.mp h
    obtain ⟨last, _, hvalue⟩ := Outcome.bind_eq_ok_iff.mp hrest
    cases hvalue
    exact (mem_idsBetween.mp hid).2.2
  · rw [hitem] at h
    obtain ⟨n, _, hvalue⟩ := Outcome.bind_eq_ok_iff.mp h
    cases hvalue
    split at hid
    next hvalid =>
      rw [isId, Bool.and_eq_true, decide_eq_true_eq, decide_eq_true_eq] at hvalid
      rw [List.mem_singleton.mp hid]
      omega
    next => cases hid
  · rw [hitem] at h
    cases h
    cases hid

/-- Nothing but VLANs is read from a list. -/
theorem le_of_mem_parseIds {text : String} {ids : List Int} {id : Int}
    (h : parseIds text = .ok ids) (hid : id ∈ ids) : (minId : Int) ≤ id ∧ id ≤ maxId := by
  obtain ⟨lists, hlists, hvalue⟩ := Outcome.bind_eq_ok_iff.mp h
  cases hvalue
  rw [mem_sortedDistinct, List.mem_flatten] at hid
  obtain ⟨list, hlist, hmem⟩ := hid
  obtain ⟨item, _, hitem⟩ :=
    Outcome.exists_of_forall₂_right (Outcome.mapM_eq_ok_iff.mp hlists) hlist
  exact le_of_mem_itemIds hitem hmem

/-- The ids of a list come in strictly ascending order. -/
theorem pairwise_parseIds {text : String} {ids : List Int} (h : parseIds text = .ok ids) :
    ids.Pairwise (· < ·) := by
  obtain ⟨lists, -, hvalue⟩ := Outcome.bind_eq_ok_iff.mp h
  rw [← Except.ok.inj hvalue]
  exact pairwise_sortedDistinct _

private theorem idsBetween_self (n : Nat) :
    idsBetween n n = if isId n then [(n : Int)] else [] := by
  rw [idsBetween, isId]
  by_cases h : minId ≤ n ∧ n ≤ maxId
  · have hlength : min n maxId + 1 - max n minId = 1 := by omega
    have hlow : max n minId = n := by omega
    rw [hlength, hlow]
    simp [h]
  · have hlength : min n maxId + 1 - max n minId = 0 := by omega
    rw [hlength]
    simp [h]

/-- A span names the VLANs from its first id to its last. -/
theorem Span.itemIds_item (span : Span) :
    itemIds (span.item "-") = .ok (idsBetween span.low span.high) := by
  have hnodash (n : Text.Numeral) : '-' ∉ n.text.toList := fun hdash =>
    absurd (n.all '-' hdash) (by decide)
  rw [itemIds, item, low, high]
  split
  next hlast =>
    have hcontains : Text.contains '-' span.first.text = false := by
      simpa [Text.contains] using hnodash span.first
    rw [hcontains, if_neg (by decide), if_pos span.first.allDigits, span.first.digitsNumber, hlast,
      Option.getD_none, idsBetween_self]
    rfl
  next last hlast =>
    have hcontains : Text.contains '-' (span.first.text ++ "-" ++ last.text) = true := by
      simp [Text.contains]
    have hsplit : Text.splitOn '-' (span.first.text ++ "-" ++ last.text) =
        [span.first.text, last.text] := by
      have hjoin : (span.first.text ++ "-" ++ last.text).toList =
          span.first.text.toList ++ '-' :: last.text.toList := by
        simp only [String.toList_append, List.append_assoc]
        rfl
      rw [Text.splitOn_eq_map, hjoin, List.splitOn_append_cons_self_of_not_mem (hnodash span.first),
        List.splitOn_eq_singleton (hnodash last)]
      simp only [List.map_cons, List.map_nil, String.ofList_toList]
    rw [hcontains, if_pos rfl, hsplit, hlast, Option.getD_some]
    simp only [Text.Numeral.allDigits, Bool.and_self, if_true, Text.Numeral.digitsNumber]
    rfl

private theorem itemIds_spanItem (span : Nat × Nat) :
    itemIds (spanItem "-" span) = .ok (idsBetween span.1 span.2) := by
  have hlow : (Span.ofIds span).low = span.1 := Text.Numeral.value_ofNat span.1
  have hhigh : (Span.ofIds span).high = span.2 := by
    rw [Span.high, Span.ofIds]
    split
    next hsame => exact (Text.Numeral.value_ofNat span.1).trans hsame
    next => exact Text.Numeral.value_ofNat span.2
  rw [spanItem_eq, Span.itemIds_item, hlow, hhigh]

/-- A text with some spans as its items names the VLANs that they cover. -/
theorem parseIds_of_items {text : String} {spans : List Span}
    (hitems : items text = spans.map (Span.item "-")) :
    parseIds text =
      .ok (sortedDistinct (spans.flatMap fun span => idsBetween span.low span.high)) := by
  have hread : (items text).mapM itemIds =
      .ok (spans.map fun span => idsBetween span.low span.high) := by
    rw [hitems, List.mapM_map]
    exact Outcome.mapM_eq_ok fun span _ => span.itemIds_item
  rw [parseIds, hread, List.flatMap_def]
  rfl

/-- The VLANs of spans are those that lie in one of them. -/
theorem mem_sortedDistinct_spans {spans : List Span} {id : Int} :
    id ∈ sortedDistinct (spans.flatMap fun span => idsBetween span.low span.high) ↔
      (minId ≤ id ∧ id ≤ maxId) ∧ ∃ span ∈ spans, span.low ≤ id ∧ id ≤ span.high := by
  rw [mem_sortedDistinct, List.mem_flatMap]
  simp only [mem_idsBetween]
  constructor
  · rintro ⟨span, hspan, hlow, hhigh, hvlan⟩
    exact ⟨hvlan, span, hspan, hlow, hhigh⟩
  · rintro ⟨hvlan, span, hspan, hlow, hhigh⟩
    exact ⟨span, hspan, hlow, hhigh, hvlan⟩

/-- A span that came from a run of the ids covers what the run covers. -/
theorem exists_spansOfRun_iff {id : Int} {run : Int × Int} (hpositive : 0 ≤ run.1)
    (hrun : run.1 ≤ run.2) :
    (∃ span ∈ spansOfRun run, (span.1 : Int) ≤ id ∧ id ≤ span.2) ↔ InRun id run := by
  rw [spansOfRun, InRun]
  split
  · simp only [List.mem_cons, List.not_mem_nil, or_false, exists_eq_or_imp, exists_eq_left]
    omega
  · simp only [List.mem_singleton, exists_eq_left]
    omega

private theorem exists_spans_iff {id : Int} {ids : List Int} (h : ∀ other ∈ ids, 0 ≤ other) :
    (∃ span ∈ spans ids, (span.1 : Int) ≤ id ∧ id ≤ span.2) ↔ id ∈ ids := by
  have hrun (run : Int × Int) (hmem : run ∈ contiguousRuns ids) :=
    @exists_spansOfRun_iff id run (h _ (mem_of_mem_contiguousRuns hmem))
      (le_of_mem_contiguousRuns hmem)
  rw [← exists_inRun_contiguousRuns_iff, spans]
  simp only [List.mem_flatMap]
  constructor
  · rintro ⟨span, ⟨run, hmem, hspan⟩, hid⟩
    exact ⟨run, hmem, (hrun run hmem).mp ⟨span, hspan, hid⟩⟩
  · rintro ⟨run, hmem, hid⟩
    obtain ⟨span, hspan, hbounds⟩ := (hrun run hmem).mpr hid
    exact ⟨span, ⟨run, hmem, hspan⟩, hbounds⟩

/-- The ids of a list that are VLANs. -/
def validIds (ids : List Int) : List Int :=
  ids.filter fun id => (minId : Int) ≤ id ∧ id ≤ maxId

private theorem flatMap_runItems (range : String) {ids : List Int} (h : ∀ id ∈ ids, 0 ≤ id) :
    (contiguousRuns ids).flatMap (runItems range) = (spans ids).map (spanItem range) := by
  rw [spans, List.map_flatMap]
  refine List.flatMap_congr fun run hrun => ?_
  exact runItems_eq (h _ (mem_of_mem_contiguousRuns hrun)) (le_of_mem_contiguousRuns hrun) range

/-- A text whose items are the spans of some ids is read as the VLANs among them. -/
theorem parseIds_of_items_eq {text : String} {ids : List Int} (h : ∀ id ∈ ids, 0 ≤ id)
    (hitems : items text = (spans ids).map (spanItem "-")) :
    parseIds text = .ok (sortedDistinct (validIds ids)) := by
  have hread : (items text).mapM itemIds =
      .ok ((spans ids).map fun span => idsBetween span.1 span.2) := by
    rw [hitems, List.mapM_map]
    exact Outcome.mapM_eq_ok fun span _ => itemIds_spanItem span
  rw [parseIds, hread]
  refine congrArg Except.ok (sortedDistinct_eq_of_mem_iff fun id => ?_)
  rw [validIds, List.mem_filter, ← exists_spans_iff h]
  simp only [List.mem_flatten, List.mem_map, exists_exists_and_eq_and, mem_idsBetween,
    decide_eq_true_eq]
  constructor
  · rintro ⟨span, hspan, hfirst, hlast, hvalid⟩
    exact ⟨⟨span, hspan, hfirst, hlast⟩, hvalid⟩
  · rintro ⟨⟨span, hspan, hfirst, hlast⟩, hvalid⟩
    exact ⟨span, hspan, hfirst, hlast, hvalid⟩

private theorem mem_join_runItems {separator range : String} {ids : List Int} {c : Char}
    (h : c ∈ (Text.join separator ((contiguousRuns ids).flatMap (runItems range))).toList) :
    c ∈ separator.toList ∨ c ∈ range.toList ∨ c.isDigit ∨ c = '-' := by
  obtain hseparator | ⟨item, hitem, hc⟩ := Text.mem_toList_join h
  · exact .inl hseparator
  · obtain ⟨⟨first, last⟩, _, hrun⟩ := List.mem_flatMap.mp hitem
    simp only [runItems] at hrun
    split at hrun
    · rw [List.mem_singleton.mp hrun] at hc
      exact .inr (.inr (Text.mem_toString_int hc))
    · split at hrun
      · obtain rfl | rfl := List.mem_pair.mp hrun
        · exact .inr (.inr (Text.mem_toString_int hc))
        · exact .inr (.inr (Text.mem_toString_int hc))
      · rw [List.mem_singleton.mp hrun, String.toList_append, String.toList_append,
          List.mem_append, List.mem_append] at hc
        obtain (hfirst | hrange) | hlast := hc
        · exact .inr (.inr (Text.mem_toString_int hfirst))
        · exact .inr (.inl hrange)
        · exact .inr (.inr (Text.mem_toString_int hlast))

/-- A list with dashes is one line. -/
theorem linefeed_not_mem_dashedList (ids : List Int) : '\n' ∉ (dashedList ids).toList := by
  intro h
  obtain hc | hc | hc | hc := mem_join_runItems h <;> revert hc <;> decide

/-- A list in words is one line. -/
theorem linefeed_not_mem_spacedList (ids : List Int) : '\n' ∉ (spacedList ids).toList := by
  intro h
  obtain hc | hc | hc | hc := mem_join_runItems h <;> revert hc <;> decide

/-- The form with dashes is read back as the VLANs that were written. -/
theorem parseIds_dashedList {ids : List Int} (h : ∀ id ∈ ids, 0 ≤ id) :
    parseIds (dashedList ids) = .ok (sortedDistinct (validIds ids)) := by
  refine parseIds_of_items_eq h ?_
  rw [dashedList, flatMap_runItems "-" h, map_spanItem, Span.items_dashed]

/-- The form with words is read back as the VLANs that were written. -/
theorem parseIds_spacedList {ids : List Int} (h : ∀ id ∈ ids, 0 ≤ id) :
    parseIds (spacedList ids) = .ok (sortedDistinct (validIds ids)) := by
  refine parseIds_of_items_eq h ?_
  rw [spacedList, flatMap_runItems " to " h, map_spanItem, map_spanItem, Span.items_spaced]

end Vlan
end Netscribe
