import Netscribe.Proofs.View.Entries
/-!
What the views of a script say, read back from its lines: which commands of a kind open a view, and
what stands behind a keyword in the lines of that view. The reading goes by lines as they were
written, so that it holds whatever characters stand in the settings.
-/
namespace Netscribe

open Text (IsOneLine after? allBlank diverge isIndented)

/-- The commands of a fragment are the lines of its draft, also where there are none. -/
theorem Fragment.cli_ofEntries (entries : List Entry) (summary absent : String) :
    (Fragment.ofEntries entries summary absent).cli =
      Text.unlines (Draft.ofEntries entries).body := by
  rw [ofEntries]
  split
  next hnone =>
    rw [Draft.body, hnone]
    rfl
  next => rfl

/-- The commands of a draft are its body, line by line. -/
theorem Draft.cli_build (d : Draft) (summary : String) :
    (d.build summary).cli = Text.unlines d.body := rfl

/-- A line of the block of settled entries is an aside, or the entries write it; the last one may
    have lost blanks. -/
theorem Settled.exists_writes_of_mem_block {vendor : Vendor} {entries : List Entry}
    (h : Settled vendor entries) {title summary absent line : String} (htitle : IsOneLine title)
    (hline : line ∈ Text.splitOn '\n'
      (Section.block title (Fragment.ofEntries entries summary absent).cli)) :
    View.IsAside line ∨
      ∃ other, Writes entries other ∧ (line = other ∨ line = Text.trimEnd other) := by
  rw [Fragment.cli_ofEntries] at hline
  have hwrites {other : String} (hother : other ∈ (Draft.ofEntries entries).body)
      (hshown : allBlank other = false) : Writes entries other := by
    have hwritten : other ∈ (written entries).filter (!allBlank ·) := by
      rw [← Draft.filter_lines_ofEntries, ← Draft.filter_body]
      exact List.mem_filter.mpr ⟨hother, by simp [hshown]⟩
    exact List.mem_filterMap.mp (List.mem_of_mem_filter hwritten)
  have hfirst : ∀ line ∈ (Draft.ofEntries entries).body.head?, Text.startsSolid line := by
    intro line hhead
    obtain ⟨rest, hbody⟩ := List.head?_eq_some_iff.mp hhead
    have hsettles := h.settles_body
    rw [hbody] at hsettles
    exact hsettles.startsSolid (Draft.allBlank_of_head?_body hhead)
  obtain haside | hmem | ⟨last, hlast, rfl⟩ := View.exists_of_mem_splitOn_block htitle
    h.isOneLine_of_mem_body hfirst (fun _ => Draft.allBlank_of_getLast?_body) hline
  · exact .inl haside
  · cases hshown : allBlank line with
    | true => exact .inl (.inl hshown)
    | false => exact .inr ⟨line, hwrites hmem hshown, .inl rfl⟩
  · have hmem := List.mem_of_getLast? hlast
    exact .inr ⟨last, hwrites hmem (Draft.allBlank_of_getLast?_body hlast), .inr rfl⟩

namespace View

/-- What stands behind a keyword in the view that goes on with the given lines. Blank lines do not
    count. -/
def said (keyword : String) (lines : List String) : List String :=
  ((lines.filter (!allBlank ·)).takeWhile isIndented).filterMap (after? keyword)

/-- The views that are opened by commands with a given start, in order: the rest of each command,
    and what its view says behind a keyword. -/
def contents (opening keyword : String) : List String → List (String × List String)
  | [] => []
  | line :: rest =>
    match after? opening line with
    | some words => (words, said keyword rest) :: contents opening keyword rest
    | none => contents opening keyword rest

section Lines

variable {opening keyword line words : String} {rest : List String}

private theorem contents_cons_of_none (h : after? opening line = none) (rest : List String) :
    contents opening keyword (line :: rest) = contents opening keyword rest := by
  rw [contents, h]

/-- A line that opens a view starts its contents. -/
theorem contents_cons_of_some (h : after? opening line = some words) (rest : List String) :
    contents opening keyword (line :: rest) =
      (words, said keyword rest) :: contents opening keyword rest := by
  rw [contents, h]

/-- A blank line does not start with anything that shows. -/
theorem after?_of_allBlank (hopening : allBlank opening = false) (h : allBlank line) :
    after? opening line = none := by
  rw [after?, if_neg]
  intro hstart
  rw [Text.allBlank_eq_false_of_hasStart hopening hstart] at h
  cases h

private theorem contents_filter (hopening : allBlank opening = false) (lines : List String) :
    contents opening keyword (lines.filter (!allBlank ·)) = contents opening keyword lines := by
  have hsaid (rest : List String) :
      said keyword (rest.filter (!allBlank ·)) = said keyword rest := by
    rw [said, List.filter_filter]
    simp only [Bool.and_self]
    rfl
  induction lines with
  | nil => rfl
  | cons line rest ih =>
    cases hline : allBlank line with
    | true =>
      rw [List.filter_cons_of_neg (by simp [hline]), ih,
        contents_cons_of_none (after?_of_allBlank hopening hline)]
    | false =>
      rw [List.filter_cons_of_pos (by simp [hline])]
      cases hwords : after? opening line with
      | none => rw [contents_cons_of_none hwords, contents_cons_of_none hwords, ih]
      | some words =>
        rw [contents_cons_of_some hwords, contents_cons_of_some hwords, ih, hsaid]

/-- Lines that open nothing are passed over. -/
theorem contents_append_of_forall {lines : List String}
    (h : ∀ line ∈ lines, after? opening line = none) (rest : List String) :
    contents opening keyword (lines ++ rest) = contents opening keyword rest := by
  induction lines with
  | nil => rfl
  | cons line lines ih =>
    obtain ⟨hline, hlines⟩ := List.forall_mem_cons.mp h
    rw [List.cons_append, contents_cons_of_none hline, ih hlines]

/-- A line that is not indented ends the view before it. -/
theorem said_append_cons {lines : List String}
    (hquiet : ∀ line ∈ lines, allBlank line → after? keyword line = none)
    (hlines : ∀ line ∈ lines, isIndented line) (hline : isIndented line = false)
    (hshown : allBlank line = false) (rest : List String) :
    said keyword (lines ++ line :: rest) = lines.filterMap (after? keyword) := by
  have hinside : ∀ line ∈ lines.filter (!allBlank ·), isIndented line := by
    intro line hmem
    exact hlines line (List.mem_of_mem_filter hmem)
  rw [said, List.filter_append, List.filter_cons_of_pos (by simp [hshown]),
    List.takeWhile_append_of_pos hinside, List.takeWhile_cons_of_neg (by simp [hline]),
    List.append_nil, List.filterMap_filter]
  refine List.filterMap_congr fun other hother => ?_
  cases hblank : allBlank other with
  | true => rw [hquiet other hother hblank]; rfl
  | false => rfl

/-- A blank line says nothing. -/
theorem said_cons_of_allBlank (h : allBlank line) (keyword : String) (rest : List String) :
    said keyword (line :: rest) = said keyword rest := by
  rw [said, List.filter_cons_of_neg (by simp [h]), said]

/-- A view without lines of its own. -/
theorem said_cons_of_outside (hshown : allBlank line = false) (h : isIndented line = false)
    (keyword : String) (rest : List String) : said keyword (line :: rest) = [] := by
  rw [said, List.filter_cons_of_pos (by simp [hshown]), List.takeWhile_cons_of_neg (by simp [h])]
  rfl

end Lines

end View

/-- Entries of which every line that they write meets a condition. -/
def AllWritten (p : String → Prop) (entries : List Entry) : Prop := ∀ line ∈ written entries, p line

section AllWritten

variable {α : Type} {p : String → Prop} {c : Prop} [Decidable c] {e : Entry}
  {entries rest before after : List Entry}

@[simp ↓]
theorem allWritten_nil : AllWritten p [] := fun _ h => nomatch h

@[simp ↓]
theorem allWritten_cons :
    AllWritten p (e :: rest) ↔ (∀ line ∈ e.text?, p line) ∧ AllWritten p rest := by
  have hcons : AllWritten p (e :: rest) ↔
      (∀ line ∈ written [e], p line) ∧ AllWritten p rest := by
    rw [AllWritten, ← List.singleton_append, written_append, List.forall_mem_append]
    rfl
  rw [hcons]
  refine and_congr_left fun _ => ?_
  cases htext : e.text? with
  | none => rw [written_cons_of_none htext]; simp [written]
  | some line => rw [written_cons_of_some htext]; simp [written]

@[simp ↓]
theorem forall_text?_ite {other : Entry} : (∀ line ∈ (if c then e else other).text?, p line) ↔
    (c → ∀ line ∈ e.text?, p line) ∧ (¬c → ∀ line ∈ other.text?, p line) := by
  split
  next hc => simp [hc]
  next hc => simp [hc]

@[simp ↓]
theorem allWritten_append :
    AllWritten p (before ++ after) ↔ AllWritten p before ∧ AllWritten p after := by
  rw [AllWritten, written_append, List.forall_mem_append]
  rfl

@[simp ↓]
theorem allWritten_ite : AllWritten p (if c then before else after) ↔
    (c → AllWritten p before) ∧ (¬c → AllWritten p after) := by
  split
  next hc => simp [hc]
  next hc => simp [hc]

@[simp ↓]
theorem allWritten_onlyIf : AllWritten p (onlyIf c entries) ↔ (c → AllWritten p entries) := by
  rw [onlyIf, allWritten_ite, and_iff_left fun _ => allWritten_nil]

/-- What holds of the lines of each item holds of all of them. -/
theorem AllWritten.flatMap {f : α → List Entry} {xs : List α}
    (h : ∀ x ∈ xs, AllWritten p (f x)) : AllWritten p (xs.flatMap f) := by
  intro line hline
  obtain ⟨e, he, htext⟩ := List.mem_filterMap.mp hline
  obtain ⟨x, hx, hmem⟩ := List.mem_flatMap.mp he
  exact h x hx line (List.mem_filterMap.mpr ⟨e, hmem, htext⟩)

/-- What holds of the line of each item holds of all of them. -/
theorem AllWritten.map {f : α → Entry} {xs : List α}
    (h : ∀ x ∈ xs, ∀ line ∈ (f x).text?, p line) : AllWritten p (xs.map f) := by
  intro line hline
  obtain ⟨e, he, htext⟩ := List.mem_filterMap.mp hline
  obtain ⟨x, hx, rfl⟩ := List.mem_map.mp he
  exact h x hx line htext

end AllWritten

/-- Items that are left out contribute nothing. -/
theorem flatMap_filter {α β : Type} (p : α → Bool) (f : α → List β) (xs : List α) :
    (xs.filter p).flatMap f = xs.flatMap fun x => if p x then f x else [] := by
  induction xs with
  | nil => rfl
  | cons x xs ih =>
    rw [List.flatMap_cons, ← ih]
    split
    next hx => rw [List.filter_cons_of_pos hx, List.flatMap_cons]
    next hx => rw [List.filter_cons_of_neg hx, List.nil_append]

/-- What a reader of lines finds in those of entries, whatever is written after them. -/
def Finds {β : Type} (read : List String → List β) (entries : List Entry) (found : List β) : Prop :=
  ∀ rest, read (written entries ++ rest) = found ++ read rest

namespace Finds

variable {α β : Type} {read : List String → List β} {before after : List Entry}
  {found others : List β}

/-- What is found in both parts is found in order. -/
theorem append (hbefore : Finds read before found) (hafter : Finds read after others) :
    Finds read (before ++ after) (found ++ others) := by
  intro rest
  rw [written_append, List.append_assoc, hbefore, hafter, List.append_assoc]

/-- A part in which nothing is found may follow. -/
theorem append_nothing (hbefore : Finds read before found) (hafter : Finds read after []) :
    Finds read (before ++ after) found := by
  rw [← List.append_nil found]
  exact hbefore.append hafter

/-- What is found for each item is found in order. -/
theorem flatMap {f : α → List Entry} {g : α → List β} {xs : List α}
    (h : ∀ x ∈ xs, Finds read (f x) (g x)) : Finds read (xs.flatMap f) (xs.flatMap g) := by
  induction xs with
  | nil => exact fun _ => rfl
  | cons x xs ih =>
    obtain ⟨hx, hxs⟩ := List.forall_mem_cons.mp h
    rw [List.flatMap_cons, List.flatMap_cons]
    exact hx.append (ih hxs)

end Finds

namespace Text

/-- Texts that differ early on differ whatever follows. -/
@[simp ↓]
theorem diverge_append {start s : String} (h : diverge start s) (t : String) :
    diverge start (s ++ t) := by
  have hapart := h
  rw [diverge, Bool.and_eq_true, Bool.not_eq_true', Bool.not_eq_true'] at hapart ⊢
  refine ⟨hasStart_eq_false h (hasStart_append s t), ?_⟩
  rw [Bool.eq_false_iff]
  intro hstart
  rw [hasStart, List.isPrefixOf_iff_prefix, String.toList_append] at hstart
  have hprefix : hasStart s start := by
    rw [hasStart, List.isPrefixOf_iff_prefix]
    exact (List.prefix_append _ _).trans hstart
  rw [hapart.2] at hprefix
  cases hprefix

@[simp ↓]
theorem diverge_append_append (start s t u : String) :
    diverge start (s ++ t ++ u) = diverge start (s ++ (t ++ u)) := by
  rw [String.append_assoc]

@[simp ↓]
theorem after?_ite {c : Prop} [Decidable c] {keyword s t : String} :
    after? keyword (if c then s else t) = none ↔
      (c → after? keyword s = none) ∧ (¬c → after? keyword t = none) := by
  split
  next hc => simp [hc]
  next hc => simp [hc]

/-- Behind a start that diverges from the text comes nothing. -/
theorem after?_of_diverge {start s : String} (h : diverge start s) : after? start s = none :=
  after?_eq_none h (hasStart_self s)

/-- Behind a start comes something, be it empty. -/
theorem after?_append_ne_none (start s : String) : after? start (start ++ s) ≠ none := by
  rw [after?_append]
  exact Option.some_ne_none s

end Text

namespace View

section Said

variable {α : Type} {keyword : String} {entries : List Entry}

/-- What entries say behind a keyword. -/
def saidBy (keyword : String) (entries : List Entry) : List String :=
  (written entries).filterMap (after? keyword)

@[simp ↓]
theorem saidBy_append (before after : List Entry) :
    saidBy keyword (before ++ after) = saidBy keyword before ++ saidBy keyword after := by
  rw [saidBy, written_append, List.filterMap_append]
  rfl

@[simp ↓]
theorem saidBy_nil : saidBy keyword [] = [] := rfl

@[simp ↓]
theorem saidBy_blank : saidBy keyword (.blank :: entries) = saidBy keyword entries := rfl

@[simp ↓]
theorem saidBy_command (line why : String) :
    saidBy keyword (command line why :: entries) =
      (after? keyword line).toList ++ saidBy keyword entries := by
  rw [saidBy, written_cons_of_some (text?_command line why), List.filterMap_cons]
  cases after? keyword line with
  | none => rfl
  | some words => rfl

@[simp ↓]
theorem saidBy_ite {p : Prop} [Decidable p] {before after : List Entry} :
    saidBy keyword (if p then before else after) =
      if p then saidBy keyword before else saidBy keyword after := by
  split
  · rfl
  · rfl

@[simp ↓]
theorem saidBy_onlyIf {p : Prop} [Decidable p] :
    saidBy keyword (onlyIf p entries) = if p then saidBy keyword entries else [] := by
  rw [onlyIf, saidBy_ite, saidBy_nil]

/-- Entries without the keyword say nothing. -/
theorem saidBy_eq_nil (h : AllWritten (after? keyword · = none) entries) :
    saidBy keyword entries = [] := List.filterMap_eq_nil_iff.mpr h

/-- Entries with the keyword say their words. -/
theorem saidBy_map {f : α → Entry} {line words : α → String} {xs : List α}
    (hline : ∀ x, (f x).text? = some (line x))
    (hwords : ∀ x, after? keyword (line x) = some (words x)) :
    saidBy keyword (xs.map f) = xs.map words := by
  induction xs with
  | nil => rfl
  | cons x xs ih =>
    rw [saidBy, List.map_cons, written_cons_of_some (hline x), List.filterMap_cons_some (hwords x),
      List.map_cons, ← ih]
    rfl

/-- What the entries of the items say, they say in order. -/
theorem saidBy_flatMap (keyword : String) (f : α → List Entry) (xs : List α) :
    saidBy keyword (xs.flatMap f) = xs.flatMap fun x => saidBy keyword (f x) := by
  induction xs with
  | nil => rfl
  | cons x xs ih => rw [List.flatMap_cons, saidBy_append, ih, List.flatMap_cons]

/-- The lines of a draft, read for a keyword wherever they stand. -/
theorem filterMap_body (hkeyword : allBlank keyword = false) (entries : List Entry) :
    (Draft.ofEntries entries).body.filterMap (after? keyword) = saidBy keyword entries :=
  Draft.filterMap_body (fun _ => after?_of_allBlank hkeyword) entries

end Said

section Views

variable {start words : String} {entries rest : List Entry}

/-- Entries that open a view and go on with it. -/
def OpensView (start words : String) (entries : List Entry) : Prop :=
  ∃ inside, written entries = (start ++ words) :: inside ∧ ∀ line ∈ inside, isIndented line

/-- Entries of one view, from its command to the one that leaves it. -/
def WritesView (start words : String) (entries : List Entry) : Prop :=
  ∃ inside, written entries = (start ++ words) :: inside ++ ["quit"] ∧
    ∀ line ∈ inside, isIndented line

/-- A command opens a view. -/
theorem opensView_command (start words why : String) :
    OpensView start words [command (start ++ words) why] :=
  ⟨[], rfl, fun _ hline => nomatch hline⟩

/-- A view may be set off by a blank entry. -/
theorem opensView_blank (h : OpensView start words entries) :
    OpensView start words (.blank :: entries) := h

/-- Indented entries stay inside an open view. -/
theorem OpensView.append (h : OpensView start words entries)
    (hrest : AllWritten (isIndented ·) rest) : OpensView start words (entries ++ rest) := by
  obtain ⟨inside, hwritten, hinside⟩ := h
  refine ⟨inside ++ written rest, ?_, List.forall_mem_append.mpr ⟨hinside, hrest⟩⟩
  rw [written_append, hwritten, List.cons_append]

/-- A view is closed with `quit`. -/
theorem OpensView.close (h : OpensView start words entries) :
    WritesView start words (entries ++ [command "quit"]) := by
  obtain ⟨inside, hwritten, hinside⟩ := h
  refine ⟨inside, ?_, hinside⟩
  rw [written_append, hwritten]
  rfl

/-- What starts with a blank and what does not never start alike. -/
theorem after?_eq_none_of_head? {start line : String} {p : Char → Bool}
    (hstart : start.toList.head?.any p) (hline : line.toList.head?.any (!p ·)) :
    after? start line = none := by
  rw [after?, if_neg]
  intro hprefix
  obtain ⟨c, hc, hpc⟩ := (Option.any_eq_true _ _).mp hstart
  obtain ⟨d, hd, hpd⟩ := (Option.any_eq_true _ _).mp hline
  obtain rfl := Text.eq_of_hasStart hd hc hprefix
  rw [hpc] at hpd
  cases hpd

/-- An indented line does not open a view. -/
theorem after?_eq_none_of_isIndented {line : String} (hstart : Text.startsSolid start)
    (hline : isIndented line) : after? start line = none := by
  refine after?_eq_none_of_head? hstart ?_
  simp only [Bool.not_not]
  exact hline

/-- A view is read as what its lines say, up to the line that leaves it. Its blank lines must not
    say anything. -/
theorem contents_view_of_quiet {opening keyword closer : String} {inside : List String}
    (hopening : Text.startsSolid opening)
    (hquiet : ∀ line ∈ inside, allBlank line → after? keyword line = none)
    (hinside : ∀ line ∈ inside, isIndented line) (hindented : isIndented closer = false)
    (hcloser : allBlank closer = false) (hother : after? opening closer = none)
    (words : String) (rest : List String) :
    contents opening keyword ((opening ++ words) :: (inside ++ closer :: rest)) =
      (words, inside.filterMap (after? keyword)) :: contents opening keyword rest := by
  have hnone : ∀ line ∈ inside, after? opening line = none :=
    fun line hline => after?_eq_none_of_isIndented hopening (hinside line hline)
  rw [contents_cons_of_some (Text.after?_append opening words),
    said_append_cons hquiet hinside hindented hcloser, contents_append_of_forall hnone,
    contents_cons_of_none hother]

/-- A view is read back with what is said inside it. -/
theorem contents_view {opening keyword closer : String} {inside : List String}
    (hopening : Text.startsSolid opening) (hshown : allBlank keyword = false)
    (hinside : ∀ line ∈ inside, isIndented line) (hindented : isIndented closer = false)
    (hcloser : allBlank closer = false) (hother : after? opening closer = none)
    (words : String) (rest : List String) :
    contents opening keyword ((opening ++ words) :: (inside ++ closer :: rest)) =
      (words, inside.filterMap (after? keyword)) :: contents opening keyword rest :=
  contents_view_of_quiet hopening (fun _ _ => after?_of_allBlank hshown) hinside hindented hcloser
    hother words rest

/-- What stands behind an indented keyword stands inside. -/
theorem saidBy_command_of_startsSolid {keyword line : String} (hkeyword : isIndented keyword)
    (hline : Text.startsSolid line) (why : String) (rest : List Entry) :
    saidBy keyword (command line why :: rest) = saidBy keyword rest := by
  rw [saidBy_command, after?_eq_none_of_head? hkeyword hline]
  rfl

/-- A view is none of another kind. -/
theorem WritesView.allWritten {other : String} (h : WritesView start words entries)
    (hother : Text.startsSolid other) (hdiverge : diverge other start)
    (hquit : after? other "quit" = none) : AllWritten (after? other · = none) entries := by
  obtain ⟨inside, hwritten, hinside⟩ := h
  intro line hline
  rw [hwritten, List.mem_append, List.mem_cons, List.mem_singleton] at hline
  obtain (rfl | hline) | rfl := hline
  · exact Text.after?_of_diverge (Text.diverge_append hdiverge words)
  · exact after?_eq_none_of_isIndented hother (hinside line hline)
  · exact hquit

end Views

/-- Whether entries are read as certain views, whatever is written after them. -/
def ReadAs (opening keyword : String) (entries : List Entry) (found : List (String × List String)) :
    Prop :=
  ∀ rest, contents opening keyword (written entries ++ rest) =
    found ++ contents opening keyword rest

namespace ReadAs

variable {α : Type} {opening keyword : String} {entries before after : List Entry}
  {found others : List (String × List String)}

private theorem nothing (h : AllWritten (after? opening · = none) entries) :
    ReadAs opening keyword entries [] :=
  fun rest => contents_append_of_forall h rest

private theorem append (hbefore : ReadAs opening keyword before found)
    (hafter : ReadAs opening keyword after others) :
    ReadAs opening keyword (before ++ after) (found ++ others) :=
  Finds.append hbefore hafter

/-- Entries that open nothing may come first. -/
theorem nothing_append (hbefore : AllWritten (after? opening · = none) before)
    (hafter : ReadAs opening keyword after found) :
    ReadAs opening keyword (before ++ after) found :=
  (nothing hbefore).append hafter

/-- Entries that open nothing may follow. -/
theorem append_nothing (hbefore : ReadAs opening keyword before found)
    (hafter : AllWritten (after? opening · = none) after) :
    ReadAs opening keyword (before ++ after) found :=
  Finds.append_nothing hbefore (nothing hafter)

/-- The views of the items are read in order. -/
theorem flatMap {f : α → List Entry} {g : α → List (String × List String)} {xs : List α}
    (h : ∀ x ∈ xs, ReadAs opening keyword (f x) (g x)) :
    ReadAs opening keyword (xs.flatMap f) (xs.flatMap g) :=
  Finds.flatMap h

/-- Members of a list that write one view each, beside others that write none. -/
theorem flatMap_filter {f : α → List Entry} {g : α → String × List String} {p : α → Bool}
    {xs : List α} (hview : ∀ x ∈ xs, p x → ReadAs opening keyword (f x) [g x])
    (hnone : ∀ x ∈ xs, p x = false → ReadAs opening keyword (f x) []) :
    ReadAs opening keyword (xs.flatMap f) ((xs.filter p).map g) := by
  induction xs with
  | nil => exact fun _ => rfl
  | cons x xs ih =>
    obtain ⟨hviewFirst, hviewRest⟩ := List.forall_mem_cons.mp hview
    obtain ⟨hnoneFirst, hnoneRest⟩ := List.forall_mem_cons.mp hnone
    have hrest := ih hviewRest hnoneRest
    rw [List.flatMap_cons]
    cases hx : p x with
    | true =>
      rw [List.filter_cons_of_pos hx, List.map_cons]
      exact (hviewFirst hx).append hrest
    | false =>
      rw [List.filter_cons_of_neg (by simp [hx])]
      exact (hnoneFirst hx).append hrest

/-- A view is read as what its entries say. -/
theorem view {words : String} (h : WritesView opening words entries)
    (hopening : Text.startsSolid opening) (hquit : after? opening "quit" = none)
    (hkeyword : isIndented keyword) (hshown : allBlank keyword = false) :
    ReadAs opening keyword entries [(words, saidBy keyword entries)] := by
  obtain ⟨inside, hwritten, hinside⟩ := h
  have hheader : after? keyword (opening ++ words) = none :=
    after?_eq_none_of_head? hkeyword (Text.startsSolid_append hopening words)
  have hcloser : after? keyword "quit" = none := after?_eq_none_of_head? hkeyword (by decide)
  have hsaid : saidBy keyword entries = inside.filterMap (after? keyword) := by
    rw [saidBy, hwritten, List.cons_append, List.filterMap_cons_none hheader,
      List.filterMap_append, List.filterMap_cons_none hcloser, List.filterMap_nil,
      List.append_nil]
  intro rest
  rw [hwritten, hsaid, List.cons_append, List.cons_append, List.append_assoc,
    List.singleton_append]
  exact contents_view hopening hshown hinside (by decide) (by decide) hquit words rest

/-- Views of one kind are read one after another. -/
theorem views {views : List (String × List Entry)}
    (h : ∀ view ∈ views, WritesView opening view.1 view.2)
    (hopening : Text.startsSolid opening) (hquit : after? opening "quit" = none)
    (hkeyword : isIndented keyword) (hshown : allBlank keyword = false) :
    ReadAs opening keyword (views.flatMap (·.2))
      (views.map fun view => (view.1, saidBy keyword view.2)) := by
  rw [List.map_eq_flatMap]
  exact .flatMap fun view hmem => .view (h view hmem) hopening hquit hkeyword hshown

/-- The reading of a whole draft. -/
theorem contents_body (h : ReadAs opening keyword entries found)
    (hopening : allBlank opening = false) :
    contents opening keyword (Draft.ofEntries entries).body = found := by
  rw [← contents_filter hopening, Draft.filter_body, Draft.filter_lines_ofEntries,
    contents_filter hopening, ← List.append_nil (written entries), h []]
  exact List.append_nil found

end ReadAs

section Inner

variable {opening keyword : String} {entries : List Entry}

/-- Views within views are read without the first blank of their lines. Blank lines do not count. -/
theorem contents_inner_body (hopening : allBlank opening = false) (keyword : String)
    (entries : List Entry) :
    contents opening keyword ((Draft.ofEntries entries).body.filterMap (after? " ")) =
      contents opening keyword (saidBy " " entries) := by
  have hblank (line : String) (hline : allBlank line) :
      (after? " " line).filter (!allBlank ·) = none := by
    cases hinner : after? " " line with
    | none => rfl
    | some inner =>
      obtain rfl := Text.after?_eq_some_iff.mp hinner
      rw [Text.allBlank_append, Bool.and_eq_true] at hline
      exact Option.filter_some_neg (by simp [hline.2])
  rw [← contents_filter hopening, ← contents_filter hopening (saidBy " " entries), saidBy,
    List.filter_filterMap, List.filter_filterMap, Draft.filterMap_body hblank]

/-- What opens no view within another opens none when it is read without its first blank. -/
theorem after?_eq_none_of_mem_saidBy {start : String} (hstart : start = " " ++ opening)
    (h : AllWritten (after? start · = none) entries) :
    ∀ line ∈ saidBy " " entries, after? opening line = none := by
  subst hstart
  intro line hline
  obtain ⟨outer, houter, hinner⟩ := List.mem_filterMap.mp hline
  obtain rfl := Text.after?_eq_some_iff.mp hinner
  rw [Option.eq_none_iff_forall_ne_some]
  intro words hwords
  obtain rfl := Text.after?_eq_some_iff.mp hwords
  have hnone := h _ houter
  rw [← String.append_assoc] at hnone
  exact Text.after?_append_ne_none _ _ hnone

end Inner

/-- Views that are opened alike, each with the rest of its command. -/
structure Part where
  start : String
  views : List (String × List Entry)

def Part.entries (part : Part) : List Entry := part.views.flatMap (·.2)

/-- Of a text in parts, those with a given start are read. -/
theorem ReadAs.parts {opening keyword : String} {parts : List Part}
    (hviews : ∀ part ∈ parts, ∀ view ∈ part.views, WritesView part.start view.1 view.2)
    (hapart : ∀ part ∈ parts, part.start ≠ opening → diverge opening part.start)
    (hopening : Text.startsSolid opening) (hquit : after? opening "quit" = none)
    (hkeyword : isIndented keyword) (hshown : allBlank keyword = false) :
    ReadAs opening keyword (parts.flatMap Part.entries)
      (parts.flatMap fun part => if part.start = opening then
        part.views.map fun view => (view.1, saidBy keyword view.2) else []) := by
  refine .flatMap fun part hpart => ?_
  split
  next hstart =>
    refine .views (fun view hview => ?_) hopening hquit hkeyword hshown
    rw [← hstart]
    exact hviews part hpart view hview
  next hstart =>
    refine .nothing (.flatMap fun view hview => ?_)
    exact (hviews part hpart view hview).allWritten hopening (hapart part hpart hstart) hquit

/-- The words of the views are those behind their openings. -/
theorem map_fst_contents (opening keyword : String) (lines : List String) :
    (contents opening keyword lines).map (·.1) = lines.filterMap (after? opening) := by
  induction lines with
  | nil => rfl
  | cons line rest ih =>
    rw [List.filterMap_cons, ← ih]
    cases hline : after? opening line with
    | none => rw [contents_cons_of_none hline]
    | some words => rw [contents_cons_of_some hline, List.map_cons]

end View
end Netscribe
