import Netscribe.Address.Ipv4
import Netscribe.Address.Mac
import Netscribe.Number.Integer
import Netscribe.Proofs.Number.Decimal
import Netscribe.Proofs.Text.Pieces
import Netscribe.Proofs.Text.Trimmed
import Netscribe.Script.Draft
import Netscribe.Text.Lines
/-!
Texts that take a single line. What commands are put together from keeps to one line if the settings
in it do. The rules are applied from the outside in, so that the conditions and the parts of a line
that is put together are not looked into before they have to be. The lines of a text take a single
line each, and nothing of the text but the ends of its lines is missing in them.
-/
namespace Netscribe

namespace Text

/-- A text without a line feed, which takes a single line. -/
def IsOneLine (s : String) : Prop := '\n' ∉ s.toList

instance : DecidablePred IsOneLine := fun s =>
  if h : lacksFeed s then .isTrue (not_mem_of_lacksFeed h)
  else inferInstanceAs (Decidable (¬ '\n' ∈ s.toList))

private theorem IsOneLine.of_mem {s t : String} (h : IsOneLine s)
    (hmem : '\n' ∈ t.toList → '\n' ∈ s.toList) :
    IsOneLine t := fun ht => h (hmem ht)

/-- Characters without a line feed make one line. -/
theorem isOneLine_ofList {cs : List Char} (h : '\n' ∉ cs) : IsOneLine (.ofList cs) := by
  rwa [IsOneLine, String.toList_ofList]

section Parts

variable {s t : String} {p : Prop} [Decidable p]

@[simp ↓]
theorem isOneLine_toString (s : String) : IsOneLine (toString s) ↔ IsOneLine s := Iff.rfl

@[simp ↓]
theorem isOneLine_append : IsOneLine (s ++ t) ↔ IsOneLine s ∧ IsOneLine t := by
  rw [IsOneLine, String.toList_append, List.mem_append, not_or, IsOneLine, IsOneLine]

@[simp ↓]
theorem isOneLine_ite :
    IsOneLine (if p then s else t) ↔ (p → IsOneLine s) ∧ (¬p → IsOneLine t) := by
  split
  next hp => simp [hp]
  next hp => simp [hp]

@[simp ↓]
theorem isOneLine_textIf : IsOneLine (textIf p s) ↔ (p → IsOneLine s) := by
  have hempty : IsOneLine "" := by decide
  rw [textIf, isOneLine_ite, and_iff_left fun _ => hempty]

end Parts

section Lists

variable {separator : String} {pieces : List String}

private theorem isOneLine_join (hseparator : IsOneLine separator) :
    IsOneLine (join separator pieces) ↔ ∀ piece ∈ pieces, IsOneLine piece := by
  constructor
  · intro h
    induction pieces with
    | nil => exact fun _ hpiece => nomatch hpiece
    | cons piece rest ih =>
      by_cases hrest : rest = []
      · rw [hrest, List.forall_mem_singleton]
        simpa [join, hrest] using h
      · rw [join, String.intercalate_cons_of_ne_nil hrest, isOneLine_append, isOneLine_append] at h
        exact List.forall_mem_cons.mpr ⟨h.1.1, ih h.2⟩
  · intro h hfeed
    obtain hmem | ⟨piece, hpiece, hmem⟩ := mem_toList_join hfeed
    · exact hseparator hmem
    · exact h piece hpiece hmem

/-- Words make one line exactly if each of them does. -/
theorem isOneLine_unwords : IsOneLine (unwords pieces) ↔ ∀ piece ∈ pieces, IsOneLine piece :=
  isOneLine_join (by decide)

/-- Pieces make one line exactly if each of them does. -/
theorem isOneLine_concat : IsOneLine (String.join pieces) ↔ ∀ piece ∈ pieces, IsOneLine piece := by
  simp [IsOneLine, String.toList_join]

end Lists

section Derived

variable {s : String}

private theorem isOneLine_filter (p : Char → Bool) (h : IsOneLine s) :
    IsOneLine (.ofList (s.toList.filter p)) := by
  refine h.of_mem fun hfeed => ?_
  rw [String.toList_ofList] at hfeed
  exact (List.mem_filter.mp hfeed).1

/-- Trimming adds no line feed. -/
theorem IsOneLine.trim (h : IsOneLine s) : IsOneLine (trim s) :=
  h.of_mem fun hfeed => trim_subset s hfeed

/-- Trimming the end adds no line feed. -/
theorem IsOneLine.trimEnd (h : IsOneLine s) : IsOneLine (trimEnd s) := by
  refine h.of_mem fun hfeed => ?_
  rw [Text.trimEnd, String.toList_ofList] at hfeed
  exact (List.rdropWhile_prefix _ _).subset hfeed

/-- The pieces of one line are one line each. -/
theorem IsOneLine.of_mem_splitOn {separator : Char} {piece : String} (h : IsOneLine s)
    (hpiece : piece ∈ splitOn separator s) : IsOneLine piece := by
  obtain ⟨chars, hchars, rfl⟩ := List.mem_map.mp hpiece
  refine h.of_mem fun hfeed => ?_
  rw [String.toList_ofList] at hfeed
  exact (of_mem_splitChars hchars hfeed).1

/-- Words hold no blanks, and so no line feeds. -/
theorem isOneLine_of_mem_words {word : String} (hword : word ∈ words s) : IsOneLine word := by
  obtain ⟨chars, hchars, rfl⟩ := List.mem_map.mp hword
  intro hfeed
  rw [String.toList_ofList] at hfeed
  have hsolid := (of_mem_splitChars (List.mem_filter.mp hchars).1 hfeed).2
  exact absurd hsolid (by decide)

/-- Replacing adds no line feed but those of the replacement. -/
theorem IsOneLine.replaceChar {target : Char} {replacement : String} (h : IsOneLine s)
    (hreplacement : IsOneLine replacement) : IsOneLine (replaceChar target replacement s) := by
  intro hfeed
  rw [Text.replaceChar, String.toList_ofList, List.mem_flatMap] at hfeed
  obtain ⟨c, hc, hfeed⟩ := hfeed
  split at hfeed
  · exact hreplacement hfeed
  · exact h (List.mem_singleton.mp hfeed ▸ hc)

end Derived

section Numbers

@[simp ↓]
theorem isOneLine_toString_nat (n : Nat) : IsOneLine (toString n) :=
  fun hfeed => absurd (isDigit_of_mem_toString hfeed) (by decide)

@[simp]
theorem isOneLine_repr (n : Nat) : IsOneLine n.repr := isOneLine_toString_nat n

@[simp ↓]
theorem isOneLine_toString_int (z : Int) : IsOneLine (toString z) := by
  intro hfeed
  obtain hdigit | hsign := mem_toString_int hfeed
  · exact absurd hdigit (by decide)
  · exact absurd hsign (by decide)

@[simp]
theorem isOneLine_intRepr (z : Int) : IsOneLine z.repr := isOneLine_toString_int z

/-- A padded number is one line. -/
theorem isOneLine_padded (width n : Nat) : IsOneLine (Integer.padded width n) := by
  rw [Integer.padded, isOneLine_append]
  refine ⟨fun hfeed => ?_, isOneLine_toString_nat n⟩
  rw [String.toList_ofList] at hfeed
  exact absurd (List.eq_of_mem_replicate hfeed) (by decide)

/-- Hexadecimal text has hexadecimal digits. -/
theorem exists_eq_hexDigit {width n : Nat} {c : Char} (h : c ∈ hex width n) :
    ∃ digit < 16, c = hexDigit digit := by
  induction width generalizing n with
  | zero => cases h
  | succ width ih =>
    obtain hmore | hlast := List.mem_append.mp h
    · exact ih hmore
    · exact ⟨n % 16, Nat.mod_lt n (by decide), List.mem_singleton.mp hlast⟩

/-- Hexadecimal digits are no line feed. -/
theorem linefeed_not_mem_hex (width n : Nat) : '\n' ∉ hex width n := by
  intro hfeed
  obtain ⟨digit, hdigit, heq⟩ := exists_eq_hexDigit hfeed
  have hdigits : ∀ n < 16, '\n' ≠ hexDigit n := by decide
  exact hdigits digit hdigit heq

end Numbers

/-- A line feed between quotation marks is written with a backslash. -/
theorem linefeed_not_mem_quoteChar {mark : Char} (hmark : mark ≠ '\n') (c : Char) :
    '\n' ∉ quoteChar mark c := by
  rw [quoteChar]
  split_ifs with hquoted hfeed
  · obtain rfl | rfl := hquoted
    · simpa using hmark.symm
    · decide
  · decide
  · decide
  · decide
  · simpa using Ne.symm hfeed
  · simpa using linefeed_not_mem_hex 2 c.toNat
  · simpa using linefeed_not_mem_hex 4 c.toNat
  · simpa using linefeed_not_mem_hex 8 c.toNat

private theorem isOneLine_quoted (s : String) : IsOneLine (quoted s) := by
  have hpoint {mark : Char} (hmark : mark ≠ '\n') (p : CodePoint) :
      '\n' ∉ quoteCodePoint mark p := by
    cases p with
    | char c => exact linefeed_not_mem_quoteChar hmark c
    | surrogate index =>
      rw [quoteCodePoint, List.mem_append, not_or]
      · exact ⟨by decide, linefeed_not_mem_hex 4 _⟩
      · exact fun c h => nomatch h
  have hmarked {mark : Char} (hmark : mark ≠ '\n') :
      '\n' ∉ mark :: (codePoints s).flatMap (quoteCodePoint mark) ++ [mark] := by
    simp [hmark.symm, hpoint hmark]
  rw [IsOneLine, quoted, String.toList_ofList]
  split
  · exact hmarked (by decide)
  · exact hmarked (by decide)

/-- A quotation is one line, whatever it quotes. -/
theorem isOneLine_quotedWithin (width : Nat) (s : String) : IsOneLine (quotedWithin width s) := by
  refine (isOneLine_quoted s).of_mem fun hfeed => ?_
  rw [quotedWithin, String.toList_ofList] at hfeed
  exact List.mem_of_mem_take hfeed

section LetterCase

variable {d : Char}

/-- A character below the letters is the counterpart of no other. -/
theorem ne_mapByRuns (hd : 0 < d.toNat) {runs : List CaseRun}
    (hruns : ∀ run ∈ runs, d.toNat < run.first + run.shift) {c : Char} (hc : c ≠ d) :
    mapByRuns runs c ≠ d := by
  rw [mapByRuns]
  split
  next run hrun =>
    have hbeyond := hruns run (List.mem_of_find?_eq_some hrun)
    have hfirst : run.first ≤ c.toNat := by
      have hcontains := List.find?_some hrun
      rw [CaseRun.contains, Bool.and_eq_true, Bool.and_eq_true, decide_eq_true_eq] at hcontains
      exact hcontains.1.1
    intro hsame
    have hvalue : (run.map c.toNat).toNat = d.toNat := congrArg Char.toNat hsame
    rw [CaseRun.map, Char.ofNat] at hvalue
    by_cases hvalid : ((c.toNat : Int) + run.shift).toNat.isValidChar
    · rw [dif_pos hvalid] at hvalue
      have hmoved : ((c.toNat : Int) + run.shift).toNat = d.toNat := hvalue
      omega
    · rw [dif_neg hvalid] at hvalue
      exact hd.ne hvalue
  next => exact hc

private theorem not_mem_lowerChar (hd : 0 < d.toNat) (hletters : d.toNat < 0x41) {c : Char}
    (hc : c ≠ d) :
    d ∉ lowerChar c := by
  have hbelow {e : Char} (he : 0x41 ≤ e.toNat) : d ≠ e := by
    rintro rfl
    omega
  rw [lowerChar]
  split
  next hascii =>
    have hlower : ∀ n < 128, (Char.ofNat n).toLower = Char.ofNat n ∨
        0x41 ≤ (Char.ofNat n).toLower.toNat := by decide +kernel
    rw [List.mem_singleton]
    obtain hsame | hletter := hlower c.toNat hascii
    · rw [Char.ofNat_toNat] at hsame
      rw [hsame]
      exact hc.symm
    · rw [Char.ofNat_toNat] at hletter
      exact hbelow hletter
  · split
    · rw [List.mem_pair, not_or]
      exact ⟨hbelow (by decide), hbelow (by decide)⟩
    · have hruns : ∀ run ∈ lowerRuns, (0x41 : Int) ≤ run.first + run.shift := by decide +kernel
      rw [List.mem_singleton]
      exact (ne_mapByRuns hd (fun run hrun => by have := hruns run hrun; omega) hc).symm

/-- Small letters have no character below the letters among them that was not there before. -/
theorem not_mem_lowerChars (hd : 0 < d.toNat) (hletters : d.toNat < 0x41) {cs : List Char}
    (h : d ∉ cs) (before : List Char) : d ∉ lowerChars before cs := by
  have hsigma {e : Char} (he : 0x41 ≤ e.toNat) : d ∉ [e] := by
    rw [List.mem_singleton]
    rintro rfl
    omega
  induction cs generalizing before with
  | nil => exact h
  | cons c rest ih =>
    rw [List.mem_cons, not_or] at h
    rw [lowerChars, List.mem_append, not_or]
    refine ⟨?_, ih h.2 _⟩
    split
    · split
      · exact hsigma (by decide)
      · exact hsigma (by decide)
    · exact not_mem_lowerChar hd hletters (Ne.symm h.1)

/-- Lower case brings no character below the letters. -/
theorem not_mem_lower (hd : 0 < d.toNat) (hletters : d.toNat < 0x41) {s : String}
    (h : d ∉ s.toList) : d ∉ (lower s).toList := by
  rw [lower, String.toList_ofList]
  exact not_mem_lowerChars hd hletters h []

private theorem IsOneLine.lower {s : String} (h : IsOneLine s) : IsOneLine (lower s) :=
  not_mem_lower (by decide) (by decide) h

end LetterCase

private theorem IsOneLine.of_mem_pieces {s piece : String} (h : IsOneLine s)
    (hpiece : piece ∈ pieces s) :
    IsOneLine piece := by
  refine h.of_mem fun hfeed => ?_
  rw [← join_pieces s, String.toList_join, List.mem_flatMap]
  exact ⟨piece, hpiece, hfeed⟩

end Text

open Text (IsOneLine)

namespace Mac

variable {mac : String}

/-- A cleaned address is one line, if the given one is. -/
theorem isOneLine_clean (h : IsOneLine mac) : IsOneLine (clean mac) := Text.isOneLine_filter _ h

private theorem isOneLine_grouped {separator digits : String} (hseparator : IsOneLine separator)
    (h : IsOneLine digits) : IsOneLine (grouped separator digits) := by
  rw [grouped, Text.isOneLine_join hseparator, List.forall_mem_map]
  intro group hgroup
  rw [Text.isOneLine_concat]
  exact fun piece hpiece => h.of_mem_pieces (Text.mem_of_mem_chunks hgroup hpiece)

/-- A dashed address is one line, if the given one is. -/
theorem isOneLine_dashed (h : IsOneLine mac) : IsOneLine (dashed mac) := by
  rw [dashed, Text.isOneLine_ite]
  exact ⟨fun _ => isOneLine_grouped (by decide) (isOneLine_clean h), fun _ => h⟩

/-- A client identifier is one line, if the given address is. -/
theorem isOneLine_clientIdentifier (h : IsOneLine mac) : IsOneLine (clientIdentifier mac) := by
  refine isOneLine_grouped (by decide) (Text.isOneLine_append.mpr ⟨by decide, ?_⟩)
  exact (isOneLine_clean h).lower

end Mac

end Netscribe

namespace Netscribe.Text

/-- What ends a line: a line break, or two of them that belong together. -/
def IsLineEnd (ending : List Char) : Prop :=
  ending = ['\r', '\n'] ∨ ∃ c, isLineBreak c ∧ ending = [c]

/-- A text that consists of lines. Each of them has its end behind it; only the last one may do
    without, unless it is empty. -/
inductive ConsistsOf : List Char → List (List Char) → Prop
  | nothing : ConsistsOf [] []
  | unended {line} : line ≠ [] → (∀ c ∈ line, isLineBreak c = false) → ConsistsOf line [line]
  | ended {line ending rest more} : (∀ c ∈ line, isLineBreak c = false) → IsLineEnd ending →
      (ending = ['\r'] → rest.head? ≠ some '\n') → ConsistsOf rest more →
      ConsistsOf (line ++ ending ++ rest) (line :: more)

/-- A character that ends no line goes into the first one. -/
theorem ConsistsOf.cons {cs : List Char} {lines : List (List Char)} {c : Char}
    (h : ConsistsOf cs lines) (hc : isLineBreak c = false) :
    ConsistsOf (c :: cs) ((c :: lines.headD []) :: lines.tail) := by
  cases h with
  | nothing => exact .unended (List.cons_ne_nil _ _) (List.forall_mem_singleton.mpr hc)
  | unended _ hline => exact .unended (List.cons_ne_nil _ _) (List.forall_mem_cons.mpr ⟨hc, hline⟩)
  | ended hline hending hfeed hrest =>
    exact .ended (List.forall_mem_cons.mpr ⟨hc, hline⟩) hending hfeed hrest

private theorem consistsOf_linesChars (cs : List Char) : ConsistsOf cs (linesChars cs) := by
  have hempty : ∀ c ∈ ([] : List Char), isLineBreak c = false := List.forall_mem_nil _
  fun_induction linesChars cs with
  | case1 => exact .nothing
  | case2 rest ih => exact .ended hempty (.inl rfl) (fun h => by cases h) ih
  | case3 c rest hfeed hbreak ih =>
    refine .ended hempty (.inr ⟨c, hbreak, rfl⟩) (fun hreturn hhead => ?_) ih
    obtain ⟨after, rfl⟩ := List.head?_eq_some_iff.mp hhead
    exact hfeed after (List.cons.inj hreturn).1 rfl
  | case4 c rest _ hbreak hnil ih =>
    rw [hnil] at ih
    exact ih.cons (by simpa using hbreak)
  | case5 c rest _ hbreak line more hcons ih =>
    rw [hcons] at ih
    exact ih.cons (by simpa using hbreak)

private theorem ConsistsOf.isLineBreak_of_mem {cs : List Char} {lines : List (List Char)}
    (h : ConsistsOf cs lines) : ∀ line ∈ lines, ∀ c ∈ line, isLineBreak c = false := by
  induction h with
  | nothing => exact List.forall_mem_nil _
  | unended _ hline => exact List.forall_mem_singleton.mpr hline
  | ended hline _ _ _ ih => exact List.forall_mem_cons.mpr ⟨hline, ih⟩

/-- A text consists of its lines. -/
theorem consistsOf_lines (s : String) :
    ConsistsOf s.toList ((lines s).map String.toList) := by
  have hlines : (linesChars s.toList).map (String.toList ∘ String.ofList) =
      linesChars s.toList := by simp [Function.comp_def]
  rw [lines, List.map_map, hlines]
  exact consistsOf_linesChars s.toList

/-- The lines of a text are one line each. -/
theorem isOneLine_of_mem_lines {s line : String} (h : line ∈ lines s) : IsOneLine line := by
  intro hfeed
  have hbreak := (consistsOf_lines s).isLineBreak_of_mem line.toList
    (List.mem_map_of_mem h) '\n' hfeed
  exact absurd hbreak (by decide)

end Netscribe.Text
