import Mathlib.Data.List.Basic
import Netscribe.Text.Digit
/-!
Splitting texts at separators, or into groups of code points, and putting the pieces together again,
and what a text of digits denotes. Characters within ASCII take one byte, and no other character has
a byte in common with them, so that what begins a text or is missing in it can be read off its
bytes, which takes much less computing than decoding them.
-/
namespace Netscribe.Text

private theorem splitChars_eq_splitOnP (p : Char → Bool) (cs : List Char) :
    splitChars p cs = cs.splitOnP p := by
  induction cs with
  | nil => rfl
  | cons c rest ih =>
    rw [splitChars, ih, List.splitOnP_cons_eq_if_modifyHead]
    split
    · rfl
    · cases h : rest.splitOnP p with
      | nil => exact absurd h (List.splitOnP_ne_nil p rest)
      | cons piece pieces => rfl

/-- A separator splits what stands before it from what stands behind. -/
theorem splitChars_append_cons {p : Char → Bool} {c : Char} (hc : p c) (cs ds : List Char) :
    splitChars p (cs ++ c :: ds) = splitChars p cs ++ splitChars p ds := by
  induction cs with
  | nil =>
    rw [List.nil_append, splitChars, splitChars, if_pos hc]
    rfl
  | cons d rest ih =>
    have hne : splitChars p rest ≠ [] := by
      rw [splitChars_eq_splitOnP]
      exact List.splitOnP_ne_nil p rest
    obtain ⟨piece, pieces, hpieces⟩ := List.exists_cons_of_ne_nil hne
    rw [List.cons_append, splitChars, splitChars, ih, hpieces]
    split <;> rfl

/-- A piece holds only characters of the text, and none that separates. -/
theorem of_mem_splitChars {p : Char → Bool} {cs piece : List Char} {c : Char}
    (hpiece : piece ∈ splitChars p cs) (hc : c ∈ piece) : c ∈ cs ∧ p c = false := by
  induction cs generalizing piece with
  | nil =>
    rw [splitChars, List.mem_singleton] at hpiece
    exact absurd hc (by simp [hpiece])
  | cons d rest ih =>
    have hlater {piece : List Char} (hpiece : piece ∈ splitChars p rest) (hc : c ∈ piece) :
        c ∈ d :: rest ∧ p c = false :=
      (ih hpiece hc).imp_left (List.mem_cons_of_mem d)
    have hne : splitChars p rest ≠ [] := by
      rw [splitChars_eq_splitOnP]
      exact List.splitOnP_ne_nil p rest
    obtain ⟨first, pieces, hsplit⟩ := List.exists_cons_of_ne_nil hne
    rw [splitChars, hsplit] at hpiece
    rw [hsplit] at hlater
    split at hpiece
    next =>
      obtain rfl | hpiece := List.mem_cons.mp hpiece
      · cases hc
      · exact hlater hpiece hc
    next hd =>
      obtain rfl | hpiece := List.mem_cons.mp hpiece
      · obtain rfl | hc := List.mem_cons.mp hc
        · exact ⟨List.mem_cons_self, by simpa using hd⟩
        · exact hlater List.mem_cons_self hc
      · exact hlater (List.mem_cons_of_mem first hpiece) hc

/-- Splitting a text is splitting its characters. -/
theorem splitOn_eq_map (separator : Char) (s : String) :
    splitOn separator s = (s.toList.splitOn separator).map .ofList := by
  rw [splitOn, splitChars_eq_splitOnP, List.splitOn_eq_splitOnP]

/-- Without the separator a text is its only piece. -/
theorem splitOn_of_not_contains {separator : Char} {s : String}
    (h : contains separator s = false) : splitOn separator s = [s] := by
  have hnot : separator ∉ s.toList := by simpa [contains] using h
  rw [splitOn_eq_map, List.splitOn_eq_singleton hnot, List.map_singleton, String.ofList_toList]

/-- A piece has no character that the text has not. -/
theorem subset_of_mem_splitOn {separator : Char} {s piece : String}
    (h : piece ∈ splitOn separator s) : piece.toList ⊆ s.toList := by
  obtain ⟨cs, hcs, rfl⟩ := List.mem_map.mp h
  intro c hc
  rw [String.toList_ofList] at hc
  exact (of_mem_splitChars hcs hc).1

/-- A piece does not have the separator. -/
theorem not_mem_of_mem_splitOn {separator : Char} {s piece : String}
    (h : piece ∈ splitOn separator s) : separator ∉ piece.toList := by
  obtain ⟨cs, hcs, rfl⟩ := List.mem_map.mp h
  intro hmem
  rw [String.toList_ofList] at hmem
  exact absurd (of_mem_splitChars hcs hmem).2 (by simp)

/-- There is one more piece than separators. -/
theorem length_splitOn (separator : Char) (s : String) :
    (splitOn separator s).length = s.toList.count separator + 1 := by
  rw [splitOn_eq_map, List.length_map]
  induction s.toList with
  | nil => rfl
  | cons c rest ih =>
    rw [List.splitOn_cons_eq_if_modifyHead, List.count_cons]
    split <;> simp [ih]

/-- Pieces without the separating character are what splitting at it gives back. -/
theorem splitOn_join_of_not_mem {separator : String} {c : Char}
    (hseparator : separator.toList = [c]) {pieces : List String} (hne : pieces ≠ [])
    (hpieces : ∀ piece ∈ pieces, c ∉ piece.toList) :
    splitOn c (join separator pieces) = pieces := by
  have hsplit : ([c].intercalate (pieces.map String.toList)).splitOn c =
      pieces.map String.toList := by
    refine List.splitOn_intercalate c ?_ (by simpa using hne)
    intro cs hcs
    obtain ⟨piece, hpiece, rfl⟩ := List.mem_map.mp hcs
    exact hpieces piece hpiece
  rw [splitOn_eq_map, join, String.toList_intercalate, hseparator, hsplit]
  simp

/-- Putting the separator back between the pieces gives the text back. -/
theorem join_splitOn {separator : String} {c : Char} (hseparator : separator.toList = [c])
    (s : String) : join separator (splitOn c s) = s := by
  have hpieces : (s.toList.splitOn c).map (String.toList ∘ String.ofList) = s.toList.splitOn c := by
    simp [Function.comp_def]
  rw [← String.toList_inj, join, String.toList_intercalate, splitOn_eq_map, List.map_map, hpieces,
    hseparator]
  exact List.intercalate_splitOn c

/-- A joined text starts with its first piece. -/
theorem exists_toList_join_cons (separator piece : String) (rest : List String) :
    ∃ tail, (join separator (piece :: rest)).toList = piece.toList ++ tail := by
  by_cases hrest : rest = []
  · subst hrest
    exact ⟨[], by simp [join]⟩
  · refine ⟨(separator ++ separator.intercalate rest).toList, ?_⟩
    rw [join, String.intercalate_cons_of_ne_nil hrest, String.append_assoc, String.toList_append]

/-- Joined pieces begin as the first one does. -/
theorem head?_join {separator piece : String} {c : Char} (h : piece.toList.head? = some c)
    (rest : List String) : (join separator (piece :: rest)).toList.head? = some c := by
  obtain ⟨tail, htail⟩ := exists_toList_join_cons separator piece rest
  rw [htail, List.head?_append, h, Option.some_or]

/-- A joined text holds nothing but the characters of its pieces and of the separator. -/
theorem mem_toList_join {separator : String} {pieces : List String} {c : Char}
    (h : c ∈ (join separator pieces).toList) :
    c ∈ separator.toList ∨ ∃ piece ∈ pieces, c ∈ piece.toList := by
  induction pieces with
  | nil => simp [join] at h
  | cons piece rest ih =>
    by_cases hrest : rest = []
    · subst hrest
      exact .inr ⟨piece, List.mem_cons_self, by simpa [join] using h⟩
    · rw [join, String.intercalate_cons_of_ne_nil hrest] at h
      simp only [String.toList_append, List.mem_append] at h
      obtain (hpiece | hseparator) | htail := h
      · exact .inr ⟨piece, List.mem_cons_self, hpiece⟩
      · exact .inl hseparator
      · exact (ih htail).imp_right fun ⟨other, hother, hc⟩ =>
          ⟨other, List.mem_cons_of_mem piece hother, hc⟩

/-- A separating character separates the tokens before it from those after it. -/
theorem tokens_append_cons {p : Char → Bool} {c : Char} (hc : p c) (cs ds : List Char) :
    tokens p (.ofList (cs ++ c :: ds)) = tokens p (.ofList cs) ++ tokens p (.ofList ds) := by
  simp only [tokens, String.toList_ofList, splitChars_append_cons hc, List.filter_append,
    List.map_append]

/-- A token has no character that the text has not. -/
theorem of_mem_tokens {p : Char → Bool} {s token : String} {c : Char} (htoken : token ∈ tokens p s)
    (hc : c ∈ token.toList) : c ∈ s.toList := by
  obtain ⟨piece, hpiece, rfl⟩ := List.mem_map.mp htoken
  rw [String.toList_ofList] at hc
  exact (of_mem_splitChars (List.mem_of_mem_filter hpiece) hc).1

/-- Pieces without separating characters are the tokens of the text that one such character joins
    them to. -/
theorem tokens_join {p : Char → Bool} {separator : String} {c : Char}
    (hseparator : separator.toList = [c]) (hc : p c) {pieces : List String}
    (hpieces : ∀ piece ∈ pieces, piece ≠ "" ∧ ∀ d ∈ piece.toList, p d = false) :
    tokens p (join separator pieces) = pieces := by
  have hsplit : splitChars p (join separator pieces).toList =
      if pieces = [] then [[]] else pieces.map String.toList := by
    rw [splitChars_eq_splitOnP]
    induction pieces with
    | nil => rfl
    | cons piece rest ih =>
      obtain ⟨⟨_, hsolid⟩, hrest⟩ := List.forall_mem_cons.mp hpieces
      by_cases hnil : rest = []
      · subst hnil
        simp [join, List.splitOnP_eq_singleton hsolid]
      · rw [join, String.intercalate_cons_of_ne_nil hnil]
        have happend : (piece ++ separator ++ separator.intercalate rest).toList =
            piece.toList ++ c :: (join separator rest).toList := by
          simp [join, hseparator]
        rw [happend, List.splitOnP_append_cons_of_forall_mem hsolid _ hc, ih hrest]
        simp [hnil]
  have hne : ∀ cs ∈ pieces.map String.toList, decide (cs ≠ []) = true := by
    intro cs hcs
    obtain ⟨piece, hpiece, rfl⟩ := List.mem_map.mp hcs
    simpa using (hpieces piece hpiece).1
  rw [tokens, hsplit]
  split
  next hnil => simp [hnil]
  next =>
    rw [List.filter_eq_self.mpr hne, List.map_map]
    simp

/-- A text up to its first blank, and what stands behind that. -/
def cutBlank (s : String) : String × String :=
  (.ofList (s.toList.takeWhile (· ≠ ' ')), .ofList ((s.toList.dropWhile (· ≠ ' ')).drop 1))

/-- A text is cut at its first blank. -/
theorem cutBlank_append {s : String} (h : ' ' ∉ s.toList) (t : String) :
    cutBlank (s ++ " " ++ t) = (s, t) := by
  have hword : ∀ c ∈ s.toList, decide (c ≠ ' ') :=
    fun c hc => decide_eq_true (ne_of_mem_of_not_mem hc h)
  rw [cutBlank, String.toList_append, String.toList_append, List.append_assoc,
    List.takeWhile_append_of_pos hword, List.dropWhile_append_of_pos hword]
  simp

/-- Where a text is cut at its first blank, both parts are determined. -/
theorem append_blank_inj {s t u v : String} (hs : ' ' ∉ s.toList) (ht : ' ' ∉ t.toList) :
    s ++ " " ++ u = t ++ " " ++ v ↔ s = t ∧ u = v := by
  constructor
  · intro h
    have hcut := congrArg cutBlank h
    rw [cutBlank_append hs, cutBlank_append ht] at hcut
    exact Prod.mk.inj hcut
  · rintro ⟨rfl, rfl⟩
    rfl

/-- Groups in a row are the groups of what stands in them. -/
theorem groups_flatten_of_infix {cs : List Char} {part : List (List Char)}
    (h : part <:+: CodePoint.groups cs) : CodePoint.groups part.flatten = part := by
  fun_induction CodePoint.groups cs generalizing part with
  | case1 =>
    rw [List.infix_nil] at h
    subst h
    rfl
  | case2 c =>
    obtain hpre | hlater := List.infix_cons_iff.mp h
    · obtain rfl | ⟨rest, rfl, hrest⟩ := List.prefix_cons_iff.mp hpre
      · rfl
      · obtain rfl := List.prefix_nil.mp hrest
        rfl
    · rw [List.infix_nil] at hlater
      subst hlater
      rfl
  | case3 d rest ih =>
    obtain hpre | hlater := List.infix_cons_iff.mp h
    · obtain rfl | ⟨rest, rfl, hrest⟩ := List.prefix_cons_iff.mp hpre
      · rfl
      · rw [List.flatten_cons, List.cons_append, List.cons_append, List.nil_append,
          CodePoint.groups, if_pos rfl, ih hrest.isInfix]
    · exact ih hlater
  | case4 c d rest hc ih =>
    obtain hpre | hlater := List.infix_cons_iff.mp h
    · obtain rfl | ⟨rest, rfl, hrest⟩ := List.prefix_cons_iff.mp hpre
      · rfl
      · have hmore := ih hrest.isInfix
        rw [List.flatten_cons, List.singleton_append]
        cases hflat : rest.flatten with
        | nil =>
          rw [hflat] at hmore
          rw [← hmore]
          rfl
        | cons e more => rw [CodePoint.groups, if_neg hc, ← hflat, hmore]
    · exact ih hlater
private theorem toList_join_map_ofList (groups : List (List Char)) :
    (String.join (groups.map .ofList)).toList = groups.flatten := by
  rw [String.toList_join, List.flatMap_map, List.flatten_eq_flatMap]
  exact List.flatMap_congr fun cs _ => String.toList_ofList

/-- A text consists of its pieces. -/
theorem join_pieces (s : String) : String.join (pieces s) = s := by
  rw [← String.toList_inj, pieces, toList_join_map_ofList, CodePoint.flatten_groups]

/-- Put together, neighbouring pieces of a text are as long as they are many. -/
theorem size_join_of_infix {s : String} {part : List String} (h : part <:+: pieces s) :
    size (String.join part) = part.length := by
  obtain ⟨groups, hgroups, rfl⟩ := List.infix_map_iff.mp h
  rw [size, toList_join_map_ofList, groups_flatten_of_infix hgroups, List.length_map]

/-- The first chunk has the given length, or is all there is. -/
theorem chunks_eq_cons {α : Type} {n : Nat} (hn : 0 < n) {items : List α} (hne : items ≠ []) :
    chunks n items = items.take n :: chunks n (items.drop n) := by
  obtain ⟨item, rest, rfl⟩ := List.exists_cons_of_ne_nil hne
  obtain ⟨m, rfl⟩ := Nat.exists_eq_add_one.mpr hn
  rw [chunks, List.take_succ_cons, List.drop_succ_cons]

/-- Nothing is lost or moved when items are put into groups. -/
theorem flatten_chunks {α : Type} (n : Nat) (items : List α) :
    (chunks n items).flatten = items := by
  fun_induction chunks n items with
  | case1 => rfl
  | case2 items => rw [List.flatten_singleton]
  | case3 item rest n ih =>
    rw [List.flatten_cons, ih, List.cons_append, List.take_append_drop]

/-- A chunk has no item that the list has not. -/
theorem mem_of_mem_chunks {α : Type} {n : Nat} {items chunk : List α} {x : α}
    (hchunk : chunk ∈ chunks n items) (hx : x ∈ chunk) : x ∈ items := by
  rw [← flatten_chunks n items]
  exact List.mem_flatten_of_mem hchunk hx

/-- The digits of a text denote a number exactly if each of them is a decimal one. -/
theorem isSome_decimalNumber? (cs : List Char) :
    (decimalNumber? cs).isSome = cs.all isDecimal := by
  have hfold (cs : List Char) (start : Option Nat) :
      (cs.foldl (fun n c => do return 10 * (← n) + (← decimalValue? c)) start).isSome =
        (start.isSome && cs.all isDecimal) := by
    induction cs generalizing start with
    | nil => simp
    | cons c cs ih =>
      rw [List.foldl_cons, ih, List.all_cons, isDecimal]
      cases start <;> cases decimalValue? c <;> rfl
  simpa [decimalNumber?] using hfold cs (some 0)

section Bytes

def bytes (s : String) : List UInt8 := s.toByteArray.data.toList

/-- Whether a text has no byte that is a line feed. -/
def lacksFeed (s : String) : Bool := (bytes s).all fun b => !b.toNat.beq 10

/-- The bytes of a text are those of its characters. -/
theorem bytes_eq_flatMap (s : String) : bytes s = s.toList.flatMap String.utf8EncodeChar := by
  obtain ⟨chars, rfl⟩ : ∃ chars, s = String.ofList chars := ⟨s.toList, String.ofList_toList.symm⟩
  rw [bytes, String.toByteArray_ofList, List.utf8Encode, List.toList_data_toByteArray,
    String.toList_ofList]

@[simp]
theorem bytes_append (s t : String) : bytes (s ++ t) = bytes s ++ bytes t := by
  simp only [bytes_eq_flatMap, String.toList_append, List.flatMap_append]

/-- The bytes of a start are a start of the bytes. -/
theorem bytes_prefix_of_prefix {s t : String} (h : s.toList <+: t.toList) :
    bytes s <+: bytes t := by
  obtain ⟨rest, hrest⟩ := h
  rw [bytes_eq_flatMap t, ← hrest, List.flatMap_append, ← bytes_eq_flatMap]
  exact List.prefix_append _ _

/-- What lacks the byte of a line feed lacks the line feed. -/
theorem not_mem_of_lacksFeed {s : String} (h : lacksFeed s) : '\n' ∉ s.toList := by
  intro hmem
  have hbyte : 10 ∈ bytes s := by
    rw [bytes_eq_flatMap, List.mem_flatMap]
    exact ⟨'\n', hmem, by decide⟩
  exact absurd (List.all_eq_true.mp h 10 hbyte) (by decide)

/-- A character whose first byte is within ASCII is that byte. -/
theorem eq_ofNat_of_head?_utf8EncodeChar {c : Char} {b : UInt8}
    (h : (String.utf8EncodeChar c).head? = some b) (hb : b.toNat < 128) :
    c = Char.ofNat b.toNat := by
  have hlead {n : Nat} (hn : 192 ≤ n) (hbyte : n < 256) (h : UInt8.ofNat n = b) : False := by
    rw [← h, UInt8.toNat_ofNat_of_lt' hbyte] at hb
    omega
  rw [String.utf8EncodeChar] at h
  split_ifs at h with hone htwo hthree
  · obtain rfl : UInt8.ofNat c.val.toNat = b := Option.some.inj h
    have hsmall : c.val.toNat < UInt8.size := Nat.lt_of_le_of_lt hone (by decide)
    rw [UInt8.toNat_ofNat_of_lt' hsmall]
    exact (Char.ofNat_toNat c).symm
  · exact absurd (Option.some.inj h) fun h => hlead (by omega) (by omega) h
  · exact absurd (Option.some.inj h) fun h => hlead (by omega) (by omega) h
  · exact absurd (Option.some.inj h) fun h => hlead (by omega) (by omega) h

/-- A text whose first byte is within ASCII starts with that character. -/
theorem head?_toList_of_bytes {s : String} {b : UInt8} (h : (bytes s).head? = some b)
    (hb : b.toNat < 128) : s.toList.head? = some (Char.ofNat b.toNat) := by
  rw [bytes_eq_flatMap] at h
  cases hchars : s.toList with
  | nil => simp [hchars] at h
  | cons c rest =>
    have hne : String.utf8EncodeChar c ≠ [] := by
      rw [String.utf8EncodeChar]
      split_ifs <;> exact List.cons_ne_nil _ _
    obtain ⟨first, more, hfirst⟩ := List.exists_cons_of_ne_nil hne
    rw [hchars, List.flatMap_cons, hfirst, List.cons_append, List.head?_cons] at h
    have hbyte : (String.utf8EncodeChar c).head? = some b := by rw [hfirst, List.head?_cons, h]
    rw [List.head?_cons, eq_ofNat_of_head?_utf8EncodeChar hbyte hb]

end Bytes

end Netscribe.Text
