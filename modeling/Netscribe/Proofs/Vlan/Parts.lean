import Netscribe.Proofs.Vlan.Collected
/-!
Lists of VLANs put together with commas. The word between two numbers is looked for in the whole
text before any comma counts, and yet every part is read as if it stood alone.
-/
namespace Netscribe.Vlan

section Comma

variable (cs ds : List Char)

private theorem dropWhile_append_comma : (cs ++ ',' :: ds).dropWhile Text.isBlank =
    cs.dropWhile Text.isBlank ++ ',' :: ds := by
  have hcomma : (',' :: ds).dropWhile Text.isBlank = ',' :: ds :=
    List.dropWhile_cons_of_neg (by decide)
  rw [List.dropWhile_append, hcomma]
  split
  next hnone => rw [List.isEmpty_iff.mp hnone, List.nil_append]
  next => rfl

/-- The word of a range that begins before a comma ends before it. -/
theorem isBlank_eq_false_of_append_comma {ds after : List Char} {b : Char}
    (hword : cs ++ ',' :: ds = 't' :: 'o' :: b :: after)
    (h : ∀ after, cs = 't' :: 'o' :: b :: after → Text.isBlank b = false) :
    Text.isBlank b = false := by
  match cs, hword with
  | [], hword => cases hword
  | [_], hword => cases hword
  | [_, _], hword =>
    cases hword
    decide
  | _ :: _ :: _ :: rest, hword =>
    cases hword
    exact h rest rfl

/-- No range runs across a comma. -/
theorem joinRanges_append_comma :
    joinRanges (cs ++ ',' :: ds) = joinRanges cs ++ ',' :: joinRanges ds := by
  have hkept {c : Char} {rest : List Char}
      (hnone : Text.isBlank c → ∀ b after,
        rest.dropWhile Text.isBlank = 't' :: 'o' :: b :: after → Text.isBlank b = false)
      (ih : joinRanges (rest ++ ',' :: ds) = joinRanges rest ++ ',' :: joinRanges ds) :
      joinRanges (c :: rest ++ ',' :: ds) = c :: joinRanges rest ++ ',' :: joinRanges ds := by
    rw [List.cons_append, joinRanges_cons_of_no_word, ih, List.cons_append]
    intro hc b after hword
    rw [dropWhile_append_comma] at hword
    exact isBlank_eq_false_of_append_comma _ hword (hnone hc b)
  -- The induction follows the scan: only a word that it replaces takes it further than one step.
  fun_induction joinRanges cs with
  | case1 => rw [List.nil_append, joinRanges_cons_of_not_blank (by decide), List.nil_append]
  | case2 c rest hc b after hword hb ih =>
    have hlonger : (rest ++ ',' :: ds).dropWhile Text.isBlank =
        't' :: 'o' :: b :: (after ++ ',' :: ds) := by
      rw [dropWhile_append_comma, hword]
      rfl
    rw [List.cons_append, joinRanges_cons_of_word hc hlonger hb, dropWhile_append_comma, ih,
      List.cons_append]
  | case3 c rest hc b after hword hb ih =>
    refine hkept (fun _ other more hother => ?_) ih
    obtain ⟨rfl, rfl⟩ : b = other ∧ after = more := by simpa [hword] using hother
    exact Bool.eq_false_iff.mpr hb
  | case4 c rest hc hnone ih => exact hkept (fun _ b after hword => (hnone b after hword).elim) ih
  | case5 c rest hc ih => exact hkept (fun hblank => absurd hblank hc) ih

end Comma

/-- Bringing ranges into one form adds nothing but dashes. -/
theorem mem_joinRanges {c : Char} {cs : List Char} (h : c ∈ joinRanges cs) : c ∈ cs ∨ c = '-' := by
  have hkept {d : Char} {rest : List Char} (h : c ∈ d :: joinRanges rest)
      (ih : c ∈ joinRanges rest → c ∈ rest ∨ c = '-') : c ∈ d :: rest ∨ c = '-' := by
    obtain rfl | hrest := List.mem_cons.mp h
    · exact .inl List.mem_cons_self
    · exact (ih hrest).imp_left (List.mem_cons_of_mem d)
  fun_induction joinRanges cs with
  | case1 => cases h
  | case2 d rest _ b after hword _ ih =>
    obtain rfl | hafter := List.mem_cons.mp h
    · exact .inr rfl
    · refine (ih hafter).imp_left fun hmem => ?_
      have hrest : c ∈ rest.dropWhile Text.isBlank := by
        rw [hword]
        simp [(List.dropWhile_suffix _).mem hmem]
      exact List.mem_cons_of_mem d ((List.dropWhile_suffix _).mem hrest)
  | case3 d rest _ b after _ _ ih | case4 d rest _ _ ih | case5 d rest _ ih => exact hkept h ih

/-- A text that can stand between commas: no blank at either end, and no digits but decimal ones. -/
structure IsPart (text : String) : Prop where
  first : ∀ c ∈ text.toList.head?, Text.isBlank c = false
  last : ∀ c ∈ text.toList.getLast?, Text.isBlank c = false
  decimal : ∀ c ∈ text.toList, Text.isDigit c → Text.isDecimal c

/-- An item that names no VLAN: of no known form, as a range without one of its ends is; a range
    whose end comes before its start; a number or a range beyond the VLANs. -/
inductive IsBadItem (item : String) : Prop
  | parts (h : 2 < (Text.splitOn '-' item).length)
  | noNumber {part : String} (hpart : part ∈ Text.splitOn '-' item)
      (h : Text.allDigits part = false)
  | number {n : Nat} (hparts : Text.splitOn '-' item = [item]) (hn : digitsNumber item = .ok n)
      (h : n < minId ∨ maxId < n)
  | range {low high : String} {first last : Nat} (hparts : Text.splitOn '-' item = [low, high])
      (hfirst : digitsNumber low = .ok first) (hlast : digitsNumber high = .ok last)
      (h : last < first ∨ last < minId ∨ maxId < first)

section Parts

variable {s t text : String} {parts : List String} {id : Int}

namespace IsPart

private theorem iff_all : IsPart text ↔
    text.toList.head?.all (!Text.isBlank ·) ∧ text.toList.getLast?.all (!Text.isBlank ·) ∧
      text.toList.all fun c => Text.isDigit c → Text.isDecimal c := by
  simp only [Option.all_eq_true, List.all_eq_true, Bool.not_eq_true', decide_eq_true_eq]
  exact ⟨fun ⟨first, last, decimal⟩ => ⟨first, last, decimal⟩,
    fun ⟨first, last, decimal⟩ => ⟨first, last, decimal⟩⟩

instance (text : String) : Decidable (IsPart text) := decidable_of_iff' _ iff_all

private theorem trim_eq (h : IsPart text) : Text.trim text = text := by
  by_cases hempty : text = ""
  · rw [hempty]
    rfl
  have hne : text.toList ≠ [] := by simpa using hempty
  apply Text.trim_eq_self
  · obtain ⟨c, rest, hcons⟩ := List.exists_cons_of_ne_nil hne
    simp [Text.startsSolid, hcons, h.first c (by simp [hcons])]
  · have hlast := List.getLast?_eq_some_getLast hne
    simp [Text.endsSolid, hlast, h.last _ hlast]

private theorem append_comma (hs : IsPart s) (ht : IsPart t) : IsPart (s ++ "," ++ t) := by
  have htext : (s ++ "," ++ t).toList = s.toList ++ ',' :: t.toList := by simp
  refine ⟨fun c hc => ?_, fun c hc => ?_, fun c hc hdigit => ?_⟩
  · rw [htext, List.head?_append] at hc
    cases hfirst : s.toList.head? with
    | none =>
      obtain rfl : ',' = c := by simpa [hfirst] using hc
      decide
    | some d =>
      obtain rfl : d = c := by simpa [hfirst] using hc
      exact hs.first d hfirst
  · rw [htext, List.getLast?_append, List.getLast?_cons] at hc
    cases hlast : t.toList.getLast? with
    | none =>
      obtain rfl : ',' = c := by simpa [hlast] using hc
      decide
    | some d =>
      obtain rfl : d = c := by simpa [hlast] using hc
      exact ht.last d hlast
  · rw [htext, List.mem_append, List.mem_cons] at hc
    obtain hleft | rfl | hright := hc
    · exact hs.decimal c hleft hdigit
    · exact absurd hdigit (by decide)
    · exact ht.decimal c hright hdigit

/-- The items of two parts are those of the one and then those of the other. -/
theorem items_append_comma (hs : IsPart s) (ht : IsPart t) :
    items (s ++ "," ++ t) = items s ++ items t := by
  have htext : (s ++ "," ++ t).toList = s.toList ++ ',' :: t.toList := by simp
  rw [items, (hs.append_comma ht).trim_eq, htext, joinRanges_append_comma,
    Text.tokens_append_cons (by decide), items, items, hs.trim_eq, ht.trim_eq]

private theorem listNames_append_comma_iff (hs : IsPart s) (ht : IsPart t) :
    ListNames (s ++ "," ++ t) id ↔ ListNames s id ∨ ListNames t id := by
  simp only [ListNames, hs.items_append_comma ht, List.mem_append, or_and_right, exists_or]

private theorem isReadable (h : IsPart text) : IsReadable text := by
  rintro item hitem ⟨-, -, part, hpart, hdigits, hfalse⟩
  refine Bool.eq_false_iff.mp hfalse (List.all_eq_true.mpr fun c hc => ?_)
  have hdash : c ≠ '-' := by
    rintro rfl
    exact Text.not_mem_of_mem_splitOn hpart hc
  obtain ⟨piece, hpiece, rfl⟩ := List.mem_map.mp hpart
  have hjoined := Text.of_mem_tokens hitem (Text.of_mem_splitChars hpiece (by simpa using hc)).1
  rw [String.toList_ofList, h.trim_eq] at hjoined
  rw [Text.allDigits, Bool.and_eq_true, List.all_eq_true] at hdigits
  exact h.decimal c ((mem_joinRanges hjoined).resolve_right hdash) (hdigits.2 c hc)

private theorem exists_parseIds_eq_ok (h : IsPart text) : ∃ ids, parseIds text = .ok ids :=
  (parseIds_succeeds_iff text).mpr h.isReadable

end IsPart

private theorem items_join (h : ∀ part ∈ parts, IsPart part) :
    IsPart (Text.join "," parts) ∧ items (Text.join "," parts) = parts.flatMap items := by
  induction parts with
  | nil => exact ⟨⟨nofun, nofun, nofun⟩, by decide +kernel⟩
  | cons part rest ih =>
    obtain ⟨hpart, hrest⟩ := List.forall_mem_cons.mp h
    by_cases hnil : rest = []
    · subst hnil
      simpa [Text.join] using hpart
    · have hjoin : Text.join "," (part :: rest) = part ++ "," ++ Text.join "," rest :=
        String.intercalate_cons_of_ne_nil hnil
      obtain ⟨hjoined, hitems⟩ := ih hrest
      rw [hjoin, hpart.items_append_comma hjoined, hitems, List.flatMap_cons]
      exact ⟨hpart.append_comma hjoined, rfl⟩

private theorem listNames_join_iff (h : ∀ part ∈ parts, IsPart part) :
    ListNames (Text.join "," parts) id ↔ ∃ part ∈ parts, ListNames part id := by
  simp only [ListNames, (items_join h).2, List.mem_flatMap]
  constructor
  · rintro ⟨⟨item, ⟨part, hpart, hitem⟩, hnames⟩, hvalid⟩
    exact ⟨part, hpart, ⟨item, hitem, hnames⟩, hvalid⟩
  · rintro ⟨part, hpart, ⟨item, hitem, hnames⟩, hvalid⟩
    exact ⟨⟨item, ⟨part, hpart, hitem⟩, hnames⟩, hvalid⟩

/-- A bad item names no VLAN. -/
theorem IsBadItem.not_names {item : String} (h : IsBadItem item) (hnames : ItemNames item id) :
    ¬ ((minId : Int) ≤ id ∧ id ≤ maxId) := by
  cases hnames with
  | single hdigits hn =>
    have hparts := splitOn_of_allDigits hdigits
    cases h with
    | parts h => simp [hparts] at h
    | noNumber hpart h =>
      rw [hparts, List.mem_singleton] at hpart
      subst hpart
      exact absurd hdigits (by simp [h])
    | number _ hn' h =>
      cases hn.symm.trans hn'
      omega
    | range hpair =>
      rw [hparts] at hpair
      cases hpair
  | range hparts hlow hhigh hfirst hlast hle hge =>
    cases h with
    | parts h => simp [hparts] at h
    | noNumber hpart h =>
      rw [hparts, List.mem_pair] at hpart
      obtain rfl | rfl := hpart
      · exact absurd hlow (by simp [h])
      · exact absurd hhigh (by simp [h])
    | number hsingle =>
      rw [hparts] at hsingle
      cases hsingle
    | range hpair hfirst' hlast' h =>
      cases hparts.symm.trans hpair
      cases hfirst.symm.trans hfirst'
      cases hlast.symm.trans hlast'
      omega

private theorem not_listNames_of_isBadItem (h : ∀ item ∈ items text, IsBadItem item) :
    ¬ ListNames text id := by
  rintro ⟨⟨item, hitem, hnames⟩, hvalid⟩
  exact (h item hitem).not_names hnames hvalid

/-- Texts that name the same ids are read alike, if both can be read. -/
theorem parseIds_congr (hs : ∃ ids, parseIds s = .ok ids) (ht : ∃ ids, parseIds t = .ok ids)
    (h : ∀ id, ListNames s id ↔ ListNames t id) : parseIds s = parseIds t := by
  obtain ⟨ids, hids⟩ := hs
  obtain ⟨others, hothers⟩ := ht
  rw [hids, hothers]
  refine congrArg Except.ok ((pairwise_parseIds hids).eq_of_mem_iff (pairwise_parseIds hothers) ?_)
  intro id
  rw [mem_parseIds_iff hids, mem_parseIds_iff hothers, h]

end Parts

/-- What a list names is what its parts between commas name, one by one: parts in which only decimal
    digits stand can be read, alone and together, and items that name no VLAN change nothing in a
    list, wherever they stand. All that is ever read are VLANs, in strictly ascending order. -/
theorem comma_separated_parts_read_apart :
    (∀ s t, IsPart s → IsPart t → ∃ ids others all,
      parseIds s = .ok ids ∧ parseIds t = .ok others ∧ parseIds (s ++ "," ++ t) = .ok all ∧
      ∀ id, id ∈ all ↔ id ∈ ids ∨ id ∈ others) ∧
    (∀ text ids, parseIds text = .ok ids → ids.Pairwise (· < ·) ∧ ∀ id ∈ ids, 1 ≤ id ∧ id ≤ 4094) ∧
    ∀ before bad after, (∀ part ∈ before ++ bad :: after, IsPart part) →
      (∀ item ∈ items bad, IsBadItem item) →
      parseIds (Text.join "," (before ++ bad :: after)) =
        parseIds (Text.join "," (before ++ after)) := by
  refine ⟨fun s t hs ht => ?_, fun text ids hids => ?_, fun before bad after hparts hbad => ?_⟩
  · obtain ⟨ids, hids⟩ := hs.exists_parseIds_eq_ok
    obtain ⟨others, hothers⟩ := ht.exists_parseIds_eq_ok
    obtain ⟨all, hall⟩ := (hs.append_comma ht).exists_parseIds_eq_ok
    refine ⟨ids, others, all, hids, hothers, hall, fun id => ?_⟩
    rw [mem_parseIds_iff hall, mem_parseIds_iff hids, mem_parseIds_iff hothers,
      hs.listNames_append_comma_iff ht]
  · exact ⟨pairwise_parseIds hids, fun id hid => le_of_mem_parseIds hids hid⟩
  · have hrest : ∀ part ∈ before ++ after, IsPart part := by
      intro part hpart
      exact hparts part (by simp at hpart ⊢; tauto)
    refine parseIds_congr (items_join hparts).1.exists_parseIds_eq_ok
      (items_join hrest).1.exists_parseIds_eq_ok fun id => ?_
    have hnone : ¬ ListNames bad id := not_listNames_of_isBadItem hbad
    simp only [listNames_join_iff hparts, listNames_join_iff hrest, List.mem_append, List.mem_cons,
      or_and_right, exists_or, exists_eq_left, hnone, false_or]

/-- A range in words that ends before a comma, then a word, a reversed range, one without a start
    and a number beyond the VLANs, then an id. -/
theorem bad_items_read_apart :
    IsPart "10 to 12" ∧ IsPart "to 20-15 -7 5000" ∧ IsPart "30" ∧
      (∀ item ∈ items "to 20-15 -7 5000", IsBadItem item) ∧
      parseIds "10 to 12,to 20-15 -7 5000,30" = .ok [10, 11, 12, 30] ∧
      ∃ ids others all, parseIds "10 to 12" = .ok ids ∧ parseIds "30" = .ok others ∧
        parseIds "10 to 12,30" = .ok all ∧ ∀ id, id ∈ all ↔ id ∈ ids ∨ id ∈ others := by
  have hfirst : IsPart "10 to 12" := by decide
  have hbad : IsPart "to 20-15 -7 5000" := by decide
  have hlast : IsPart "30" := by decide
  have hitems : items "to 20-15 -7 5000" = ["to", "20-15", "-7", "5000"] := by decide +kernel
  have hnone : ∀ item ∈ items "to 20-15 -7 5000", IsBadItem item := by
    have htwenty : digitsNumber "20" = .ok 20 := by decide +kernel
    have hfifteen : digitsNumber "15" = .ok 15 := by decide +kernel
    have hlarge : digitsNumber "5000" = .ok 5000 := by decide +kernel
    have hword : "to" ∈ Text.splitOn '-' "to" := by decide
    have hstart : "" ∈ Text.splitOn '-' "-7" := by decide
    rw [hitems]
    simp only [List.forall_mem_cons]
    exact ⟨.noNumber hword (by decide), .range (by decide) htwenty hfifteen (by decide),
      .noNumber hstart (by decide), .number (by decide) hlarge (by decide), List.forall_mem_nil _⟩
  have hparts : ∀ part ∈ ["10 to 12", "to 20-15 -7 5000", "30"], IsPart part := by
    simp only [List.forall_mem_cons]
    exact ⟨hfirst, hbad, hlast, List.forall_mem_nil _⟩
  have hskipped : parseIds "10 to 12,to 20-15 -7 5000,30" = parseIds "10 to 12,30" :=
    comma_separated_parts_read_apart.2.2 ["10 to 12"] "to 20-15 -7 5000" ["30"] hparts hnone
  have hread : parseIds "10 to 12,30" = .ok [10, 11, 12, 30] := by
    rw [parseIds_eq_insertionSort]
    decide +kernel
  exact ⟨hfirst, hbad, hlast, hnone, hskipped.trans hread,
    comma_separated_parts_read_apart.1 _ _ hfirst hlast⟩

end Netscribe.Vlan
