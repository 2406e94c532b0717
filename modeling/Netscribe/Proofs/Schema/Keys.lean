import Mathlib.Data.List.Nodup
import Mathlib.Data.List.Pairwise
import Netscribe.Proofs.Text.Pieces
import Netscribe.Schema.Shape
/-!
The spellings of a field against those of other fields. Apart from capitals and underscores the
camel case key of a field is its name, so that fields of one record whose names differ in more than
that share no key. The names are compared through numbers, which takes much less computing than
spelling out every key.
-/
namespace Netscribe

namespace Text

/-- A byte of a key, where capitals count as small letters and underscores do not count. -/
def foldByte (b : UInt8) : List Nat := if b.toNat.beq 95 then [] else [b.toNat ||| 32]

/-- What is left of a character when neither capitals nor underscores count. -/
def foldChar (c : Char) : List Nat := (String.utf8EncodeChar c).flatMap foldByte

/-- What is left of a key when neither capitals nor underscores count. -/
def folded (s : String) : List Nat := (bytes s).flatMap foldByte

private theorem folded_eq_flatMap (s : String) : folded s = s.toList.flatMap foldChar := by
  rw [folded, bytes_eq_flatMap, List.flatMap_assoc]
  rfl

private theorem folded_append (s t : String) : folded (s ++ t) = folded s ++ folded t := by
  rw [folded, bytes_append, List.flatMap_append]
  rfl

private theorem folded_join (pieces : List String) :
    folded (String.join pieces) = pieces.flatMap folded := by
  induction pieces with
  | nil => rfl
  | cons piece rest ih => rw [String.join_cons, folded_append, ih, List.flatMap_cons]

/-- What is dropped at separators that do not count leaves no gap. -/
theorem flatMap_splitChars {f : Char → List Nat} {p : Char → Bool} (h : ∀ c, p c → f c = [])
    (cs : List Char) : (splitChars p cs).flatMap (·.flatMap f) = cs.flatMap f := by
  induction cs with
  | nil => rfl
  | cons c rest ih =>
    rw [splitChars, List.flatMap_cons, ← ih]
    by_cases hc : p c
    · rw [if_pos hc, List.flatMap_cons, List.flatMap_nil, h c hc]
    · rw [if_neg hc]
      cases splitChars p rest with
      | nil => simp
      | cons piece pieces => simp

/-- Whether a text is within ASCII. -/
def isAscii (s : String) : Bool := (bytes s).all fun b => b.toNat.ble 127

private theorem toNat_le_of_isAscii {s : String} (h : isAscii s) {c : Char} (hc : c ∈ s.toList) :
    c.toNat ≤ 127 := by
  have hbytes : ∀ b ∈ String.utf8EncodeChar c, b.toNat ≤ 127 := by
    intro b hb
    rw [isAscii, bytes_eq_flatMap, List.all_eq_true] at h
    exact Nat.le_of_ble_eq_true (h b (List.mem_flatMap.mpr ⟨c, hc, hb⟩))
  have hne : String.utf8EncodeChar c ≠ [] := by
    rw [String.utf8EncodeChar]
    split_ifs <;> exact List.cons_ne_nil _ _
  obtain ⟨first, more, hfirst⟩ := List.exists_cons_of_ne_nil hne
  have hsmall : first.toNat ≤ 127 := hbytes first (by rw [hfirst]; exact List.mem_cons_self)
  have hchar : c = Char.ofNat first.toNat :=
    eq_ofNat_of_head?_utf8EncodeChar (by rw [hfirst, List.head?_cons]) (by omega)
  have hascii : ∀ n ≤ 127, (Char.ofNat n).toNat ≤ 127 := by decide
  rw [hchar]
  exact hascii first.toNat hsmall

/-- Capitals count as small letters. -/
theorem flatMap_foldChar_upperChar {c : Char} (h : c.toNat ≤ 127) :
    (upperChar c).flatMap foldChar = foldChar c := by
  have hletters : ∀ n ≤ 127, foldChar (Char.ofNat n).toUpper = foldChar (Char.ofNat n) := by
    decide +kernel
  have hletter := hletters c.toNat h
  rw [Char.ofNat_toNat] at hletter
  rw [upperChar, if_pos (by omega), List.flatMap_singleton, hletter]

private theorem folded_capitalize {s : String} (h : ∀ c ∈ s.toList, c.toNat ≤ 127) :
    folded (capitalize s) = folded s := by
  rw [folded_eq_flatMap, folded_eq_flatMap, capitalize]
  cases hs : s.toList with
  | nil => rfl
  | cons c rest =>
    have hc : c.toNat ≤ 127 := h c (by rw [hs]; exact List.mem_cons_self)
    dsimp only
    rw [String.toList_ofList, List.flatMap_append, flatMap_foldChar_upperChar hc,
      List.flatMap_cons]

end Text

/-- The camel case key of a field is its name, apart from capitals and underscores. -/
theorem folded_camelCase {name : String} (h : Text.isAscii name) :
    Text.folded (camelCase name) = Text.folded name := by
  have hunderscore : ∀ c : Char, (c == '_') = true → Text.foldChar c = [] := by
    intro c hc
    obtain rfl : c = '_' := eq_of_beq hc
    decide
  have hpieces : (Text.splitOn '_' name).flatMap Text.folded = Text.folded name := by
    rw [Text.splitOn, List.flatMap_map, Text.folded_eq_flatMap,
      ← Text.flatMap_splitChars hunderscore]
    refine List.flatMap_congr fun piece _ => ?_
    rw [Text.folded_eq_flatMap, String.toList_ofList]
  have hsmall : ∀ piece ∈ Text.splitOn '_' name, ∀ c ∈ piece.toList, c.toNat ≤ 127 := by
    intro piece hpiece c hc
    obtain ⟨chars, hchars, rfl⟩ := List.mem_map.mp hpiece
    rw [String.toList_ofList] at hc
    exact Text.toNat_le_of_isAscii h (Text.of_mem_splitChars hchars hc).1
  rw [camelCase]
  cases hsplit : Text.splitOn '_' name with
  | nil =>
    rw [hsplit] at hpieces
    exact hpieces
  | cons head rest =>
    rw [hsplit] at hpieces hsmall
    have hrest : (rest.map Text.capitalize).flatMap Text.folded = rest.flatMap Text.folded := by
      rw [List.flatMap_map]
      refine List.flatMap_congr fun piece hpiece => ?_
      exact Text.folded_capitalize (hsmall piece (List.mem_cons_of_mem head hpiece))
    dsimp only
    rw [Text.folded_append, Text.folded_join, hrest, ← hpieces, List.flatMap_cons]

/-- The accepted spellings of a field apart from its name. -/
def Slot.editorKeys (slot : Slot) : List String := slot.special.toList ++ [camelCase slot.name]

/-- The name of a slot is its last key. -/
theorem Slot.keys_eq (slot : Slot) : slot.keys = slot.editorKeys ++ [slot.name] := by
  rw [keys, editorKeys, List.append_assoc]
  rfl

/-- A slot is found by its name. -/
theorem Slot.name_mem_keys (slot : Slot) : slot.name ∈ slot.keys := by
  rw [keys_eq]
  exact List.mem_append_right _ (List.mem_singleton_self _)

/-- A slot is found by the spellings of the editor. -/
theorem Slot.mem_keys_of_mem_editorKeys {slot : Slot} {key : String} (h : key ∈ slot.editorKeys) :
    key ∈ slot.keys := by
  rw [keys_eq]
  exact List.mem_append_left _ h

/-- A slot is found by its first key. -/
theorem Slot.mem_keys_of_keys_eq {slot : Slot} {key : String} {others : List String}
    (h : slot.keys = key :: others) : key ∈ slot.keys := by
  rw [h]
  exact List.mem_cons_self

/-- A field that stands under one key only, however it is spelled. -/
theorem Slot.find?_eq_get? {slot : Slot} {key : String} (h : slot.keys = [key, key])
    (fields : Document.Fields) : slot.find? fields = Document.Fields.get? fields key := by
  rw [find?, h, List.findSome?_cons, List.findSome?_cons, List.findSome?_nil]
  cases Document.Fields.get? fields key <;> rfl

/-- A number for a key that does not change with capitals and underscores. -/
def keyNumber (key : String) : Nat := (Text.folded key).foldl (256 * · + ·) 0

/-- The numbers of the keys of a field, each once. -/
def Slot.numbers (slot : Slot) : List Nat :=
  match slot.special with
  | none => [keyNumber slot.name]
  | some key =>
    if (keyNumber key).beq (keyNumber slot.name) then [keyNumber slot.name]
    else [keyNumber key, keyNumber slot.name]

private theorem Slot.keyNumber_mem_numbers {slot : Slot} (h : Text.isAscii slot.name) {key : String}
    (hkey : key ∈ slot.keys) : keyNumber key ∈ slot.numbers := by
  have hname : keyNumber slot.name ∈ slot.numbers := by
    rw [numbers]
    cases slot.special with
    | none => exact List.mem_singleton_self _
    | some special =>
      dsimp only
      split_ifs
      · exact List.mem_singleton_self _
      · exact List.mem_cons_of_mem _ (List.mem_singleton_self _)
  rw [keys, List.mem_append, Option.mem_toList] at hkey
  obtain hspecial | hordinary := hkey
  · rw [numbers, hspecial]
    dsimp only
    split_ifs with hsame
    · rw [Nat.eq_of_beq_eq_true hsame]
      exact List.mem_singleton_self _
    · exact List.mem_cons_self
  · obtain rfl | rfl := List.mem_pair.mp hordinary
    · rw [keyNumber, folded_camelCase h]
      exact hname
    · exact hname

/-- Whether no two fields of a list share a key, up to capitals and underscores. -/
def keysApart (fields : List (Slot × Shape)) : Bool :=
  decide (fields.flatMap fun field => field.1.numbers).Nodup
    && fields.all fun field => Text.isAscii field.1.name

/-- Keys that are apart stay apart without the first field. -/
theorem keysApart_of_keysApart_cons {first : Slot × Shape} {rest : List (Slot × Shape)}
    (h : keysApart (first :: rest)) : keysApart rest := by
  rw [keysApart, Bool.and_eq_true, decide_eq_true_eq, List.flatMap_cons, List.nodup_append,
    List.all_cons, Bool.and_eq_true] at h
  obtain ⟨⟨-, hrest, -⟩, -, hascii⟩ := h
  rw [keysApart, Bool.and_eq_true, decide_eq_true_eq]
  exact ⟨hrest, hascii⟩

/-- A field shares no key with the fields behind it. -/
theorem not_mem_keys_of_keysApart_cons {first : Slot × Shape} {rest : List (Slot × Shape)}
    (h : keysApart (first :: rest)) {field : Slot × Shape} (hfield : field ∈ rest) {key : String}
    (hkey : key ∈ first.1.keys) : key ∉ field.1.keys := by
  rw [keysApart, Bool.and_eq_true, decide_eq_true_eq, List.all_eq_true, List.flatMap_cons,
    List.nodup_append] at h
  obtain ⟨⟨-, -, hapart⟩, hascii⟩ := h
  intro hshared
  have hfirst := Slot.keyNumber_mem_numbers (hascii first List.mem_cons_self) hkey
  have hlater := Slot.keyNumber_mem_numbers (hascii field (List.mem_cons_of_mem _ hfield)) hshared
  exact hapart _ hfirst _ (List.mem_flatMap.mpr ⟨field, hfield, hlater⟩) rfl

/-- Fields of a list whose keys are apart share a key only with themselves. -/
theorem eq_of_mem_keys {fields : List (Slot × Shape)} (h : keysApart fields)
    {field other : Slot × Shape} (hfield : field ∈ fields) (hother : other ∈ fields) {key : String}
    (hkey : key ∈ field.1.keys) (hsame : key ∈ other.1.keys) : field = other := by
  rw [keysApart, Bool.and_eq_true, decide_eq_true_eq, List.all_eq_true, List.nodup_flatMap] at h
  obtain ⟨⟨-, hapart⟩, hascii⟩ := h
  by_contra hne
  have hsymmetric : Std.Symm (Function.onFun List.Disjoint fun f : Slot × Shape => f.1.numbers) :=
    ⟨fun _ _ hdisjoint _ hsecond hfirst => hdisjoint hfirst hsecond⟩
  have hdisjoint := hapart.forall hfield hother hne
  exact hdisjoint (Slot.keyNumber_mem_numbers (hascii field hfield) hkey)
    (Slot.keyNumber_mem_numbers (hascii other hother) hsame)

end Netscribe
