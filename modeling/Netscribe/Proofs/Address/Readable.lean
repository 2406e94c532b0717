import Netscribe.Document.Reader
import Netscribe.Proofs.Outcome
import Netscribe.Proofs.Text.OneLine
import Netscribe.Proofs.Vlan.Readable
/-!
Which addresses can be encoded, and how. A text that is no dotted address has no encoding, and that
is no fault; but a part of digits in the wide sense that are no decimal digits is taken for a
number, and the address cannot be read if all parts before it are octets. The encoding of an address
is read back as its octets, so that two addresses have the same one only if they are equal as
numbers.
-/
namespace Netscribe.Text

private theorem length_hex (width n : Nat) : (hex width n).length = width := by
  induction width generalizing n with
  | zero => rfl
  | succ width ih => rw [hex, List.length_append, ih, List.length_singleton]

/-- Within ASCII no character becomes several when it becomes capital. -/
theorem upper_of_ascii {cs : List Char} (h : ∀ c ∈ cs, c.toNat < 0x80) :
    upper (.ofList cs) = .ofList (cs.map Char.toUpper) := by
  have hchars : cs.flatMap upperChar = cs.flatMap fun c => [c.toUpper] :=
    List.flatMap_congr fun c hc => by rw [upperChar, if_pos (h c hc)]
  rw [upper, String.toList_ofList, hchars, List.map_eq_flatMap]

end Netscribe.Text

namespace Netscribe.Ipv4

open Vlan (IsFalseNumber)

/-- A part of an address that is a decimal number up to 255. -/
def IsOctet (part : String) : Prop :=
  Text.allDigits part ∧ ∃ n ≤ 255, digitsNumber part = .ok n

private theorem isOctet_iff {part : String} : IsOctet part ↔ ∃ n ≤ 255, Text.Spells part n := by
  simp only [IsOctet, Text.spells_iff]
  constructor
  · rintro ⟨hdigits, n, hsmall, hnumber⟩
    exact ⟨n, hsmall, hdigits, hnumber⟩
  · rintro ⟨n, hsmall, hdigits, hnumber⟩
    exact ⟨hdigits, n, hsmall, hnumber⟩

/-- Parts of which one looks like a number and is none, behind octets only. -/
def FailsAt (parts : List String) (part : String) : Prop :=
  ∃ front back, parts = front ++ part :: back ∧ (∀ octet ∈ front, IsOctet octet) ∧
    IsFalseNumber part

private theorem failsAt_nil (part : String) : ¬ FailsAt [] part := by
  rintro ⟨front, back, hparts, -⟩
  cases front <;> cases hparts

/-- The first part fails, or it is an octet and a later part fails. -/
theorem failsAt_cons_iff {first part : String} {rest : List String} :
    FailsAt (first :: rest) part ↔
      (first = part ∧ IsFalseNumber part) ∨ (IsOctet first ∧ FailsAt rest part) := by
  constructor
  · rintro ⟨front, back, hparts, hfront, hfalse⟩
    cases front with
    | nil =>
      obtain ⟨rfl, -⟩ := List.cons.inj hparts
      exact .inl ⟨rfl, hfalse⟩
    | cons octet front =>
      obtain ⟨rfl, hrest⟩ := List.cons.inj hparts
      obtain ⟨hoctet, hfront⟩ := List.forall_mem_cons.mp hfront
      exact .inr ⟨hoctet, front, back, hrest, hfront, hfalse⟩
  · rintro (⟨rfl, hfalse⟩ | ⟨hoctet, front, back, rfl, hfront, hfalse⟩)
    · exact ⟨[], rest, rfl, fun _ h => (nomatch h), hfalse⟩
    · exact ⟨first :: front, back, rfl, List.forall_mem_cons.mpr ⟨hoctet, hfront⟩, hfalse⟩

private theorem digitsNumber_of_isFalseNumber {part : String} (h : IsFalseNumber part) :
    digitsNumber part = .error (.badInteger part) := by
  obtain ⟨-, hdecimal⟩ := h
  cases hnumber : digitsNumber part with
  | error cause => rw [(digitsNumber_eq_error hnumber).1]
  | ok n =>
    rw [(digitsNumber_succeeds_iff part).mp ⟨n, hnumber⟩] at hdecimal
    cases hdecimal

private theorem not_isOctet_of_isFalseNumber {part : String} (h : IsFalseNumber part) :
    ¬ IsOctet part := by
  rintro ⟨-, n, -, hnumber⟩
  rw [digitsNumber_of_isFalseNumber h] at hnumber
  cases hnumber

section First

variable {first : String} (rest : List String)

private theorem octets?_cons_of_isFalseNumber (h : IsFalseNumber first) :
    octets? (first :: rest) = .error (.badInteger first) := by
  rw [octets?, if_neg (by simp [h.1]), digitsNumber_of_isFalseNumber h]
  rfl

private theorem octets?_cons_of_spells {n : Nat} (h : Text.Spells first n) (hsmall : n ≤ 255) :
    octets? (first :: rest) = (octets? rest).map fun octets => octets.map (n :: ·) := by
  have hlarge : ¬ 255 < n := by omega
  rw [octets?, if_neg (by simp [h.allDigits]), h.digitsNumber]
  cases octets? rest <;> simp [bind, Except.bind, pure, Except.pure, Except.map, hlarge]

/-- A part that is no number, or one that is too large, ends the reading. -/
theorem octets?_cons_of_neither (hfalse : ¬ IsFalseNumber first) (hoctet : ¬ IsOctet first) :
    octets? (first :: rest) = .ok none := by
  rw [octets?]
  by_cases hdigits : Text.allDigits first
  · rw [if_neg (by simp [hdigits])]
    cases hnumber : digitsNumber first with
    | error cause => exact absurd ⟨hdigits, (digitsNumber_eq_error hnumber).2⟩ hfalse
    | ok n =>
      have hlarge : 255 < n := by
        by_contra hsmall
        exact hoctet ⟨hdigits, n, by omega, hnumber⟩
      simp [bind, Except.bind, pure, Except.pure, hlarge]
  · rw [if_pos (by simpa using hdigits)]

end First

private theorem octets?_eq_error_iff {parts : List String} {fault : Fault} :
    octets? parts = .error fault ↔ ∃ part, FailsAt parts part ∧ fault = .badInteger part := by
  induction parts with
  | nil => simp [octets?, failsAt_nil]
  | cons first rest ih =>
    simp only [failsAt_cons_iff]
    by_cases hfalse : IsFalseNumber first
    · rw [octets?_cons_of_isFalseNumber rest hfalse, Except.error.injEq]
      constructor
      · rintro rfl
        exact ⟨first, .inl ⟨rfl, hfalse⟩, rfl⟩
      · rintro ⟨part, ⟨rfl, -⟩ | ⟨hoctet, -⟩, rfl⟩
        · rfl
        · exact absurd hoctet (not_isOctet_of_isFalseNumber hfalse)
    · have hnot : ∀ part, ¬ (first = part ∧ IsFalseNumber part) := by
        rintro part ⟨rfl, hpart⟩
        exact hfalse hpart
      by_cases hoctet : IsOctet first
      · obtain ⟨n, hsmall, hfirst⟩ := isOctet_iff.mp hoctet
        simp only [octets?_cons_of_spells rest hfirst hsmall, Outcome.map_eq_error_iff, hnot,
          hoctet, false_or, true_and, ih]
      · rw [octets?_cons_of_neither rest hfalse hoctet]
        simp [hnot, hoctet]

/-- The parts are read as the numbers that they spell, if these are all small enough. -/
theorem octets?_eq_ok_some_iff {parts : List String} {octets : List Nat} :
    octets? parts = .ok (some octets) ↔
      List.Forall₂ Text.Spells parts octets ∧ ∀ n ∈ octets, n ≤ 255 := by
  induction parts generalizing octets with
  | nil =>
    rw [octets?, List.forall₂_nil_left_iff]
    constructor
    · rintro ⟨⟩
      exact ⟨rfl, List.forall_mem_nil _⟩
    · rintro ⟨rfl, -⟩
      rfl
  | cons first rest ih =>
    by_cases hoctet : IsOctet first
    · obtain ⟨n, hsmall, hfirst⟩ := isOctet_iff.mp hoctet
      rw [octets?_cons_of_spells rest hfirst hsmall, Outcome.map_eq_ok_iff]
      constructor
      · rintro ⟨found, hfound, hoctets⟩
        obtain ⟨more, rfl, rfl⟩ := Option.map_eq_some_iff.mp hoctets
        obtain ⟨hspells, hsmaller⟩ := ih.mp hfound
        exact ⟨.cons hfirst hspells, List.forall_mem_cons.mpr ⟨hsmall, hsmaller⟩⟩
      · rintro ⟨hspells, hsmaller⟩
        obtain ⟨m, more, hm, hmore, rfl⟩ := List.forall₂_cons_left_iff.mp hspells
        obtain rfl := hm.eq hfirst
        exact ⟨some more, ih.mpr ⟨hmore, (List.forall_mem_cons.mp hsmaller).2⟩, rfl⟩
    · constructor
      · intro h
        by_cases hfalse : IsFalseNumber first
        · rw [octets?_cons_of_isFalseNumber rest hfalse] at h
          cases h
        · rw [octets?_cons_of_neither rest hfalse hoctet] at h
          cases h
      · rintro ⟨hspells, hsmaller⟩
        obtain ⟨m, more, hm, -, rfl⟩ := List.forall₂_cons_left_iff.mp hspells
        exact absurd (isOctet_iff.mpr ⟨m, hsmaller m List.mem_cons_self, hm⟩) hoctet

/-- A text of four decimal numbers up to 255 with dots between them, and these numbers in order. -/
structure IsDotted (text : String) (octets : List Nat) : Prop where
  four : octets.length = 4
  small : ∀ n ∈ octets, n ≤ 255
  spells : ∃ parts, text = Text.join "." parts ∧ List.Forall₂ Text.Spells parts octets

private theorem isDotted_iff {text : String} {octets : List Nat} :
    IsDotted text octets ↔ (Text.splitOn '.' text).length = 4 ∧
      octets? (Text.splitOn '.' text) = .ok (some octets) := by
  constructor
  · rintro ⟨hfour, hsmall, parts, rfl, hparts⟩
    have hne : parts ≠ [] := by
      rintro rfl
      rw [List.forall₂_nil_left_iff.mp hparts] at hfour
      cases hfour
    have hdot : ∀ part ∈ parts, '.' ∉ part.toList := by
      intro part hpart hmem
      obtain ⟨n, -, hspells⟩ := Outcome.exists_of_forall₂_left hparts hpart
      exact absurd (hspells.isDigit '.' hmem) (by decide)
    rw [Text.splitOn_join_of_not_mem rfl hne hdot, hparts.length_eq, octets?_eq_ok_some_iff]
    exact ⟨hfour, hparts, hsmall⟩
  · rintro ⟨hfour, hoctets⟩
    obtain ⟨hparts, hsmall⟩ := octets?_eq_ok_some_iff.mp hoctets
    exact ⟨hparts.length_eq ▸ hfour, hsmall, _, (Text.join_splitOn rfl text).symm, hparts⟩

/-- The digits of octets, two for each of them. -/
def octetDigits (capital : Bool) (octets : List Nat) : List Char :=
  octets.flatMap fun n => (Text.hex 2 n).map (if capital then Char.toUpper else id)

/-- The octets that hexadecimal digits stand for, two of them for each. -/
def ofDigits? : List Char → Option (List Nat)
  | [] => some []
  | high :: low :: rest => do return (← Document.hexNumber? [high, low]) :: (← ofDigits? rest)
  | [_] => none

private theorem length_octetDigits (capital : Bool) (octets : List Nat) :
    (octetDigits capital octets).length = 2 * octets.length := by
  induction octets with
  | nil => rfl
  | cons n rest ih =>
    rw [octetDigits, List.flatMap_cons, List.length_append, List.length_map, Text.length_hex,
      List.length_cons, ← octetDigits, ih]
    omega

private theorem ofDigits?_octetDigits (capital : Bool) {octets : List Nat}
    (h : ∀ n ∈ octets, n ≤ 255) :
    ofDigits? (octetDigits capital octets) = some octets := by
  have hdigit : ∀ d < 16, Document.hexValue?
      ((if capital then Char.toUpper else id) (Text.hexDigit d)) = some d := by
    cases capital <;> decide
  induction octets with
  | nil => rfl
  | cons n rest ih =>
    obtain ⟨hn, hrest⟩ := List.forall_mem_cons.mp h
    have hpair : octetDigits capital (n :: rest) =
        (if capital then Char.toUpper else id) (Text.hexDigit (n / 16 % 16)) ::
          (if capital then Char.toUpper else id) (Text.hexDigit (n % 16)) ::
            octetDigits capital rest := rfl
    have hnumber : 16 * (n / 16 % 16) + n % 16 = n := by omega
    rw [hpair, ofDigits?, ih hrest, Document.hexNumber?]
    simp [hdigit _ (Nat.mod_lt _ _), hnumber]

private theorem upper_octetDigits (octets : List Nat) :
    Text.upper (.ofList (octetDigits false octets)) = .ofList (octetDigits true octets) := by
  have hascii : ∀ c ∈ octetDigits false octets, c.toNat < 0x80 := by
    intro c hc
    obtain ⟨n, -, hc⟩ := List.mem_flatMap.mp hc
    obtain ⟨digit, hdigit, rfl⟩ := Text.exists_eq_hexDigit (by simpa using hc)
    have hdigits : ∀ d < 16, (Text.hexDigit d).toNat < 0x80 := by decide
    exact hdigits digit hdigit
  rw [Text.upper_of_ascii hascii, octetDigits, octetDigits, List.map_flatMap]
  simp only [Bool.false_eq_true, if_false, if_true, List.map_id]

private theorem toHex_eq (address : String) (capital : Bool) :
    toHex address capital =
      if (Text.splitOn '.' (Text.trim address)).length = 4 then
        (octets? (Text.splitOn '.' (Text.trim address))).map fun octets =>
          octets.elim "" fun octets => .ofList (octetDigits capital octets)
      else .ok "" := by
  delta toHex
  -- No step below may compute with the parts, which are those of an unknown text.
  generalize Text.splitOn '.' (Text.trim address) = parts
  by_cases hfour : parts.length = 4
  · simp only [hfour, ne_eq, not_true_eq_false, if_false, if_true]
    cases octets? parts with
    | error fault => rfl
    | ok found =>
      cases found with
      | none => rfl
      | some octets =>
        refine congrArg (Except.ok ∘ String.ofList) ?_
        cases capital with
        | false => simp [octetDigits]
        | true => simp [octetDigits, List.map_flatMap]
  · simp only [hfour, ne_eq, not_false_eq_true, if_true, if_false]
    rfl

/-- Encoding an address fails exactly in a part of a text of four parts. -/
theorem toHex_eq_error_iff {address : String} {capital : Bool} {fault : Fault} :
    toHex address capital = .error fault ↔
      (Text.splitOn '.' (Text.trim address)).length = 4 ∧
        ∃ part, FailsAt (Text.splitOn '.' (Text.trim address)) part ∧
          fault = .badInteger part := by
  rw [toHex_eq, ← octets?_eq_error_iff]
  split
  next hfour => rw [Outcome.map_eq_error_iff, and_iff_right hfour]
  next hfour => exact iff_of_false nofun fun h => hfour h.1

private theorem toHex_of_isDotted {address : String} {octets : List Nat} (capital : Bool)
    (h : IsDotted (Text.trim address) octets) :
    toHex address capital = .ok (.ofList (octetDigits capital octets)) := by
  obtain ⟨hfour, hoctets⟩ := isDotted_iff.mp h
  rw [toHex_eq, if_pos hfour, hoctets]
  rfl

private theorem toHex_of_not_isDotted {address : String} (capital : Bool)
    (hdigits : Text.HasDecimalDigits address)
    (h : ¬ ∃ octets, IsDotted (Text.trim address) octets) : toHex address capital = .ok "" := by
  rw [toHex_eq]
  split
  next hfour =>
    cases hoctets : octets? (Text.splitOn '.' (Text.trim address)) with
    | error fault =>
      obtain ⟨part, ⟨front, back, hparts, -, hall, hnone⟩, -⟩ := octets?_eq_error_iff.mp hoctets
      have hpart : part ∈ Text.splitOn '.' (Text.trim address) := by simp [hparts]
      have hdecimal := (hdigits.trim).of_subset (Text.subset_of_mem_splitOn hpart)
      obtain ⟨n, hn⟩ := Text.exists_spells hdecimal hall
      rw [(digitsNumber_succeeds_iff part).mp ⟨n, hn.digitsNumber⟩] at hnone
      cases hnone
    | ok found =>
      cases found with
      | none => rfl
      | some octets => exact absurd ⟨octets, isDotted_iff.mpr ⟨hfour, hoctets⟩⟩ h
  next => rfl

private theorem toHex_capital (address : String) :
    toHex address true = (toHex address false).map Text.upper := by
  rw [toHex_eq, toHex_eq]
  split
  next =>
    cases octets? (Text.splitOn '.' (Text.trim address)) with
    | error fault => rfl
    | ok found =>
      cases found with
      | none => rfl
      | some octets => exact congrArg Except.ok (upper_octetDigits octets).symm
  next => rfl

private theorem toHex_eq_toHex_iff {s t : String} {xs ys : List Nat} (capital : Bool)
    (hs : IsDotted (Text.trim s) xs) (ht : IsDotted (Text.trim t) ys) :
    toHex s capital = toHex t capital ↔ xs = ys := by
  rw [toHex_of_isDotted capital hs, toHex_of_isDotted capital ht]
  constructor
  · intro h
    have hread := ofDigits?_octetDigits capital hs.small
    rw [String.ofList_injective (Except.ok.inj h), ofDigits?_octetDigits capital ht.small] at hread
    exact (Option.some.inj hread).symm
  · rintro rfl
    rfl

/-- An address whose digits are all decimal ones is encoded in eight digits that are read back as
    its octets, two digits at a time, and what is no address in nothing. Capital letters make no
    other difference, and two addresses are encoded alike exactly if they have the same octets. -/
theorem encoded_addresses_read_back :
    (∀ address capital, Text.HasDecimalDigits address →
      (∀ octets, IsDotted (Text.trim address) octets → ∃ encoded,
        toHex address capital = .ok encoded ∧ encoded.toList.length = 8 ∧
          ofDigits? encoded.toList = some octets) ∧
      ((¬ ∃ octets, IsDotted (Text.trim address) octets) → toHex address capital = .ok "")) ∧
    (∀ address, toHex address true = (toHex address false).map Text.upper) ∧
    ∀ s t xs ys capital, IsDotted (Text.trim s) xs → IsDotted (Text.trim t) ys →
      (toHex s capital = toHex t capital ↔ xs = ys) := by
  refine ⟨fun address capital hdigits =>
    ⟨fun octets h => ⟨_, toHex_of_isDotted capital h, ?_, ?_⟩,
      toHex_of_not_isDotted capital hdigits⟩,
    toHex_capital, fun s t xs ys capital => toHex_eq_toHex_iff capital⟩
  · rw [String.toList_ofList, length_octetDigits, h.four]
  · rw [String.toList_ofList, ofDigits?_octetDigits capital h.small]

/-- Blanks around an address, leading zeros, and the smallest and largest octets. -/
theorem encoded_addresses_read_back_with_zeros :
    Text.HasDecimalDigits " 010.0.00.255\t" ∧
      IsDotted (Text.trim " 010.0.00.255\t") [10, 0, 0, 255] ∧
      IsDotted (Text.trim "10.0.0.255") [10, 0, 0, 255] ∧
      toHex " 010.0.00.255\t" true = .ok "0A0000FF" ∧
      ofDigits? "0A0000FF".toList = some [10, 0, 0, 255] ∧
      toHex " 010.0.00.255\t" true = toHex "10.0.0.255" true := by
  have hdecimal : Text.HasDecimalDigits " 010.0.00.255\t" := by decide
  have hdotted : IsDotted (Text.trim " 010.0.00.255\t") [10, 0, 0, 255] :=
    isDotted_iff.mpr ⟨rfl, rfl⟩
  have hplain : IsDotted (Text.trim "10.0.0.255") [10, 0, 0, 255] :=
    isDotted_iff.mpr ⟨rfl, rfl⟩
  have hcapital : toHex " 010.0.00.255\t" true = .ok "0A0000FF" := rfl
  obtain ⟨hread, -, hsame⟩ := encoded_addresses_read_back
  obtain ⟨encoded, hencoded, -, hoctets⟩ := (hread _ true hdecimal).1 _ hdotted
  obtain rfl : "0A0000FF" = encoded := Except.ok.inj (hcapital.symm.trans hencoded)
  exact ⟨hdecimal, hdotted, hplain, hcapital, hoctets,
    (hsame _ _ _ _ true hdotted hplain).mpr rfl⟩

end Netscribe.Ipv4
