import Mathlib.Data.Nat.Digits.Defs
import Netscribe.Fault
import Netscribe.Number.Shortest
import Netscribe.Proofs.Text.Pieces
import Netscribe.Proofs.Text.Trimmed
/-!
Numbers as they are written: nothing but decimal digits and a sign, and read back as the same
number. Texts of digits are read as the numbers that the digits, of whatever script, spell in the
positional system.
-/
namespace Netscribe.Text

/-- A number is written as its digits. -/
theorem toList_toString_nat (n : Nat) : (toString n).toList = Nat.toDigits 10 n :=
  Nat.toList_repr

/-- A number is written the same as an integer. -/
theorem toString_natCast (n : Nat) : toString (n : Int) = toString n := rfl

/-- A number is written with digits only. -/
theorem isDigit_of_mem_toString {n : Nat} {c : Char} (h : c ∈ (toString n).toList) : c.isDigit := by
  rw [toList_toString_nat] at h
  exact Nat.isDigit_of_mem_toDigits (by decide) (by decide) h

private theorem toList_toString_negSucc (n : Nat) :
    (toString (Int.negSucc n)).toList = '-' :: (toString (n + 1)).toList := by
  change ("-" ++ toString (n + 1)).toList = _
  rw [String.toList_append]
  rfl

/-- A whole number is written with digits and at most a sign. -/
theorem mem_toString_int {z : Int} {c : Char} (h : c ∈ (toString z).toList) :
    c.isDigit ∨ c = '-' := by
  cases z with
  | ofNat n => exact .inl (isDigit_of_mem_toString h)
  | negSucc n =>
    rw [toList_toString_negSucc, List.mem_cons] at h
    exact h.symm.imp isDigit_of_mem_toString id

/-- Smaller numbers have no more digits. -/
theorem length_toString_le {m n : Nat} (h : m ≤ n) :
    (toString m).toList.length ≤ (toString n).toList.length := by
  rw [toList_toString_nat, toList_toString_nat,
    Nat.length_toDigits_le_iff (by decide) Nat.length_toDigits_pos]
  exact h.trans_lt ((Nat.length_toDigits_le_iff (by decide) Nat.length_toDigits_pos).mp le_rfl)

private theorem toString_int_ne_empty (z : Int) : toString z ≠ "" := by
  cases z with
  | ofNat n => exact Nat.repr_ne_empty
  | negSucc n =>
    rw [ne_eq, ← String.toList_inj, toList_toString_negSucc]
    exact List.cons_ne_nil _ _

/-- A digit is no blank. -/
theorem isBlank_of_isDigit {c : Char} (h : c.isDigit) : isBlank c = false := by
  obtain ⟨hzero, hnine⟩ := Char.isDigit_iff_toNat.mp h
  have hbounds : 48 ≤ c.toNat ∧ c.toNat ≤ 57 := ⟨hzero, hnine⟩
  simp only [isBlank, inRanges, blankRanges, List.any_cons, List.any_nil, Bool.or_false,
    Bool.or_eq_false_iff, Bool.and_eq_false_iff, decide_eq_false_iff_not]
  omega

/-- An integer ends in a digit. -/
theorem endsSolid_toString (z : Int) : endsSolid (toString z) := by
  refine endsSolid_of_solid (toString_int_ne_empty z) fun c hc => ?_
  obtain hdigit | rfl := mem_toString_int hc
  · exact isBlank_of_isDigit hdigit
  · decide

/-- A digit is none of the other characters. -/
theorem ne_of_isDigit {c d : Char} (h : c.isDigit) (hd : d.isDigit = false) : c ≠ d := by
  rintro rfl
  rw [h] at hd
  cases hd

/-- A number starts with a digit. -/
theorem exists_toString_eq_cons (n : Nat) : ∃ c cs, (toString n).toList = c :: cs ∧ c.isDigit := by
  cases h : (toString n).toList with
  | nil =>
    rw [toList_toString_nat] at h
    exact absurd h Nat.toDigits_ne_nil
  | cons c cs => exact ⟨c, cs, rfl, isDigit_of_mem_toString (h ▸ List.mem_cons_self)⟩

private theorem decimalValue?_of_isDigit {c : Char} (h : c.isDigit) :
    decimalValue? c = some (c.toNat - 48) := by
  have hascii : c.toNat < 0x80 := by
    obtain ⟨_, hlast⟩ := Char.isDigit_iff_toNat.mp h
    have hnine : '9'.toNat = 57 := rfl
    omega
  rw [decimalValue?, if_pos hascii, if_pos h]

/-- Every digit is a decimal one. -/
theorem isDecimal_of_isDigit {c : Char} (h : c.isDigit) : isDecimal c := by
  rw [isDecimal, decimalValue?_of_isDigit h, Option.isSome_some]

/-- On the ten digits of ASCII the reader computes what the writer of the standard library
    inverts. -/
theorem decimalNumber?_of_isDigit {cs : List Char} (h : ∀ c ∈ cs, c.isDigit) :
    decimalNumber? cs = some (Nat.ofDigitChars 10 cs 0) := by
  have hfold (start : Nat) :
      cs.foldl (fun n c => do return 10 * (← n) + (← decimalValue? c)) (some start) =
        some (Nat.ofDigitChars 10 cs start) := by
    induction cs generalizing start with
    | nil => rfl
    | cons c rest ih =>
      obtain ⟨hc, hrest⟩ := List.forall_mem_cons.mp h
      rw [List.foldl_cons, decimalValue?_of_isDigit hc, Nat.ofDigitChars_cons]
      exact ih hrest _
  exact hfold 0

/-- A number that is written is read back. -/
theorem decimalNumber?_toString (n : Nat) : decimalNumber? (toString n).toList = some n := by
  rw [decimalNumber?_of_isDigit fun _ => isDigit_of_mem_toString, toList_toString_nat,
    Nat.ofDigitChars_ten_toDigits]

private theorem decimalNumber?_concat (cs : List Char) (c : Char) :
    decimalNumber? (cs ++ [c]) = do return 10 * (← decimalNumber? cs) + (← decimalValue? c) :=
  List.foldl_concat ..

private theorem decimalNumber?_eq_some_iff {cs : List Char} {n : Nat} :
    decimalNumber? cs = some n ↔
      ∃ values : List Nat, cs.map decimalValue? = values.map some ∧
        n = Nat.ofDigits 10 values.reverse := by
  induction cs using List.reverseRecOn generalizing n with
  | nil =>
    constructor
    · intro h
      exact ⟨[], rfl, (Option.some.inj h).symm⟩
    · rintro ⟨values, hvalues, rfl⟩
      obtain rfl : values = [] := by simpa using hvalues.symm
      rfl
  | append_singleton cs c ih =>
    rw [decimalNumber?_concat, List.map_append, List.map_singleton]
    constructor
    · intro h
      obtain ⟨m, hm, hrest⟩ := Option.bind_eq_some_iff.mp h
      obtain ⟨value, hvalue, hn⟩ := Option.bind_eq_some_iff.mp hrest
      obtain ⟨values, hvalues, rfl⟩ := ih.mp hm
      refine ⟨values ++ [value], by simp [hvalues, hvalue], ?_⟩
      rw [List.reverse_append, List.reverse_singleton, List.singleton_append, Nat.ofDigits_cons,
        ← Option.some.inj hn]
      simp [add_comm]
    · rintro ⟨values, hvalues, rfl⟩
      obtain ⟨front, back, rfl, hfront, hback⟩ := List.append_eq_map_iff.mp hvalues
      obtain ⟨value, rfl, hvalue⟩ : ∃ value, back = [value] ∧ some value = decimalValue? c := by
        simpa [List.map_eq_singleton_iff] using hback
      rw [ih.mpr ⟨front, hfront.symm, rfl⟩, ← hvalue, List.reverse_append, List.reverse_singleton,
        List.singleton_append, Nat.ofDigits_cons]
      simp [add_comm]

end Netscribe.Text

namespace Netscribe

/-- A number is read exactly if all its digits are decimal. -/
theorem digitsNumber_succeeds_iff (s : String) :
    (∃ n, digitsNumber s = .ok n) ↔ s.toList.all Text.isDecimal := by
  rw [← Text.isSome_decimalNumber?, digitsNumber]
  cases Text.decimalNumber? s.toList <;> simp

/-- A number that is not read has a digit that is not decimal, and the fault quotes it. -/
theorem digitsNumber_eq_error {s : String} {fault : Fault} (h : digitsNumber s = .error fault) :
    fault = .badInteger s ∧ s.toList.all Text.isDecimal = false := by
  constructor
  · revert h
    rw [digitsNumber]
    cases Text.decimalNumber? s.toList <;> simp [eq_comm]
  · rw [Bool.eq_false_iff, ne_eq, ← digitsNumber_succeeds_iff, h]
    simp

end Netscribe

namespace Netscribe.Text

/-- A text of decimal digits, of any script, that stand for a number in the positional system. -/
def Spells (text : String) (n : Nat) : Prop :=
  text ≠ "" ∧ ∃ values : List Nat, text.toList.map decimalValue? = values.map some ∧
    n = Nat.ofDigits 10 values.reverse

/-- A text whose digits are all decimal ones. -/
def HasDecimalDigits (s : String) : Prop := ∀ c ∈ s.toList, isDigit c → isDecimal c

instance : DecidablePred HasDecimalDigits := fun s =>
  decidable_of_iff (s.toList.all fun c => isDigit c → isDecimal c) <| by
    rw [List.all_eq_true]
    exact forall₂_congr fun _ _ => decide_eq_true_iff

/-- A text with fewer characters has no other digits. -/
theorem HasDecimalDigits.of_subset {s t : String} (h : HasDecimalDigits s)
    (hsubset : t.toList ⊆ s.toList) : HasDecimalDigits t :=
  fun c hc => h c (hsubset hc)

/-- Trimming adds no digit. -/
theorem HasDecimalDigits.trim {s : String} (h : HasDecimalDigits s) :
    HasDecimalDigits (Text.trim s) := h.of_subset (trim_subset s)

/-- A text of digits is read as the number that they spell, if it is read as any. -/
theorem spells_iff {text : String} {n : Nat} :
    Spells text n ↔ allDigits text ∧ digitsNumber text = .ok n := by
  have hnumber : digitsNumber text = .ok n ↔ decimalNumber? text.toList = some n := by
    rw [digitsNumber]
    cases decimalNumber? text.toList <;> simp
  rw [hnumber, Spells, ← decimalNumber?_eq_some_iff, allDigits, Bool.and_eq_true, decide_eq_true_eq,
    and_assoc]
  refine and_congr_right fun _ => (and_iff_right_of_imp fun hn => ?_).symm
  have hdecimal : text.toList.all isDecimal := by
    rw [← isSome_decimalNumber?, hn, Option.isSome_some]
  refine List.all_eq_true.mpr fun c hc => ?_
  rw [isDigit, List.all_eq_true.mp hdecimal c hc, Bool.true_or]

namespace Spells

variable {text : String} {m n : Nat}

/-- What spells a number consists of digits. -/
theorem allDigits (h : Spells text n) : Text.allDigits text := (spells_iff.mp h).1

/-- What spells a number is read as that number. -/
theorem digitsNumber (h : Spells text n) : Netscribe.digitsNumber text = .ok n :=
  (spells_iff.mp h).2

/-- What spells a number has no character but the ten digits. -/
theorem isDigit (h : Spells text n) : ∀ c ∈ text.toList, Text.isDigit c := by
  have hdigits := h.allDigits
  rw [Text.allDigits, Bool.and_eq_true, List.all_eq_true] at hdigits
  exact hdigits.2

/-- A text spells one number only. -/
theorem eq (hm : Spells text m) (hn : Spells text n) : m = n :=
  Except.ok.inj (hm.digitsNumber.symm.trans hn.digitsNumber)

end Spells

/-- A text of decimal digits spells a number. -/
theorem exists_spells {text : String} (h : HasDecimalDigits text) (hdigits : allDigits text) :
    ∃ n, Spells text n := by
  have hall : text.toList.all Text.isDecimal := by
    rw [Text.allDigits, Bool.and_eq_true, List.all_eq_true] at hdigits
    exact List.all_eq_true.mpr fun c hc => h c hc (hdigits.2 c hc)
  obtain ⟨n, hn⟩ := (digitsNumber_succeeds_iff text).mpr hall
  exact ⟨n, spells_iff.mpr ⟨hdigits, hn⟩⟩

end Netscribe.Text

namespace Netscribe.Binary64

/-- A floating-point value is laid out with a point or an exponent. -/
theorem mem_toList_layOut (layout : DecimalLayout) (digits : List Char) (point : Int) :
    '.' ∈ (layOut layout digits point).toList ∨ 'e' ∈ (layOut layout digits point).toList := by
  unfold layOut
  split
  · left
    split
    · simp
    · split
      · simp
      · simp
  · right
    have hsign : 'e' ∈ (if point - 1 < 0 then "e-" else "e+" : String).toList := by
      split <;> decide
    simp only [String.toList_append, List.mem_append]
    exact .inl (.inl (.inr hsign))

/-- A finite floating-point value is not written like an integer. -/
theorem write_finite_ne_toString (negative : Bool) (mantissa : Nat) (exponent z : Int) :
    (finite negative mantissa exponent).write ≠ toString z := by
  intro hsame
  have hmark : ∀ c : Char, c.isDigit = false → c ≠ '-' → c ∉ (toString z).toList := by
    intro c hdigit hminus hmem
    obtain h | h := Text.mem_toString_int hmem
    · rw [hdigit] at h
      cases h
    · exact hminus h
  rw [← hsame, write] at hmark
  simp only [String.toList_append, List.mem_append, not_or] at hmark
  obtain hpoint | hexponent := mem_toList_layOut plainLayout
    (shortestDigits mantissa exponent).1 (shortestDigits mantissa exponent).2
  · exact (hmark '.' (by decide) (by decide)).2 hpoint
  · exact (hmark 'e' (by decide) (by decide)).2 hexponent

end Netscribe.Binary64
