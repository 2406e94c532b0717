import Netscribe.Fault
import Netscribe.Proofs.Number.Decimal
/-!
Texts of characters of one kind, as arguments of commands are: names, addresses in digits and
points, numbers in digits.
-/
namespace Netscribe

namespace Text

/-- A text without blanks, not an empty one. -/
def IsWord (s : String) : Prop := s ≠ "" ∧ ∀ c ∈ s.toList, isBlank c = false

-- by the list of its characters: all characters there are can be gone through as well
instance : DecidablePred IsWord := fun s =>
  decidable_of_iff (s ≠ "" ∧ s.toList.all (!isBlank ·)) (by simp [IsWord])

/-- A word starts solid. -/
theorem IsWord.startsSolid {w : String} (h : IsWord w) : startsSolid w := by
  cases hw : w.toList with
  | nil => exact absurd (by simpa using hw) h.1
  | cons c rest =>
    have hc : isBlank c = false := h.2 c (hw ▸ List.mem_cons_self)
    simp [Text.startsSolid, hw, hc]

/-- A word ends solid. -/
theorem IsWord.endsSolid {w : String} (h : IsWord w) : endsSolid w := endsSolid_of_solid h.1 h.2

/-- The characters of names: letters and digits of ASCII, points, hyphens, underscores. -/
def isNameChar (c : Char) : Bool := c.isAlphanum || c == '.' || c == '-' || c == '_'

def isDottedChar (c : Char) : Bool := c.isDigit || c == '.'

private theorem isNameChar_of_isDigit {c : Char} (h : c.isDigit) : isNameChar c := by
  simp [isNameChar, Char.isAlphanum, h]

private theorem isNameChar_of_isDottedChar {c : Char} (h : isDottedChar c) : isNameChar c := by
  obtain hdigit | hpoint := (Bool.or_eq_true _ _).mp h
  · exact isNameChar_of_isDigit hdigit
  · rw [beq_iff_eq.mp hpoint]
    decide

private theorem isBlank_of_isNameChar {c : Char} (h : isNameChar c) : isBlank c = false := by
  have hwithin {low high : Char} (hlow : 45 ≤ low.toNat) (hhigh : high.toNat ≤ 122)
      (hbounds : low.val ≤ c.val ∧ c.val ≤ high.val) : 45 ≤ c.toNat ∧ c.toNat ≤ 122 :=
    ⟨hlow.trans (UInt32.le_iff_toNat_le.mp hbounds.1),
      (UInt32.le_iff_toNat_le.mp hbounds.2).trans hhigh⟩
  have hdecided {low high : Char} (hc : (decide (low.val ≤ c.val) && decide (c.val ≤ high.val)) =
      true) : low.val ≤ c.val ∧ c.val ≤ high.val := by simpa using hc
  have hbounds : 45 ≤ c.toNat ∧ c.toNat ≤ 122 := by
    rw [isNameChar, Bool.or_eq_true, Bool.or_eq_true, Bool.or_eq_true, beq_iff_eq, beq_iff_eq,
      beq_iff_eq] at h
    obtain ((halnum | rfl) | rfl) | rfl := h
    · obtain halpha | hdigit := (Bool.or_eq_true _ _).mp halnum
      · obtain hupper | hlower := (Bool.or_eq_true _ _).mp halpha
        · have hbetween : 'A'.val ≤ c.val ∧ c.val ≤ 'Z'.val := of_decide_eq_true hupper
          exact hwithin (by decide) (by decide) hbetween
        · have hbetween : 'a'.val ≤ c.val ∧ c.val ≤ 'z'.val := hdecided hlower
          exact hwithin (by decide) (by decide) hbetween
      · have hbetween : '0'.val ≤ c.val ∧ c.val ≤ '9'.val := hdecided hdigit
        exact hwithin (by decide) (by decide) hbetween
    · decide
    · decide
    · decide
  simp only [isBlank, inRanges, blankRanges, List.any_cons, List.any_nil, Bool.or_false,
    Bool.or_eq_false_iff, Bool.and_eq_false_iff, decide_eq_false_iff_not]
  omega

/-- A text of characters of one kind, not an empty one. -/
structure Written (p : Char → Bool) where
  text : String
  ne_empty : text ≠ ""
  all : ∀ c ∈ text.toList, p c

abbrev Name := Written isNameChar

abbrev Dotted := Written isDottedChar

abbrev Numeral := Written Char.isDigit

/-- A written text has a first character. -/
theorem Written.exists_eq_cons {p : Char → Bool} (w : Written p) :
    ∃ c cs, w.text.toList = c :: cs ∧ p c := by
  obtain ⟨c, cs, hcs⟩ := List.exists_cons_of_ne_nil (l := w.text.toList) (by simpa using w.ne_empty)
  exact ⟨c, cs, hcs, w.all c (hcs ▸ List.mem_cons_self)⟩

@[simp] theorem Name.isWord (w : Name) : IsWord w.text :=
  ⟨w.ne_empty, fun c hc => isBlank_of_isNameChar (w.all c hc)⟩

/-- A name has no dollar. -/
theorem Name.dollar_not_mem (w : Name) : '$' ∉ w.text.toList := fun h =>
  absurd (w.all '$' h) (by decide)

def isName (s : String) : Bool := s ≠ "" && s.toList.all isNameChar

/-- A word that is known to be a name. -/
def Name.of (s : String) (h : isName s) : Name :=
  have hs := (Bool.and_eq_true _ _).mp h
  ⟨s, of_decide_eq_true hs.1, List.all_eq_true.mp hs.2⟩

@[simp] theorem Name.text_of (s : String) (h) : (Name.of s h).text = s := rfl

def Dotted.toName (w : Dotted) : Name :=
  ⟨w.text, w.ne_empty, fun c hc => isNameChar_of_isDottedChar (w.all c hc)⟩

@[simp] theorem Dotted.text_toName (w : Dotted) : w.toName.text = w.text := rfl

/-- A dotted text is none with another character. -/
theorem Dotted.ne (w : Dotted) {s : String} (h : s.toList.all isDottedChar = false) :
    w.text ≠ s := by
  rintro rfl
  rw [List.all_eq_true.mpr w.all] at h
  cases h

@[simp] theorem Dotted.isWord (w : Dotted) : IsWord w.text := Name.isWord w.toName

namespace Numeral

def toDotted (n : Numeral) : Dotted :=
  ⟨n.text, n.ne_empty, fun c hc => by rw [isDottedChar, n.all c hc, Bool.true_or]⟩

def toName (n : Numeral) : Name := n.toDotted.toName

@[simp] theorem text_toName (n : Numeral) : n.toName.text = n.text := rfl

@[simp] theorem isWord (n : Numeral) : IsWord n.text := Name.isWord n.toName

def ofNat (n : Nat) : Numeral := ⟨toString n, Nat.repr_ne_empty, fun _ => isDigit_of_mem_toString⟩

/-- The number that digits stand for. -/
def value (n : Numeral) : Nat := Nat.ofDigitChars 10 n.text.toList 0

/-- A number that is written has its own value. -/
theorem value_ofNat (n : Nat) : (ofNat n).value = n := by
  rw [value, ofNat, toList_toString_nat, Nat.ofDigitChars_ten_toDigits]

/-- A numeral has digits only. -/
theorem isDigit (n : Numeral) : ∀ c ∈ n.text.toList, Text.isDigit c := by
  intro c hc
  rw [Text.isDigit, isDecimal_of_isDigit (n.all c hc), Bool.true_or]

/-- A numeral consists of digits. -/
theorem allDigits (n : Numeral) : Text.allDigits n.text := by
  rw [Text.allDigits, List.all_eq_true.mpr n.isDigit, Bool.and_true, decide_eq_true n.ne_empty]

/-- A numeral is read as its value. -/
theorem digitsNumber (n : Numeral) : Netscribe.digitsNumber n.text = .ok n.value := by
  rw [Netscribe.digitsNumber, decimalNumber?_of_isDigit n.all]
  rfl

end Numeral

end Text
end Netscribe
