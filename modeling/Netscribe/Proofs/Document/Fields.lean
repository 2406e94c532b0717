import Mathlib.Data.List.Basic
import Netscribe.Document.Basic
/-!
What is found under the keys of an object, when objects are put together, set and erased from, and
whether two documents are one and the same. This is finer than equality of their values: numbers of
different kinds are different documents, and so are objects with their fields in another order.
-/
namespace Netscribe.Document.Fields

/-- An entry is found where no earlier one has its key. -/
theorem get?_append_cons (front back : Fields) (key : String) (value : Document)
    (wanted : String) :
    get? (front ++ (key, value) :: back) wanted =
      (get? front wanted).or (if wanted = key then some value else get? back wanted) := by
  rw [get?, List.lookup_append, List.lookup_cons]
  by_cases h : wanted = key
  · rw [if_pos h, h, beq_self_eq_true]
    rfl
  · rw [if_neg h, beq_false_of_ne h]
    rfl

/-- The first entry answers for its own key. -/
theorem get?_cons (entry : String × Document) (rest : Fields) (wanted : String) :
    get? (entry :: rest) wanted = if wanted = entry.1 then some entry.2 else get? rest wanted :=
  get?_append_cons [] rest entry.1 entry.2 wanted

/-- A key that no entry has is not found. -/
theorem get?_eq_none {fields : Fields} {key : String} (h : ∀ entry ∈ fields, entry.1 ≠ key) :
    get? fields key = none := by
  induction fields with
  | nil => rfl
  | cons entry rest ih =>
    obtain ⟨hentry, hrest⟩ := List.forall_mem_cons.mp h
    rw [get?_cons, if_neg hentry.symm, ih hrest]

/-- A key is contained exactly if a value is found for it. -/
theorem contains_eq_isSome (fields : Fields) (key : String) :
    contains fields key = (get? fields key).isSome := by
  induction fields with
  | nil => rfl
  | cons entry rest ih =>
    rw [contains, List.any_cons, get?_cons]
    by_cases h : key = entry.1
    · rw [if_pos h, h, beq_self_eq_true]
      rfl
    · rw [if_neg h, beq_false_of_ne (Ne.symm h), Bool.false_or]
      exact ih

/-- What has a value is contained. -/
theorem contains_of_get?_eq_some {fields : Fields} {key : String} {value : Document}
    (h : get? fields key = some value) : contains fields key := by
  rw [contains_eq_isSome, h]
  rfl

/-- More entries behind take nothing away. -/
theorem contains_append_left {fields more : Fields} {key : String} (h : contains fields key) :
    contains (fields ++ more) key := by
  rw [contains, List.any_append, Bool.or_eq_true]
  exact .inl h

/-- Entries behind do not change what an earlier one answers. -/
theorem get?_append_of_contains {fields more : Fields} {key : String} (h : contains fields key) :
    get? (fields ++ more) key = get? fields key := by
  rw [contains_eq_isSome] at h
  rw [get?, List.lookup_append, ← get?, Option.or_of_isSome h]

/-- Entries with a key of their own are found alike when the values of another key change. -/
theorem get?_map_of_ne {key wanted : String} (h : wanted ≠ key) (value : Document)
    (fields : Fields) :
    get? (fields.map fun entry => if entry.1 == key then (key, value) else entry) wanted =
      get? fields wanted := by
  induction fields with
  | nil => rfl
  | cons entry rest ih =>
    rw [List.map_cons, get?_cons, get?_cons, ih]
    by_cases hentry : entry.1 = key
    · have hother : wanted ≠ entry.1 := fun heq => h (heq.trans hentry)
      rw [hentry, beq_self_eq_true, if_pos rfl, if_neg h, if_neg h]
    · have hkept : ¬ (entry.1 == key) = true := fun heq => hentry (eq_of_beq heq)
      rw [if_neg hkept]

private theorem get?_map_of_contains {key : String} (value : Document) {fields : Fields}
    (h : contains fields key) :
    get? (fields.map fun entry => if entry.1 == key then (key, value) else entry) key =
      some value := by
  induction fields with
  | nil => cases h
  | cons entry rest ih =>
    rw [List.map_cons, get?_cons]
    by_cases hentry : entry.1 = key
    · rw [hentry, beq_self_eq_true, if_pos rfl, if_pos rfl]
    · have hrest : contains rest key := by
        rw [contains, List.any_cons, Bool.or_eq_true] at h
        exact h.resolve_left fun heq => hentry (eq_of_beq heq)
      have hkey : key ≠ entry.1 := fun heq => hentry heq.symm
      have hkept : ¬ (entry.1 == key) = true := fun heq => hentry (eq_of_beq heq)
      rw [if_neg hkept, if_neg hkey, ih hrest]

/-- Setting a key changes what is found under it, and nothing else. -/
theorem get?_set (fields : Fields) (key : String) (value : Document) (wanted : String) :
    get? (set fields key value) wanted =
      if wanted = key then some value else get? fields wanted := by
  rw [set]
  by_cases hcontains : contains fields key
  · rw [if_pos hcontains]
    by_cases hwanted : wanted = key
    · rw [if_pos hwanted, hwanted, get?_map_of_contains value hcontains]
    · rw [if_neg hwanted, get?_map_of_ne hwanted]
  · rw [if_neg hcontains, get?_append_cons]
    by_cases hwanted : wanted = key
    · have hnone : get? fields wanted = none := by
        rw [contains_eq_isSome, Bool.not_eq_true, Option.isSome_eq_false_iff,
          Option.isNone_iff_eq_none] at hcontains
        rw [hwanted, hcontains]
      rw [if_pos hwanted, if_pos hwanted, hnone, Option.none_or]
    · rw [if_neg hwanted, if_neg hwanted]
      exact Option.or_none

/-- Erasing a key leaves the others as they are. -/
theorem get?_erase (fields : Fields) {key wanted : String} (h : wanted ≠ key) :
    get? (erase fields key) wanted = get? fields wanted := by
  induction fields with
  | nil => rfl
  | cons entry rest ih =>
    rw [erase, get?_cons]
    by_cases hentry : entry.1 = key
    · have hother : wanted ≠ entry.1 := fun heq => h (heq.trans hentry)
      rw [List.filter_cons_of_neg (by simp [hentry]), if_neg hother]
      exact ih
    · rw [List.filter_cons_of_pos (by simp [hentry]), get?_cons, ← ih]
      rfl

end Netscribe.Document.Fields

namespace Netscribe.Document

mutual
def isSame : Document → Document → Bool
  | null, null => true
  | flag a, flag b => a == b
  | int m, int n => m == n
  | float x, float y => x == y
  | text s, text t => s == t
  | list xs, list ys => areSame xs ys
  | object xs, object ys => haveSame xs ys
  | _, _ => false

def areSame : List Document → List Document → Bool
  | [], [] => true
  | x :: xs, y :: ys => isSame x y && areSame xs ys
  | _, _ => false

def haveSame : Fields → Fields → Bool
  | [], [] => true
  | (key, x) :: xs, (other, y) :: ys => key == other && isSame x y && haveSame xs ys
  | _, _ => false
end

mutual
private theorem isSame_iff : ∀ x y : Document, isSame x y ↔ x = y
  | .null, y => by cases y <;> simp [isSame]
  | .flag _, y => by cases y <;> simp [isSame]
  | .int _, y => by cases y <;> simp [isSame]
  | .float _, y => by cases y <;> simp [isSame]
  | .text _, y => by cases y <;> simp [isSame]
  | .list xs, y => by cases y <;> simp [isSame, areSame_iff xs]
  | .object xs, y => by cases y <;> simp [isSame, haveSame_iff xs]

private theorem areSame_iff : ∀ xs ys : List Document, areSame xs ys ↔ xs = ys
  | [], ys => by cases ys <;> simp [areSame]
  | x :: xs, ys => by cases ys <;> simp [areSame, isSame_iff x, areSame_iff xs]

private theorem haveSame_iff : ∀ xs ys : Fields, haveSame xs ys ↔ xs = ys
  | [], ys => by cases ys <;> simp [haveSame]
  | (_, x) :: xs, ys => by
    cases ys <;> simp [haveSame, isSame_iff x, haveSame_iff xs, Prod.ext_iff, and_assoc]
end

instance : DecidableEq Document := fun x y => decidable_of_iff _ (isSame_iff x y)

end Netscribe.Document
