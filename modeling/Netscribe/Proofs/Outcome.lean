import Mathlib.Data.List.Forall2
/-!
Steps that may fail: when a sequence of them succeeds, and what it gives then.
-/
namespace Netscribe.Outcome

variable {ε α β : Type}

/-- A chain succeeds exactly if both of its parts do. -/
theorem bind_eq_ok_iff {x : Except ε α} {f : α → Except ε β} {b : β} :
    x >>= f = .ok b ↔ ∃ a, x = .ok a ∧ f a = .ok b := by
  cases x <;> simp [bind, Except.bind]

/-- A chain fails in its first part, or in the second one with a value of the first. -/
theorem bind_eq_error_iff {x : Except ε α} {f : α → Except ε β} {e : ε} :
    x >>= f = .error e ↔ x = .error e ∨ ∃ a, x = .ok a ∧ f a = .error e := by
  cases x <;> simp [bind, Except.bind]

/-- What follows without a failure of its own fails as its first part does. -/
theorem bind_pure_eq_error_iff {x : Except ε α} {f : α → β} {e : ε} :
    (x >>= fun a => pure (f a)) = .error e ↔ x = .error e := by
  cases x <;> simp [bind, Except.bind, pure, Except.pure]

/-- Changing the value does not change whether there is one. -/
theorem map_succeeds_iff {x : Except ε α} {f : α → β} :
    (∃ b, x.map f = .ok b) ↔ ∃ a, x = .ok a := by
  cases x <;> simp [Except.map]

/-- The changed value comes from one before it. -/
theorem map_eq_ok_iff {x : Except ε α} {f : α → β} {b : β} :
    x.map f = .ok b ↔ ∃ a, x = .ok a ∧ f a = b := by
  cases x <;> simp [Except.map]

/-- Changing the value leaves the failure as it is. -/
theorem map_eq_error_iff {x : Except ε α} {f : α → β} {e : ε} :
    x.map f = .error e ↔ x = .error e := by
  cases x <;> simp [Except.map]

/-- Changing the failure leaves the value as it is. -/
theorem mapError_eq_ok_iff {ε' : Type} {x : Except ε α} {f : ε → ε'} {a : α} :
    x.mapError f = .ok a ↔ x = .ok a := by
  cases x <;> simp [Except.mapError]

/-- The changed failure comes from one before it. -/
theorem mapError_eq_error_iff {ε' : Type} {x : Except ε α} {f : ε → ε'} {e : ε'} :
    x.mapError f = .error e ↔ ∃ cause, x = .error cause ∧ f cause = e := by
  cases x <;> simp [Except.mapError]

/-- A step whose result, or else whose failure, is as expected. -/
structure Ensures (p : α → Prop) (q : ε → Prop) (x : Except ε α) : Prop where
  ok : ∀ {a}, x = .ok a → p a
  error : ∀ {e}, x = .error e → q e

section Ensures

variable {p p' : α → Prop} {q q' : ε → Prop} {x : Except ε α}

/-- A value ensures what holds of it. -/
theorem Ensures.pure {a : α} (h : p a) : Ensures p q (pure a) :=
  ⟨fun ha => by cases ha; exact h, fun he => nomatch he⟩

/-- A failure ensures what holds of it. -/
theorem Ensures.throw {e : ε} (h : q e) : Ensures p q (.error e) :=
  ⟨fun ha => (nomatch ha), fun he => by cases he; exact h⟩

/-- What is ensured of the value may be weakened. -/
theorem Ensures.imp (h : Ensures p q x) (hp : ∀ a, p a → p' a) : Ensures p' q x :=
  ⟨fun ha => hp _ (h.ok ha), h.error⟩

/-- What is ensured of the failure may be weakened. -/
theorem Ensures.imp_error (h : Ensures p q x) (hq : ∀ e, q e → q' e) : Ensures p q' x :=
  ⟨h.ok, fun he => hq _ (h.error he)⟩

/-- What the first part ensures is at hand for the second one. -/
theorem Ensures.bind {r : β → Prop} {f : α → Except ε β} (h : Ensures p q x)
    (hf : ∀ a, p a → Ensures r q (f a)) : Ensures r q (x >>= f) := by
  constructor
  · intro b hb
    obtain ⟨a, ha, hb⟩ := bind_eq_ok_iff.mp hb
    exact (hf a (h.ok ha)).ok hb
  · intro e he
    obtain he | ⟨a, ha, he⟩ := bind_eq_error_iff.mp he
    · exact h.error he
    · exact (hf a (h.ok ha)).error he

/-- What is ensured for each item is ensured for the list of values. -/
theorem Ensures.mapM {r : β → Prop} {f : α → Except ε β} {xs : List α}
    (h : ∀ x ∈ xs, Ensures r q (f x)) : Ensures (∀ y ∈ ·, r y) q (xs.mapM f) := by
  induction xs with
  | nil => exact .pure fun _ hy => nomatch hy
  | cons x xs ih =>
    obtain ⟨hx, hxs⟩ := List.forall_mem_cons.mp h
    rw [List.mapM_cons]
    refine hx.bind fun y hy => (ih hxs).bind fun ys hys => .pure ?_
    exact List.forall_mem_cons.mpr ⟨hy, hys⟩

end Ensures

/-- Each item on the left has a partner. -/
theorem exists_of_forall₂_left {r : α → β → Prop} {xs : List α} {ys : List β}
    (h : List.Forall₂ r xs ys) {x : α} (hx : x ∈ xs) : ∃ y ∈ ys, r x y := by
  induction h with
  | nil => cases hx
  | cons hhead _ ih =>
    obtain rfl | htail := List.mem_cons.mp hx
    · exact ⟨_, List.mem_cons_self, hhead⟩
    · obtain ⟨y, hy, hr⟩ := ih htail
      exact ⟨y, List.mem_cons_of_mem _ hy, hr⟩

/-- Each item on the right has a partner. -/
theorem exists_of_forall₂_right {r : α → β → Prop} {xs : List α} {ys : List β}
    (h : List.Forall₂ r xs ys) {y : β} (hy : y ∈ ys) : ∃ x ∈ xs, r x y :=
  exists_of_forall₂_left h.flip hy

/-- Partners for the items make a list of partners. -/
theorem exists_forall₂ {r : α → β → Prop} {xs : List α} (h : ∀ x ∈ xs, ∃ y, r x y) :
    ∃ ys, List.Forall₂ r xs ys := by
  induction xs with
  | nil => exact ⟨[], .nil⟩
  | cons x xs ih =>
    obtain ⟨⟨y, hy⟩, hrest⟩ := List.forall_mem_cons.mp h
    obtain ⟨ys, hys⟩ := ih hrest
    exact ⟨y :: ys, .cons hy hys⟩

/-- Two relations between the same lists share their partners. -/
theorem forall_mem_of_forall₂ {r s : α → β → Prop} {xs : List α} {ys : List β}
    (hr : List.Forall₂ r xs ys) (hs : List.Forall₂ s xs ys) : ∀ x ∈ xs, ∃ y, r x y ∧ s x y := by
  induction hr with
  | nil => exact fun x hx => nomatch hx
  | cons hhead _ ih =>
    obtain ⟨hfirst, hrest⟩ := List.forall₂_cons.mp hs
    exact List.forall_mem_cons.mpr ⟨⟨_, hhead, hfirst⟩, ih hrest⟩

/-- Relations that have the same partners have the same lists. -/
theorem eq_of_forall₂ {r s : α → β → Prop} {xs : List α} {ys zs : List β}
    (hr : List.Forall₂ r xs ys) (hs : List.Forall₂ s xs zs)
    (hsame : ∀ x ∈ xs, ∀ y z, r x y → s x z → z = y) : ys = zs := by
  induction hr generalizing zs with
  | nil => exact (List.forall₂_nil_left_iff.mp hs).symm
  | cons hhead _ ih =>
    obtain ⟨z, rest, hfirst, hrest, rfl⟩ := List.forall₂_cons_left_iff.mp hs
    obtain ⟨hx, hxs⟩ := List.forall_mem_cons.mp hsame
    rw [hx _ _ hhead hfirst, ih hrest hxs]

/-- A pass over a list succeeds with the results of its elements, in order. -/
theorem mapM_eq_ok_iff {f : α → Except ε β} {xs : List α} {ys : List β} :
    xs.mapM f = .ok ys ↔ List.Forall₂ (fun x y => f x = .ok y) xs ys := by
  induction xs generalizing ys with
  | nil => cases ys <;> simp [pure, Except.pure]
  | cons x xs ih =>
    rw [List.mapM_cons, bind_eq_ok_iff, List.forall₂_cons_left_iff]
    constructor
    · rintro ⟨y, hy, hrest⟩
      obtain ⟨rest, hmap, hpure⟩ := bind_eq_ok_iff.mp hrest
      cases hpure
      exact ⟨y, rest, hy, ih.mp hmap, rfl⟩
    · rintro ⟨y, rest, hy, hmap, rfl⟩
      exact ⟨y, hy, bind_eq_ok_iff.mpr ⟨rest, ih.mpr hmap, rfl⟩⟩

/-- Without a failure on the way, the list is mapped. -/
theorem mapM_eq_ok {f : α → Except ε β} {g : α → β} {xs : List α}
    (h : ∀ x ∈ xs, f x = .ok (g x)) : xs.mapM f = .ok (xs.map g) := by
  rw [mapM_eq_ok_iff, List.forall₂_map_right_iff, List.forall₂_same]
  exact h

/-- A list is gone through exactly if each of its items succeeds. -/
theorem mapM_succeeds_iff {f : α → Except ε β} {xs : List α} :
    (∃ ys, xs.mapM f = .ok ys) ↔ ∀ x ∈ xs, ∃ y, f x = .ok y := by
  simp only [mapM_eq_ok_iff]
  induction xs with
  | nil => simp
  | cons x xs ih =>
    simp only [List.forall₂_cons_left_iff, List.forall_mem_cons, ← ih]
    constructor
    · rintro ⟨_, y, ys, hy, hys, rfl⟩
      exact ⟨⟨y, hy⟩, ys, hys⟩
    · rintro ⟨⟨y, hy⟩, ys, hys⟩
      exact ⟨y :: ys, y, ys, hy, hys, rfl⟩

/-- A pass over a list fails as one of its elements does. -/
theorem exists_of_mapM_eq_error {f : α → Except ε β} {xs : List α} {e : ε}
    (h : xs.mapM f = .error e) : ∃ x ∈ xs, f x = .error e := by
  induction xs with
  | nil => cases h
  | cons x xs ih =>
    rw [List.mapM_cons, bind_eq_error_iff] at h
    obtain hx | ⟨y, _, hrest⟩ := h
    · exact ⟨x, List.mem_cons_self, hx⟩
    · obtain ⟨z, hz, hfail⟩ := ih (bind_pure_eq_error_iff.mp hrest)
      exact ⟨z, List.mem_cons_of_mem x hz, hfail⟩

/-- What the steps of a pass over a list give together, if it is known what each of them gives. -/
theorem mem_flatten_iff {give : α → Except ε (List β)} {xs : List α} {lists : List (List β)}
    {y : β} {p : α → Prop} (h : xs.mapM give = .ok lists)
    (hgive : ∀ {x ys}, give x = .ok ys → (y ∈ ys ↔ p x)) :
    y ∈ lists.flatten ↔ ∃ x ∈ xs, p x := by
  have hsteps := mapM_eq_ok_iff.mp h
  rw [List.mem_flatten]
  constructor
  · rintro ⟨ys, hys, hy⟩
    obtain ⟨x, hx, hstep⟩ := exists_of_forall₂_right hsteps hys
    exact ⟨x, hx, (hgive hstep).mp hy⟩
  · rintro ⟨x, hx, hp⟩
    obtain ⟨ys, hys, hstep⟩ := exists_of_forall₂_left hsteps hx
    exact ⟨ys, hys, (hgive hstep).mpr hp⟩

end Netscribe.Outcome
