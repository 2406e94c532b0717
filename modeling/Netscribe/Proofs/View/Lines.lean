import Netscribe.Device.Vendor
import Netscribe.Proofs.Text.Line
import Netscribe.Proofs.Text.OneLine
import Netscribe.Proofs.Text.Trimmed
/-!
Lines that enter the views of a device, fill them and leave them again. A view is entered by a
command at the outermost level, what is indented belongs to it, and the closing command of the
vendor leaves it. Lines are read one after another with one bit of memory, whether a view is open,
which is what makes texts that are put together from such lines easy to follow.
-/
namespace Netscribe

namespace Text

/-- Whether a line starts with a blank. -/
def isIndented (line : String) : Bool := line.toList.head?.any isBlank

/-- Whether a device ignores a line: a blank one, or a comment, indented or not. -/
def isSilent (line : String) : Bool :=
  (line.toList.dropWhile isBlank).head?.all fun c => c == '#' || c == '!'

/-- Whether a line is a comment at the outermost level. -/
def startsRemark (line : String) : Bool := line.toList.head?.any fun c => c == '#' || c == '!'

/-- The lines of a text that a device does not ignore. -/
def shownLines (text : String) : List String := (splitOn '\n' text).filter (!isSilent ·)

/-- Whether a line is a command at the outermost level other than the closing ones. -/
def isCommand (line : String) : Bool :=
  line.toList.head?.any (fun c => !isBlank c && c != '#' && c != '!')
    && !hasStart "quit" line && !hasStart "exit" line

/-- Whether the first byte is a blank. -/
def opensIndented (front : String) : Bool := (bytes front).head?.any fun b => b.toNat.beq 32

/-- Whether a first byte is that of a command for certain: none that a blank, a comment or a closing
    command starts with. -/
def isCommandByte (n : Nat) : Bool :=
  Nat.blt 33 n && n.blt 128 && !n.beq 35 && !n.beq 101 && !n.beq 113

/-- Whether the first byte shows that a line is a command. -/
def opensCommand (front : String) : Bool :=
  (bytes front).head?.any fun b => isCommandByte b.toNat

section Append

variable {s : String}

private theorem head?_toList_append {c : Char} (h : s.toList.head? = some c) (t : String) :
    (s ++ t).toList.head? = some c := by
  rw [String.toList_append, List.head?_append, h, Option.some_or]

/-- What is put behind does not change what holds of the first character. -/
theorem any_head?_append {p : Char → Bool} (h : s.toList.head?.any p) (t : String) :
    (s ++ t).toList.head?.any p := by
  cases hhead : s.toList.head? with
  | none => simp [hhead] at h
  | some c => rwa [head?_toList_append hhead, ← hhead]

/-- A text with a first character is not empty. -/
theorem ne_empty_of_any_head? {p : Char → Bool} (h : s.toList.head?.any p) : s ≠ "" := by
  rintro rfl
  cases h

/-- A command is not empty. -/
theorem ne_empty_of_isCommand (h : isCommand s) : s ≠ "" := by
  rintro rfl
  cases h

/-- A remark stays one with more behind it. -/
theorem startsRemark_append (h : startsRemark s) (t : String) : startsRemark (s ++ t) :=
  any_head?_append h t

private theorem any_head?_bytes_append {p : UInt8 → Bool} (h : (bytes s).head?.any p) (t : String) :
    (bytes (s ++ t)).head?.any p := by
  cases hbytes : bytes s with
  | nil => simp [hbytes] at h
  | cons b rest =>
    rw [hbytes] at h
    rwa [bytes_append, hbytes]

section Front

variable (t u : String)

@[simp ↓]
theorem opensIndented_append_append :
    opensIndented (s ++ t ++ u) = opensIndented (s ++ (t ++ u)) := by
  rw [String.append_assoc]

@[simp ↓]
theorem opensCommand_append_append :
    opensCommand (s ++ t ++ u) = opensCommand (s ++ (t ++ u)) := by
  rw [String.append_assoc]

@[simp ↓]
theorem opensIndented_toString_append :
    opensIndented (toString s ++ t) = opensIndented (s ++ t) := rfl

@[simp ↓]
theorem opensCommand_toString_append :
    opensCommand (toString s ++ t) = opensCommand (s ++ t) := rfl

@[simp ↓]
theorem opensIndented_append (h : opensIndented s) : opensIndented (s ++ t) :=
  any_head?_bytes_append h t

@[simp ↓]
theorem opensCommand_append (h : opensCommand s) : opensCommand (s ++ t) :=
  any_head?_bytes_append h t

end Front

@[simp ↓]
theorem isIndented_of_opensIndented (h : opensIndented s) : isIndented s := by
  obtain ⟨b, hfirst, hb⟩ := (Option.any_eq_true _ _).mp h
  have hblank : b.toNat = 32 := Nat.eq_of_beq_eq_true hb
  have hhead := head?_toList_of_bytes hfirst (by omega)
  rw [isIndented, hhead, hblank]
  decide

/-- A text begins with the first character of each of its starts. -/
theorem eq_of_hasStart {start : String} {c d : Char} (hc : s.toList.head? = some c)
    (hd : start.toList.head? = some d) (h : hasStart start s) : c = d := by
  rw [hasStart, List.isPrefixOf_iff_prefix] at h
  obtain ⟨rest, hrest⟩ := h
  rw [← hrest, List.head?_append, hd, Option.some_or] at hc
  exact (Option.some.inj hc).symm

@[simp ↓]
theorem isCommand_of_opensCommand (h : opensCommand s) : isCommand s := by
  obtain ⟨b, hfirst, hb⟩ := (Option.any_eq_true _ _).mp h
  have hascii : ∀ n < 128, isCommandByte n → isBlank (.ofNat n) = false ∧
      Char.ofNat n ∉ ['#', '!', 'q', 'e'] := by decide
  have hsmall : b.toNat < 128 := by
    simp only [isCommandByte, Bool.and_eq_true, Nat.blt_eq] at hb
    exact hb.1.1.1.2
  obtain ⟨hblank, hothers⟩ := hascii b.toNat hsmall hb
  have hhead := head?_toList_of_bytes hfirst hsmall
  simp only [List.mem_cons, List.not_mem_nil, or_false, not_or] at hothers
  obtain ⟨hhash, hbang, hquit, hexit⟩ := hothers
  have hnot {start : String} {d : Char} (hd : start.toList.head? = some d)
      (hne : Char.ofNat b.toNat ≠ d) : hasStart start s = false := by
    rw [Bool.eq_false_iff]
    exact fun hstart => hne (eq_of_hasStart hhead hd hstart)
  rw [isCommand, hhead, hnot rfl hquit, hnot rfl hexit]
  simp [hblank, hhash, hbang]

end Append

end Text

open Text (isIndented isSilent isCommand)

/-- Every view is left before the next command at the outermost level, and nothing is left that was
    not entered. -/
structure LeavesViews (closer : String) (lines : List String) : Prop where
  /-- The first line enters the outermost level. -/
  first : ∀ line ∈ lines.head?, isIndented line = false ∧ line ≠ closer
  /-- The last line leaves no view open. -/
  last : ∀ line ∈ lines.getLast?, isIndented line = false
  /-- After an indented line the next one that is not is the closing command. -/
  leaves : ∀ before line after, lines = before ++ line :: after → isIndented line →
    after.find? (!isIndented ·) = some closer
  /-- The line before a closing command, indented ones apart, is another command. -/
  enters : ∀ before after, lines = before ++ closer :: after →
    ∃ line, before.reverse.find? (!isIndented ·) = some line ∧ line ≠ closer

namespace View

/-- A line at the outermost level that a device ignores. -/
def IsAside (line : String) : Prop := Text.allBlank line ∨ Text.startsRemark line

/-- A line within a view. -/
def IsInside (line : String) : Prop := isSilent line ∨ isIndented line

/-- Lines that leave no view open, read with a view open or not. A command may or may not open
    one. -/
def Settles (vendor : Vendor) : Bool → List String → Prop
  | false, [] => True
  | true, [] => False
  | false, line :: rest =>
    (IsAside line ∧ Settles vendor false rest) ∨
      (isCommand line ∧ (Settles vendor false rest ∨ Settles vendor true rest))
  | true, line :: rest =>
    (IsInside line ∧ Settles vendor true rest) ∨
      (line = vendor.closer ∧ Settles vendor false rest)

section Kinds

variable {line : String}

@[simp ↓]
theorem isInside_of_opensIndented (h : Text.opensIndented line) : IsInside line :=
  .inr (Text.isIndented_of_opensIndented h)

/-- A blank line is silent. -/
theorem isSilent_of_allBlank (h : Text.allBlank line) : isSilent line := by
  have hdrop : line.toList.dropWhile Text.isBlank = [] := by
    rw [List.dropWhile_eq_nil_iff]
    exact List.all_eq_true.mp h
  rw [isSilent, hdrop]
  rfl

private theorem isSilent_of_head {c : Char} (h : line.toList.head? = some c)
    (hc : Text.isBlank c = false) :
    isSilent line = (c == '#' || c == '!') := by
  obtain ⟨rest, hline⟩ := List.head?_eq_some_iff.mp h
  rw [isSilent, hline, List.dropWhile_cons_of_neg (by simp [hc])]
  rfl

/-- The marks of comments are not blank. -/
theorem exists_head_of_startsRemark (h : Text.startsRemark line) :
    ∃ c, line.toList.head? = some c ∧ Text.isBlank c = false ∧ (c == '#' || c == '!') := by
  obtain ⟨c, hhead, hc⟩ := (Option.any_eq_true _ _).mp h
  refine ⟨c, hhead, ?_, hc⟩
  rw [Bool.or_eq_true, beq_iff_eq, beq_iff_eq] at hc
  obtain rfl | rfl := hc
  · decide
  · decide

/-- A remark starts solid. -/
theorem startsSolid_of_startsRemark (h : Text.startsRemark line) : Text.startsSolid line := by
  obtain ⟨c, hhead, hc, _⟩ := exists_head_of_startsRemark h
  simp [Text.startsSolid, hhead, hc]

/-- A line that stands aside is silent. -/
theorem IsAside.isSilent (h : IsAside line) : isSilent line := by
  obtain hblank | hremark := h
  · exact isSilent_of_allBlank hblank
  · obtain ⟨c, hhead, hsolid, hc⟩ := exists_head_of_startsRemark hremark
    rw [isSilent_of_head hhead hsolid, hc]

private theorem exists_head_of_isCommand (h : isCommand line) :
    ∃ c, line.toList.head? = some c ∧ Text.isBlank c = false ∧ c ≠ '#' ∧ c ≠ '!' := by
  rw [isCommand, Bool.and_eq_true, Bool.and_eq_true] at h
  cases hhead : line.toList.head? with
  | none => simp [hhead] at h
  | some c => exact ⟨c, rfl, by simpa [hhead, and_assoc] using h.1.1⟩

/-- A command starts solid. -/
theorem startsSolid_of_isCommand (h : isCommand line) : Text.startsSolid line := by
  obtain ⟨c, hhead, hc, _⟩ := exists_head_of_isCommand h
  simp [Text.startsSolid, hhead, hc]

private theorem isSilent_of_isCommand (h : isCommand line) : isSilent line = false := by
  obtain ⟨c, hhead, hc, hhash, hbang⟩ := exists_head_of_isCommand h
  simp [isSilent_of_head hhead hc, hhash, hbang]

/-- A command does not stand aside. -/
theorem not_isAside_of_isCommand (h : isCommand line) : ¬ IsAside line := by
  intro haside
  have hsilent := haside.isSilent
  rw [isSilent_of_isCommand h] at hsilent
  cases hsilent

/-- A command is not indented. -/
theorem isIndented_of_isCommand (h : isCommand line) : isIndented line = false := by
  obtain ⟨c, hhead, hc, _⟩ := exists_head_of_isCommand h
  simp [isIndented, hhead, hc]

private theorem ne_closer_of_isCommand (vendor : Vendor) (h : isCommand line) :
    line ≠ vendor.closer := by
  rintro rfl
  cases vendor <;> exact absurd h (by decide)

/-- The closer of a vendor is not silent. -/
theorem isSilent_closer (vendor : Vendor) : isSilent vendor.closer = false := by
  cases vendor <;> decide

private theorem isIndented_closer (vendor : Vendor) : isIndented vendor.closer = false := by
  cases vendor <;> decide

/-- The closer of a vendor is not blank. -/
theorem allBlank_closer (vendor : Vendor) : Text.allBlank vendor.closer = false := by
  cases vendor <;> decide

end Kinds

section Settles

variable {vendor : Vendor} {opened : Bool} {lines : List String}

/-- Lines that a device ignores can be left out. -/
theorem Settles.of_cons {line : String} (hsilent : isSilent line)
    (h : Settles vendor opened (line :: lines)) : Settles vendor opened lines := by
  cases opened with
  | false =>
    obtain ⟨_, hrest⟩ | ⟨hcommand, _⟩ := h
    · exact hrest
    · exact absurd hsilent (by simp [isSilent_of_isCommand hcommand])
  | true =>
    obtain ⟨_, hrest⟩ | ⟨rfl, _⟩ := h
    · exact hrest
    · exact absurd hsilent (by simp [isSilent_closer])

/-- Lines may be replaced behind a line that stays. -/
theorem Settles.cons {line : String} {rest : List String}
    (hrest : ∀ opened, Settles vendor opened lines → Settles vendor opened rest)
    (h : Settles vendor opened (line :: lines)) : Settles vendor opened (line :: rest) := by
  cases opened with
  | false =>
    exact h.imp (And.imp_right (hrest _)) (And.imp_right (Or.imp (hrest _) (hrest _)))
  | true => exact h.imp (And.imp_right (hrest _)) (And.imp_right (hrest _))

/-- Leaving out silent lines keeps lines settled. -/
theorem Settles.filter {p : String → Bool} (hp : ∀ line, p line = false → isSilent line)
    (h : Settles vendor opened lines) : Settles vendor opened (lines.filter p) := by
  induction lines generalizing opened with
  | nil => exact h
  | cons line rest ih =>
    cases hline : p line with
    | true =>
      rw [List.filter_cons_of_pos hline]
      exact h.cons fun _ => ih
    | false =>
      rw [List.filter_cons_of_neg (by simp [hline])]
      exact ih (h.of_cons (hp line hline))

/-- Blank lines can be put in anywhere. -/
theorem Settles.of_filter (h : Settles vendor opened (lines.filter (!Text.allBlank ·))) :
    Settles vendor opened lines := by
  induction lines generalizing opened with
  | nil => exact h
  | cons line rest ih =>
    cases hline : Text.allBlank line with
    | true =>
      rw [List.filter_cons_of_neg (by simp [hline])] at h
      cases opened with
      | false => exact .inl ⟨.inl hline, ih h⟩
      | true => exact .inl ⟨.inl (isSilent_of_allBlank hline), ih h⟩
    | false =>
      rw [List.filter_cons_of_pos (by simp [hline])] at h
      exact h.cons fun _ => ih

/-- Lines that leave no view open can stand before others. -/
theorem Settles.append {more : List String} (h : Settles vendor opened lines)
    (hmore : Settles vendor false more) : Settles vendor opened (lines ++ more) := by
  induction lines generalizing opened with
  | nil =>
    cases opened with
    | false => exact hmore
    | true => exact absurd h id
  | cons line rest ih => exact h.cons fun _ => ih

/-- Lines of a view can stand before those that leave it. -/
theorem Settles.inside_append {body : List String} (hbody : ∀ line ∈ body, IsInside line)
    (h : Settles vendor true lines) : Settles vendor true (body ++ lines) := by
  induction body with
  | nil => exact h
  | cons line rest ih =>
    obtain ⟨hline, hrest⟩ := List.forall_mem_cons.mp hbody
    exact .inl ⟨hline, ih hrest⟩

end Settles

section Shown

variable {vendor : Vendor} {opened : Bool} {lines : List String}

/-- What is open is left by the next line at the outermost level. -/
theorem find?_of_settles (hshown : ∀ line ∈ lines, isSilent line = false)
    (h : Settles vendor true lines) : lines.find? (!isIndented ·) = some vendor.closer := by
  induction lines with
  | nil => exact absurd h id
  | cons line rest ih =>
    obtain ⟨hline, hrest⟩ := List.forall_mem_cons.mp hshown
    obtain ⟨hinside, hsettles⟩ | ⟨rfl, _⟩ := h
    · have hindented : isIndented line := hinside.resolve_left (by simp [hline])
      rw [List.find?_cons_of_neg (by simp [hindented]), ih hrest hsettles]
    · rw [List.find?_cons_of_pos (by simp [isIndented_closer])]

private theorem isCommand_of_settles {line : String}
    (hshown : ∀ line ∈ lines, isSilent line = false)
    (h : Settles vendor false lines) (hline : line ∈ lines.head?) : isCommand line := by
  cases lines with
  | nil => cases hline
  | cons first rest =>
    obtain rfl : first = line := Option.some.inj hline
    obtain ⟨haside, _⟩ | ⟨hcommand, _⟩ := h
    · exact absurd haside.isSilent (by simp [hshown first List.mem_cons_self])
    · exact hcommand

/-- With a view open there is a line to come, so that an indented line is never the last one. -/
theorem isIndented_getLast_of_settles {line : String}
    (hshown : ∀ line ∈ lines, isSilent line = false) (h : Settles vendor opened lines)
    (hline : line ∈ lines.getLast?) : isIndented line = false := by
  induction lines generalizing opened with
  | nil => cases hline
  | cons first rest ih =>
    obtain ⟨hfirst, hrest⟩ := List.forall_mem_cons.mp hshown
    have hopen {opened : Bool} (hsettles : Settles vendor opened rest)
        (hlast : rest = [] → isIndented first = false) : isIndented line = false := by
      cases rest with
      | nil =>
        obtain rfl : first = line := Option.some.inj hline
        exact hlast rfl
      | cons second more => exact ih hrest hsettles (by simpa using hline)
    cases opened with
    | false =>
      obtain ⟨haside, _⟩ | ⟨hcommand, hsettles | hsettles⟩ := h
      · exact absurd haside.isSilent (by simp [hfirst])
      · exact hopen hsettles fun _ => isIndented_of_isCommand hcommand
      · exact hopen hsettles fun _ => isIndented_of_isCommand hcommand
    | true =>
      obtain ⟨_, hsettles⟩ | ⟨rfl, hsettles⟩ := h
      · refine hopen hsettles fun hnil => absurd hsettles ?_
        rw [hnil]
        exact id
      · exact hopen hsettles fun _ => isIndented_closer vendor

private theorem find?_after_of_settles {line : String} {before after : List String}
    (hshown : ∀ other ∈ before ++ line :: after, isSilent other = false)
    (h : Settles vendor opened (before ++ line :: after)) (hindented : isIndented line) :
    after.find? (!isIndented ·) = some vendor.closer := by
  induction before generalizing opened with
  | nil =>
    obtain ⟨hline, hafter⟩ := List.forall_mem_cons.mp hshown
    cases opened with
    | false =>
      obtain ⟨haside, _⟩ | ⟨hcommand, _⟩ := h
      · exact absurd haside.isSilent (by simp [hline])
      · exact absurd hindented (by simp [isIndented_of_isCommand hcommand])
    | true =>
      obtain ⟨_, hsettles⟩ | ⟨rfl, _⟩ := h
      · exact find?_of_settles hafter hsettles
      · exact absurd hindented (by simp [isIndented_closer])
  | cons first rest ih =>
    obtain ⟨_, hrest⟩ := List.forall_mem_cons.mp hshown
    cases opened with
    | false =>
      obtain ⟨_, hsettles⟩ | ⟨_, hsettles | hsettles⟩ := h
      · exact ih hrest hsettles
      · exact ih hrest hsettles
      · exact ih hrest hsettles
    | true =>
      obtain ⟨_, hsettles⟩ | ⟨_, hsettles⟩ := h
      · exact ih hrest hsettles
      · exact ih hrest hsettles

/-- A closing command has another command before it, or belongs to what was open before. -/
theorem find?_before_of_settles {before after : List String}
    (hshown : ∀ line ∈ before ++ vendor.closer :: after, isSilent line = false)
    (h : Settles vendor opened (before ++ vendor.closer :: after)) :
    (∃ line, before.reverse.find? (!isIndented ·) = some line ∧ line ≠ vendor.closer) ∨
      (before.reverse.find? (!isIndented ·) = none ∧ opened) := by
  induction before generalizing opened with
  | nil =>
    cases opened with
    | false =>
      obtain ⟨haside, _⟩ | ⟨hcommand, _⟩ := h
      · exact absurd haside.isSilent (by simp [isSilent_closer])
      · exact absurd rfl (ne_closer_of_isCommand vendor hcommand)
    | true => exact .inr ⟨rfl, rfl⟩
  | cons first rest ih =>
    obtain ⟨hfirst, hrest⟩ := List.forall_mem_cons.mp hshown
    rw [List.reverse_cons, List.find?_append]
    have hfound {opened : Bool} (hsettles : Settles vendor opened (rest ++ vendor.closer :: after))
        (hnone : opened → [first].find? (!isIndented ·) = some first ∧ first ≠ vendor.closer) :
        ∃ line, (rest.reverse.find? (!isIndented ·)).or ([first].find? (!isIndented ·)) =
          some line ∧ line ≠ vendor.closer := by
      obtain ⟨line, hline, hne⟩ | ⟨hline, hopened⟩ := ih hrest hsettles
      · exact ⟨line, by rw [hline, Option.some_or], hne⟩
      · obtain ⟨hone, hne⟩ := hnone hopened
        exact ⟨first, by rw [hline, hone, Option.none_or], hne⟩
    cases opened with
    | false =>
      obtain ⟨haside, _⟩ | ⟨hcommand, hsettles⟩ := h
      · exact absurd haside.isSilent (by simp [hfirst])
      · have hone : [first].find? (!isIndented ·) = some first ∧ first ≠ vendor.closer :=
          ⟨by simp [isIndented_of_isCommand hcommand], ne_closer_of_isCommand vendor hcommand⟩
        exact .inl (hsettles.elim (hfound · fun _ => hone) (hfound · fun _ => hone))
    | true =>
      obtain ⟨hinside, hsettles⟩ | ⟨rfl, hsettles⟩ := h
      · have hindented : isIndented first := hinside.resolve_left (by simp [hfirst])
        obtain ⟨line, hline, hne⟩ | ⟨hline, _⟩ := ih hrest hsettles
        · exact .inl ⟨line, by rw [hline, Option.some_or], hne⟩
        · exact .inr ⟨by simp [hline, hindented], rfl⟩
      · exact .inl (hfound hsettles fun hopened => nomatch hopened)

end Shown

/-- Lines that leave no view open leave every view before the next command. -/
theorem leavesViews_of_settles {vendor : Vendor} {lines : List String}
    (h : Settles vendor false lines) :
    LeavesViews vendor.closer (lines.filter (!isSilent ·)) := by
  have hsettles : Settles vendor false (lines.filter (!isSilent ·)) :=
    h.filter fun line hline => by simpa using hline
  have hshown : ∀ line ∈ lines.filter (!isSilent ·), isSilent line = false :=
    fun line hline => by simpa using (List.mem_filter.mp hline).2
  refine ⟨fun line hline => ?_, fun line => isIndented_getLast_of_settles hshown hsettles,
    fun before line after hsplit => ?_, fun before after hsplit => ?_⟩
  · have hcommand := isCommand_of_settles hshown hsettles hline
    exact ⟨isIndented_of_isCommand hcommand, ne_closer_of_isCommand vendor hcommand⟩
  · rw [hsplit] at hshown hsettles
    exact find?_after_of_settles hshown hsettles
  · rw [hsplit] at hshown hsettles
    exact (find?_before_of_settles hshown hsettles).resolve_right fun hopened => nomatch hopened.2

end View
end Netscribe
