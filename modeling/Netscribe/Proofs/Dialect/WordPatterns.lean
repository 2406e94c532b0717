import Netscribe.Dialect.LinePattern
import Netscribe.Proofs.Dialect.RuleSearch
/-!
Line patterns that take a line word by word. Such a pattern can match a line in many places and ways
on the face of it, but a way that leaves a word unfinished comes to nothing, so that there is one
way at most: the one in which each part takes one word.
-/
namespace Netscribe

open Text (IsWord)

/-- A part of a line pattern that is meant for one word: a word itself, or characters of one class,
    which may be captured. -/
inductive WordPattern
  | word (s : String)
  | made (name : Option String) (p : CharClass)

namespace WordPattern

/-- A captured number. -/
def number (name : String) : WordPattern := made (some name) .digit

/-- A captured word. -/
def token (name : String) : WordPattern := made (some name) .solid

def anyToken : WordPattern := made none .solid

def pattern : WordPattern → LinePattern
  | word s => LinePattern.text s
  | made none p => .some p
  | made (some name) p => .capture name (.some p)

/-- What is captured from a word. -/
def read? : WordPattern → String → Option Captures
  | word s, w => if w = s then some [] else none
  | made name p, w => if w.toList.all p.contains then some (name.toList.map (·, w)) else none

/-- What is captured from the words of a line, each of which is taken by one part. -/
def readWords? : List WordPattern → List String → Option Captures
  | [], [] => some []
  | p :: ps, w :: ws => do return (← p.read? w) ++ (← readWords? ps ws)
  | _, _ => none

/-- A part that cannot reach beyond a blank. -/
def IsTight : WordPattern → Prop
  | word s => IsWord s
  | made _ p => p.contains ' ' = false

section Reading

@[simp] theorem read?_word (s w : String) :
    (word s).read? w = if w = s then some [] else none := rfl

@[simp] theorem read?_number (name : String) (n : Text.Numeral) :
    (number name).read? n.text = some [(name, n.text)] := by
  refine if_pos (List.all_eq_true.mpr fun c hc => ?_)
  rw [CharClass.contains, Text.isDecimal_of_isDigit (n.all c hc)]

private theorem read?_solid {w : String} (hw : IsWord w) (name : Option String) :
    (made name .solid).read? w = some (name.toList.map (·, w)) := by
  refine if_pos (List.all_eq_true.mpr fun c hc => ?_)
  rw [CharClass.contains, hw.2 c hc]
  rfl

@[simp] theorem read?_token {w : String} (hw : IsWord w) (name : String) :
    (token name).read? w = some [(name, w)] := read?_solid hw (some name)

@[simp] theorem read?_anyToken {w : String} (hw : IsWord w) : anyToken.read? w = some [] :=
  read?_solid hw none

@[simp] theorem readWords?_cons (p : WordPattern) (ps : List WordPattern) (w : String)
    (ws : List String) : readWords? (p :: ps) (w :: ws) =
      (p.read? w).bind fun found => (readWords? ps ws).map (found ++ ·) := by
  rw [readWords?]
  cases p.read? w with
  | none => rfl
  | some found => cases readWords? ps ws <;> rfl

@[simp] theorem readWords?_nil : readWords? [] [] = some [] := rfl

@[simp] theorem readWords?_nil_cons (w : String) (ws : List String) :
    readWords? [] (w :: ws) = none := rfl

@[simp] theorem readWords?_cons_nil (p : WordPattern) (ps : List WordPattern) :
    readWords? (p :: ps) [] = none := rfl

/-- What is captured are words of the line. -/
theorem mem_of_readWords? {ps : List WordPattern} {ws : List String} {found : Captures}
    (h : readWords? ps ws = some found) {capture : String × String} (hcapture : capture ∈ found) :
    capture.2 ∈ ws := by
  induction ps generalizing ws found with
  | nil =>
    cases ws with
    | nil =>
      obtain rfl := Option.some.inj h
      cases hcapture
    | cons w rest => cases h
  | cons p ps ih =>
    cases ws with
    | nil => cases h
    | cons w rest =>
      obtain ⟨first, hfirst, hrest⟩ := Option.bind_eq_some_iff.mp h
      obtain ⟨more, hmore, hfound⟩ := Option.bind_eq_some_iff.mp hrest
      obtain rfl := Option.some.inj hfound
      obtain hleft | hright := List.mem_append.mp hcapture
      · refine List.mem_cons.mpr (.inl ?_)
        cases p with
        | word s =>
          rw [read?] at hfirst
          split at hfirst
          · obtain rfl := Option.some.inj hfirst
            cases hleft
          · cases hfirst
        | made name p =>
          rw [read?] at hfirst
          split at hfirst
          · obtain rfl := Option.some.inj hfirst
            obtain ⟨_, _, rfl⟩ := List.mem_map.mp hleft
            rfl
          · cases hfirst
      · exact List.mem_cons_of_mem _ (ih hmore hright)

end Reading

instance : DecidablePred IsTight
  | word s => inferInstanceAs (Decidable (IsWord s))
  | made _ p => inferInstanceAs (Decidable (p.contains ' ' = false))

end WordPattern

namespace LinePattern

/-- Whether a match has got to the end of a word. -/
def Place.isEnded (place : Place) : Bool := place.rest.head?.all Text.isBlank

/-- What is left behind a word of a line. -/
def IsTail (tail : List Char) : Prop := ∀ c ∈ tail.head?, c = ' '

private theorem IsTail.all_isBlank {tail : List Char} (h : IsTail tail) :
    tail.head?.all Text.isBlank = true := by
  cases hhead : tail.head? with
  | none => rfl
  | some c =>
    rw [h c hhead]
    decide

section Parts

variable {w tail : List Char} {place : Place}

private theorem flatMap_filter_isEnded {q : Place → List Place}
    (hq : ∀ place, place.isEnded = false → q place = []) (places : List Place) :
    places.flatMap q = (places.filter Place.isEnded).flatMap q := by
  induction places with
  | nil => rfl
  | cons place rest ih =>
    cases hplace : place.isEnded with
    | true => rw [List.flatMap_cons, List.filter_cons_of_pos hplace, List.flatMap_cons, ih]
    | false =>
      rw [List.flatMap_cons, hq place hplace, List.filter_cons_of_neg (by simp [hplace]),
        List.nil_append, ih]

private theorem ways_finish_of_not_isEnded (h : place.isEnded = false) :
    finish.ways place = [] := by
  rw [ways, if_neg]
  rintro (hrest | hrest)
  · simp [Place.isEnded, hrest] at h
  · simp [Place.isEnded, hrest] at h
    exact absurd h (by decide)

private theorem ways_blanks_of_not_isEnded (h : place.isEnded = false) :
    blanks.ways place = [] := by
  rw [blanks, ways]
  split
  · rfl
  next c rest hrest =>
    have hc : Text.isBlank c = false := by simpa [Place.isEnded, hrest] using h
    rw [if_neg (by simp [CharClass.contains, hc])]

private theorem leavings_isEnded {p : CharClass} (hp : p.contains ' ' = false)
    (hw : ∀ c ∈ w, Text.isBlank c = false) (htail : IsTail tail) :
    (leavings p (w ++ tail)).filter (·.head?.all Text.isBlank) =
      if w.all p.contains then [tail] else [] := by
  induction w with
  | nil =>
    have hleft : leavings p tail = [tail] := by
      cases tail with
      | nil => rfl
      | cons c rest =>
        obtain rfl := htail c rfl
        rw [leavings, if_neg (by simp [hp])]
    simp [hleft, htail.all_isBlank]
  | cons c rest ih =>
    obtain ⟨hc, hrest⟩ := List.forall_mem_cons.mp hw
    rw [List.cons_append, leavings, List.all_cons]
    cases hcontains : p.contains c with
    | true => simp [ih hrest, hc]
    | false => simp [hc]

private theorem moveTo_of_shorter {rest : List Char} (h : rest.length < place.rest.length) :
    place.moveTo rest = ⟨false, rest, place.captures⟩ := by
  have hlength : rest.length ≠ place.rest.length := h.ne
  simp [Place.moveTo, hlength]

private theorem filter_ways_some {p : CharClass} (hp : p.contains ' ' = false) (hne : w ≠ [])
    (hw : ∀ c ∈ w, Text.isBlank c = false) (htail : IsTail tail) (hrest : place.rest = w ++ tail) :
    ((LinePattern.some p).ways place).filter Place.isEnded =
      if w.all p.contains then [⟨false, tail, place.captures⟩] else [] := by
  obtain ⟨c, word, rfl⟩ := List.exists_cons_of_ne_nil hne
  have hmoved : Place.isEnded ∘ place.moveTo = fun rest => rest.head?.all Text.isBlank := rfl
  rw [List.cons_append] at hrest
  rw [ways, hrest]
  cases hc : p.contains c with
  | false => simp [hc]
  | true =>
    dsimp only
    rw [if_pos hc, List.filter_map, hmoved,
      leavings_isEnded hp (List.forall_mem_cons.mp hw).2 htail, List.all_cons, hc, Bool.true_and]
    split
    · rw [List.map_singleton, moveTo_of_shorter]
      rw [hrest, List.length_cons, List.length_append]
      omega
    · rfl

private theorem filter_ways_capture {p : CharClass} {name : String} (hp : p.contains ' ' = false)
    (hne : w ≠ []) (hw : ∀ c ∈ w, Text.isBlank c = false) (htail : IsTail tail)
    (hrest : place.rest = w ++ tail) :
    ((capture name (LinePattern.some p)).ways place).filter Place.isEnded =
      if w.all p.contains then [⟨false, tail, place.captures ++ [(name, .ofList w)]⟩] else [] := by
  have hrecord : ∀ after : Place, (after.record name place).isEnded = after.isEnded := fun _ => rfl
  have hways := filter_ways_some hp hne hw htail hrest
  rw [ways, List.filter_map]
  simp only [Function.comp_def, hrecord]
  rw [hways]
  split
  · have hpassed : place.rest.take (place.rest.length - tail.length) = w := by
      rw [hrest, List.length_append, Nat.add_sub_cancel, List.take_left]
    rw [List.map_singleton, Place.record, hpassed]
  · rfl

private theorem ways_text_chars (cs : List Char) (place : Place) :
    (sequence (cs.map fun c => one (.only c))).ways place =
      if cs <+: place.rest then
        [⟨place.atStart && cs.isEmpty, place.rest.drop cs.length, place.captures⟩]
      else [] := by
  induction cs generalizing place with
  | nil => simp [sequence, ways]
  | cons c rest ih =>
    have hcons : (sequence ((c :: rest).map fun c => one (.only c))).ways place =
        ((one (.only c)).ways place).flatMap
          (sequence (rest.map fun c => one (.only c))).ways := by
      cases rest with
      | nil => simp [sequence, ways]
      | cons d rest => rfl
    rw [hcons, ways]
    cases hrest : place.rest with
    | nil => simp
    | cons d after =>
      dsimp only
      by_cases hd : d = c
      · subst hd
        have hmoved : place.moveTo after = ⟨false, after, place.captures⟩ := by
          apply moveTo_of_shorter
          rw [hrest, List.length_cons]
          omega
        rw [if_pos (by simp [CharClass.contains]), List.flatMap_singleton, ih, hmoved]
        simp [List.cons_prefix_cons]
      · rw [if_neg (by simpa [CharClass.contains] using hd), List.flatMap_nil, if_neg]
        exact fun hprefix => hd (List.cons_prefix_cons.mp hprefix).1.symm

/-- A word is found at the place of a word only if it is that word. -/
theorem filter_ways_text {s : String} (hs : IsWord s)
    (hw : ∀ c ∈ w, Text.isBlank c = false) (htail : IsTail tail) (hrest : place.rest = w ++ tail) :
    ((text s).ways place).filter Place.isEnded =
      if w = s.toList then [⟨false, tail, place.captures⟩] else [] := by
  have hempty : s.toList.isEmpty = false := by simpa using hs.1
  rw [text, ways_text_chars, hrest, hempty, Bool.and_false]
  by_cases heq : w = s.toList
  · rw [if_pos heq, ← heq, if_pos (List.prefix_append w tail), List.drop_left]
    exact List.filter_cons_of_pos htail.all_isBlank
  · rw [if_neg heq]
    split
    next hprefix =>
      obtain ⟨more, hmore⟩ | ⟨more, hmore⟩ :=
        List.prefix_or_prefix_of_prefix hprefix (List.prefix_append w tail)
      · -- the word goes on behind the text
        cases more with
        | nil => exact absurd (by simpa using hmore.symm) heq
        | cons c more =>
          have hc : Text.isBlank c = false := hw c (hmore ▸ by simp)
          rw [← hmore, List.append_assoc, List.drop_left]
          exact List.filter_cons_of_neg (by simp [Place.isEnded, hc])
      · -- the text goes on behind the word, where there is no more than a blank
        cases more with
        | nil => exact absurd (by simpa using hmore) heq
        | cons c more =>
          rw [← hmore, List.prefix_append_right_inj] at hprefix
          obtain ⟨behind, rfl⟩ := hprefix
          obtain rfl := htail c rfl
          exact absurd (hs.2 ' ' (hmore ▸ by simp)) (by decide)
    next => rfl

/-- The one way in which a part takes a word. -/
theorem filter_ways_pattern {p : WordPattern} (hp : p.IsTight) (hword : IsWord (.ofList w))
    (htail : IsTail tail) (hrest : place.rest = w ++ tail) :
    (p.pattern.ways place).filter Place.isEnded =
      (p.read? (.ofList w)).toList.map fun found => ⟨false, tail, place.captures ++ found⟩ := by
  have hne : w ≠ [] := by simpa using hword.1
  have hw : ∀ c ∈ w, Text.isBlank c = false := by simpa using hword.2
  cases p with
  | word s =>
    rw [WordPattern.pattern, filter_ways_text hp hw htail hrest, WordPattern.read?]
    by_cases heq : w = s.toList
    · simp [heq]
    · have hother : String.ofList w ≠ s := by
        rintro rfl
        exact heq String.toList_ofList.symm
      simp [heq, hother]
  | made name p =>
    rw [WordPattern.read?, String.toList_ofList]
    cases name with
    | none =>
      rw [WordPattern.pattern, filter_ways_some hp hne hw htail hrest]
      split
      · simp
      · rfl
    | some name =>
      rw [WordPattern.pattern, filter_ways_capture hp hne hw htail hrest]
      split
      · rfl
      · rfl

end Parts

section Lines

private theorem isTail_words (ws : List String) :
    IsTail (if ws = [] then [] else ' ' :: (Text.unwords ws).toList) := by
  intro c hc
  split at hc
  · cases hc
  · exact (Option.some.inj hc).symm

private theorem toList_unwords_cons (w : String) (ws : List String) :
    (Text.unwords (w :: ws)).toList =
      w.toList ++ if ws = [] then [] else ' ' :: (Text.unwords ws).toList := by
  split
  next hnil =>
    subst hnil
    simp [Text.unwords, Text.join]
  next hne =>
    rw [Text.unwords, Text.join, String.intercalate_cons_of_ne_nil hne]
    simp [Text.unwords, Text.join]

/-- A blank between two words is passed in one way. -/
theorem ways_blanks_append {ws : List String} (hws : ∀ w ∈ ws, IsWord w) (hne : ws ≠ [])
    (captures : Captures) :
    blanks.ways ⟨false, ' ' :: (Text.unwords ws).toList, captures⟩ =
      [⟨false, (Text.unwords ws).toList, captures⟩] := by
  have hsolid : Text.startsSolid (Text.unwords ws) :=
    Text.startsSolid_join " " hne fun w hw => (hws w hw).startsSolid
  have hleft : leavings .blank (Text.unwords ws).toList = [(Text.unwords ws).toList] := by
    cases hrest : (Text.unwords ws).toList with
    | nil => rfl
    | cons c rest =>
      have hc : Text.isBlank c = false := by
        simpa [Text.startsSolid, hrest] using hsolid
      rw [leavings, if_neg (by simp [CharClass.contains, hc])]
  rw [blanks, ways]
  dsimp only
  rw [if_pos (by decide), hleft]
  rfl

/-- The patterns of several parts: that of the first, blanks, and those of the others. -/
theorem ways_cons_cons (p q : WordPattern) (rest : List WordPattern) (place : Place) :
    (sequence (((p :: q :: rest).map WordPattern.pattern).intersperse blanks)).ways place =
      (p.pattern.ways place).flatMap fun after => (blanks.ways after).flatMap
        (sequence (((q :: rest).map WordPattern.pattern).intersperse blanks)).ways := by
  cases rest <;> rfl

/-- Nothing comes of a part that ends within a word. -/
theorem flatMap_ways_of_not_isEnded (p : LinePattern) (after : Place) (h : after.isEnded = false) :
    ((blanks.ways after).flatMap p.ways).flatMap finish.ways = [] := by
  rw [ways_blanks_of_not_isEnded h]
  rfl

/-- The one way in which the parts take the words of a line. -/
theorem flatMap_ways_finish {ps : List WordPattern} {ws : List String} {place : Place}
    (hps : ∀ p ∈ ps, p.IsTight) (hne : ps ≠ []) (hws : ∀ w ∈ ws, IsWord w) (hwords : ws ≠ [])
    (hrest : place.rest = (Text.unwords ws).toList) :
    ((sequence ((ps.map WordPattern.pattern).intersperse blanks)).ways place).flatMap finish.ways =
      (WordPattern.readWords? ps ws).toList.map fun found =>
        ⟨false, [], place.captures ++ found⟩ := by
  induction ps generalizing ws place with
  | nil => exact absurd rfl hne
  | cons p rest ih =>
    obtain ⟨w, others, rfl⟩ := List.exists_cons_of_ne_nil hwords
    obtain ⟨hp, hrestTight⟩ := List.forall_mem_cons.mp hps
    obtain ⟨hw, hothers⟩ := List.forall_mem_cons.mp hws
    rw [toList_unwords_cons] at hrest
    have hword : IsWord (.ofList w.toList) := by rwa [String.ofList_toList]
    have hfirst := filter_ways_pattern hp hword (isTail_words others) hrest
    rw [String.ofList_toList] at hfirst
    cases rest with
    | nil =>
      have hways : ((sequence (([p].map WordPattern.pattern).intersperse blanks)).ways place) =
          p.pattern.ways place := rfl
      rw [hways, flatMap_filter_isEnded fun _ => ways_finish_of_not_isEnded, hfirst]
      cases hread : p.read? w with
      | none => simp [WordPattern.readWords?, hread]
      | some found =>
        cases others with
        | nil => simp [WordPattern.readWords?, hread, ways]
        | cons next others => simp [WordPattern.readWords?, hread, ways]
    | cons q rest =>
      rw [ways_cons_cons, List.flatMap_assoc,
        flatMap_filter_isEnded (flatMap_ways_of_not_isEnded _), hfirst]
      cases hread : p.read? w with
      | none => simp [WordPattern.readWords?, hread]
      | some found =>
        by_cases hnil : others = []
        · subst hnil
          simp [WordPattern.readWords?, hread, blanks, ways]
        · let next : Place := ⟨false, (Text.unwords others).toList, place.captures ++ found⟩
          have hnext : next.rest = (Text.unwords others).toList := rfl
          rw [if_neg hnil, Option.toList_some, List.map_singleton, List.flatMap_singleton,
            ways_blanks_append hothers hnil, List.flatMap_singleton,
            ih hrestTight (List.cons_ne_nil q rest) hothers hnil hnext]
          cases hrestRead : WordPattern.readWords? (q :: rest) others with
          | none => simp [WordPattern.readWords?, hread, hrestRead]
          | some more => simp [WordPattern.readWords?, hread, hrestRead, next]

section Search

variable {p : LinePattern} {atStart : Bool} {cs : List Char}

private theorem search_of_ways_eq_cons {place : Place} {places : List Place}
    (h : p.ways { atStart := atStart, rest := cs } = place :: places) :
    p.search atStart cs = Option.some place.captures := by
  rw [search.eq_def, h]

private theorem search_eq_none (h : p.ways { atStart := atStart, rest := cs } = [])
    (hrest : ∀ c rest, cs = c :: rest → p.search false rest = none) :
    p.search atStart cs = none := by
  rw [search.eq_def, h]
  cases cs with
  | nil => rfl
  | cons c rest => exact hrest c rest rfl

end Search

/-- A pattern that begins at the start of a line is found nowhere else. -/
theorem search_start_false (p : LinePattern) (cs : List Char) :
    (both start p).search false cs = none := by
  induction cs with
  | nil => rfl
  | cons c rest ih => exact ih

/-- What a pattern of words captures from a line of words. -/
theorem find?_line {ps : List WordPattern} {ws : List String} (hps : ∀ p ∈ ps, p.IsTight)
    (hne : ps ≠ []) (hws : ∀ w ∈ ws, IsWord w) (hwords : ws ≠ []) :
    (line (ps.map WordPattern.pattern)).find? (Text.unwords ws) =
      (WordPattern.readWords? ps ws).map fun found =>
        (line (ps.map WordPattern.pattern)).names.map fun name =>
          (name, (found.lookup name).getD "") := by
  let place : Place := ⟨true, (Text.unwords ws).toList, []⟩
  have hplace : place.rest = (Text.unwords ws).toList := rfl
  have hways : (line (ps.map WordPattern.pattern)).ways place =
      (WordPattern.readWords? ps ws).toList.map fun found => ⟨false, [], found⟩ := by
    rw [line, ways]
    exact (List.flatMap_singleton _ _).trans (flatMap_ways_finish hps hne hws hwords hplace)
  have hsearch : (line (ps.map WordPattern.pattern)).search true (Text.unwords ws).toList =
      WordPattern.readWords? ps ws := by
    cases hread : WordPattern.readWords? ps ws with
    | some found =>
      rw [hread] at hways
      exact search_of_ways_eq_cons hways
    | none =>
      rw [hread] at hways
      exact search_eq_none hways fun _ rest _ => search_start_false _ rest
  rw [find?, hsearch]

end Lines

section LastWord

variable {p : CharClass} {name : String} {front tail : List Char}

private theorem suffix_of_mem_leavings (hp : p.contains ' ' = false) {left : List Char}
    (h : left ∈ leavings p (front ++ ' ' :: tail)) : ' ' :: tail <:+ left := by
  induction front with
  | nil =>
    rw [List.nil_append, leavings, if_neg (by simp [hp])] at h
    exact List.mem_singleton.mp h ▸ List.suffix_rfl
  | cons c rest ih =>
    rw [List.cons_append, leavings] at h
    split at h
    · obtain hshort | hwhole := List.mem_append.mp h
      · exact ih hshort
      · rw [List.mem_singleton.mp hwhole]
        exact List.suffix_append (c :: rest) (' ' :: tail)
    · rw [List.mem_singleton.mp h]
      exact List.suffix_append (c :: rest) (' ' :: tail)

/-- A word with another one behind it is not the last one. -/
theorem ways_lastToken_of_blank (htail : tail ≠ []) (atStart : Bool) :
    (lastToken name).ways ⟨atStart, front ++ ' ' :: tail, []⟩ = [] := by
  rw [lastToken, ways, List.flatMap_eq_nil_iff]
  intro after hafter
  rw [token, ways] at hafter
  obtain ⟨found, hfound, rfl⟩ := List.mem_map.mp hafter
  have hsuffix : ' ' :: tail <:+ found.rest := by
    rw [anyToken, ways] at hfound
    cases front with
    | nil => simp [CharClass.contains, show Text.isBlank ' ' = true by decide] at hfound
    | cons c rest =>
      dsimp only [List.cons_append] at hfound
      split at hfound
      · obtain ⟨left, hleft, rfl⟩ := List.mem_map.mp hfound
        exact suffix_of_mem_leavings (by decide) hleft
      · cases hfound
  have hlength := hsuffix.length_le
  have hpositive := List.length_pos_iff.mpr htail
  rw [List.length_cons] at hlength
  refine if_neg ?_
  rintro (hrest | hrest)
  · rw [show found.rest = [] from hrest, List.length_nil] at hlength
    omega
  · rw [show found.rest = ['\n'] from hrest, List.length_singleton] at hlength
    omega

/-- The last word of a line is captured. -/
theorem find?_lastToken {w : String} (hw : IsWord w) (front : String) :
    (lastToken name).find? (front ++ (" " ++ w)) = Option.some [(name, w)] := by
  have hne : w.toList ≠ [] := by simpa using hw.1
  have hlast (atStart : Bool) :
      (lastToken name).search atStart w.toList = Option.some [(name, w)] := by
    let place : Place := ⟨atStart, w.toList, []⟩
    have hrest : place.rest = w.toList ++ [] := (List.append_nil _).symm
    have hall : w.toList.all CharClass.solid.contains = true := by
      rw [List.all_eq_true]
      intro c hc
      simp [CharClass.contains, hw.2 c hc]
    have hways : (lastToken name).ways place = [⟨false, [], [(name, w)]⟩] := by
      have htoken : ((token name).ways place).filter Place.isEnded =
          if w.toList.all CharClass.solid.contains then
            [⟨false, [], place.captures ++ [(name, .ofList w.toList)]⟩] else [] :=
        filter_ways_capture (by decide) hne hw.2 (fun _ hc => (nomatch hc)) hrest
      rw [hall, if_pos rfl, String.ofList_toList] at htoken
      rw [lastToken, ways, flatMap_filter_isEnded fun _ => ways_finish_of_not_isEnded, htoken]
      rfl
    exact search_of_ways_eq_cons hways
  have hsearch (cs : List Char) (atStart : Bool) :
      (lastToken name).search atStart (cs ++ ' ' :: w.toList) =
        Option.some [(name, w)] := by
    induction cs generalizing atStart with
    | nil =>
      rw [search.eq_def, ways_lastToken_of_blank hne]
      exact hlast false
    | cons c rest ih =>
      rw [search.eq_def, ways_lastToken_of_blank hne]
      exact ih false
  have hline : (front ++ (" " ++ w)).toList = front.toList ++ ' ' :: w.toList := by
    rw [String.toList_append, String.toList_append]
    rfl
  rw [find?, hline, hsearch]
  simp [lastToken, token, anyToken, names]

end LastWord

end LinePattern

namespace Rule

/-- A rule for the lines of a command that read word by word. -/
def spelled (ps : List WordPattern) (command : String) (conversions : List (Vendor × Conversion)) :
    Rule :=
  guarded (.line (ps.map WordPattern.pattern)) command "" conversions

variable {command : String} {args ws : List String} {ps : List WordPattern}

/-- A rule that is spelled out word by word matches as its words are read. -/
theorem IsCall.match?_spelled (h : IsCall command args (Text.unwords ws))
    (hps : ∀ p ∈ ps, p.IsTight) (hne : ps ≠ []) (hws : ∀ w ∈ ws, IsWord w) (hwords : ws ≠ [])
    (conversions : List (Vendor × Conversion)) :
    (spelled ps command conversions).match? (Text.unwords ws) =
      (WordPattern.readWords? ps ws).map fun found =>
        ⟨spelled ps command conversions, args,
          (LinePattern.line (ps.map WordPattern.pattern)).names.map fun name =>
            (name, (found.lookup name).getD "")⟩ := by
  obtain ⟨rest, hrest, rfl⟩ := h.words
  rw [match?_eq]
  change (after? command (Text.unwords ws)).bind (fun rest =>
    ((LinePattern.line (ps.map WordPattern.pattern)).find? (Text.unwords ws)).map _) = _
  rw [hrest, LinePattern.find?_line hps hne hws hwords, Option.bind_some, Option.map_map]
  rfl

end Rule
end Netscribe
