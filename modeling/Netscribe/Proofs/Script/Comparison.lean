import Netscribe.Script.Draft
import Netscribe.Proofs.Text.Line
import Mathlib.Data.List.Forall2
import Mathlib.Tactic.Tauto
/-!
Comparisons with bounds, as lines write them behind keywords. A line is taken as a list of pieces,
some of which are comparisons, and what it loses when those that lack a bound are left out.
-/
namespace Netscribe

open Text (HasPart)

/-- A text whose condition holds is written. -/
theorem textIf_of {p : Prop} [Decidable p] (h : p) (s : String) : textIf p s = s := if_pos h

/-- A text whose condition fails is left out. -/
theorem textIf_of_not {p : Prop} [Decidable p] (h : ¬p) (s : String) : textIf p s = "" := if_neg h

namespace Text

variable {kept pieces : List String}

private theorem hasPart_join {piece : String} (h : piece ∈ pieces) :
    HasPart (String.join pieces) piece := by
  obtain ⟨before, after, rfl⟩ := List.append_of_mem h
  refine ⟨String.join before, String.join after, ?_⟩
  rw [String.join_append, String.join_cons, String.append_assoc]

/-- A text has its pieces, or some of them left out. -/
abbrev IsThinned (kept pieces : List String) : Prop :=
  List.Forall₂ (fun keep piece => keep = piece ∨ keep = "") kept pieces

private theorem IsThinned.length_le (h : IsThinned kept pieces) :
    (String.join kept).length ≤ (String.join pieces).length := by
  induction h with
  | nil => exact Nat.le_refl _
  | cons hkeep _ ih =>
    rw [String.join_cons, String.join_cons, String.length_append, String.length_append]
    obtain rfl | rfl := hkeep
    · omega
    · rw [String.length_empty]
      omega

/-- Pieces that are left out without a trace were empty. -/
theorem IsThinned.join_eq_iff (h : IsThinned kept pieces) :
    String.join kept = String.join pieces ↔ kept = pieces := by
  refine ⟨fun hjoin => ?_, congrArg String.join⟩
  induction h with
  | nil => rfl
  | @cons keep piece rest others hkeep hrest ih =>
    rw [String.join_cons, String.join_cons] at hjoin
    have hlength := congrArg String.length hjoin
    have hle := IsThinned.length_le hrest
    rw [String.length_append, String.length_append] at hlength
    -- a piece left out would make the text shorter, as no later piece can make up for it
    have hsame : keep = piece := by
      obtain rfl | rfl := hkeep
      · rfl
      · rw [String.length_empty] at hlength
        exact (String.length_eq_zero_iff.mp (by omega)).symm
    subst hsame
    rw [ih ((String.append_right_inj keep).mp hjoin)]

end Text

/-- A comparison with one bound, or with two for a range. -/
structure Comparison where
  operator : String
  low : String
  high : String

namespace Comparison

variable {c : Comparison} {keyword : String}

/-- All bounds that the operator needs are set. -/
def isComplete (c : Comparison) : Bool :=
  c.operator ≠ "" && c.low ≠ "" && (c.operator ≠ "range" || c.high ≠ "")

/-- A range of which only the first bound is set. -/
def isHalfRange (c : Comparison) : Bool := c.operator = "range" && c.low ≠ "" && c.high = ""

/-- The words of a complete comparison. -/
def phrase (keyword : String) (c : Comparison) : String :=
  textIf (keyword ≠ "") s!" {keyword}" ++ s!" {c.operator} {c.low}"
    ++ textIf (c.operator = "range") s!" {c.high}"

/-- The comparison if it is complete, else one that is not set. -/
def ifComplete (c : Comparison) : Comparison :=
  if c.isComplete then c else { c with operator := "" }

/-- How a comparison is written behind a keyword: a complete one in its words and one without its
    first bound not at all, but something of a half range. -/
structure IsWriting (write : Comparison → String) (keyword : String) : Prop where
  complete : ∀ {c}, c.isComplete → write c = c.phrase keyword
  unset : ∀ {c : Comparison}, c.operator = "" ∨ c.low = "" → write c = ""
  half : ∀ {c}, c.isHalfRange → write c ≠ ""

/-- Complete is a comparison with an operator and the bounds that the operator needs. -/
theorem isComplete_iff : c.isComplete ↔
    c.operator ≠ "" ∧ c.low ≠ "" ∧ (c.operator = "range" → c.high ≠ "") := by
  simp only [isComplete, Bool.and_eq_true, Bool.or_eq_true, decide_eq_true_eq, and_assoc,
    ← imp_iff_not_or]

/-- A half range has its lower bound only. -/
theorem isHalfRange_iff : c.isHalfRange ↔ c.operator = "range" ∧ c.low ≠ "" ∧ c.high = "" := by
  simp only [isHalfRange, Bool.and_eq_true, decide_eq_true_eq, and_assoc]

/-- A comparison is complete, or a half range, or lacks what every comparison needs. -/
theorem cases (c : Comparison) :
    c.isComplete ∨ c.isHalfRange ∨ c.operator = "" ∨ c.low = "" := by
  rw [isComplete_iff, isHalfRange_iff]
  tauto

/-- Leaving out a comparison empties its operator and keeps the bounds. -/
theorem mk_ifComplete (c : Comparison) : ⟨c.ifComplete.operator, c.low, c.high⟩ = c.ifComplete := by
  rw [ifComplete]
  split <;> rfl

private theorem ifComplete_of_isComplete (h : c.isComplete) : c.ifComplete = c := if_pos h

private theorem operator_ifComplete (h : c.isComplete = false) : c.ifComplete.operator = "" := by
  rw [ifComplete, if_neg (by simp [h])]

namespace IsWriting

variable {write : Comparison → String}

private theorem thinned (h : IsWriting write keyword) (c : Comparison) :
    write c.ifComplete = write c ∨ write c.ifComplete = "" := by
  cases hcomplete : c.isComplete with
  | true => exact .inl (by rw [ifComplete_of_isComplete hcomplete])
  | false => exact .inr (h.unset (.inl (operator_ifComplete hcomplete)))

/-- Only a half range is written although a bound is missing. -/
theorem ifComplete_iff (h : IsWriting write keyword) (c : Comparison) :
    write c.ifComplete = write c ↔ c.isHalfRange = false := by
  cases hcomplete : c.isComplete with
  | true =>
    rw [ifComplete_of_isComplete hcomplete, Bool.eq_false_iff, ne_eq, isHalfRange_iff]
    have hbounds := isComplete_iff.mp hcomplete
    tauto
  | false =>
    rw [h.unset (.inl (operator_ifComplete hcomplete))]
    obtain htrue | hhalf | hunset := c.cases
    · rw [hcomplete] at htrue
      cases htrue
    · rw [hhalf]
      exact iff_of_false (h.half hhalf).symm Bool.noConfusion
    · rw [h.unset hunset, Bool.eq_false_iff, ne_eq, isHalfRange_iff]
      refine iff_of_true rfl fun ⟨hrange, hlow, _⟩ => hunset.elim (fun hnone => ?_) hlow
      rw [hnone] at hrange
      exact absurd hrange (by decide)

/-- A keyword before what is written. -/
theorem behind (h : IsWriting write "") (hkeyword : keyword ≠ "") :
    IsWriting (fun c => textIf (write c ≠ "") s!" {keyword}{write c}") keyword := by
  constructor
  · intro c hcomplete
    have hphrase : c.phrase "" ≠ "" := by simp +decide [phrase]
    rw [h.complete hcomplete, textIf, if_pos hphrase]
    rw [phrase, phrase, textIf, textIf, textIf, if_neg (not_not.mpr rfl), if_pos hkeyword]
    simp only [String.append_assoc, String.empty_append]
    rfl
  · intro c hunset
    rw [h.unset hunset]
    rfl
  · intro c hhalf
    rw [textIf, if_pos (h.half hhalf)]
    simp +decide

end IsWriting

end Comparison

/-- One of the ways in which comparisons are written. -/
structure Comparison.Writer where
  keyword : String
  write : Comparison → String
  isWriting : IsWriting write keyword

/-- A piece of a line: a text that has nothing to do with comparisons, or a comparison. -/
inductive Piece
  | fixed (text : String)
  | comparison (writer : Comparison.Writer) (c : Comparison)

namespace Piece

def text : Piece → String
  | fixed text => text
  | comparison writer c => writer.write c

/-- The piece with its comparison only if that is complete. -/
def completed : Piece → Piece
  | fixed text => fixed text
  | comparison writer c => comparison writer c.ifComplete

/-- The comparison of a piece, with its keyword. -/
def comparison? : Piece → Option (String × Comparison)
  | fixed _ => none
  | comparison writer c => some (writer.keyword, c)

def line (pieces : List Piece) : String := String.join (pieces.map text)

theorem line_nil : line [] = "" := rfl

theorem line_cons (piece : Piece) (rest : List Piece) :
    line (piece :: rest) = piece.text ++ line rest := by
  rw [line, List.map_cons, String.join_cons, line]

theorem line_append (front rest : List Piece) : line (front ++ rest) = line front ++ line rest := by
  rw [line, List.map_append, String.join_append, line, line]

private theorem isThinned_completed (pieces : List Piece) :
    Text.IsThinned ((pieces.map completed).map text) (pieces.map text) := by
  rw [List.map_map, Text.IsThinned, List.forall₂_map_left_iff, List.forall₂_map_right_iff,
    List.forall₂_same]
  intro piece _
  cases piece with
  | fixed text => exact .inl rfl
  | comparison writer c => exact writer.isWriting.thinned c

/-- A line loses nothing by the completion of its comparisons unless one is a half range. -/
theorem line_completed_eq_iff (pieces : List Piece) :
    line (pieces.map completed) = line pieces ↔
      ∀ c ∈ pieces.filterMap comparison?, c.2.isHalfRange = false := by
  rw [line, line, (isThinned_completed pieces).join_eq_iff, List.map_map]
  induction pieces with
  | nil => simp
  | cons piece rest ih =>
    rw [List.map_cons, List.map_cons, List.cons.injEq, ih]
    cases piece with
    | fixed text => exact and_iff_right rfl
    | comparison writer c =>
      have hcons : (comparison writer c :: rest).filterMap comparison? =
          (writer.keyword, c) :: rest.filterMap comparison? := rfl
      rw [hcons, List.forall_mem_cons]
      exact and_congr_left' (writer.isWriting.ifComplete_iff c)

private theorem hasPart_line {pieces : List Piece} {keyword : String} {c : Comparison}
    (hmem : (keyword, c) ∈ pieces.filterMap comparison?) (hcomplete : c.isComplete) :
    HasPart (line pieces) (c.phrase keyword) := by
  obtain ⟨piece, hpiece, hcomparison⟩ := List.mem_filterMap.mp hmem
  cases piece with
  | fixed text => cases hcomparison
  | comparison writer other =>
    obtain ⟨rfl, rfl⟩ := Prod.mk.inj (Option.some.inj hcomparison)
    rw [← writer.isWriting.complete hcomplete]
    exact Text.hasPart_join (List.mem_map_of_mem hpiece)

end Piece

/-- Lines that lose nothing by completion exactly if no comparison is a half range, and in which
    every complete comparison stands with all its bounds. -/
structure WritesComparisons (lines completed : List String)
    (comparisons : List (String × Comparison)) : Prop where
  completed_eq_iff : completed = lines ↔ ∀ c ∈ comparisons, c.2.isHalfRange = false
  complete : ∀ c ∈ comparisons, c.2.isComplete → ∃ line ∈ lines, HasPart line (c.2.phrase c.1)

namespace WritesComparisons

/-- Lines without comparisons, which completion does not change. -/
theorem nothing (lines : List String) : WritesComparisons lines lines [] :=
  ⟨iff_of_true rfl (List.forall_mem_nil _), List.forall_mem_nil _⟩

/-- One line made of pieces writes the comparisons among them. -/
theorem singleton {line completed : String} {pieces : List Piece}
    (hline : Piece.line pieces = line)
    (hcompleted : Piece.line (pieces.map Piece.completed) = completed) :
    WritesComparisons [line] [completed] (pieces.filterMap Piece.comparison?) := by
  refine ⟨?_, fun c hmem hcomplete => ⟨line, List.mem_singleton_self line, ?_⟩⟩
  · rw [List.cons.injEq, and_iff_left rfl, ← hcompleted, ← hline]
    exact Piece.line_completed_eq_iff pieces
  · rw [← hline]
    exact Piece.hasPart_line hmem hcomplete

end WritesComparisons

end Netscribe
