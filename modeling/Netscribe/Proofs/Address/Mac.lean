import Netscribe.Proofs.Text.OneLine
/-!
The forms of hardware addresses are their digits in groups of four, with separators between the
groups. Whatever an address consists of, each of its forms gives back exactly its digits when the
separators are taken out, and the form with dashes is the same for all ways to write the address.
-/
namespace Netscribe.Mac

/-- Digits that are written in groups of four with a separator between them. Only the last group may
    be shorter. -/
inductive InFours (separator : String) : String → String → Prop
  | last {digits} : 0 < Text.size digits → Text.size digits ≤ 4 → InFours separator digits digits
  | more {group digits text} : Text.size group = 4 → InFours separator digits text →
      InFours separator (group ++ digits) (group ++ separator ++ text)

variable {mac separator digits text : String}

private theorem clean_append (s t : String) : clean (s ++ t) = clean s ++ clean t := by
  rw [clean, String.toList_append, List.filter_append, String.ofList_append, clean, clean]

private theorem isSeparator_of_mem_clean {c : Char} (h : c ∈ (clean mac).toList) :
    isSeparator c = false := by
  rw [clean, String.toList_ofList] at h
  simpa using (List.mem_filter.mp h).2

private theorem clean_eq_self (h : ∀ c ∈ mac.toList, isSeparator c = false) : clean mac = mac := by
  have hkept : mac.toList.filter (fun c => !isSeparator c) = mac.toList :=
    List.filter_eq_self.mpr fun c hc => by rw [h c hc, Bool.not_false]
  rw [clean, hkept, String.ofList_toList]

private theorem clean_clean (mac : String) : clean (clean mac) = clean mac :=
  clean_eq_self fun _ => isSeparator_of_mem_clean

/-- No character becomes a separator when it becomes small. -/
theorem clean_lower_clean (mac : String) :
    clean (Text.lower (clean mac)) = Text.lower (clean mac) := by
  refine clean_eq_self fun c hc => ?_
  by_contra hseparator
  have hbelow : 0 < c.toNat ∧ c.toNat < 0x41 := by
    rw [Bool.not_eq_false, isSeparator, Bool.or_eq_true, Bool.or_eq_true, beq_iff_eq, beq_iff_eq,
      beq_iff_eq] at hseparator
    obtain (rfl | rfl) | rfl := hseparator <;> decide
  refine Text.not_mem_lower hbelow.1 hbelow.2 (fun hmem => ?_) hc
  exact hseparator (isSeparator_of_mem_clean hmem)

/-- What stands between the groups of digits is lost when separators are taken out, and nothing
    else. -/
theorem InFours.clean_eq (h : InFours separator digits text) (hseparator : clean separator = "") :
    clean text = clean digits := by
  induction h with
  | last => rfl
  | more _ _ ih =>
    rw [clean_append, clean_append, hseparator, String.append_empty, ih, clean_append]

private theorem inFours_join_chunks {pieces : List String} (hne : pieces ≠ [])
    (hsize : ∀ part, part <:+: pieces → Text.size (String.join part) = part.length) :
    InFours separator (String.join pieces)
      (Text.join separator ((Text.chunks 4 pieces).map String.join)) := by
  induction hlength : pieces.length using Nat.strong_induction_on generalizing pieces with
  | _ length ih =>
    have hsplit := List.take_append_drop 4 pieces
    have hgroup := hsize (pieces.take 4) (List.take_prefix 4 pieces).isInfix
    have hpositive : 0 < pieces.length := List.length_pos_iff.mpr hne
    rw [Text.chunks_eq_cons (by omega) hne, List.map_cons, Text.join]
    by_cases hmore : pieces.drop 4 = []
    · have hshort := List.drop_eq_nil_iff.mp hmore
      rw [hmore, List.append_nil] at hsplit
      rw [hsplit] at hgroup
      rw [hmore, hsplit, Text.chunks, List.map_nil, String.intercalate_singleton]
      exact .last (by omega) (by omega)
    · have hlong : 4 < pieces.length := by rwa [List.drop_eq_nil_iff, not_le] at hmore
      have hjoin : String.join pieces =
          String.join (pieces.take 4) ++ String.join (pieces.drop 4) := by
        rw [← String.join_append, hsplit]
      have hlater : (Text.chunks 4 (pieces.drop 4)).map String.join ≠ [] := by
        rw [Text.chunks_eq_cons (by omega) hmore]
        exact List.cons_ne_nil _ _
      rw [List.length_take_of_le hlong.le] at hgroup
      rw [hjoin, String.intercalate_cons_of_ne_nil hlater]
      refine .more hgroup (ih _ ?_ hmore (fun part hpart => hsize part ?_) rfl)
      · rw [← hlength, List.length_drop]
        omega
      · exact hpart.trans (List.drop_suffix 4 pieces).isInfix

/-- Any text but the empty one can be written in groups of four. -/
theorem inFours_grouped (hdigits : digits ≠ "") :
    InFours separator digits (grouped separator digits) := by
  have hne : Text.pieces digits ≠ [] := by
    intro hnil
    rw [← Text.join_pieces digits, hnil] at hdigits
    exact hdigits rfl
  have hfours : InFours separator (String.join (Text.pieces digits)) (grouped separator digits) :=
    inFours_join_chunks hne fun _ => Text.size_join_of_infix
  rwa [Text.join_pieces] at hfours

private theorem dashed_of_size (h : Text.size (clean mac) = 12) :
    dashed mac = grouped "-" (clean mac) :=
  if_pos h

private theorem inFours_dashed (h : Text.size (clean mac) = 12) :
    InFours "-" (clean mac) (dashed mac) := by
  have hne : clean mac ≠ "" := by
    intro hempty
    rw [hempty] at h
    cases h
  rw [dashed_of_size h]
  exact inFours_grouped hne

private theorem inFours_clientIdentifier (mac : String) :
    InFours "." ("01" ++ Text.lower (clean mac)) (clientIdentifier mac) := by
  refine inFours_grouped fun hempty => ?_
  rw [String.append_eq_empty_iff] at hempty
  exact absurd hempty.1 (by decide)

private theorem clean_dashed (mac : String) : clean (dashed mac) = clean mac := by
  by_cases h : Text.size (clean mac) = 12
  · rw [(inFours_dashed h).clean_eq (by decide), clean_clean]
  · rw [dashed, if_neg h]

private theorem clean_clientIdentifier (mac : String) :
    clean (clientIdentifier mac) = "01" ++ Text.lower (clean mac) := by
  have htype : clean "01" = "01" := by decide
  rw [(inFours_clientIdentifier mac).clean_eq (by decide), clean_append, clean_lower_clean, htype]

/-- Both forms of an address hold exactly its digits, whatever and however many these are, in groups
    of four; only the form with dashes leaves an address alone that has not twelve of them. That
    form depends on nothing but the digits and stays as it is when it is brought into it again. -/
theorem forms_keep_digits (mac : String) :
    clean (dashed mac) = clean mac ∧
      clean (clientIdentifier mac) = "01" ++ Text.lower (clean mac) ∧
      dashed (dashed mac) = dashed mac ∧
      InFours "." ("01" ++ Text.lower (clean mac)) (clientIdentifier mac) ∧
      (Text.size (clean mac) = 12 → InFours "-" (clean mac) (dashed mac) ∧
        ∀ other, clean other = clean mac → dashed other = dashed mac) := by
  have hsame {other : String} (h : Text.size (clean mac) = 12) (hother : clean other = clean mac) :
      dashed other = dashed mac := by
    rw [dashed_of_size h, dashed_of_size (hother ▸ h), hother]
  refine ⟨clean_dashed mac, clean_clientIdentifier mac, ?_, inFours_clientIdentifier mac,
    fun h => ⟨inFours_dashed h, fun other hother => hsame h hother⟩⟩
  by_cases h : Text.size (clean mac) = 12
  · exact hsame h (clean_dashed mac)
  · rw [dashed, if_neg (by rwa [clean_dashed])]

/-- Two ways to write an address of twelve digits. -/
theorem forms_keep_digits_of_twelve :
    Text.size (clean "00:1A-2b.3C4d5e") = 12 ∧
      clean "001A.2b3C.4d5e" = clean "00:1A-2b.3C4d5e" ∧
      dashed "001A.2b3C.4d5e" = dashed "00:1A-2b.3C4d5e" ∧
      dashed "00:1A-2b.3C4d5e" = "001A-2b3C-4d5e" ∧
      clientIdentifier "00:1A-2b.3C4d5e" = "0100.1a2b.3c4d.5e" := by
  have htwelve : Text.size (clean "00:1A-2b.3C4d5e") = 12 := by decide
  have hclean : clean "001A.2b3C.4d5e" = clean "00:1A-2b.3C4d5e" := by decide
  obtain ⟨-, -, -, -, hdashed⟩ := forms_keep_digits "00:1A-2b.3C4d5e"
  refine ⟨htwelve, hclean, (hdashed htwelve).2 _ hclean, ?_, ?_⟩
  · decide +kernel
  · decide +kernel

end Netscribe.Mac
