import Netscribe.Acl.Commands
import Netscribe.Proofs.Script.Written
/-!
What the headers of ACLs declare: the names and numbers by which other commands can refer to a list.
-/
namespace Netscribe

/-- What a command refers to an ACL by. -/
inductive AclRef
  | name (text : String)
  | number (text : String)
  deriving DecidableEq, Repr

namespace AclRef

def text : AclRef → String
  | name text | number text => text

/-- How a vendor's header gives it. -/
def phrase (vendor : Vendor) (ref : AclRef) : String :=
  match vendor with
  | .cisco => s!" {ref.text}"
  | .huawei => match ref with
    | name text => s!"acl name {text} "
    | number text => s!"acl {text}"
  | .h3c | .generic => match ref with
    | name text => s!" name {text} match-order "
    | number text => s!"acl number {text} "

end AclRef

namespace Acl

/-- The name, or the number of a list without one. -/
def labelRef (a : Acl) : AclRef := if a.name = "" then .number a.number else .name a.name

def header (vendor : Vendor) (a : Acl) : String :=
  match vendor with
  | .cisco =>
    let kind := if a.isBasic then "standard" else "extended"
    s!"ip access-list {kind} {a.label}"
  | .huawei =>
    let kind := if a.kind = "advanced" then "advance" else "basic"
    if a.name ≠ "" then s!"acl name {a.name} {kind}" else s!"acl {a.number}"
  | .h3c | .generic => a.h3cHeader

/-- What the header of a list declares. Only an H3C header can give both name and number. -/
def headerRefs (vendor : Vendor) (a : Acl) : List AclRef :=
  match vendor with
  | .cisco | .huawei => [a.labelRef]
  | .h3c | .generic =>
    if a.number = "" then [.name a.name]
    else .number a.number :: if a.name = "" then [] else [.name a.name]

variable {a : Acl}

/-- The name of a list is referred to where it has one, and its number otherwise. -/
theorem text_labelRef (a : Acl) : a.labelRef.text = a.label := by
  rw [labelRef, label]
  split <;> rfl

/-- A list without a name is referred to by its number. -/
theorem labelRef_of_name_eq (h : a.name = "") : a.labelRef = .number a.number := if_pos h

private theorem labelRef_of_name_ne (h : a.name ≠ "") : a.labelRef = .name a.name := if_neg h

/-- Every header binds the reference by which other commands know the list. -/
theorem labelRef_mem_headerRefs (vendor : Vendor) (h : a.labelRef.text ≠ "") :
    a.labelRef ∈ a.headerRefs vendor := by
  have hh3c : a.labelRef ∈ a.headerRefs .h3c := by
    rw [headerRefs]
    by_cases hname : a.name = ""
    · rw [labelRef_of_name_eq hname] at h ⊢
      have hnumber : a.number ≠ "" := h
      rw [if_neg hnumber]
      exact List.mem_cons_self
    · rw [labelRef_of_name_ne hname, if_neg hname]
      split
      · exact List.mem_cons_self
      · exact List.mem_cons_of_mem _ List.mem_cons_self
  cases vendor with
  | cisco | huawei => exact List.mem_cons_self
  | h3c | generic => exact hh3c

/-- Beside a name, an H3C header keeps the number as a reference of its own. -/
theorem number_mem_headerRefs_h3c (h : a.number ≠ "") : .number a.number ∈ a.headerRefs .h3c := by
  rw [headerRefs, if_neg h]
  exact List.mem_cons_self

/-- A Huawei header gives the number of a list only where the list has no name. -/
theorem number_mem_headerRefs_huawei_iff {number : String} :
    .number number ∈ a.headerRefs .huawei ↔ a.name = "" ∧ a.number = number := by
  rw [headerRefs, List.mem_singleton]
  by_cases hname : a.name = ""
  · rw [labelRef_of_name_eq hname, AclRef.number.injEq, eq_comm]
    exact (and_iff_right hname).symm
  · rw [labelRef_of_name_ne hname]
    exact iff_of_false (fun h => nomatch h) fun h => hname h.1

private theorem hasPart_h3cHeader {ref : AclRef} (h : ref ∈ a.headerRefs .h3c) :
    Text.HasPart a.h3cHeader (ref.phrase .h3c) := by
  rw [headerRefs] at h
  rw [h3cHeader]
  by_cases hnumber : a.number = ""
  · rw [if_pos hnumber, List.mem_singleton] at h
    rw [h, if_neg (not_not_intro hnumber)]
    refine ⟨"acl " ++ if a.isBasic then "basic" else "advanced", a.matchOrder, ?_⟩
    simp only [AclRef.phrase, String.append_assoc]
    rfl
  · rw [if_neg hnumber, List.mem_cons] at h
    rw [if_pos hnumber]
    obtain rfl | hname := h
    · by_cases hname : a.name = ""
      · refine ⟨"", s!"match-order {a.matchOrder}", ?_⟩
        rw [textIf, if_neg (not_not_intro hname)]
        simp only [AclRef.phrase, String.append_assoc, String.empty_append]
        rfl
      · refine ⟨"", s!"name {a.name} match-order {a.matchOrder}", ?_⟩
        rw [textIf, if_pos hname]
        simp only [AclRef.phrase, String.append_assoc, String.empty_append]
        rfl
    · split at hname
      · cases hname
      next hset =>
        rw [List.mem_singleton.mp hname, textIf, if_pos hset]
        refine ⟨s!"acl number {a.number}", a.matchOrder, ?_⟩
        simp only [AclRef.phrase, String.append_assoc]
        rfl

/-- What a header declares stands in it. -/
theorem hasPart_header {vendor : Vendor} {ref : AclRef} (h : ref ∈ a.headerRefs vendor) :
    Text.HasPart (a.header vendor) (ref.phrase vendor) := by
  cases vendor with
  | cisco =>
    have hlabel : ref.text = a.label := List.mem_singleton.mp h ▸ text_labelRef a
    refine ⟨"ip access-list " ++ if a.isBasic then "standard" else "extended", "", ?_⟩
    unfold header AclRef.phrase
    dsimp only
    rw [hlabel]
    simp only [String.append_assoc, String.append_empty]
    rfl
  | huawei =>
    rw [List.mem_singleton.mp h]
    unfold header
    dsimp only
    by_cases hname : a.name = ""
    · rw [labelRef_of_name_eq hname, if_neg (not_not_intro hname)]
      refine ⟨"", "", ?_⟩
      simp only [String.empty_append, String.append_empty]
      rfl
    · rw [labelRef_of_name_ne hname, if_pos hname]
      refine ⟨"", if a.kind = "advanced" then "advance" else "basic", ?_⟩
      simp only [AclRef.phrase, String.append_assoc, String.empty_append]
      rfl
  | h3c => exact hasPart_h3cHeader h
  | generic => exact hasPart_h3cHeader h

private theorem text?_huaweiHeader (a : Acl) : a.huaweiHeader.text? = some (a.header .huawei) := by
  rw [huaweiHeader]
  unfold header
  split <;> rfl

/-- No header is blank, not even that of a list without name and number. -/
theorem allBlank_header (vendor : Vendor) (a : Acl) : Text.allBlank (a.header vendor) = false := by
  have hh3c : Text.allBlank a.h3cHeader = false := by
    rw [h3cHeader]
    split
    · simp only [String.append_assoc]
      exact Text.allBlank_append_left (by decide) _
    · simp only [String.append_assoc]
      exact Text.allBlank_append_left (by decide) _
  cases vendor with
  | cisco =>
    unfold header
    dsimp only
    simp only [String.append_assoc]
    exact Text.allBlank_append_left (by decide) _
  | huawei =>
    unfold header
    dsimp only
    split
    · simp only [String.append_assoc]
      exact Text.allBlank_append_left (by decide) _
    · exact Text.allBlank_append_left (by decide) _
  | h3c | generic => exact hh3c

end Acl

namespace Acls

/-- The lists that have a header. -/
def declared (acls : Acls) : List Acl :=
  if acls.enabled then acls.acls.filter fun a => a.number ≠ "" ∨ a.name ≠ "" else []

/-- Declared are the lists of an enabled section that have a number or a name. -/
theorem mem_declared_iff {acls : Acls} {a : Acl} :
    a ∈ acls.declared ↔ acls.enabled ∧ a ∈ acls.acls ∧ (a.number ≠ "" ∨ a.name ≠ "") := by
  rw [declared]
  split
  next hon => rw [List.mem_filter, decide_eq_true_iff, and_iff_right hon]
  next hoff => exact iff_of_false List.not_mem_nil fun h => hoff h.1

/-- The list of a reference that was found, declared or not. -/
theorem mem_of_find? {acls : Acls} {id : String} {a : Acl} (h : acls.find? id = some a) :
    a ∈ acls.acls := by
  rw [find?] at h
  split at h
  · cases h
  · exact List.mem_of_find?_eq_some h

/-- Every list that has a header has it as a line of the commands. -/
theorem hasLines_render {vendor : Vendor} (hvendor : vendor ≠ .generic) {acls : Acls} {a : Acl}
    (h : a ∈ acls.declared) : Text.HasLines (acls.render vendor).cli [a.header vendor] := by
  obtain ⟨hon, hmem, hset⟩ := mem_declared_iff.mp h
  have hwrites {block : Acl → List Entry} (hblock : Writes (block a) (a.header vendor)) :
      Writes (acls.entries block) (a.header vendor) := by
    refine Writes.flatMap_iff.mpr ⟨a, List.mem_filter.mpr ⟨hmem, decide_eq_true hset⟩, ?_⟩
    exact Writes.cons_iff.mpr (.inr hblock)
  have hblank := Acl.allBlank_header vendor a
  unfold render
  rw [hon, if_neg (by decide)]
  cases vendor with
  | cisco => exact Fragment.hasLines_ofEntries (hwrites (Writes.cons_iff.mpr (.inl rfl))) hblank _ _
  | huawei =>
    have hheader : Writes a.huaweiEntries (a.header .huawei) :=
      Writes.cons_iff.mpr (.inl (Acl.text?_huaweiHeader a))
    exact Fragment.hasLines_ofEntries (hwrites hheader) hblank _ _
  | h3c => exact Fragment.hasLines_ofEntries (hwrites (Writes.cons_iff.mpr (.inl rfl))) hblank _ _
  | generic => exact absurd rfl hvendor

end Acls
end Netscribe
