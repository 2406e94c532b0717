import Netscribe.Proofs.Dialect.VlanLists
import Netscribe.Proofs.View.Contents
import Netscribe.Proofs.View.Declarations
/-!
The VLAN database read back. One vendor declares each VLAN by a command of its own, one all of them
in a batch, and one each run of them; what the commands of a text denote is the same for all three.
A description is read in the view of the VLAN that it was written for, and nowhere else.
-/
namespace Netscribe

open Text (after? allBlank isIndented IsOneLine)

namespace Vlan

/-- The word that gives a VLAN its name or description, inside the view of the VLAN. -/
def labelWord : Vendor → String
  | .cisco => " name "
  | _ => " description "

/-- The number of a single id. -/
def spanOf (word : String) : List (Nat × Nat) :=
  ((Text.decimalNumber? word.toList).map fun n => (n, n)).toList

/-- The spans of ids that a `vlan` command declares: those of a batch, one id, or one range. -/
def spansOf (words : String) : List (Nat × Nat) :=
  match after? "batch " words with
  | some batch => (Text.words batch).flatMap spanOf
  | none =>
    match Text.words words with
    | [id] => spanOf id
    | [first, "to", last] =>
      (do return (← Text.decimalNumber? first.toList, ← Text.decimalNumber? last.toList)).toList
    | _ => []

/-- What a `vlan` command says includes an id. -/
def Denotes (words : String) (n : Nat) : Prop :=
  ∃ span ∈ spansOf words, span.1 ≤ n ∧ n ≤ span.2

/-- Some command of a text declares an id. -/
def DeclaredIn (text : String) (n : Nat) : Prop :=
  ∃ words ∈ (Text.splitOn '\n' text).filterMap (after? "vlan "), Denotes words n

/-- A text gives an id a label, in the view of a command that declares it. -/
def LabelledIn (vendor : Vendor) (text : String) (n : Nat) (label : String) : Prop :=
  ∃ view ∈ View.contents "vlan " (labelWord vendor) (Text.splitOn '\n' text),
    Denotes view.1 n ∧ label ∈ view.2

/-- The `vlan` commands of a text before its first empty line, where descriptions start. -/
def statements (text : String) : List String :=
  ((Text.splitOn '\n' text).takeWhile (· ≠ "")).filterMap (after? "vlan ")

section Words

private theorem spanOf_numeral (n : Text.Numeral) : spanOf n.text = [(n.value, n.value)] := by
  rw [spanOf, Text.decimalNumber?_of_isDigit n.all]
  rfl

private theorem spansOf_item (span : Span) :
    spansOf (span.item " to ") = [(span.low, span.high)] := by
  -- A span starts with a digit, so that no span is taken for a batch.
  have hbatch : after? "batch " (span.item " to ") = none := by
    obtain ⟨c, cs, hcs, hc⟩ := Span.exists_item_eq_cons " to " span
    refine View.after?_eq_none_of_head? (p := fun c => !c.isDigit) (by decide) ?_
    rw [hcs]
    simpa using hc
  have hwords : Text.words (span.item " to ") = span.words := by
    rw [← Span.unwords_words, Text.words_unwords Span.isWord_of_mem_words]
  rw [spansOf, hbatch, hwords, Span.words, Span.low, Span.high]
  cases span.last with
  | none => exact spanOf_numeral span.first
  | some last =>
    have hfirst := Text.decimalNumber?_of_isDigit span.first.all
    have hlast := Text.decimalNumber?_of_isDigit last.all
    simp [hfirst, hlast, Text.Numeral.value]

private theorem spansOf_spanItem (ids : Nat × Nat) : spansOf (spanItem " to " ids) = [ids] := by
  obtain ⟨first, last⟩ := ids
  have hlow : (Span.ofIds (first, last)).low = first := Text.Numeral.value_ofNat first
  have hhigh : (Span.ofIds (first, last)).high = last := by
    rw [Span.high, Span.ofIds]
    split
    next hsame => exact (Text.Numeral.value_ofNat first).trans hsame
    next => exact Text.Numeral.value_ofNat last
  rw [spanItem_eq, spansOf_item, hlow, hhigh]

private theorem spansOf_toString (n : Nat) : spansOf (toString n) = [(n, n)] := by
  have hitem : spanItem " to " (n, n) = toString n := if_pos rfl
  rw [← hitem, spansOf_spanItem]

private theorem spansOf_batch (ids : List Nat) :
    spansOf ("batch " ++ Text.unwords (ids.map toString)) = ids.map fun n => (n, n) := by
  have hwords : Text.words (Text.unwords (ids.map toString)) = ids.map toString :=
    Text.words_unwords (List.forall_mem_map.mpr fun n _ => (Text.Numeral.ofNat n).isWord)
  have hspan (n : Nat) : spanOf (toString n) = [(n, n)] := by
    have hnumeral := spanOf_numeral (.ofNat n)
    rwa [Text.Numeral.value_ofNat] at hnumeral
  rw [spansOf, Text.after?_append]
  simp only [hwords, List.flatMap_map, hspan]
  exact List.map_eq_flatMap.symm

private theorem denotes_toString {m n : Nat} : Denotes (toString m) n ↔ n = m := by
  rw [Denotes, spansOf_toString]
  simp only [List.mem_singleton, exists_eq_left]
  omega

private theorem denotes_spanItem {ids : Nat × Nat} {n : Nat} :
    Denotes (spanItem " to " ids) n ↔ ids.1 ≤ n ∧ n ≤ ids.2 := by
  rw [Denotes, spansOf_spanItem]
  simp only [List.mem_singleton, exists_eq_left]

private theorem denotes_batch {ids : List Nat} {n : Nat} :
    Denotes ("batch " ++ Text.unwords (ids.map toString)) n ↔ n ∈ ids := by
  rw [Denotes, spansOf_batch]
  simp only [List.mem_map, exists_exists_and_eq_and]
  constructor
  · rintro ⟨m, hm, hle, hge⟩
    rwa [Nat.le_antisymm hge hle]
  · intro hn
    exact ⟨n, hn, le_rfl, le_rfl⟩

end Words

section Runs

variable {ids : List Nat} {n : Nat}

/-- The runs of natural numbers. -/
def naturalRuns (ids : List Nat) : List (Nat × Nat) :=
  (contiguousRuns (ids.map Int.ofNat)).map fun run => (run.1.toNat, run.2.toNat)

private theorem exists_of_mem_contiguousRuns {run : Int × Int}
    (h : run ∈ contiguousRuns (ids.map Int.ofNat)) :
    ∃ first last : Nat, run = (↑first, ↑last) ∧ first ≤ last := by
  have hle := le_of_mem_contiguousRuns h
  obtain ⟨first, -, hfirst⟩ := List.mem_map.mp (mem_of_mem_contiguousRuns h)
  obtain ⟨low, high⟩ := run
  rw [Int.ofNat_eq_natCast] at hfirst
  dsimp only at hle hfirst
  exact ⟨first, high.toNat, by rw [hfirst, Int.toNat_of_nonneg (by omega)], by omega⟩

private theorem exists_mem_naturalRuns_iff :
    (∃ run ∈ naturalRuns ids, run.1 ≤ n ∧ n ≤ run.2) ↔ n ∈ ids := by
  have hinjective : Function.Injective Int.ofNat := fun _ _ => Int.ofNat.inj
  rw [← List.mem_map_of_injective hinjective, ← exists_inRun_contiguousRuns_iff]
  simp only [naturalRuns, List.mem_map, exists_exists_and_eq_and]
  refine exists_congr fun run => and_congr_right fun hrun => ?_
  obtain ⟨first, last, rfl, -⟩ := exists_of_mem_contiguousRuns hrun
  simp only [InRun, Int.ofNat_eq_natCast, Int.toNat_natCast]
  omega

private theorem le_of_mem_naturalRuns {run : Nat × Nat} (h : run ∈ naturalRuns ids) :
    run.1 ≤ run.2 := by
  obtain ⟨found, hfound, rfl⟩ := List.mem_map.mp h
  obtain ⟨first, last, rfl, hle⟩ := exists_of_mem_contiguousRuns hfound
  exact hle

private theorem pairwise_naturalRuns (ids : List Nat) :
    (naturalRuns ids).Pairwise fun r s => r.2 + 1 < s.1 := by
  rw [naturalRuns, List.pairwise_map]
  refine (pairwise_contiguousRuns _).imp_of_mem fun hr hs hgap => ?_
  obtain ⟨_, _, rfl, -⟩ := exists_of_mem_contiguousRuns hr
  obtain ⟨_, _, rfl, -⟩ := exists_of_mem_contiguousRuns hs
  simp only [Int.toNat_natCast]
  omega

end Runs

section Lines

variable {ids : List Nat} {descriptions : List (Int × String)} {vendor : Vendor}

/-- The ids that have a description, each with it. -/
def described (ids : List Nat) (descriptions : List (Int × String)) : List (Nat × String) :=
  ids.filterMap fun (id : Nat) => (descriptions.lookup (id : Int)).map fun text => (id, text)

private theorem mem_described_iff {d : Nat × String} :
    d ∈ described ids descriptions ↔
      d.1 ∈ ids ∧ descriptions.lookup (d.1 : Int) = some d.2 := by
  simp only [described, List.mem_filterMap, Option.map_eq_some_iff]
  constructor
  · rintro ⟨id, hid, text, htext, rfl⟩
    exact ⟨hid, htext⟩
  · rintro ⟨hid, htext⟩
    exact ⟨d.1, hid, d.2, htext, rfl⟩

/-- The view that labels an id. -/
def labelView (d : Nat × String) : List String :=
  [s!"vlan {d.1}", s!" description {d.2}", "quit"]

/-- What the commands declare that stand before the descriptions. -/
def declarations (vendor : Vendor) (ids : List Nat) : List String :=
  match vendor with
  | .cisco => ids.map toString
  | .huawei => if ids = [] then [] else ["batch " ++ Text.unwords (ids.map toString)]
  | .h3c => (naturalRuns ids).map (spanItem " to ")
  | .generic => []

/-- The commands of a database, each with the labels that its view gives. -/
def commands (vendor : Vendor) (ids : List Nat) (descriptions : List (Int × String)) :
    List (String × List String) :=
  match vendor with
  | .cisco => ids.map fun (id : Nat) => (toString id, (descriptions.lookup (id : Int)).toList)
  | .huawei | .h3c => (declarations vendor ids).map (·, [])
    ++ (described ids descriptions).map fun d => (toString d.1, [d.2])
  | .generic => []

private theorem map_h3cDeclaration (ids : List Nat) :
    (contiguousRuns (ids.map Int.ofNat)).map h3cDeclaration =
      ((naturalRuns ids).map (spanItem " to ")).map ("vlan " ++ ·) := by
  rw [naturalRuns, List.map_map, List.map_map]
  refine List.map_congr_left fun run hrun => ?_
  obtain ⟨first, last, rfl, -⟩ := exists_of_mem_contiguousRuns hrun
  simp only [h3cDeclaration, Function.comp_apply, spanItem, Int.toNat_natCast, Int.natCast_inj]
  split
  · rfl
  · simp only [← String.append_assoc]
    rfl

private theorem descriptionLines_eq (ids : List Nat) (descriptions : List (Int × String)) :
    descriptionLines (ids.map Int.ofNat) descriptions =
      (if described ids descriptions = [] then [] else [""]) ++
        (described ids descriptions).flatMap labelView := by
  have hdescribed : (ids.map Int.ofNat).filterMap
      (fun id => (descriptions.lookup id).map (id, ·)) =
        (described ids descriptions).map fun d => (Int.ofNat d.1, d.2) := by
    rw [described, List.filterMap_map, List.map_filterMap]
    refine List.filterMap_congr fun id _ => ?_
    rw [Option.map_map]
    rfl
  rw [descriptionLines, hdescribed]
  simp only [List.map_eq_nil_iff, List.flatMap_map]
  rfl

private theorem contents_labelViews (labels : List (Nat × String)) :
    View.contents "vlan " " description " (labels.flatMap labelView) =
      labels.map fun d => (toString d.1, [d.2]) := by
  induction labels with
  | nil => rfl
  | cons d rest ih =>
    have hinside : ∀ line ∈ [s!" description {d.2}"], isIndented line :=
      List.forall_mem_singleton.mpr (Text.isIndented_of_opensIndented (by simp +decide))
    have hlabels : [s!" description {d.2}"].filterMap (after? " description ") = [d.2] :=
      List.filterMap_cons_some (Text.after?_append " description " d.2)
    rw [List.flatMap_cons, List.map_cons, ← ih, ← hlabels]
    refine View.contents_view ?_ ?_ hinside ?_ ?_ ?_ _ _
    all_goals decide

private theorem contents_descriptionLines (ids : List Nat) (descriptions : List (Int × String)) :
    View.contents "vlan " " description " (descriptionLines (ids.map Int.ofNat) descriptions) =
      (described ids descriptions).map fun d => (toString d.1, [d.2]) := by
  rw [descriptionLines_eq]
  split
  · exact contents_labelViews _
  · exact contents_labelViews _

private theorem said_command (keyword words : String) (rest : List String) :
    View.said keyword (("vlan " ++ words) :: rest) = [] :=
  View.said_cons_of_outside (Text.allBlank_append_left (by decide) _)
    (View.isIndented_of_isCommand (Text.isCommand_of_opensCommand (by simp +decide))) keyword rest

private theorem said_descriptionLines (ids : List Nat) (descriptions : List (Int × String)) :
    View.said " description " (descriptionLines (ids.map Int.ofNat) descriptions) = [] := by
  rw [descriptionLines_eq]
  cases described ids descriptions with
  | nil => rfl
  | cons d rest =>
    rw [if_neg (List.cons_ne_nil d rest), List.singleton_append,
      View.said_cons_of_allBlank (by decide)]
    exact said_command " description " (toString d.1) _

/-- Commands without views of their own, before descriptions. -/
theorem contents_statements (ws : List String) (ids : List Nat)
    (descriptions : List (Int × String)) :
    View.contents "vlan " " description "
        (ws.map ("vlan " ++ ·) ++ descriptionLines (ids.map Int.ofNat) descriptions) =
      ws.map (·, []) ++ (described ids descriptions).map fun d => (toString d.1, [d.2]) := by
  induction ws with
  | nil => exact contents_descriptionLines ids descriptions
  | cons w rest ih =>
    have hsaid : View.said " description "
        (rest.map ("vlan " ++ ·) ++ descriptionLines (ids.map Int.ofNat) descriptions) = [] := by
      cases rest with
      | nil => exact said_descriptionLines ids descriptions
      | cons next rest => exact said_command " description " next _
    rw [List.map_cons, List.cons_append, View.contents_cons_of_some (Text.after?_append "vlan " w),
      hsaid, ih, List.map_cons, List.cons_append]

private theorem contents_ciscoDeclarations (ids : List Nat) (descriptions : List (Int × String)) :
    View.contents "vlan " " name " ((ids.map Int.ofNat).flatMap (ciscoDeclaration descriptions)) =
      ids.map fun (id : Nat) => (toString id, (descriptions.lookup (id : Int)).toList) := by
  induction ids with
  | nil => rfl
  | cons id rest ih =>
    have hinside : ∀ line ∈ (descriptions.lookup (id : Int)).toList.map fun text =>
        s!" name {text}", isIndented line := by
      refine List.forall_mem_map.mpr fun text _ => ?_
      exact Text.isIndented_of_opensIndented (by simp +decide)
    have hlabels : ((descriptions.lookup (id : Int)).toList.map fun text =>
        s!" name {text}").filterMap (after? " name ") =
          (descriptions.lookup (id : Int)).toList := by
      rw [List.filterMap_map]
      exact (List.filterMap_congr fun text _ => Text.after?_append " name " text).trans
        List.filterMap_some
    rw [List.map_cons, List.flatMap_cons, List.map_cons, ← ih, ciscoDeclaration, List.cons_append,
      List.cons_append, List.append_assoc, ← hlabels]
    refine View.contents_view ?_ ?_ hinside ?_ ?_ ?_ _ _
    all_goals decide

private theorem databaseLines_cisco (ids : List Nat) (descriptions : List (Int × String)) :
    databaseLines .cisco (ids.map Int.ofNat) descriptions =
      (ids.map Int.ofNat).flatMap (ciscoDeclaration descriptions) := by
  rw [databaseLines]
  split
  next hids =>
    rw [hids]
    rfl
  next => rfl

private theorem databaseLines_of_isVrp (hvrp : vendor.isVrp) (ids : List Nat)
    (descriptions : List (Int × String)) :
    databaseLines vendor (ids.map Int.ofNat) descriptions =
      (declarations vendor ids).map ("vlan " ++ ·)
        ++ descriptionLines (ids.map Int.ofNat) descriptions := by
  have hnumbers : (ids.map Int.ofNat).map toString = ids.map (toString : Nat → String) := by
    rw [List.map_map]
    rfl
  unfold databaseLines
  split
  next hnone =>
    obtain rfl := List.map_eq_nil_iff.mp hnone
    cases vendor with
    | huawei => rfl
    | h3c => simp [declarations, naturalRuns, contiguousRuns, sortedDistinct, collapse,
        descriptionLines]
    | cisco | generic => cases hvrp
  next hsome =>
    cases vendor with
    | huawei =>
      rw [hnumbers, declarations, if_neg (mt List.map_eq_nil_iff.mpr hsome), List.map_singleton,
        ← String.append_assoc]
      rfl
    | h3c =>
      rw [map_h3cDeclaration]
      rfl
    | cisco | generic => cases hvrp

private theorem contents_databaseLines (vendor : Vendor) (ids : List Nat)
    (descriptions : List (Int × String)) :
    View.contents "vlan " (labelWord vendor)
        (databaseLines vendor (ids.map Int.ofNat) descriptions) =
      commands vendor ids descriptions := by
  cases vendor with
  | cisco =>
    rw [databaseLines_cisco]
    exact contents_ciscoDeclarations ids descriptions
  | huawei | h3c =>
    rw [databaseLines_of_isVrp rfl]
    exact contents_statements _ ids descriptions
  | generic => cases ids <;> rfl

/-- The empty line stands right before the descriptions. -/
theorem takeWhile_databaseLines (hvrp : vendor.isVrp) (ids : List Nat)
    (descriptions : List (Int × String)) :
    (databaseLines vendor (ids.map Int.ofNat) descriptions).takeWhile (· ≠ "") =
      (declarations vendor ids).map ("vlan " ++ ·) := by
  rw [databaseLines_of_isVrp hvrp, List.takeWhile_append_of_pos (by simp),
    descriptionLines_eq]
  cases described ids descriptions with
  | nil => exact List.append_nil _
  | cons d rest => exact List.append_nil _

end Lines

section Reading

variable {ids : List Nat} {descriptions : List (Int × String)} {vendor : Vendor}

/-- A reading that finds nothing in an empty line finds in the text what the lines hold. -/
theorem read_database {β : Type} (read : List String → β) (hempty : read [""] = read [])
    (vendor : Vendor) (ids : List Nat) (hplain : ∀ entry ∈ descriptions, IsOneLine entry.2) :
    read (Text.splitOn '\n' (database vendor (ids.map Int.ofNat) descriptions)) =
      read (databaseLines vendor (ids.map Int.ofNat) descriptions) := by
  rw [database]
  by_cases hnone : databaseLines vendor (ids.map Int.ofNat) descriptions = []
  · rw [hnone]
    exact hempty
  · rw [Text.splitOn_unlines hnone (isOneLine_of_mem_databaseLines hplain vendor)]

/-- The commands of the text, read with what their views say. -/
theorem contents_database (vendor : Vendor) (ids : List Nat)
    (hplain : ∀ entry ∈ descriptions, IsOneLine entry.2) :
    View.contents "vlan " (labelWord vendor)
        (Text.splitOn '\n' (database vendor (ids.map Int.ofNat) descriptions)) =
      commands vendor ids descriptions :=
  (read_database (View.contents "vlan " (labelWord vendor)) rfl vendor ids hplain).trans
    (contents_databaseLines vendor ids descriptions)

private theorem statements_database (vendor : Vendor) (ids : List Nat)
    (hplain : ∀ entry ∈ descriptions, IsOneLine entry.2) :
    statements (database vendor (ids.map Int.ofNat) descriptions) = declarations vendor ids := by
  have hread : statements (database vendor (ids.map Int.ofNat) descriptions) =
      ((databaseLines vendor (ids.map Int.ofNat) descriptions).takeWhile (· ≠ "")).filterMap
        (after? "vlan ") :=
    read_database (fun lines => (lines.takeWhile (· ≠ "")).filterMap (after? "vlan ")) rfl vendor
      ids hplain
  rw [hread]
  cases vendor with
  | cisco =>
    have hshown : ∀ line ∈ databaseLines .cisco (ids.map Int.ofNat) descriptions, line ≠ "" := by
      rw [databaseLines_cisco]
      exact ne_empty_of_mem_ciscoDeclarations
    rw [List.takeWhile_eq_self_iff.mpr (by simpa using hshown), ← View.map_fst_contents "vlan ",
      contents_databaseLines]
    exact List.map_map
  | huawei | h3c =>
    rw [takeWhile_databaseLines rfl, List.filterMap_map]
    exact (List.filterMap_congr fun words _ => Text.after?_append "vlan " words).trans
      List.filterMap_some
  | generic => cases ids <;> rfl

private theorem exists_denotes_declarations_iff (hvendor : vendor ≠ .generic) {n : Nat} :
    (∃ words ∈ declarations vendor ids, Denotes words n) ↔ n ∈ ids := by
  cases vendor with
  | cisco =>
    simp only [declarations, List.mem_map, exists_exists_and_eq_and, denotes_toString,
      exists_eq_right']
  | huawei =>
    rw [declarations]
    split
    next hids => simp [hids]
    next => simp only [List.mem_singleton, exists_eq_left, denotes_batch]
  | h3c =>
    simp only [declarations, List.mem_map, exists_exists_and_eq_and, denotes_spanItem]
    exact exists_mem_naturalRuns_iff
  | generic => exact absurd rfl hvendor

/-- The commands that add descriptions declare nothing else. -/
theorem exists_command_iff (hvendor : vendor ≠ .generic) {n : Nat} :
    (∃ words ∈ (commands vendor ids descriptions).map (·.1), Denotes words n) ↔ n ∈ ids := by
  rw [← exists_denotes_declarations_iff hvendor]
  cases vendor with
  | cisco =>
    rw [commands, List.map_map]
    rfl
  | huawei | h3c =>
    simp only [commands, List.map_append, List.map_map, List.mem_append]
    constructor
    · rintro ⟨words, hwords | hwords, hdenotes⟩
      · obtain ⟨_, hmem, rfl⟩ := List.mem_map.mp hwords
        exact ⟨_, hmem, hdenotes⟩
      · obtain ⟨d, hd, rfl⟩ := List.mem_map.mp hwords
        obtain rfl := denotes_toString.mp hdenotes
        exact (exists_denotes_declarations_iff (by simp)).mpr (mem_described_iff.mp hd).1
    · rintro ⟨words, hwords, hdenotes⟩
      exact ⟨words, .inl (List.mem_map.mpr ⟨words, hwords, rfl⟩), hdenotes⟩
  | generic => exact absurd rfl hvendor

private theorem exists_label_iff (hvendor : vendor ≠ .generic) {n : Nat} {label : String} :
    (∃ command ∈ commands vendor ids descriptions, Denotes command.1 n ∧ label ∈ command.2) ↔
      n ∈ ids ∧ descriptions.lookup (n : Int) = some label := by
  cases vendor with
  | cisco =>
    simp only [commands, List.mem_map, exists_exists_and_eq_and, denotes_toString,
      Option.mem_toList]
    constructor
    · rintro ⟨id, hid, rfl, hlabel⟩
      exact ⟨hid, hlabel⟩
    · rintro ⟨hn, hlabel⟩
      exact ⟨n, hn, rfl, hlabel⟩
  | huawei | h3c =>
    simp only [commands, List.mem_append, List.mem_map]
    constructor
    · rintro ⟨_, ⟨words, -, rfl⟩ | ⟨d, hd, rfl⟩, hdenotes, hlabel⟩
      · cases hlabel
      · obtain rfl := denotes_toString.mp hdenotes
        obtain rfl := List.mem_singleton.mp hlabel
        exact mem_described_iff.mp hd
    · intro h
      exact ⟨_, .inr ⟨(n, label), mem_described_iff.mpr h, rfl⟩, denotes_toString.mpr rfl,
        List.mem_singleton_self label⟩
  | generic => exact absurd rfl hvendor

/-- Each vendor declares exactly the given ids and labels exactly those that have a description,
    once by a command for each id, once in a batch, and once by ascending runs that neither meet nor
    touch. -/
theorem database_declares_given_ids (ids : List Nat) (descriptions : List (Int × String))
    (hplain : ∀ entry ∈ descriptions, IsOneLine entry.2) :
    let text (vendor : Vendor) := database vendor (ids.map Int.ofNat) descriptions
    (∀ vendor ≠ .generic,
      (∀ n, DeclaredIn (text vendor) n ↔ n ∈ ids) ∧
      (∀ n, (∃ words ∈ statements (text vendor), Denotes words n) ↔ n ∈ ids) ∧
      ∀ n label, LabelledIn vendor (text vendor) n label ↔
        n ∈ ids ∧ descriptions.lookup (n : Int) = some label) ∧
    statements (text .cisco) = ids.map toString ∧
    statements (text .huawei) =
      (if ids = [] then [] else ["batch " ++ Text.unwords (ids.map toString)]) ∧
    (∀ words ∈ statements (text .h3c), ∃ first last : Nat, first ≤ last ∧
      words = (if first = last then s!"{first}" else s!"{first} to {last}")) ∧
    (statements (text .h3c)).Pairwise fun words others =>
      ∀ m n, Denotes words m → Denotes others n → m + 1 < n := by
  intro text
  have hcommands (vendor : Vendor) : View.contents "vlan " (labelWord vendor)
      (Text.splitOn '\n' (text vendor)) = commands vendor ids descriptions :=
    contents_database vendor ids hplain
  have hstatements (vendor : Vendor) : statements (text vendor) = declarations vendor ids :=
    statements_database vendor ids hplain
  refine ⟨fun vendor hvendor => ⟨fun n => ?_, fun n => ?_, fun n label => ?_⟩, hstatements .cisco,
    hstatements .huawei, ?_, ?_⟩
  · rw [DeclaredIn, ← View.map_fst_contents "vlan " (labelWord vendor), hcommands]
    exact exists_command_iff hvendor
  · rw [hstatements]
    exact exists_denotes_declarations_iff hvendor
  · rw [LabelledIn, hcommands]
    exact exists_label_iff hvendor
  · rw [hstatements]
    refine List.forall_mem_map.mpr fun run hrun => ?_
    exact ⟨run.1, run.2, le_of_mem_naturalRuns hrun, rfl⟩
  · rw [hstatements, declarations, List.pairwise_map]
    refine (pairwise_naturalRuns ids).imp fun hgap m n hm hn => ?_
    have hle := (denotes_spanItem.mp hm).2
    have hge := (denotes_spanItem.mp hn).1
    omega

theorem database_declares_repeated_ids :
    let text (vendor : Vendor) :=
      database vendor [30, 10, 11, 10] [(10, "Servers"), (99, "Spare")]
    (∀ entry ∈ [((10 : Int), "Servers"), (99, "Spare")], IsOneLine entry.2) ∧
      (∀ vendor ≠ .generic, ∀ n, DeclaredIn (text vendor) n ↔ n ∈ [30, 10, 11, 10]) ∧
      ∀ vendor ≠ .generic, LabelledIn vendor (text vendor) 10 "Servers" ∧
        ¬LabelledIn vendor (text vendor) 99 "Spare" := by
  have hplain : ∀ entry ∈ [((10 : Int), "Servers"), (99, "Spare")], IsOneLine entry.2 := by decide
  obtain ⟨hread, -⟩ := database_declares_given_ids [30, 10, 11, 10] _ hplain
  refine ⟨hplain, fun vendor hvendor => (hread vendor hvendor).1, fun vendor hvendor => ?_⟩
  obtain ⟨-, -, hlabels⟩ := hread vendor hvendor
  refine ⟨(hlabels 10 "Servers").mpr (by decide), fun hspare => ?_⟩
  exact absurd ((hlabels 99 "Spare").mp hspare).1 (by decide)

end Reading

end Vlan
end Netscribe
