import Netscribe.Proofs.Dialect.Substitution
import Netscribe.Proofs.Text.Line
/-!
Templates filled word by word. No place of a template holds a blank, so that filling a template
fills each of its words; and a word with one place in it is filled with the value of that place, as
long as there is no `$` in the value.
-/
namespace Netscribe

namespace Text

/-- A blank separates what is replaced in front of it from what is replaced behind it. -/
theorem replaceChars_append_blank {needle : List Char} (h : ' ' ∉ needle)
    (replacement cs ds : List Char) :
    replaceChars needle replacement (cs ++ ' ' :: ds) =
      replaceChars needle replacement cs ++ ' ' :: replaceChars needle replacement ds := by
  induction hlength : cs.length using Nat.strong_induction_on generalizing cs with
  | h n ih =>
  cases cs with
  | nil =>
    rw [List.nil_append, replaceChars, replaceChars, if_neg, List.nil_append]
    rintro ⟨hne, hstarts⟩
    obtain ⟨c, rest, rfl⟩ := List.exists_cons_of_ne_nil hne
    exact h ((List.cons_prefix_cons.mp hstarts).1 ▸ List.mem_cons_self)
  | cons c rest =>
    -- the text up to the blank decides whether there is something to replace
    have hinside : needle <+: c :: rest ++ ' ' :: ds → needle <+: c :: rest := by
      intro hstarts
      obtain hshort | ⟨more, rfl⟩ :=
        List.prefix_or_prefix_of_prefix hstarts (List.prefix_append (c :: rest) (' ' :: ds))
      · exact hshort
      · rw [List.prefix_append_right_inj] at hstarts
        cases more with
        | nil => simp
        | cons d more =>
          obtain rfl := (List.cons_prefix_cons.mp hstarts).1
          exact absurd (List.mem_append_right _ List.mem_cons_self) h
    rw [List.cons_append, replaceChars]
    split
    next hfound =>
      have hstarts := hinside hfound.2
      have hle : needle.length - 1 ≤ rest.length := by
        have hlength := hstarts.length_le
        rw [List.length_cons] at hlength
        omega
      rw [List.drop_append_of_le_length hle, ih _ ?_ _ rfl, replaceChars,
        if_pos ⟨hfound.1, hstarts⟩, List.append_assoc]
      rw [← hlength, List.length_drop, List.length_cons]
      omega
    next hnone =>
      have hrest := ih rest.length (by rw [← hlength, List.length_cons]; omega) rest rfl
      rw [hrest, replaceChars, if_neg, List.cons_append]
      rintro ⟨hne, hstarts⟩
      exact hnone ⟨hne, hstarts.trans (List.prefix_append _ _)⟩

end Text

namespace Template

variable {args : List String} {captures : Captures}

section Words

private theorem replaceAll_append_blank {places : List Place} (h : ∀ p ∈ places, ' ' ∉ p.key)
    (cs ds : List Char) :
    replaceAll places (cs ++ ' ' :: ds) = replaceAll places cs ++ ' ' :: replaceAll places ds := by
  induction places generalizing cs ds with
  | nil => rfl
  | cons p rest ih =>
    obtain ⟨hp, hrest⟩ := List.forall_mem_cons.mp h
    have hone : p.replace (cs ++ ' ' :: ds) = p.replace cs ++ ' ' :: p.replace ds := by
      refine Text.replaceChars_append_blank ?_ p.value cs ds
      exact fun hblank => hp ((List.mem_cons.mp hblank).resolve_left (by decide))
    rw [replaceAll, List.foldl_cons, hone]
    exact ih hrest _ _

/-- Filling a template fills its words. -/
theorem fill_unwords (hnames : ∀ capture ∈ captures, ' ' ∉ capture.1.toList) (ws : List String) :
    fill (Text.unwords ws) args captures = Text.unwords (ws.map (fill · args captures)) := by
  induction ws with
  | nil =>
    rw [fill_eq_replaceAll]
    exact congrArg String.ofList (replaceAll_nil _)
  | cons w rest ih =>
    by_cases hrest : rest = []
    · subst hrest
      simp [Text.unwords, Text.join]
    · have hcons {first : String} {others : List String} (hne : others ≠ []) :
          (Text.unwords (first :: others)).toList =
            first.toList ++ ' ' :: (Text.unwords others).toList := by
        rw [Text.unwords, Text.join, String.intercalate_cons_of_ne_nil hne]
        simp [Text.unwords, Text.join]
      have hmap : rest.map (fill · args captures) ≠ [] := by simpa using hrest
      rw [← String.toList_inj, List.map_cons, hcons hmap, ← ih]
      rw [fill_eq_replaceAll, fill_eq_replaceAll, fill_eq_replaceAll, hcons hrest,
        replaceAll_append_blank fun _ hp => not_mem_key rfl (by decide) hnames hp]
      simp

end Words

section Places

/-- Text without a `$` is no template. -/
theorem fill_plain {s : String} (h : '$' ∉ s.toList) : fill s args captures = s := by
  have hplain : replaceAll (places args captures) (s.toList ++ []) =
      s.toList ++ replaceAll (places args captures) [] := replaceAll_plain_append h []
  rw [replaceAll_nil, List.append_nil] at hplain
  rw [fill_eq_replaceAll, hplain, String.ofList_toList]

/-- A place at the end of a word is filled in its turn: the places before have other keys, and none
    of them is the beginning of another. -/
theorem fill_place {p : Place} {before after : List Place} {template front : String}
    (hclosed : ∀ capture ∈ captures, '\x7d' ∉ capture.1.toList)
    (hdollar : ∀ capture ∈ captures, '$' ∉ capture.1.toList)
    (hsplit : places args captures = before ++ p :: after) (hbefore : ∀ q ∈ before, q.key ≠ p.key)
    (hvalue : '$' ∉ p.value) (htemplate : template.toList = front.toList ++ '$' :: p.key)
    (hfront : '$' ∉ front.toList) : fill template args captures = front ++ .ofList p.value := by
  have hmem : p ∈ places args captures := hsplit ▸ List.mem_append_right _ List.mem_cons_self
  have hkey : '$' ∉ p.key := not_mem_key rfl (by decide) hdollar hmem
  have hkept : ∀ first q rest, before = first ++ q :: rest →
      ¬ q.key <+: replaceAll first (p.key ++ []) := by
    rintro first q rest rfl hstarts
    rw [replaceAll_plain_append hkey, replaceAll_nil, List.append_nil] at hstarts
    have hcovers : q.Covers p := by
      have hpairwise := pairwise_covers_places hclosed args
      rw [hsplit] at hpairwise
      exact (List.pairwise_append.mp hpairwise).2.2 q (by simp) p List.mem_cons_self
    refine hbefore q (by simp) (hstarts.eq_of_length_le ?_)
    exact hcovers p.key hstarts List.prefix_rfl
  have hfilled :=
    replaceAll_key_append hkey (fun q (_ : q ∈ after) => Place.spares_of_not_mem hvalue q) hkept
  rw [List.append_nil, replaceAll_nil, List.append_nil, ← hsplit] at hfilled
  rw [fill_eq_replaceAll, htemplate, replaceAll_plain_append hfront, hfilled,
    String.ofList_append, String.ofList_toList]

private theorem exists_argumentPlaces_split {index number : Nat} {arg : String}
    (h : args[index]? = some arg) : ∃ before after,
      argumentPlaces args number = before ++ .argument (number + index) arg :: after ∧
      ∀ q ∈ before, ∃ n other, number + index < n ∧ q = .argument n other := by
  induction args generalizing index number with
  | nil => cases h
  | cons first rest ih =>
    cases index with
    | zero =>
      obtain rfl := Option.some.inj h
      refine ⟨argumentPlaces rest (number + 1), [], rfl, fun q hq => ?_⟩
      obtain ⟨n, other, hn, rfl⟩ := exists_argument_of_mem hq
      exact ⟨n, other, by omega, rfl⟩
    | succ index =>
      obtain ⟨before, after, hsplit, hbefore⟩ := @ih _ (number + 1) h
      have hnumber : number + 1 + index = number + (index + 1) := by omega
      rw [hnumber] at hsplit hbefore
      refine ⟨before, after ++ [.argument number first], ?_, hbefore⟩
      rw [argumentPlaces, hsplit, List.append_assoc, List.cons_append]

/-- The place for all arguments. -/
theorem fill_all (hclosed : ∀ capture ∈ captures, '\x7d' ∉ capture.1.toList)
    (hdollar : ∀ capture ∈ captures, '$' ∉ capture.1.toList)
    (hargs : ∀ arg ∈ args, '$' ∉ arg.toList) : fill "$*" args captures = Text.unwords args := by
  have hvalue : '$' ∉ (Place.all args).value := by
    intro hmem
    obtain hblank | ⟨arg, harg, hin⟩ := Text.mem_toList_join hmem
    · exact absurd hblank (by decide)
    · exact hargs arg harg hin
  have hsplit : places args captures =
      [] ++ .all args :: (argumentPlaces args 1 ++ captures.map .captured) := rfl
  have htemplate : "$*".toList = "".toList ++ '$' :: (Place.all args).key := rfl
  rw [fill_place hclosed hdollar hsplit (fun _ hq => (nomatch hq)) hvalue htemplate (by simp),
    Place.all, String.ofList_toList, String.empty_append]

private theorem toString_nat_inj {m n : Nat} (h : (toString m).toList = (toString n).toList) :
    m = n := by
  have hm := Text.decimalNumber?_toString m
  rw [h, Text.decimalNumber?_toString] at hm
  exact (Option.some.inj hm).symm

/-- The place for one argument at the end of a word. -/
theorem fill_argument (hclosed : ∀ capture ∈ captures, '\x7d' ∉ capture.1.toList)
    (hdollar : ∀ capture ∈ captures, '$' ∉ capture.1.toList) {index : Nat} {arg front : String}
    (hindex : args[index]? = some arg) (harg : '$' ∉ arg.toList) (hfront : '$' ∉ front.toList) :
    fill (front ++ ("$" ++ toString (1 + index))) args captures = front ++ arg := by
  obtain ⟨before, after, hsplit, hbefore⟩ := @exists_argumentPlaces_split _ _ 1 _ hindex
  have hplaces : places args captures = (.all args :: before) ++
      .argument (1 + index) arg :: (after ++ captures.map .captured) := by
    rw [places, hsplit, List.append_assoc, List.cons_append, List.cons_append]
  have hkeys : ∀ q ∈ Place.all args :: before, q.key ≠ (Place.argument (1 + index) arg).key := by
    intro q hq hkey
    obtain rfl | hq := List.mem_cons.mp hq
    · obtain ⟨c, cs, hcs, hc⟩ := Text.exists_toString_eq_cons (1 + index)
      rw [Place.argument, hcs] at hkey
      exact absurd (List.cons.inj hkey).1.symm (Text.ne_of_isDigit hc (by decide))
    · obtain ⟨n, other, hn, rfl⟩ := hbefore q hq
      exact absurd (toString_nat_inj hkey) (by omega)
  have htemplate : (front ++ ("$" ++ toString (1 + index))).toList =
      front.toList ++ '$' :: (Place.argument (1 + index) arg).key := by
    rw [String.toList_append, String.toList_append]
    rfl
  rw [fill_place hclosed hdollar hplaces hkeys harg htemplate hfront, Place.argument,
    String.ofList_toList]

/-- The place for a text captured under a name, at the end of a word. -/
theorem fill_slot (hclosed : ∀ capture ∈ captures, '\x7d' ∉ capture.1.toList)
    (hdollar : ∀ capture ∈ captures, '$' ∉ capture.1.toList) {name value front : String}
    (hname : captures.lookup name = some value) (hvalue : '$' ∉ value.toList)
    (hfront : '$' ∉ front.toList) : fill (front ++ slot name) args captures = front ++ value := by
  obtain ⟨first, rest, rfl, hfirst⟩ := List.lookup_eq_some_iff.mp hname
  have hplaces : places args (first ++ (name, value) :: rest) =
      (.all args :: (argumentPlaces args 1 ++ first.map .captured)) ++
        .captured (name, value) :: rest.map .captured := by
    rw [places, List.map_append, List.map_cons, ← List.append_assoc, List.cons_append]
  have hkeys : ∀ q ∈ Place.all args :: (argumentPlaces args 1 ++ first.map .captured),
      q.key ≠ (Place.captured (name, value)).key := by
    intro q hq hkey
    obtain rfl | hq := List.mem_cons.mp hq
    · exact absurd (List.cons.inj hkey).1 (by decide)
    obtain hargument | hcaptured := List.mem_append.mp hq
    · obtain ⟨n, arg, _, rfl⟩ := exists_argument_of_mem hargument
      obtain ⟨c, cs, hcs, hc⟩ := Text.exists_toString_eq_cons n
      rw [Place.argument, hcs] at hkey
      exact absurd (List.cons.inj hkey).1 (Text.ne_of_isDigit hc (by decide))
    · obtain ⟨capture, hcapture, rfl⟩ := List.mem_map.mp hcaptured
      have hsame : capture.1.toList = name.toList := by simpa [Place.captured] using hkey
      simpa [String.toList_inj.mp hsame] using hfirst capture hcapture
  have htemplate : (front ++ slot name).toList =
      front.toList ++ '$' :: (Place.captured (name, value)).key := by
    rw [String.toList_append, slot, String.toList_append, String.toList_append]
    rfl
  rw [fill_place hclosed hdollar hplaces hkeys hvalue htemplate hfront, Place.captured,
    String.ofList_toList]

end Places

/-- A word of a template: fixed text, or a place, which may have fixed text in front of it. -/
inductive Word
  | fixed (s : String)
  | all
  | argument (index : Nat)
  | appended (front : String) (index : Nat)
  | captured (name : String)

namespace Word

def source : Word → String
  | fixed s => s
  | all => "$*"
  | argument index => "$" ++ toString (1 + index)
  | appended front index => front ++ ("$" ++ toString (1 + index))
  | captured name => slot name

def value (args : List String) (captures : Captures) : Word → String
  | fixed s => s
  | all => Text.unwords args
  | argument index => args[index]?.getD ""
  | appended front index => front ++ args[index]?.getD ""
  | captured name => (captures.lookup name).getD ""

/-- Whether a word has a value for so many arguments and for captures under such names. -/
def isDefined (count : Nat) (names : List String) : Word → Bool
  | fixed s => !s.toList.contains '$'
  | all => true
  | argument index => index < count
  | appended front index => !front.toList.contains '$' && index < count
  | captured name => names.contains name

private theorem exists_lookup_eq_some {name : String} (h : name ∈ captures.map Prod.fst) :
    ∃ value, captures.lookup name = some value := by
  cases hname : captures.lookup name with
  | some value => exact ⟨value, rfl⟩
  | none =>
    obtain ⟨capture, hcapture, rfl⟩ := List.mem_map.mp h
    simpa using List.lookup_eq_none_iff.mp hname capture hcapture

/-- Names of captures in letters cannot be taken for anything else in a template. -/
theorem not_mem_name {c : Char} (hc : c.isAlpha = false)
    (hnames : ∀ capture ∈ captures, capture.1.toList.all Char.isAlpha) :
    ∀ capture ∈ captures, c ∉ capture.1.toList := by
  intro capture hcapture hmem
  exact absurd (List.all_eq_true.mp (hnames capture hcapture) c hmem) (by simp [hc])

variable {w : Word} (hnames : ∀ capture ∈ captures, capture.1.toList.all Char.isAlpha)
  (hargs : ∀ arg ∈ args, '$' ∉ arg.toList) (hvalues : ∀ capture ∈ captures, '$' ∉ capture.2.toList)

include hnames hargs hvalues

/-- A word that has a value is filled with it. -/
theorem fill_source (h : w.isDefined args.length (captures.map Prod.fst)) :
    fill w.source args captures = w.value args captures := by
  have hclosed := not_mem_name (c := '\x7d') (by decide) hnames
  have hdollar := not_mem_name (c := '$') (by decide) hnames
  cases w with
  | fixed s =>
    have hplain : '$' ∉ s.toList := by simpa [isDefined] using h
    exact fill_plain hplain
  | all => exact fill_all hclosed hdollar hargs
  | argument index =>
    have hindex : index < args.length := by simpa [isDefined] using h
    have hfill := fill_argument hclosed hdollar (List.getElem?_eq_getElem hindex)
      (hargs _ (List.getElem_mem hindex)) (by simp : '$' ∉ "".toList)
    rw [String.empty_append, String.empty_append] at hfill
    rw [source, hfill, value, List.getElem?_eq_getElem hindex, Option.getD_some]
  | appended front index =>
    simp only [isDefined, Bool.and_eq_true, Bool.not_eq_true', List.contains_eq_mem,
      decide_eq_false_iff_not, decide_eq_true_eq] at h
    rw [source, value, List.getElem?_eq_getElem h.2, Option.getD_some]
    exact fill_argument hclosed hdollar (List.getElem?_eq_getElem h.2)
      (hargs _ (List.getElem_mem h.2)) h.1
  | captured name =>
    have hname : name ∈ captures.map Prod.fst := by simpa [isDefined] using h
    obtain ⟨text, htext⟩ := exists_lookup_eq_some hname
    have hmem : ∃ capture ∈ captures, capture.2 = text := by
      obtain ⟨first, rest, rfl, _⟩ := List.lookup_eq_some_iff.mp htext
      exact ⟨(name, text), by simp, rfl⟩
    obtain ⟨capture, hcapture, rfl⟩ := hmem
    have hfill : fill ("" ++ slot name) args captures = "" ++ capture.2 :=
      fill_slot hclosed hdollar htext (hvalues capture hcapture) (by simp)
    rw [String.empty_append, String.empty_append] at hfill
    rw [source, hfill, value, htext, Option.getD_some]

/-- A template whose words have values is filled with them. -/
theorem fill_unwords_source {template : String} {ws : List Word}
    (htemplate : template = Text.unwords (ws.map source))
    (h : ws.all (isDefined args.length (captures.map Prod.fst))) :
    fill template args captures = Text.unwords (ws.map (value args captures)) := by
  rw [htemplate, fill_unwords (not_mem_name (by decide) hnames), List.map_map]
  refine congrArg Text.unwords (List.map_congr_left fun w hw => ?_)
  exact fill_source hnames hargs hvalues (List.all_eq_true.mp h w hw)

end Word

end Template
end Netscribe
