import Mathlib.Data.List.Infix
import Netscribe.Dialect.Template
import Netscribe.Proofs.Number.Decimal
/-!
Filling a template place after place against filling it in one reading. What was filled in first is
looked at again for the places that come later, so that the two differ as soon as a value and the
text around it make up such a place.
-/
namespace Netscribe.Template

/-- What stands behind a `$` for a place, and what is written for both. -/
structure Place where
  key : List Char
  value : List Char

namespace Place

def all (args : List String) : Place := ⟨['*'], (Text.unwords args).toList⟩

def argument (number : Nat) (arg : String) : Place := ⟨(toString number).toList, arg.toList⟩

def captured (capture : String × String) : Place :=
  ⟨'\x7b' :: (capture.1.toList ++ ['\x7d']), capture.2.toList⟩

/-- Every occurrence of the place filled. -/
def replace (p : Place) (cs : List Char) : List Char :=
  Text.replaceChars ('$' :: p.key) p.value cs

/-- The value of the first place holds the second one nowhere, and does not end in the beginning
    of it either. -/
def Spares (p q : Place) : Prop :=
  ¬ '$' :: q.key <:+: p.value ∧ ∀ beginning ∈ q.key.inits, ¬ '$' :: beginning <:+ p.value

/-- The first place stands nowhere directly behind an unfinished beginning of the second one. -/
def Separated (template : List Char) (p q : Place) : Prop :=
  ∀ beginning ∈ q.key.inits, beginning ≠ q.key →
    ¬ '$' :: (beginning ++ '$' :: p.key) <:+: template

instance : DecidableRel Spares :=
  fun _ _ => inferInstanceAs (Decidable (_ ∧ _))

instance (template : List Char) : DecidableRel (Separated template) :=
  fun _ q => inferInstanceAs (Decidable (∀ beginning ∈ q.key.inits, _))

private theorem Separated.of_suffix {template behind : List Char} {p q : Place}
    (h : Separated template p q) (hbehind : behind <:+ template) : Separated behind p q :=
  fun beginning hbeginning hne hinside =>
    h beginning hbeginning hne (hinside.trans hbehind.isInfix)

/-- A value without a dollar is in the way of no other place. -/
theorem spares_of_not_mem {p : Place} (h : '$' ∉ p.value) (q : Place) : p.Spares q :=
  ⟨fun hinside => h (hinside.subset List.mem_cons_self),
    fun _ _ hend => h (hend.subset List.mem_cons_self)⟩

private theorem replace_nil (p : Place) : p.replace [] = [] := by
  rw [replace, Text.replaceChars]

private theorem replace_cons {p : Place} {c : Char} {cs : List Char}
    (h : c = '$' → ¬ p.key <+: cs) : p.replace (c :: cs) = c :: p.replace cs := by
  rw [replace, Text.replaceChars, if_neg, replace]
  rintro ⟨_, hkey⟩
  obtain ⟨hc, hkey⟩ := List.cons_prefix_cons.mp hkey
  exact h hc.symm hkey

private theorem replace_key_append (p : Place) (cs : List Char) :
    p.replace ('$' :: (p.key ++ cs)) = p.value ++ p.replace cs := by
  have hkey : '$' :: p.key <+: '$' :: (p.key ++ cs) :=
    List.cons_prefix_cons.mpr ⟨rfl, List.prefix_append _ _⟩
  rw [replace, Text.replaceChars, if_pos ⟨List.cons_ne_nil _ _, hkey⟩, replace]
  simp

private theorem replace_append {q : Place} {cs : List Char} (hinside : ¬ '$' :: q.key <:+: cs)
    (hend : ∀ beginning ∈ q.key.inits, ¬ '$' :: beginning <:+ cs) (rest : List Char) :
    q.replace (cs ++ rest) = cs ++ q.replace rest := by
  induction cs with
  | nil => rfl
  | cons c cs ih =>
    have hrest := ih (fun h => hinside (List.infix_cons h))
      (fun beginning hbeginning h => hend beginning hbeginning (h.trans (List.suffix_cons c cs)))
    rw [List.cons_append, replace_cons, hrest, List.cons_append]
    rintro rfl hkey
    obtain hshort | ⟨across, hacross⟩ :=
      List.prefix_or_prefix_of_prefix hkey (List.prefix_append cs rest)
    · exact hinside (List.cons_prefix_cons.mpr ⟨rfl, hshort⟩).isInfix
    · exact hend cs ((List.mem_inits _ _).mpr ⟨across, hacross⟩) List.suffix_rfl

end Place

/-- One place after another filled, each in what the ones before have left. -/
def replaceAll (places : List Place) (cs : List Char) : List Char :=
  places.foldl (fun cs p => p.replace cs) cs

/-- A template read once from left to right. The first of the places that stand behind a `$` is
    filled, and reading goes on behind it; everything else is copied. -/
def fillOnceChars (places : List Place) : List Char → List Char
  | [] => []
  | c :: rest =>
    match if c = '$' then places.find? (·.key <+: rest) else none with
    | some p => p.value ++ fillOnceChars places (rest.drop p.key.length)
    | none => c :: fillOnceChars places rest
termination_by cs => cs.length
decreasing_by
  · simp only [List.length_drop, List.length_cons]; omega
  · simp

def argumentPlaces : List String → Nat → List Place
  | [], _ => []
  | arg :: rest, number => argumentPlaces rest (number + 1) ++ [.argument number arg]

/-- The places of a template in the order in which they are filled. -/
def places (args : List String) (captures : Captures) : List Place :=
  .all args :: (argumentPlaces args 1 ++ captures.map .captured)

/-- A template filled in one reading: what is filled in is not looked at. -/
def fillOnce (template : String) (args : List String) (captures : Captures) : String :=
  .ofList (fillOnceChars (places args captures) template.toList)

section ReplaceAll

variable {places : List Place} {cs : List Char}

private theorem replaceAll_append (before after : List Place) (cs : List Char) :
    replaceAll (before ++ after) cs = replaceAll after (replaceAll before cs) :=
  List.foldl_append

/-- Without places nothing is replaced. -/
theorem replaceAll_nil (places : List Place) : replaceAll places [] = [] := by
  induction places with
  | nil => rfl
  | cons p rest ih =>
    rw [replaceAll, List.foldl_cons, Place.replace_nil]
    exact ih

/-- Text without a `$` stays in front of whatever becomes of the text behind it. -/
theorem replaceAll_plain_append {front : List Char} (h : '$' ∉ front) (cs : List Char) :
    replaceAll places (front ++ cs) = front ++ replaceAll places cs := by
  induction places generalizing cs with
  | nil => rfl
  | cons p rest ih =>
    have hfront : p.replace (front ++ cs) = front ++ p.replace cs := by
      refine Place.replace_append (fun hinside => h ?_) (fun beginning _ hend => h ?_) cs
      · exact hinside.subset List.mem_cons_self
      · exact hend.subset List.mem_cons_self
    rw [replaceAll, List.foldl_cons, hfront]
    exact ih _

/-- A value that spares all places that are still to come stays as it is. -/
theorem replaceAll_value_append {p : Place} (h : ∀ q ∈ places, p.Spares q) (cs : List Char) :
    replaceAll places (p.value ++ cs) = p.value ++ replaceAll places cs := by
  induction places generalizing cs with
  | nil => rfl
  | cons q rest ih =>
    obtain ⟨hq, hrest⟩ := List.forall_mem_cons.mp h
    rw [replaceAll, List.foldl_cons, Place.replace_append hq.1 hq.2]
    exact ih hrest _

/-- A `$` stays as long as no place is found behind it when its turn comes. -/
theorem replaceAll_dollar
    (h : ∀ before p after, places = before ++ p :: after → ¬ p.key <+: replaceAll before cs) :
    replaceAll places ('$' :: cs) = '$' :: replaceAll places cs := by
  induction places using List.reverseRecOn with
  | nil => rfl
  | append_singleton before p ih =>
    have hbefore : replaceAll before ('$' :: cs) = '$' :: replaceAll before cs := by
      refine ih fun first q second hsplit => h first q (second ++ [p]) ?_
      rw [hsplit, List.append_assoc, List.cons_append]
    rw [replaceAll_append, hbefore, replaceAll_append]
    exact Place.replace_cons fun _ => h before p [] rfl

/-- A place is filled when its turn comes, if no earlier one is found where it stands, and what is
    filled in stays if it spares the later ones. -/
theorem replaceAll_key_append {before after : List Place} {p : Place} {behind : List Char}
    (hkey : '$' ∉ p.key) (hspares : ∀ q ∈ after, p.Spares q)
    (h : ∀ first q second, before = first ++ q :: second →
      ¬ q.key <+: replaceAll first (p.key ++ behind)) :
    replaceAll (before ++ p :: after) ('$' :: (p.key ++ behind)) =
      p.value ++ replaceAll (before ++ p :: after) behind := by
  calc replaceAll (before ++ p :: after) ('$' :: (p.key ++ behind))
      = replaceAll after (p.replace ('$' :: (p.key ++ replaceAll before behind))) := by
        rw [replaceAll_append, replaceAll_dollar h, replaceAll_plain_append hkey]
        rfl
    _ = replaceAll after (p.value ++ p.replace (replaceAll before behind)) := by
        rw [Place.replace_key_append]
    _ = p.value ++ replaceAll (before ++ p :: after) behind := by
        rw [replaceAll_value_append hspares, replaceAll_append]
        rfl

end ReplaceAll

section OneReading

variable {places : List Place} {cs : List Char}

private theorem fillOnceChars_cons_of_ne {c : Char} (h : c ≠ '$') (cs : List Char) :
    fillOnceChars places (c :: cs) = c :: fillOnceChars places cs := by
  rw [fillOnceChars, if_neg h]

private theorem fillOnceChars_dollar_of_none (h : places.find? (·.key <+: cs) = none) :
    fillOnceChars places ('$' :: cs) = '$' :: fillOnceChars places cs := by
  rw [fillOnceChars, if_pos rfl, h]

private theorem fillOnceChars_dollar_of_some {p : Place}
    (h : places.find? (·.key <+: cs) = some p) :
    fillOnceChars places ('$' :: cs) =
      p.value ++ fillOnceChars places (cs.drop p.key.length) := by
  rw [fillOnceChars, if_pos rfl, h]

/-- A place that is found after others have been filled stood there from the beginning. Its key
    holds no `$`, so it could reach beyond the next `$` only if a place was filled there, directly
    behind the beginning of the key. -/
theorem key_prefix_of_replaceAll {q : Place} (hkey : '$' ∉ q.key)
    (hseparated : ∀ p ∈ places, p.Separated ('$' :: cs) q)
    (hfilled : ∀ rest, rest <:+ cs → replaceAll places rest = fillOnceChars places rest)
    (h : q.key <+: replaceAll places cs) : q.key <+: cs := by
  by_cases hmem : '$' ∈ cs
  · obtain ⟨front, rest, rfl, hfront⟩ := List.eq_append_cons_of_mem hmem
    rw [replaceAll_plain_append hfront] at h
    obtain hinside | ⟨across, hacross⟩ :=
      List.prefix_or_prefix_of_prefix h (List.prefix_append front _)
    · exact hinside.trans (List.prefix_append _ _)
    rw [← hacross, List.prefix_append_right_inj] at h
    -- what the key has beyond the text up to the `$` begins with another character than the `$`
    suffices hnil : across = [] by
      rw [← hacross, hnil, List.append_nil]
      exact List.prefix_append _ _
    by_contra hne
    obtain ⟨c, across, rfl⟩ := List.exists_cons_of_ne_nil hne
    have hc : c ≠ '$' := by
      rintro rfl
      exact hkey (hacross ▸ List.mem_append_right _ List.mem_cons_self)
    rw [hfilled _ (List.suffix_append _ _)] at h
    cases hfind : places.find? (·.key <+: rest) with
    | none =>
      rw [fillOnceChars_dollar_of_none hfind] at h
      exact hc (List.cons_prefix_cons.mp h).1
    | some p =>
      have hp : p.key <+: rest := by
        simpa using List.find?_some hfind
      refine hseparated p (List.mem_of_find?_eq_some hfind) front ?_ ?_ ?_
      · exact (List.mem_inits _ _).mpr ⟨_, hacross⟩
      · rw [← hacross, ne_eq, List.self_eq_append_right]
        exact List.cons_ne_nil _ _
      · refine (List.cons_prefix_cons.mpr ⟨rfl, ?_⟩ : _ <+: _).isInfix
        exact (List.prefix_append_right_inj front).mpr (List.cons_prefix_cons.mpr ⟨rfl, hp⟩)
  · have hall : replaceAll places (cs ++ []) = cs ++ replaceAll places [] :=
      replaceAll_plain_append hmem []
    rw [replaceAll_nil, List.append_nil] at hall
    rwa [hall] at h

end OneReading

/-- Filling place after place is filling in one reading, as long as no value spoils a later place
    and no place stands directly behind the beginning of a later one. -/
theorem replaceAll_eq_fillOnceChars {places : List Place} {cs : List Char}
    (hkeys : ∀ p ∈ places, '$' ∉ p.key) (hvalues : places.Pairwise Place.Spares)
    (hseparated : places.Pairwise (Place.Separated cs)) :
    replaceAll places cs = fillOnceChars places cs := by
  -- on the length, and for the first few of the places as well: what these leave of the text
  -- decides which place is found next
  induction hlength : cs.length using Nat.strong_induction_on generalizing places cs with
  | h n ih =>
  cases cs with
  | nil => rw [replaceAll_nil, fillOnceChars]
  | cons c rest =>
  have hfilled : ∀ before, before <+: places → ∀ behind, behind <:+ rest →
      replaceAll before behind = fillOnceChars before behind := by
    rintro before hbefore behind ⟨front, rfl⟩
    refine ih _ ?_ (fun p hp => hkeys p (hbefore.subset hp)) (hvalues.sublist hbefore.sublist)
      ?_ rfl
    · rw [← hlength, List.length_cons, List.length_append]
      omega
    · refine (hseparated.sublist hbefore.sublist).imp fun h => h.of_suffix ?_
      exact List.suffix_append (c :: front) behind
  by_cases hc : c = '$'
  · subst hc
    have hkept : ∀ before q after, places = before ++ q :: after → ¬ q.key <+: rest →
        ¬ q.key <+: replaceAll before rest := by
      rintro before q after rfl hq hkey
      refine hq (key_prefix_of_replaceAll (hkeys q ?_) ?_ ?_ hkey)
      · exact List.mem_append_right _ List.mem_cons_self
      · intro p hp
        exact (List.pairwise_append.mp hseparated).2.2 p hp q List.mem_cons_self
      · exact fun behind => hfilled before (List.prefix_append _ _) behind
    cases hfind : places.find? (·.key <+: rest) with
    | none =>
      rw [fillOnceChars_dollar_of_none hfind, ← hfilled places List.prefix_rfl rest List.suffix_rfl]
      refine replaceAll_dollar fun before q after hsplit => hkept before q after hsplit ?_
      have hq := List.find?_eq_none.mp hfind q (by simp [hsplit])
      simpa using hq
    | some p =>
      obtain ⟨hp, before, after, rfl, hbefore⟩ := List.find?_eq_some_iff_append.mp hfind
      obtain ⟨behind, rfl⟩ := of_decide_eq_true hp
      have hspares : ∀ q ∈ after, p.Spares q :=
        (List.pairwise_cons.mp (List.pairwise_append.mp hvalues).2.1).1
      have hkey : '$' ∉ p.key := hkeys p (List.mem_append_right _ List.mem_cons_self)
      rw [fillOnceChars_dollar_of_some hfind, List.drop_left,
        ← hfilled _ List.prefix_rfl behind (List.suffix_append _ _)]
      refine replaceAll_key_append hkey hspares fun first q second hsplit => ?_
      refine hkept first q (second ++ p :: after) (by simp [hsplit]) ?_
      have hq := hbefore q (by simp [hsplit])
      simpa using hq
  · rw [fillOnceChars_cons_of_ne hc, ← hfilled places List.prefix_rfl rest List.suffix_rfl]
    have hplain : '$' ∉ [c] := by
      simpa using Ne.symm hc
    exact replaceAll_plain_append hplain rest

section Fill

variable {args : List String} {captures : Captures}

private theorem fillNumbered_eq (args : List String) (number : Nat) (s : String) :
    fillNumbered args number s = .ofList (replaceAll (argumentPlaces args number) s.toList) := by
  induction args generalizing number with
  | nil => rw [fillNumbered, argumentPlaces, replaceAll, List.foldl_nil, String.ofList_toList]
  | cons arg rest ih =>
    rw [fillNumbered, ih, argumentPlaces, replaceAll_append, Text.replace, String.toList_ofList,
      String.toList_append]
    rfl

private theorem fillNamed_eq (captures : Captures) (s : String) :
    fillNamed captures s = .ofList (replaceAll (captures.map .captured) s.toList) := by
  induction captures generalizing s with
  | nil => rw [fillNamed, List.foldl_nil, List.map_nil, replaceAll, List.foldl_nil,
      String.ofList_toList]
  | cons capture rest ih =>
    have hslot : (slot capture.1).toList = '$' :: (Place.captured capture).key := by
      rw [slot, String.toList_append, String.toList_append]
      rfl
    have hone : Text.replace (slot capture.1) capture.2 s =
        .ofList ((Place.captured capture).replace s.toList) := by
      rw [Text.replace, hslot]
      rfl
    have hrest : fillNamed (capture :: rest) s =
        fillNamed rest (Text.replace (slot capture.1) capture.2 s) := rfl
    rw [hrest, ih, hone, String.toList_ofList, List.map_cons]
    rfl

/-- The places are filled one after another. -/
theorem fill_eq_replaceAll (template : String) (args : List String) (captures : Captures) :
    fill template args captures =
      .ofList (replaceAll (places args captures) template.toList) := by
  have hall : Text.replace "$*" (Text.unwords args) template =
      .ofList ((Place.all args).replace template.toList) := rfl
  rw [fill, fillNamed_eq, fillNumbered_eq, hall, String.toList_ofList, String.toList_ofList,
    ← replaceAll_append]
  rfl

/-- The places of arguments are numbered upwards. -/
theorem exists_argument_of_mem {args : List String} {number : Nat} {p : Place}
    (h : p ∈ argumentPlaces args number) : ∃ n arg, number ≤ n ∧ p = .argument n arg := by
  induction args generalizing number with
  | nil => cases h
  | cons arg rest ih =>
    obtain hrest | hlast := List.mem_append.mp h
    · obtain ⟨n, other, hn, rfl⟩ := ih hrest
      exact ⟨n, other, by omega, rfl⟩
    · exact ⟨number, arg, le_rfl, List.mem_singleton.mp hlast⟩

/-- A character that no place is spelled with stands in a key only as part of a name. -/
theorem not_mem_key {c : Char} (hdigit : c.isDigit = false) (hmark : c ∉ ['*', '\x7b', '\x7d'])
    (hnames : ∀ capture ∈ captures, c ∉ capture.1.toList) {p : Place}
    (h : p ∈ places args captures) : c ∉ p.key := by
  simp only [List.mem_cons, List.not_mem_nil, or_false, not_or] at hmark
  obtain ⟨hstar, hleft, hright⟩ := hmark
  rw [places, List.mem_cons, List.mem_append] at h
  obtain rfl | hargument | hcaptured := h
  · simp [Place.all, hstar]
  · obtain ⟨n, arg, _, rfl⟩ := exists_argument_of_mem hargument
    intro hmem
    exact Text.ne_of_isDigit (Text.isDigit_of_mem_toString hmem) hdigit rfl
  · obtain ⟨capture, hcapture, rfl⟩ := List.mem_map.mp hcaptured
    simpa [Place.captured, hleft, hright] using hnames capture hcapture

end Fill

section Longest

/-- Where both places stand, the first one reaches at least as far. -/
def Place.Covers (p q : Place) : Prop :=
  ∀ cs, p.key <+: cs → q.key <+: cs → q.key.length ≤ p.key.length

private theorem Place.covers_of_head_ne {p q : Place} {c d : Char} {cs ds : List Char}
    (hp : p.key = c :: cs) (hq : q.key = d :: ds) (h : c ≠ d) : p.Covers q := by
  rintro text ⟨behind, rfl⟩ hd
  rw [hp, hq] at hd
  exact absurd (List.cons_prefix_cons.mp hd).1.symm h

private theorem Place.covers_argument {m n : Nat} (h : m ≤ n) (arg other : String) :
    (Place.argument n arg).Covers (.argument m other) :=
  fun _ _ _ => Text.length_toString_le h

private theorem Place.covers_captured {first second : String × String}
    (hfirst : '\x7d' ∉ first.1.toList) (hsecond : '\x7d' ∉ second.1.toList) :
    (Place.captured first).Covers (.captured second) := by
  -- a name ends at the first brace that closes
  have hname {capture : String × String} (h : '\x7d' ∉ capture.1.toList) {cs : List Char}
      (hkey : (Place.captured capture).key <+: cs) :
      cs.takeWhile (· ≠ '\x7d') = '\x7b' :: capture.1.toList := by
    obtain ⟨behind, rfl⟩ := hkey
    have hopen : ∀ c ∈ '\x7b' :: capture.1.toList, decide (c ≠ '\x7d') := by
      rintro c (_ | ⟨_, hc⟩)
      · decide
      · simpa using fun heq : c = '\x7d' => h (heq ▸ hc)
    change (('\x7b' :: (capture.1.toList ++ ['\x7d'])) ++ behind).takeWhile _ = _
    rw [← List.cons_append, List.append_assoc, List.takeWhile_append_of_pos hopen,
      List.singleton_append, List.takeWhile_cons_of_neg (by simp), List.append_nil]
  intro cs hp hq
  have hsame := (hname hfirst hp).symm.trans (hname hsecond hq)
  simp [Place.captured, (List.cons.inj hsame).2]

private theorem pairwise_covers_arguments (args : List String) (number : Nat) :
    (argumentPlaces args number).Pairwise Place.Covers := by
  induction args generalizing number with
  | nil => exact .nil
  | cons arg rest ih =>
    refine List.pairwise_append.mpr ⟨ih _, List.pairwise_singleton _ _, ?_⟩
    intro p hp q hq
    obtain ⟨n, other, hn, rfl⟩ := exists_argument_of_mem hp
    obtain rfl := List.mem_singleton.mp hq
    exact Place.covers_argument (by omega) other arg

/-- Of two places at one spot the earlier one reaches as far, unless a name has a brace. -/
theorem pairwise_covers_places {captures : Captures}
    (hnames : ∀ capture ∈ captures, '\x7d' ∉ capture.1.toList) (args : List String) :
    (places args captures).Pairwise Place.Covers := by
  have hdigit {p : Place} (hp : p ∈ argumentPlaces args 1) :
      ∃ c cs, p.key = c :: cs ∧ c.isDigit := by
    obtain ⟨n, arg, _, rfl⟩ := exists_argument_of_mem hp
    exact Text.exists_toString_eq_cons n
  refine List.pairwise_cons.mpr ⟨?_, List.pairwise_append.mpr
    ⟨pairwise_covers_arguments args 1, List.pairwise_map.mpr ?_, ?_⟩⟩
  · intro q hq
    obtain hargument | hcaptured := List.mem_append.mp hq
    · obtain ⟨c, cs, hkey, hc⟩ := hdigit hargument
      exact Place.covers_of_head_ne rfl hkey (Text.ne_of_isDigit hc (by decide)).symm
    · obtain ⟨capture, _, rfl⟩ := List.mem_map.mp hcaptured
      exact Place.covers_of_head_ne rfl rfl (by decide)
  · exact List.pairwise_of_forall_mem_list fun first hfirst second hsecond =>
      Place.covers_captured (hnames first hfirst) (hnames second hsecond)
  · intro p hp q hq
    obtain ⟨c, cs, hkey, hc⟩ := hdigit hp
    obtain ⟨capture, _, rfl⟩ := List.mem_map.mp hq
    exact Place.covers_of_head_ne hkey rfl (Text.ne_of_isDigit hc (by decide))

end Longest

/-- Filling a template is one reading of it, as long as no value holds a place that is filled after
    it and no place stands directly behind the unfinished beginning of a later one. -/
theorem fill_eq_fillOnce {template : String} {args : List String} {captures : Captures}
    (hnames : ∀ capture ∈ captures, '$' ∉ capture.1.toList)
    (hvalues : (places args captures).Pairwise Place.Spares)
    (hseparated : (places args captures).Pairwise (Place.Separated template.toList)) :
    fill template args captures = fillOnce template args captures := by
  rw [fill_eq_replaceAll, fillOnce]
  exact congrArg String.ofList
    (replaceAll_eq_fillOnceChars (fun _ hp => not_mem_key rfl (by decide) hnames hp) hvalues
      hseparated)

/-- The last value may hold whatever it likes. -/
theorem fill_keeps_dollar_of_last_value :
    fill "tunnel $10 of $1 uses ${name}" ["wan", "2"] [("name", "a$1$*${name}")] =
      "tunnel wan0 of wan uses a$1$*${name}" := by
  rw [fill_eq_fillOnce (by decide) (by decide) (by decide)]
  decide +kernel

/-- All arguments come first, so that an argument with a `$` in it is taken for a place. -/
theorem fill_reads_argument_again :
    fill "description $*" ["uplink", "$1"] [] = "description uplink uplink" ∧
    fillOnce "description $*" ["uplink", "$1"] [] = "description uplink $1" := by
  constructor
  · decide +kernel
  · decide +kernel

end Netscribe.Template
