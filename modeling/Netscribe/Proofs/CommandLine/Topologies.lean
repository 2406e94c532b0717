import Netscribe.CommandLine.Run
import Netscribe.Proofs.Inventory.ParsedIds
/-!
How a run that compiles a topology ends. What is wrong with a device, a link or a list of VLANs is
reported; a document that cannot be gone through at all ends the run instead.
-/
open Netscribe.Document (Fields)

namespace Netscribe

namespace Inventory

section Documents

variable {path : String} {fields : Fields} {d : Document} {fault : Fault}

/-- A document that can be gone through like a topology: an object. Unless they count as unset, its
    nodes are a list, an object or a text, and the defaults, if there is an object in that list to
    be completed, are an object. -/
def IsWalkable : Document → Prop
  | .object fields =>
    (∀ nodes, Fields.get? fields "nodes" = some nodes → nodes.isTrue →
      nodes.kind = .list ∨ nodes.kind = .object ∨ nodes.kind = .text) ∧
    ∀ items item defaults, Fields.get? fields "nodes" = some (.list items) →
      .object item ∈ items → Fields.get? fields "defaults" = some defaults → defaults.isTrue →
        defaults.kind = .object
  | _ => False

/-- A value that does not have what it is asked for. -/
def IsMismatch (fault : Fault) : Prop :=
  (∃ got, fault = .notIterable got) ∨ ∃ got part, fault = .noAttribute got part

/-- The items of a value of any kind. Of those that cannot be gone through, some count as unset. -/
theorem itemsOf_some (d : Document) : itemsOf (some d) = match d with
    | .list items => .ok items
    | .object fields => .ok (fields.map fun field => .text field.1)
    | .text s => .ok ((Text.pieces s).map .text)
    | other => if other.isTrue then .error (.notIterable other.kind) else .ok [] := by
  unfold itemsOf
  cases d with
  | list items => cases items <;> rfl
  | object fields => cases fields <;> rfl
  | text s =>
    by_cases hempty : s = ""
    · rw [hempty]
      rfl
    · have htrue : (Document.text s).isTrue := bne_iff_ne.mpr hempty
      simp [htrue]
  | _ => simp only [Bool.not_eq_eq_eq_not, Bool.not_true, ← Bool.not_eq_true, ite_not]

private theorem itemsOf_succeeds_iff {nodes : Option Document} :
    (∃ items, itemsOf nodes = .ok items) ↔
      ∀ d, nodes = some d → d.isTrue → d.kind = .list ∨ d.kind = .object ∨ d.kind = .text := by
  cases nodes with
  | none => simp [itemsOf]
  | some d =>
    rw [itemsOf_some]
    cases d with
    | list | object | text => simp [Document.kind]
    | _ =>
      dsimp only
      split <;> simp [*, Document.kind]

private theorem isMismatch_of_itemsOf {nodes : Option Document} (h : itemsOf nodes = .error fault) :
    IsMismatch fault := by
  cases nodes with
  | none => cases h
  | some d =>
    rw [itemsOf_some] at h
    split at h
    · cases h
    · cases h
    · cases h
    · split at h
      · exact .inl ⟨_, (Except.error.inj h).symm⟩
      · cases h

/-- The only objects that are gone through are those in a list. -/
theorem object_mem_itemsOf {nodes : Option Document} {items : List Document} {item : Fields}
    (h : itemsOf nodes = .ok items) :
    .object item ∈ items ↔ ∃ given, nodes = some (.list given) ∧ .object item ∈ given := by
  cases nodes with
  | none =>
    obtain rfl := Except.ok.inj h
    simp
  | some d =>
    rw [itemsOf_some] at h
    split at h
    · obtain rfl := Except.ok.inj h
      simp
    · obtain rfl := Except.ok.inj h
      simp
    · obtain rfl := Except.ok.inj h
      simp
    next hlist _ _ =>
      split at h
      · cases h
      · obtain rfl := Except.ok.inj h
        refine iff_of_false List.not_mem_nil ?_
        rintro ⟨given, hgiven, _⟩
        exact hlist given (Option.some.inj hgiven)

private theorem withDefaults_succeeds_iff {defaults item : Document} :
    (∃ entry, withDefaults defaults item = .ok entry) ↔
      (item.kind = .object → defaults.kind = .object) := by
  cases item with
  | object fields => cases defaults <;> simp [withDefaults, Document.kind]
  | _ => simp [withDefaults, Document.kind]

private theorem isMismatch_of_withDefaults {defaults item : Document}
    (h : withDefaults defaults item = .error fault) : IsMismatch fault := by
  cases item with
  | object fields =>
    cases defaults with
    | object missing => cases h
    | _ => exact .inr ⟨_, _, (Except.error.inj h).symm⟩
  | _ => cases h

/-- An inventory is made of a document exactly if it can be gone through. -/
theorem ofDocument_succeeds_iff : (∃ inv, ofDocument path d = .ok inv) ↔ IsWalkable d := by
  cases d with
  | object fields =>
    rw [IsWalkable, ← itemsOf_succeeds_iff]
    have hdefaults : (Document.orEmpty (Fields.get? fields "defaults")).kind = .object ↔
        ∀ defaults, Fields.get? fields "defaults" = some defaults → defaults.isTrue →
          defaults.kind = .object := by
      cases Fields.get? fields "defaults" with
      | none => simp [Document.orEmpty, Document.kind]
      | some defaults =>
        cases htrue : defaults.isTrue <;> simp [Document.orEmpty, htrue, Document.kind]
    have hitem {items : List Document} (hitems : itemsOf (Fields.get? fields "nodes") = .ok items) :
        (∃ entries, items.mapM (withDefaults (Document.orEmpty (Fields.get? fields "defaults"))) =
          .ok entries) ↔ ∀ given item defaults, Fields.get? fields "nodes" = some (.list given) →
            .object item ∈ given → Fields.get? fields "defaults" = some defaults →
              defaults.isTrue → defaults.kind = .object := by
      simp only [Outcome.mapM_succeeds_iff, withDefaults_succeeds_iff, hdefaults]
      constructor
      · intro h given item defaults hgiven hmem hget
        have hobject := (object_mem_itemsOf hitems).mpr ⟨given, hgiven, hmem⟩
        exact h _ hobject rfl defaults hget
      · intro h entry hentry hkind defaults hget
        cases entry with
        | object item =>
          obtain ⟨given, hgiven, hmem⟩ := (object_mem_itemsOf hitems).mp hentry
          exact h given item defaults hgiven hmem hget
        | _ => cases hkind
    constructor
    · rintro ⟨inv, hinv⟩
      obtain ⟨items, hitems, hrest⟩ := Outcome.bind_eq_ok_iff.mp hinv
      obtain ⟨entries, hentries, _⟩ := Outcome.bind_eq_ok_iff.mp hrest
      exact ⟨⟨items, hitems⟩, (hitem hitems).mp ⟨entries, hentries⟩⟩
    · rintro ⟨⟨items, hitems⟩, hobjects⟩
      obtain ⟨entries, hentries⟩ := (hitem hitems).mpr hobjects
      exact ⟨_, Outcome.bind_eq_ok_iff.mpr ⟨items, hitems,
        Outcome.bind_eq_ok_iff.mpr ⟨entries, hentries, rfl⟩⟩⟩
  | _ => simp [ofDocument, IsWalkable]

private theorem isMismatch_of_ofDocument (h : ofDocument path d = .error fault) :
    IsMismatch fault := by
  cases d with
  | object fields =>
    obtain hitems | ⟨items, _, hrest⟩ := Outcome.bind_eq_error_iff.mp h
    · exact isMismatch_of_itemsOf hitems
    · have hentries := Outcome.bind_pure_eq_error_iff.mp hrest
      obtain ⟨item, _, hitem⟩ := Outcome.exists_of_mapM_eq_error hentries
      exact isMismatch_of_withDefaults hitem
  | _ => exact .inr ⟨_, _, (Except.error.inj h).symm⟩

end Documents

/-- What a topology that can be gone through may still be refused for. -/
def IsRefusal (fault : Fault) : Prop :=
  (∃ e, fault = .shape e) ∨ (∃ text, fault = .badInteger text) ∨
    ∃ shown, fault = .unknownDevice shown

section Questions

variable {inv : Inventory}

private theorem ensures_node_isRefusal (wanted : Document) :
    (inv.node wanted).Ensures (·.IsDrawnFrom inv) (fun _ => True) IsRefusal := by
  refine (ensures_node wanted).imp (fun _ _ => trivial) fun fault hfault => ?_
  obtain hdevice | hshape := hfault
  · exact .inr (.inr ⟨_, (device_eq_error_iff.mp hdevice).1⟩)
  · exact .inl hshape

private theorem ensures_connections_isRefusal :
    inv.allConnections.Ensures (·.IsDrawnFrom inv) (fun _ => True) IsRefusal := by
  refine givesOn_connections_of_isDrawnFrom.ensures.imp (fun _ _ => trivial) fun fault hfault => ?_
  obtain ⟨e, _, rfl⟩ := Outcome.mapError_eq_error_iff.mp hfault
  exact .inl ⟨e, rfl⟩

private theorem ensures_script_isRefusal (n : Node) :
    (inv.script n).Ensures (·.IsDrawnFrom inv) (fun _ => True) IsRefusal := by
  have hlinks : (inv.nodeConnections (.text n.id)).Ensures (·.IsDrawnFrom inv) (fun _ => True)
      IsRefusal :=
    (ensures_node_isRefusal (.text n.id)).bind fun _ _ =>
      ensures_connections_isRefusal.bind fun _ _ => .pure trivial
  refine hlinks.bind fun links _ => .ofResult ⟨fun _ => trivial, fun hfault => ?_⟩
  exact .inr (.inl (Node.exists_badInteger_of_compile_eq_error hfault))

private theorem ensures_chosenNodes_isRefusal (device : Option String) (vendor : Option Vendor) :
    (CommandLine.chosenNodes inv device vendor).Ensures (·.IsDrawnFrom inv) (fun _ => True)
      IsRefusal := by
  have hnodes : inv.nodes.Ensures (·.IsDrawnFrom inv) (fun _ => True) IsRefusal :=
    ensures_nodes.imp (fun _ _ => trivial) fun _ hshape => .inl hshape
  unfold CommandLine.chosenNodes
  split
  · exact (ensures_node_isRefusal _).bind fun _ _ => .pure trivial
  · exact hnodes.bind fun _ _ => .pure trivial
  · exact hnodes

private theorem ensures_compileText_isRefusal (device : Option String) (vendor : Option Vendor) :
    (CommandLine.compileText inv device vendor).Ensures (·.IsDrawnFrom inv) (fun _ => True)
      IsRefusal := by
  refine (ensures_chosenNodes_isRefusal device vendor).bind fun nodes _ => ?_
  split
  · exact .pure trivial
  · have hall : ∀ n ∈ nodes, (inv.script n).Ensures (·.IsDrawnFrom inv) (fun _ => True) IsRefusal :=
      fun n _ => ensures_script_isRefusal n
    exact (ensures_scripts hall).bind fun _ _ => .pure trivial

end Questions

end Inventory

namespace CommandLine

open Inventory (IsWalkable IsMismatch IsRefusal)

/-- The record of a section that could not be generated. The script has a comment in its place, and
    the run goes on. -/
def Record.IsOfSection : Record → Prop
  | .brokenSection .. => True
  | .failedWork _ => False

/-- The record of a device whose compilation a fault has ended. -/
def Record.IsOfFault (fault : Fault) : Record → Prop
  | .brokenSection .. => False
  | .failedWork work => work.operation = .text "compile_device" ∧
      work.failure = some fault.inlineMessage

/-- The records that go with an outcome. Besides those of sections, only the fault that is the
    outcome has one. -/
def IsLogOf {α : Type} (log : List Record) : Except Fault α → Prop
  | .ok _ => ∀ r ∈ log, r.IsOfSection
  | .error fault => ∀ r ∈ log, r.IsOfSection ∨ r.IsOfFault fault

section Records

variable {α β : Type} {log more : List Record}

private theorem isLogOf_nil (outcome : Except Fault α) : IsLogOf [] outcome := by
  cases outcome with
  | ok => exact fun r hr => absurd hr List.not_mem_nil
  | error => exact fun r hr => absurd hr List.not_mem_nil

/-- What follows a success adds its own records. -/
theorem IsLogOf.append {a : α} {outcome : Except Fault β} (h : IsLogOf log (.ok a : Except Fault α))
    (hmore : IsLogOf more outcome) : IsLogOf (log ++ more) outcome := by
  cases outcome with
  | ok b =>
    intro r hr
    obtain hr | hr := List.mem_append.mp hr
    · exact h r hr
    · exact hmore r hr
  | error fault =>
    intro r hr
    obtain hr | hr := List.mem_append.mp hr
    · exact .inl (h r hr)
    · exact hmore r hr

/-- Only whether there is a result matters, not which one. -/
theorem IsLogOf.answer_map {question : Inventory.Session α} {cache : Inventory.Cache}
    (h : IsLogOf log (question.answer cache).1) (f : α → β) :
    IsLogOf log ((question >>= fun a => pure (f a)).answer cache).1 := by
  cases hquestion : question.answer cache with
  | mk outcome after =>
    rw [hquestion] at h
    cases outcome with
    | ok a =>
      rw [Inventory.Session.answer_bind hquestion]
      exact h
    | error fault =>
      rw [Inventory.Session.answer_bind_error hquestion]
      exact h

private theorem isLogOf_nodeRecords (n : Node) (links : List Connection) :
    IsLogOf (nodeRecords n links) (n.compile links) := by
  rw [nodeRecords]
  cases n.compile links with
  | ok script =>
    intro r hr
    obtain ⟨s, _, rfl⟩ := List.mem_map.mp hr
    exact trivial
  | error fault =>
    intro r hr
    obtain rfl := List.mem_singleton.mp hr
    exact .inr ⟨rfl, rfl⟩

/-- The records of the devices up to one without a script go with the scripts of all of them. -/
theorem isLogOf_scriptRecords (inv : Inventory) (several : Bool) (nodes : List Node)
    (cache : Inventory.Cache) :
    IsLogOf (scriptRecords inv nodes cache)
      ((nodes.mapM fun n => do return headed several n (← inv.script n)).answer cache).1 := by
  induction nodes generalizing cache with
  | nil => exact isLogOf_nil _
  | cons n rest ih =>
    rw [List.mapM_cons, scriptRecords]
    cases hlinks : (inv.nodeConnections (.text n.id)).answer cache with
    | mk outcome after =>
      have hrecords : inv.nodeConnections (.text n.id) cache = (outcome, after) := hlinks
      rw [hrecords]
      cases outcome with
      | error fault => exact isLogOf_nil _
      | ok links =>
        have hnode := isLogOf_nodeRecords n links
        have hscript : (inv.script n).answer cache = (n.compile links, after) := by
          rw [Inventory.script, Inventory.Session.answer_bind hlinks]
          rfl
        dsimp only
        cases hcompile : n.compile links with
        | error fault =>
          rw [hcompile] at hnode hscript
          rw [List.append_nil, bind_assoc, Inventory.Session.answer_bind_error hscript]
          exact hnode
        | ok script =>
          rw [hcompile] at hnode hscript
          rw [bind_assoc, Inventory.Session.answer_bind hscript, pure_bind]
          refine hnode.append ?_
          exact (ih after).answer_map fun texts => headed several n script :: texts

/-- The records of compiling go with its text. A vendor without devices leaves none. -/
theorem isLogOf_compileRecords (inv : Inventory) (device : Option String)
    (vendor : Option Vendor) :
    IsLogOf (compileRecords inv device vendor) (compileText inv device vendor {}).1 ∧
      ((compileText inv device vendor {}).1 = .ok none →
        compileRecords inv device vendor = []) := by
  change IsLogOf _ ((compileText inv device vendor).answer {}).1 ∧
    (((compileText inv device vendor).answer {}).1 = .ok none → _)
  rw [compileText, compileRecords]
  cases hnodes : (chosenNodes inv device vendor).answer {} with
  | mk outcome after =>
    have hrecords : chosenNodes inv device vendor {} = (outcome, after) := hnodes
    rw [hrecords]
    cases outcome with
    | error fault => exact ⟨isLogOf_nil _, fun _ => rfl⟩
    | ok nodes =>
      rw [Inventory.Session.answer_bind hnodes]
      dsimp only
      split
      next hempty =>
        have hnone : nodes = [] :=
          List.isEmpty_iff.mp (Bool.and_eq_true_iff.mp (Bool.and_eq_true_iff.mp hempty).1).1
        rw [hnone]
        exact ⟨isLogOf_nil _, fun _ => rfl⟩
      next =>
        have hlog := isLogOf_scriptRecords inv (1 < nodes.length) nodes after
        refine ⟨(hlog.answer_map (Text.join "\n\n")).answer_map some, fun hnone => ?_⟩
        cases hscripts : (scripts inv nodes).answer after with
        | mk outcome last =>
          cases outcome with
          | error fault =>
            rw [Inventory.Session.answer_bind_error hscripts] at hnone
            cases hnone
          | ok script =>
            rw [Inventory.Session.answer_bind hscripts] at hnone
            cases hnone

end Records

/-- A run that ends with what it prints, with the line that there are no devices of a vendor, or
    with the message of an expected fault. In front of that the console shows nothing but records of
    sections that could not be generated, and of the compilation that the fault has ended. -/
def Run.Reports (run : Run) (w : Workspace) (expected : Fault → Prop) : Prop :=
  ∃ result, run.ending = .finished result ∧
    ((result.code = 0 ∧ result.errors = "" ∧ ∀ r ∈ run.log, r.IsOfSection) ∨
      (result.code = 1 ∧ result.output = "" ∧
        ((∃ vendor : Vendor, run.log = [] ∧
            result.errors = s!"No {vendor.name} devices in topology" ++ "\n") ∨
          ∃ fault, expected fault ∧ (∀ r ∈ run.log, r.IsOfSection ∨ r.IsOfFault fault) ∧
            result.errors = errorText w s!"Error: {fault.message}" ++ "\n")))

/-- What a topology that can be gone through may be reported for: what compiling it is refused for,
    and a script that cannot be printed. -/
def IsComplaint (fault : Fault) : Prop :=
  IsRefusal fault ∨ ∃ unit place count, fault = .unencodable unit place count

section Runs

variable {w : Workspace} {words : List String} {typed file text : String} {device : Option String}
  {vendor : Option Vendor} {log : List Record} {expected : Fault → Prop} {fault : Fault}

private theorem isReported_of_isRefusal (h : IsRefusal fault) : isReported fault := by
  obtain ⟨e, rfl⟩ | ⟨text, rfl⟩ | ⟨shown, rfl⟩ := h <;> rfl

private theorem isReported_of_isMismatch (h : IsMismatch fault) : isReported fault = false := by
  obtain ⟨got, rfl⟩ | ⟨got, part, rfl⟩ := h <;> rfl

private theorem errorText_noDevices (vendor : Vendor) :
    errorText w s!"No {vendor.name} devices in topology" =
      s!"No {vendor.name} devices in topology" := by
  rw [errorText]
  cases w.console with
  | buffer => rfl
  | bytes => cases vendor <;> decide +kernel

private theorem reports_report (hlog : ∀ r ∈ log, r.IsOfSection ∨ r.IsOfFault fault)
    (hexpected : expected fault) :
    Run.Reports { log := log, ending := .finished (.report w fault) } w expected :=
  ⟨_, rfl, .inr ⟨rfl, rfl, .inr ⟨fault, hexpected, hlog, rfl⟩⟩⟩

private theorem reports_of_error (hlog : IsLogOf log (.error fault : Except Fault Result))
    (hreported : isReported fault) (hexpected : expected fault) :
    Run.Reports { log := log, ending := endingOf w (.error fault) } w expected := by
  rw [endingOf, if_pos hreported]
  exact reports_report hlog hexpected

private theorem endingOf_error (h : isReported fault = false) :
    endingOf w (.error fault) = .failed fault := by
  rw [endingOf, h]
  rfl

private theorem not_reports_failed :
    ¬ Run.Reports { log := log, ending := .failed fault } w expected := by
  rintro ⟨_, hfinished, _⟩
  cases hfinished

/-- A script that is printed whole, or reported if it has no encoding. -/
theorem reports_print (hlog : ∀ r ∈ log, r.IsOfSection) :
    Run.Reports { log := log, ending := .finished (.print w [text]) } w IsComplaint := by
  rw [Result.print]
  cases hencoded : unprintable? w text with
  | none => exact ⟨_, rfl, .inl ⟨rfl, rfl, hlog⟩⟩
  | some fault =>
    refine reports_report (fun r hr => .inl (hlog r hr)) (.inr ?_)
    rw [unprintable?] at hencoded
    split at hencoded
    · cases hencoded
    · obtain ⟨⟨unit, place, count⟩, _, rfl⟩ := Option.map_eq_some_iff.mp hencoded
      exact ⟨unit, place, count, rfl⟩

/-- What compiling an inventory that has been loaded comes to. -/
def compiled (w : Workspace) (inv : Inventory) (device : Option String) (vendor : Option Vendor) :
    Except Fault Result := do
  match ← (compileText inv device vendor {}).1 with
  | none => return .refuse w s!"No {(vendor.getD .generic).name} devices in topology"
  | some text => return .print w [text]

private theorem reports_compiled (inv : Inventory) :
    Run.Reports { log := compileRecords inv device vendor
                  ending := endingOf w (compiled w inv device vendor) } w IsComplaint := by
  have hempty : Inventory.Cache.IsDrawnFrom {} inv := Inventory.Cache.isDrawnFrom_empty
  have hensures := (Inventory.ensures_compileText_isRefusal device vendor {} hempty).2
  obtain ⟨hlog, hnolog⟩ := isLogOf_compileRecords inv device vendor
  rw [compiled]
  cases hcompile : (compileText inv device vendor {}).1 with
  | error fault =>
    have hrefusal : IsRefusal fault := hensures.error hcompile
    rw [hcompile] at hlog
    exact reports_of_error hlog (isReported_of_isRefusal hrefusal) (.inl hrefusal)
  | ok compiled =>
    cases compiled with
    | none =>
      refine ⟨_, rfl, .inr ⟨rfl, rfl, .inl ⟨vendor.getD .generic, ?_, ?_⟩⟩⟩
      · exact hnolog hcompile
      · exact congrArg (· ++ "\n") (errorText_noDevices _)
    | some text =>
      rw [hcompile] at hlog
      exact reports_print hlog

/-- The usual words for it, with a file name that does not look like an option. -/
theorem read_compile (h : ∀ c rest, file.toList ≠ '-' :: c :: rest) :
    Invocation.read ["--topology", file, "compile"] =
      .ok { topology := some file, command := .compile none none none } := by
  have hfile : programGrammar.roleOf file = .ok .plain := by
    rw [Grammar.roleOf]
    split
    next c rest hoption => exact absurd hoption (h c rest)
    next => rfl
  have hseparator : file ≠ "--" := by
    rintro rfl
    exact h '-' [] rfl
  have hoption : programGrammar.roleOf "--topology" =
      .ok (.switch ⟨option "--topology", "--topology", none⟩) := rfl
  have hcommand : programGrammar.roleOf "compile" = .ok .plain := rfl
  have hroles : programGrammar.assignRoles ["--topology", file, "compile"] =
      .ok [⟨"--topology", .switch ⟨option "--topology", "--topology", none⟩⟩, ⟨file, .plain⟩,
        ⟨"compile", .plain⟩] := by
    rw [Grammar.assignRoles, if_neg (by decide), hoption, Grammar.assignRoles, if_neg hseparator,
      hfile, Grammar.assignRoles, if_neg (by decide), hcommand]
    rfl
  rw [Invocation.read, Grammar.read, hroles]
  rfl

/-- A run that compiles what has been loaded, or fails to load it. -/
def runWith (w : Workspace) (device : Option String) (vendor : Option Vendor) :
    Except Fault Inventory → Run
  | .ok inv =>
    { log := compileRecords inv device vendor
      ending := endingOf w (compiled w inv device vendor) }
  | .error fault => { ending := endingOf w (.error fault) }

/-- A run that compiles the topology in a file. -/
theorem run_compile_eq
    (hread : Invocation.read words =
      .ok { topology := some file, command := .compile device vendor none })
    (htext : w.read file = .ok text) :
    run w words typed = runWith w device vendor (do
      Inventory.ofDocument file (← Inventory.readDocument w file text)) := by
  have hfile : file ≠ "" := by
    rintro rfl
    cases htext
  have hload : Inventory.load w (some file) = (do
      Inventory.ofDocument file (← Inventory.readDocument w file text)) := by
    rw [Inventory.load, Option.filter_some, if_pos (by simpa using hfile)]
    change (w.read file >>= fun text => _) = _
    rw [htext]
    rfl
  rw [run, hread, ← hload]
  dsimp only [records, runCommand, runCompile]
  cases Inventory.load w (some file) with
  | error fault => rfl
  | ok inv => rfl

private theorem run_of_fault
    (hread : Invocation.read words =
      .ok { topology := some file, command := .compile device vendor none })
    (htext : w.read file = .ok text)
    (hfault : (do
      Inventory.ofDocument file (← Inventory.readDocument w file text)) = .error fault) :
    ((run w words typed).Reports w (· = fault) ↔ isReported fault) ∧
      (isReported fault = false → run w words typed = { ending := .failed fault }) := by
  rw [run_compile_eq hread htext, hfault, runWith]
  cases hreported : isReported fault with
  | true =>
    have hlog : IsLogOf [] (.error fault : Except Fault Result) := isLogOf_nil _
    exact ⟨iff_of_true (reports_of_error hlog hreported rfl) rfl, fun h => nomatch h⟩
  | false =>
    rw [endingOf_error hreported]
    exact ⟨iff_of_false not_reports_failed (fun h => nomatch h), fun _ => rfl⟩

/-- Of a file named `.json` only a text that is no document, or is nested too deeply, is a fault. -/
theorem exists_of_readDocument_eq_error (hjson : Text.hasEnd ".json" file)
    (hfault : Inventory.readDocument w file text = .error fault) :
    ∃ e, Document.read (Text.plain text) = .error e ∧ fault = .badDocument e ∧
      (isReported fault ↔ e.complaint ≠ .nesting) := by
  rw [Inventory.readDocument, if_pos hjson] at hfault
  cases hdocument : Document.read (Text.plain text) with
  | ok d =>
    rw [hdocument] at hfault
    cases hfault
  | error e =>
    rw [hdocument] at hfault
    obtain rfl := Except.error.inj hfault
    exact ⟨e, rfl, rfl, by simp [isReported]⟩

/-- Compiling the topology in a file, whatever reader there is for a file that is not named `.json`:
    a document that can be gone through is compiled or refused in one report; any other one ends the
    run with an operation that its kind of value lacks. What the reader of the file fails with is
    reported as far as it is of a kind that is. -/
theorem compile_reports_topology_iff
    (hread : Invocation.read words =
      .ok { topology := some file, command := .compile device vendor none })
    (htext : w.read file = .ok text) :
    (∀ d, Inventory.readDocument w file text = .ok d →
      ((run w words typed).Reports w IsComplaint ↔ IsWalkable d) ∧
      (¬ IsWalkable d →
        ∃ fault, run w words typed = { ending := .failed fault } ∧ IsMismatch fault)) ∧
    (∀ fault, Inventory.readDocument w file text = .error fault →
      ((run w words typed).Reports w (· = fault) ↔ isReported fault) ∧
      (isReported fault = false → run w words typed = { ending := .failed fault })) ∧
    (Text.hasEnd ".json" file → ∀ fault, Inventory.readDocument w file text = .error fault →
      ∃ e, Document.read (Text.plain text) = .error e ∧ fault = .badDocument e ∧
        (isReported fault ↔ e.complaint ≠ .nesting)) := by
  refine ⟨fun d hd => ?_, fun fault hfault => ?_, fun hjson fault hfault => ?_⟩
  · have hloaded : (do Inventory.ofDocument file (← Inventory.readDocument w file text)) =
        Inventory.ofDocument file d := by
      rw [hd]
      rfl
    have hwalkable : (∃ inv, Inventory.ofDocument file d = .ok inv) ↔ IsWalkable d :=
      Inventory.ofDocument_succeeds_iff
    rw [← hwalkable]
    cases hinv : Inventory.ofDocument file d with
    | ok inv =>
      rw [run_compile_eq hread htext, hloaded, hinv]
      exact ⟨iff_of_true (reports_compiled inv) ⟨inv, rfl⟩, fun h => absurd ⟨inv, rfl⟩ h⟩
    | error fault =>
      have hmismatch := Inventory.isMismatch_of_ofDocument hinv
      have hrun : run w words typed = { ending := .failed fault } :=
        (run_of_fault hread htext (hloaded.trans hinv)).2 (isReported_of_isMismatch hmismatch)
      refine ⟨iff_of_false ?_ (fun h => nomatch h), fun _ => ⟨fault, hrun, hmismatch⟩⟩
      rw [hrun]
      exact not_reports_failed
  · refine run_of_fault hread htext ?_
    rw [hfault]
    rfl
  · exact exists_of_readDocument_eq_error hjson hfault

/-- A topology of one device. -/
theorem compile_reports_one_device : ∃ w d,
    Invocation.read ["--topology", "t.json", "compile"] =
      .ok { topology := some "t.json", command := .compile none none none } ∧
    w.read "t.json" = .ok "\x7b\"nodes\": [\x7b\"id\": \"a\"\x7d]\x7d" ∧
    Inventory.readDocument w "t.json" "\x7b\"nodes\": [\x7b\"id\": \"a\"\x7d]\x7d" = .ok d ∧
    (run w ["--topology", "t.json", "compile"] "").Reports w IsComplaint := by
  let w : Workspace := { files := [("t.json", "\x7b\"nodes\": [\x7b\"id\": \"a\"\x7d]\x7d")] }
  have hread : Invocation.read ["--topology", "t.json", "compile"] =
      .ok { topology := some "t.json", command := .compile none none none } :=
    read_compile (by simp)
  have htext : w.read "t.json" = .ok "\x7b\"nodes\": [\x7b\"id\": \"a\"\x7d]\x7d" := by
    decide +kernel
  have hd : Inventory.readDocument w "t.json" "\x7b\"nodes\": [\x7b\"id\": \"a\"\x7d]\x7d" =
      .ok (.object [("nodes", .list [.object [("id", .text "a")]])]) := by decide +kernel
  have hwalkable : IsWalkable (.object [("nodes", .list [.object [("id", .text "a")]])]) := by
    refine ⟨fun nodes hnodes _ => .inl ?_, fun _ _ defaults _ _ hdefaults => nomatch hdefaults⟩
    rw [← Option.some.inj hnodes]
    rfl
  exact ⟨w, _, hread, htext, hd,
    ((compile_reports_topology_iff hread htext).1 _ hd).1.mpr hwalkable⟩

/-- A number of nodes in place of the nodes ends the run. -/
theorem compile_fails_at_number_of_nodes : ∃ w,
    w.read "t.json" = .ok "\x7b\"nodes\": 5\x7d" ∧
    Inventory.readDocument w "t.json" "\x7b\"nodes\": 5\x7d" = .ok (.object [("nodes", .int 5)]) ∧
    run w ["--topology", "t.json", "compile"] "" = { ending := .failed (.notIterable .int) } := by
  let w : Workspace := { files := [("t.json", "\x7b\"nodes\": 5\x7d")] }
  have hread : Invocation.read ["--topology", "t.json", "compile"] =
      .ok { topology := some "t.json", command := .compile none none none } :=
    read_compile (by simp)
  have htext : w.read "t.json" = .ok "\x7b\"nodes\": 5\x7d" := by decide +kernel
  have hd : Inventory.readDocument w "t.json" "\x7b\"nodes\": 5\x7d" =
      .ok (.object [("nodes", .int 5)]) := by decide +kernel
  refine ⟨w, htext, hd, ?_⟩
  rw [run_compile_eq hread htext, hd]
  rfl

end Runs

end CommandLine
end Netscribe
