import Netscribe.Text.Digit
/-!
Reading the words of a command line. Words are first told apart as options, plain words and the
separator `--`; then options take their values, and runs of plain words between them go to the one
positional argument that a grammar can have. An option may be cut short as long as it is clear which
one is meant.
-/
namespace Netscribe.CommandLine

/-- An option, with or without a value. The last name is the one that results go by. A value must be
    accepted each time the option is given. -/
structure Switch where
  names : List String
  takesValue : Bool
  required : Bool := false
  accepts : String → Bool := fun _ => true

/-- What the plain words of a command line are for. -/
inductive Positional
  | nothing
  /-- One run of any number of words. -/
  | words
  /-- The name of a command, after which everything belongs to the command. -/
  | command
  deriving DecidableEq, Repr

structure Grammar where
  switches : List Switch
  positional : Positional

/-- Why reading a command line ends early. -/
inductive Stop
  | help
  | rejected
  deriving DecidableEq, Repr

def helpSwitch : Switch where
  names := ["-h", "--help"]
  takesValue := false

/-- An option as it stands on the command line. `attached` is a value written in the same word. -/
structure Found where
  switch : Switch
  spelled : String
  attached : Option String := none

/-- What a word is. An option that the grammar does not have is still no plain word. -/
inductive Role
  | separator
  | plain
  | switch (found : Found)
  | unknownSwitch

structure Word where
  text : String
  role : Role

namespace Grammar

/-- Every spelling of every option. -/
def spellings (g : Grammar) : List (String × Switch) :=
  (helpSwitch :: g.switches).flatMap fun s => s.names.map (·, s)

/-- A word as a name and the value behind the first equals sign, if there is one. -/
def splitValue (word : String) : String × Option String :=
  let cs := word.toList
  match cs.dropWhile (· ≠ '=') with
  | [] => (word, none)
  | _ :: value => (.ofList (cs.takeWhile (· ≠ '=')), some (.ofList value))

/-- The options that a word starting with two dashes may be short for. -/
def longCandidates (g : Grammar) (word : String) : List Found :=
  let (name, value) := splitValue word
  (g.spellings.filter fun (spelling, _) => Text.hasStart name spelling).map
    fun (spelling, s) => ⟨s, spelling, value⟩

/-- The options that a word starting with one dash may be: one of a single letter with something
    attached, or one that the word is short for. -/
def shortCandidates (g : Grammar) (word : String) : List Found :=
  let letter := String.ofList (word.toList.take 2)
  let rest := String.ofList (word.toList.drop 2)
  g.spellings.filterMap fun (spelling, s) =>
    if spelling = letter then some ⟨s, spelling, some rest⟩
    else if Text.hasStart word spelling then some ⟨s, spelling, none⟩
    else none

def candidates (g : Grammar) (word : String) : List Found :=
  if Text.hasStart "--" word then g.longCandidates word else g.shortCandidates word

/-- A text without the line feed at its end, if there is one. -/
def withoutFeed (cs : List Char) : List Char :=
  if cs.getLast? = some '\n' then cs.dropLast else cs

/-- Digits with at most one point among them, and one digit at least behind it. A line feed may
    follow. -/
def isNumber (cs : List Char) : Bool :=
  let cs := withoutFeed cs
  let whole := cs.takeWhile Text.isDecimal
  match cs.dropWhile Text.isDecimal with
  | [] => whole != []
  | '.' :: fraction => fraction != [] && fraction.all Text.isDecimal
  | _ => false

/-- The option of an exact spelling, possibly with a value attached. -/
def asSpelled? (g : Grammar) (word : String) : Option Found :=
  match g.spellings.lookup word with
  | some s => some ⟨s, word, none⟩
  | none =>
    match splitValue word with
    | (name, some value) => (g.spellings.lookup name).map fun s => ⟨s, name, some value⟩
    | _ => none

def roleOf (g : Grammar) (word : String) : Except Stop Role :=
  match word.toList with
  | '-' :: c :: rest =>
    match g.asSpelled? word with
    | some found => .ok (.switch found)
    | none =>
      match g.candidates word with
      | [found] => .ok (.switch found)
      | _ :: _ :: _ => .error .rejected
      | [] =>
        let harmless := isNumber (c :: rest) || word.toList.contains ' '
        .ok (if harmless then .plain else .unknownSwitch)
  | _ => .ok .plain

/-- The words with their roles. Behind the separator all are plain. -/
def assignRoles (g : Grammar) : List String → Except Stop (List Word)
  | [] => .ok []
  | word :: rest =>
    if word = "--" then .ok (⟨word, .separator⟩ :: rest.map (⟨·, .plain⟩))
    else do
      let role ← g.roleOf word
      return ⟨word, role⟩ :: (← g.assignRoles rest)

end Grammar

def Word.isSwitch (w : Word) : Bool :=
  match w.role with
  | .switch _ | .unknownSwitch => true
  | .separator | .plain => false

def Word.isPlain (w : Word) : Bool := w.role matches .plain

def Word.isSeparator (w : Word) : Bool := w.role matches .separator

/-- What has been read. `given` holds each option by its last name, the latest first; its value is
    missing if nothing but the separator has been attached to it, for the separator is no value.
    `positional` is there once the positional argument has got its words. -/
structure Reading where
  given : List (String × Option String) := []
  positional : Option (List String) := none
  leftOver : List String := []

namespace Reading

def has (r : Reading) (name : String) : Bool := r.given.any (·.1 == name)

/-- The value of an option that is given, as far as it has one. -/
def given? (r : Reading) (name : String) : Option (Option String) := r.given.lookup name

def value? (r : Reading) (name : String) : Option String := (r.given? name).join

def leave (r : Reading) (words : List Word) : Reading :=
  { r with leftOver := r.leftOver ++ words.map (·.text) }

/-- An option takes place. -/
def take (r : Reading) (s : Switch) (value : Option String) : Except Stop Reading :=
  if s.names = helpSwitch.names then .error .help
  else if (value.map s.accepts).getD true then
    .ok { r with given := (s.names.getLastD "", value) :: r.given }
  else .error .rejected

end Reading

/-- The options of one letter that are written together in one word, apart from the first one: all
    but the last of them with the first, then the last one and what is attached to it. -/
def cluster (g : Grammar) (first : Switch) :
    List Char → Except Stop (List Switch × Switch × Option String)
  | [] => .ok ([], first, none)
  | c :: rest =>
    if first.takesValue then .ok ([], first, some (.ofList (c :: rest)))
    else match g.spellings.lookup (.ofList ['-', c]) with
      | some s => do
        let (before, last, attached) ← cluster g s rest
        return (first :: before, last, attached)
      | none => .error .rejected

/-- The options in a word and what is attached to the last of them. -/
def Found.options (g : Grammar) (found : Found) :
    Except Stop (List Switch × Switch × Option String) :=
  match found.attached with
  | none => .ok ([], found.switch, none)
  | some value =>
    if found.switch.takesValue then .ok ([], found.switch, some value)
    else if Text.hasStart "--" found.spelled || value = "" then .error .rejected
    else cluster g found.switch value.toList

/-- The options in a word. If the last one takes a value and has none attached, that is the plain
    word behind it. Only when all are known to be complete do they take place, in their order. -/
def readSwitch (g : Grammar) (r : Reading) (found : Found) (rest : List Word) :
    Except Stop (Reading × List Word) := do
  let (before, last, attached) ← found.options g
  let (value, rest) ← match attached, last.takesValue, rest with
    | some value, _, rest => .ok (if value = "--" then none else some value, rest)
    | none, false, rest => .ok (none, rest)
    | none, true, word :: rest =>
      if word.isPlain then .ok (some word.text, rest) else .error .rejected
    | none, true, [] => .error Stop.rejected
  let r ← before.foldlM (fun r s => r.take s none) r
  return (← r.take last value, rest)

/-- The words for the positional argument at the start of the given ones, if it can take some here
    and has not had its turn. The separator is not one of them, except for a command. -/
def takePositional (g : Grammar) (r : Reading) (words : List Word) :
    Option (List String × List Word) :=
  if r.positional.isSome then none
  else match g.positional with
    | .nothing => none
    | .words =>
      let taken := words.takeWhile (!·.isSwitch)
      some (((taken.filter (!·.isSeparator)).map (·.text)), words.dropWhile (!·.isSwitch))
    | .command =>
      match words.dropWhile (·.isSeparator) with
      | first :: _ => if first.isPlain then some (words.map (·.text), []) else none
      | [] => none

/-- All words in turn. Words that nothing takes are left over. Each step takes at least one word, so
    that fuel beyond their number is never used up. -/
def readWords (g : Grammar) : Nat → Reading → List Word → Except Stop Reading
  | 0, r, words => .ok (r.leave words)
  | fuel + 1, r, words =>
    match words with
    | [] =>
      match takePositional g r [] with
      | some (taken, _) => .ok { r with positional := some taken }
      | none => .ok r
    | word :: rest =>
      match word.role with
      | .switch found => do
        let (r, rest) ← readSwitch g r found rest
        readWords g fuel r rest
      | .unknownSwitch => readWords g fuel (r.leave [word]) rest
      | .plain | .separator =>
        match takePositional g r words with
        | some (taken, rest) => readWords g fuel { r with positional := some taken } rest
        | none =>
          readWords g fuel (r.leave (words.takeWhile (!·.isSwitch)))
            (words.dropWhile (!·.isSwitch))

/-- Whether every option that must be there is. -/
def isComplete (g : Grammar) (r : Reading) : Bool :=
  g.switches.all fun s => !s.required || r.has (s.names.getLastD "")

/-- The options and positional words of a command line. -/
def Grammar.read (g : Grammar) (words : List String) : Except Stop Reading := do
  let words ← g.assignRoles words
  let r ← readWords g (words.length + 1) {} words
  if isComplete g r then return r else throw .rejected

end Netscribe.CommandLine
