import Netscribe.Schema.Normalize
import Netscribe.Document.Reader
import Netscribe.Text.Digit
/-!
Everything that can go wrong, by cause.
-/
namespace Netscribe

inductive Fault
  /-- A document does not have the shape of a device or connection. -/
  | shape (cause : ParseError)
  /-- A text that denotes no number, of which messages show no more than its start. -/
  | badInteger (text : String)
  /-- A text without words where the first word is asked for. -/
  | noWord
  /-- A rule of a dialect names captures but has no pattern that captures anything. -/
  | namesWithoutPattern (command : String)
  /-- A rule of a dialect names other captures than its pattern has. -/
  | namesDiffer (command : String) (given found : List String)
  /-- A conversion that is no template. -/
  | notTemplate
  /-- A text that denotes no line pattern. -/
  | badPattern
  /-- A file that is no document. -/
  | badDocument (cause : Document.ReadError)
  /-- A text that the reader of the looser format refuses, with what it says of it. -/
  | unreadable (reason : String)
  | noTopologyFile
  | missingFile (path : String)
  | isFolder (path : String)
  | notFolder (path : String)
  /-- A file where a folder is to be made. -/
  | fileInTheWay (path : String)
  | nameTooLong (path : String)
  /-- A path with a character that ends names. -/
  | nullInPath
  /-- A text with lone surrogates, which no file and no stream of bytes can hold: the first of them,
      where they are, and how many are there. -/
  | unencodable (unit place count : Nat)
  /-- A user whose home folder is not known. -/
  | noHome
  /-- A device that the topology does not have; `shown` is the id or name that was asked for. -/
  | unknownDevice (shown : String)
  | missingArgument (name : String)
  | unknownVendor (shown : String)
  /-- A vendor that is no dialect to translate from or to. -/
  | notDialect (shown : String) (dialects : List String)
  | unknownFeature (shown : String) (known : List String)
  /-- A value that lacks what an operation asks of it. -/
  | noAttribute (got : Document.Kind) (part : String)
  | notIterable (got : Document.Kind)
  /-- A setting of the log that names no level. -/
  | unknownLevel (shown : String)
  /-- A setting of the log that names something of another kind than a level. -/
  | notLevel
  /-- A value that cannot fill a column of text. -/
  | notColumn (got : Document.Kind)
  /-- A value that cannot be kept like a name. -/
  | notHashable (got : Document.Kind)
  /-- Values that have no order among them. -/
  | notOrdered
  | notNumber (got : Document.Kind)
  /-- A whole number beyond the binary ones. -/
  | tooLarge
  /-- A failure that the measured work reports. -/
  | reported (text : String)
  deriving DecidableEq, Repr

def Fault.message : Fault → String
  | shape cause => cause.message
  | badInteger text => s!"invalid literal for int() with base 10: {Text.quotedWithin 200 text}"
  | noWord => "list index out of range"
  | namesWithoutPattern command => s!"Rule '{command}': param_names given without a regex"
  | namesDiffer command given found =>
    s!"Rule '{command}': param_names {(Document.texts given).listing} do not match regex groups "
      ++ (Document.texts found).listing
  | notTemplate => "conversion is not a template"
  | badPattern => "malformed line pattern"
  | badDocument cause => cause.message
  | unreadable reason => reason
  | noTopologyFile =>
    "Could not find topology.yaml. Create one in ./configs/topology.yaml "
      ++ "or point CLIFORGE_TOPOLOGY at a topology file"
  | missingFile path => s!"[Errno 2] No such file or directory: {Text.quoted path}"
  | isFolder path => s!"[Errno 21] Is a directory: {Text.quoted path}"
  | notFolder path => s!"[Errno 20] Not a directory: {Text.quoted path}"
  | fileInTheWay path => s!"[Errno 17] File exists: {Text.quoted path}"
  | nameTooLong path => s!"[Errno 36] File name too long: {Text.quoted path}"
  | nullInPath => "embedded null byte"
  | unencodable unit place count =>
    let reason := "surrogates not allowed"
    if count = 1 then
      let shown := String.ofList (Text.hex 4 unit)
      s!"'utf-8' codec can't encode character '\\u{shown}' in position {place}: {reason}"
    else
      let last := toString (place + count - 1)
      s!"'utf-8' codec can't encode characters in position {place}-{last}: {reason}"
  | noHome => "Could not determine home directory."
  | unknownDevice shown => s!"Unknown device: {shown}"
  | missingArgument name => name
  | unknownVendor shown => s!"Unknown vendor: {shown}"
  | notDialect shown dialects =>
    s!"unknown vendor '{shown}' (choose from " ++ Text.join ", " dialects ++ ")"
  | unknownFeature shown known =>
    s!"Unknown feature: {shown}. Available: " ++ Text.join ", " known
  | noAttribute got part => s!"'{got.name}' object has no attribute '{part}'"
  | notIterable got => s!"'{got.name}' object is not iterable"
  | notColumn got =>
    if got.hasNoColumn then s!"unsupported format string passed to {got.name}.__format__"
    else s!"Unknown format code 's' for object of type '{got.name}'"
  | unknownLevel shown => s!"Unknown level: {Text.quoted shown}"
  | notHashable got => s!"unhashable type: '{got.name}'"
  | notOrdered => "operation names are not ordered"
  | notNumber got => s!"unsupported operand type(s) for +: 'int' and '{got.name}'"
  | tooLarge => "int too large to convert to float"
  | notLevel => "Level not an integer or a valid string"
  | reported text => text

/-- Whether a fault is a look-up that found nothing. -/
def Fault.isLookup : Fault → Bool
  | unknownDevice _ | missingArgument _ => true
  | _ => false

/-- The message inside another text, where what was looked up stands between quotation marks. -/
def Fault.inlineMessage (fault : Fault) : String :=
  if fault.isLookup then Text.quoted fault.message else fault.message

/-- The number that a text of digits denotes, however many there are. -/
def digitsNumber (s : String) : Except Fault Nat :=
  match Text.decimalNumber? s.toList with
  | some n => .ok n
  | none => .error (.badInteger s)

end Netscribe
