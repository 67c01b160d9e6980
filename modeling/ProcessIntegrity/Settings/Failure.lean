import ProcessIntegrity.Duration.Spans
import ProcessIntegrity.IoFailure
import ProcessIntegrity.Text.Quoted
import ProcessIntegrity.Toml.Value
/-!
# Why settings are refused

The errors of reading settings, with their causes, and the texts that report them. Apart from all
errors stands the crash: it ends the program instead of being reported.
-/

namespace ProcessIntegrity.Settings

inductive Want where
  | boolean
  | text
  | count
  | probeSection
  | logSection
  deriving DecidableEq, Repr

def Want.render : Want → String
  | boolean => "a boolean"
  | text => "a string"
  | count => "u32"
  | probeSection => "struct ProbeSection"
  | logSection => "struct LoggingConfig"

inductive FormFault where
  | unknownField (key : String) (expected : List String)
  | wrongType (got : Toml.Value) (want : Want)
  | countOutOfRange (n : Int)
  /-- A section given as an array has too few items. -/
  | tooShort (items : Nat)
  deriving Repr

def describeValue : Toml.Value → String
  | .string text => s!"string {Text.quote text}"
  | .integer n => s!"integer `{n}`"
  | .float x => s!"floating point `{x.render}`"
  | .boolean b => s!"boolean `{b}`"
  | .array _ => "sequence"
  | .dateTime _ | .table _ => "map"

/-- The names in messages, between backticks: two are joined by a word, more are listed. -/
def listNames : List String → String
  | [first, second] => s!"`{first}` or `{second}`"
  | names => "one of " ++ ", ".intercalate (names.map fun name => s!"`{name}`")

def FormFault.message : FormFault → String
  | unknownField key expected => s!"unknown field `{key}`, expected {listNames expected}"
  | wrongType got want => s!"invalid type: {describeValue got}, expected {want.render}"
  | countOutOfRange n => s!"invalid value: integer `{n}`, expected {Want.count.render}"
  | tooShort items =>
    s!"invalid length {items}, expected {Want.probeSection.render} with 4 elements"

inductive Failure where
  /-- A text is no duration; `raw` is the text without blanks around it. -/
  | invalidDuration (raw : String) (cause : Duration.Fault)
  | invalidValue (key value : String)
  | io (cause : IoFailure)
  | notToml
  | wrongForm (cause : FormFault)
  deriving Repr

/-- The texts that report a failure. What exactly is wrong with a text that is no TOML is left to
whoever reads it. -/
def Failure.message : Failure → String
  | invalidDuration raw cause => s!"invalid duration '{raw}': {cause.message}"
  | invalidValue key value => s!"invalid value '{value}' for {key}"
  | io cause => s!"I/O error: {cause.message}"
  | notToml | wrongForm _ => "TOML parse error"

def Failure.cause? : Failure → Option String
  | invalidDuration _ cause => some cause.message
  | io cause => some cause.message
  | invalidValue .. | notToml | wrongForm _ => none

/-- What keeps settings from being read: a failure, which is reported, or a crash. -/
inductive Stop where
  | failed (why : Failure)
  | crashed (message : String)
  deriving Repr

end ProcessIntegrity.Settings
