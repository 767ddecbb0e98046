import SqlDialect.Failure
import SqlDialect.Json.Mismatch
import SqlDialect.Shell.Configuration
import SqlDialect.Shell.OutputFormat
import SqlDialect.Statement.Journal

/-!
# Settings

A setting comes from the first of these sources that gives one: the environment,
the configuration, the default. The format that the caller asks for goes before
all of them, but a bad format in another source is still found out. The format is
checked before the log level.

A format is given by its name, or by a table whose only member has that name. A
log level is given by its name, and a number or a truth value is no such name.
-/

namespace SqlDialect

/-- Which records of the log are shown: none, or those up to a level. -/
inductive LogThreshold
  | off
  | upTo (level : LogLevel)
  deriving DecidableEq

namespace LogThreshold

/-- All thresholds. -/
def all : List LogThreshold := off :: LogLevel.all.map upTo

/-- The name of a threshold. -/
def name : LogThreshold → String
  | off => "OFF"
  | upTo level => level.text

/-- The threshold with a name, in any case. -/
def ofName? (name : String) : Option LogThreshold :=
  all.find? fun threshold => sameWord name threshold.name

end LogThreshold

/-- Where settings come from. The configuration has the name of its file. -/
structure SettingSources where
  requestedFormat : Option OutputFormat
  environmentFormat : Option String
  environmentLevel : Option String
  configuration : List (String × JsonValue)
  configurationFile : String

/-- The settings of a session. -/
structure Settings where
  format : OutputFormat
  logThreshold : LogThreshold
  deriving DecidableEq

/-- A form that a log level cannot have, and for what is read in a file, the name
of the file. -/
inductive UnnamedLevel
  | nothing (file : String)
  | givenSequence (file : String)
  | madeSequence
  | table
  deriving DecidableEq

/-- The words for a form that a log level cannot have. -/
def UnnamedLevel.text : UnnamedLevel → String
  | nothing _ => "unit value"
  | givenSequence _ => "sequence"
  | madeSequence => "sequence"
  | table => "map"

/-- The words for where a log level of such a form is. -/
def UnnamedLevel.placeText : UnnamedLevel → String
  | nothing file => " in " ++ file
  | givenSequence file => " in " ++ file
  | madeSequence => ""
  | table => ""

/-- Why settings are refused. -/
inductive SettingsFault
  | unknownFormat (name : String)
  | unnamedFormat
  | unknownLevel
  | unnamedLevel (found : UnnamedLevel)
  deriving DecidableEq

/-- The message of a fault in the settings. -/
def SettingsFault.message : SettingsFault → String
  | unknownFormat name =>
      "enum Format does not have variant constructor " ++ name
  | unnamedFormat =>
      "value of enum Format should be represented by either string or table " ++
        "with exactly one key"
  | unknownLevel =>
      "attempted to convert a string that doesn't match an existing log level"
  | unnamedLevel found =>
      "invalid type: " ++ found.text ++ ", expected a string for key " ++
        ticked "log_level" ++ found.placeText

namespace SettingSources

/-- The value of a setting, given what the environment says about it. -/
def value
    (sources : SettingSources)
    (setting default : String)
    (environment : Option String) : SettingValue :=
  match environment with
  | some text => .text text
  | none => .configured setting default sources.configuration

/-- The format with a name. -/
def formatNamed (name : String) : Except SettingsFault OutputFormat :=
  match OutputFormat.ofName? name with
  | some format => .ok format
  | none => .error (.unknownFormat name)

/-- The format that a value stands for: a name, or the name of its only
member. -/
def formatOf : SettingValue → Except SettingsFault OutputFormat
  | .text name => formatNamed name
  | .table [name] => formatNamed name
  | _ => .error .unnamedFormat

/-- The threshold with a name. -/
def thresholdNamed (name : String) : Except SettingsFault LogThreshold :=
  match LogThreshold.ofName? name with
  | some threshold => .ok threshold
  | none => .error .unknownLevel

/-- The threshold that a value stands for. -/
def thresholdOf (file : String) : SettingValue → Except SettingsFault LogThreshold
  | .text name => thresholdNamed name
  | .numberOrTruth => .error .unknownLevel
  | .nothing => .error (.unnamedLevel (.nothing file))
  | .sequence true => .error (.unnamedLevel (.givenSequence file))
  | .sequence false => .error (.unnamedLevel .madeSequence)
  | .table _ => .error (.unnamedLevel .table)

/-- The settings that the sources give. -/
def settings (sources : SettingSources) : Except SettingsFault Settings := do
  let format ← formatOf
    (sources.value "format" "debug" sources.environmentFormat)
  let threshold ← thresholdOf sources.configurationFile
    (sources.value "log_level" "warn" sources.environmentLevel)
  return ⟨sources.requestedFormat.getD format, threshold⟩

end SettingSources

end SqlDialect
