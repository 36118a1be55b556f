import IntentPolicy.Configuration.Environment
import IntentPolicy.Configuration.Toml
import IntentPolicy.Number.DecimalReading

namespace IntentPolicy

/-!
# Layers of settings

A patch sets some of the settings and leaves the others.  A file, an environment and a
command line each give one, and a configuration is what the patches make of the
defaults, one laid over the other.
-/

/-- Some settings, each with the value that it is to have. -/
structure SettingsPatch where
  databaseUrl : Option String := none
  databaseConnections : Option UInt32 := none
  databaseTimeout : Option UInt64 := none
  decisionPointEnabled : Option Bool := none
  decisionPointUrl : Option String := none
  decisionPointTimeout : Option UInt64 := none
  decisionPointToken : Option String := none
  minTxRate : Option UInt32 := none
  maxTxCost : Option Decimal := none
  minPopularity : Option Double := none
  minStability : Option Double := none
  dayStart : Option ClockTime := none
  afternoonStart : Option ClockTime := none
  nightStart : Option ClockTime := none
  logLevel : Option String := none
  logFormat : Option LogFormat := none
  deriving DecidableEq

/-- The settings with those of the patch in place of their own. -/
def Settings.patched (settings : Settings) (patch : SettingsPatch) : Settings where
  database :=
    { url := patch.databaseUrl.getD settings.database.url
      maxConnections := patch.databaseConnections.getD settings.database.maxConnections
      timeoutSeconds := patch.databaseTimeout.getD settings.database.timeoutSeconds }
  decisionPoint :=
    { enabled := patch.decisionPointEnabled.getD settings.decisionPoint.enabled
      baseUrl := patch.decisionPointUrl.getD settings.decisionPoint.baseUrl
      timeoutSeconds := patch.decisionPointTimeout.getD settings.decisionPoint.timeoutSeconds
      token := patch.decisionPointToken.or settings.decisionPoint.token }
  selection :=
    { minTxRate := patch.minTxRate.getD settings.selection.minTxRate
      maxTxCost := patch.maxTxCost.getD settings.selection.maxTxCost
      minPopularity := patch.minPopularity.getD settings.selection.minPopularity
      minStability := patch.minStability.getD settings.selection.minStability }
  windows :=
    { dayStart := patch.dayStart.getD settings.windows.dayStart
      afternoonStart := patch.afternoonStart.getD settings.windows.afternoonStart
      nightStart := patch.nightStart.getD settings.windows.nightStart }
  log :=
    { level := patch.logLevel.getD settings.log.level
      format := patch.logFormat.getD settings.log.format }

/-- The settings that a command line can give. -/
structure Overrides where
  databaseUrl : Option String := none
  logLevel : Option String := none
  decisionPointEnabled : Option Bool := none
  decisionPointUrl : Option String := none
  deriving DecidableEq

namespace Overrides

/-- The overrides as a patch. -/
def patch (overrides : Overrides) : SettingsPatch where
  databaseUrl := overrides.databaseUrl
  logLevel := overrides.logLevel
  decisionPointEnabled := overrides.decisionPointEnabled
  decisionPointUrl := overrides.decisionPointUrl

/-- A setting is among the overrides. -/
def names (overrides : Overrides) : Setting → Bool
  | .databaseUrl => overrides.databaseUrl.isSome
  | .logLevel => overrides.logLevel.isSome
  | .decisionPointEnabled => overrides.decisionPointEnabled.isSome
  | .decisionPointUrl => overrides.decisionPointUrl.isSome
  | _ => false

end Overrides

/-- A log format by its word, whatever its case and the blanks around it. -/
def LogFormat.ofText (text : String) : Except ConfigurationError LogFormat :=
  match Vocabulary.ofLooseWord? text with
  | some format => .ok format
  | none => .error (.flawed (.logFormat (asciiLowered (trimmed text))))

namespace Environment

/-- A count below a limit by its digits. -/
def readBelow? (limit : Nat) (text : String) : Option Nat :=
  (readUnsigned? text.toList).filter (· < limit)

/-- A truth value by its word. -/
def readBool? : String → Option Bool
  | "true" => some true
  | "false" => some false
  | _ => none

/-- The patch of an environment: the settings whose variables are not blank. -/
def patch (environment : Environment) : Except ConfigurationError SettingsPatch := do
  let word32? (text : String) : Option UInt32 := (readBelow? (twoTo 32) text).map .ofNat
  let word64? (text : String) : Option UInt64 := (readBelow? (twoTo 64) text).map .ofNat
  let double? (text : String) : Option Double := Double.ofText? text.toList
  let databaseConnections ← environment.valueFor .databaseConnections word32?
  let databaseTimeout ← environment.valueFor .databaseTimeout word64?
  let decisionPointEnabled ← environment.valueFor .decisionPointEnabled readBool?
  let decisionPointTimeout ← environment.valueFor .decisionPointTimeout word64?
  let minTxRate ← environment.valueFor .minTxRate word32?
  let maxTxCost ← environment.valueFor .maxTxCost fun text => Decimal.ofText? (trimmed text)
  let minPopularity ← environment.valueFor .minPopularity double?
  let minStability ← environment.valueFor .minStability double?
  let dayStart ← environment.valueFor .dayStart ClockTime.ofText?
  let afternoonStart ← environment.valueFor .afternoonStart ClockTime.ofText?
  let nightStart ← environment.valueFor .nightStart ClockTime.ofText?
  let logFormat ← (environment.textFor? .logFormat).mapM LogFormat.ofText
  return {
    databaseUrl := environment.textFor? .databaseUrl
    databaseConnections, databaseTimeout, decisionPointEnabled
    decisionPointUrl := environment.textFor? .decisionPointUrl
    decisionPointTimeout
    decisionPointToken := environment.textFor? .decisionPointToken
    minTxRate, maxTxCost, minPopularity, minStability
    dayStart, afternoonStart, nightStart
    logLevel := environment.textFor? .logLevel
    logFormat }

end Environment

namespace Toml

/-- The value as a text. -/
def asText? : Toml → Option String
  | .text value => some value
  | _ => none

/-- The value as a truth value. -/
def asBool? : Toml → Option Bool
  | .bool value => some value
  | _ => none

/-- The value as a count below a limit. -/
def asBelow? (limit : Nat) : Toml → Option Nat
  | .integer (.ofNat value) => if value < limit then some value else none
  | _ => none

/-- The value as a double; an integer stands for the double nearest to it. -/
def asDouble? : Toml → Option Double
  | .real value => some value
  | .integer value => some (.ofInt value)
  | _ => none

/-- The value as a decimal, by its text or as a number; a double counts as its shortest text. -/
def asDecimal? : Toml → Option Decimal
  | .text value => Decimal.ofText? value
  | .integer value => Decimal.ofText? (toString value)
  | .real value => Decimal.ofText? (String.ofList value.shortestText)
  | _ => none

/-- The value holds nothing. -/
def isVoid : Toml → Bool
  | .table _ [] => true
  | .array [] => true
  | _ => false

/-- The value as a log format: its word, or a table with that word alone and nothing in it. -/
def asLogFormat? : Toml → Option LogFormat
  | .text value => Vocabulary.ofWord? value
  | .table _ [(word, value)] => if value.isVoid then Vocabulary.ofWord? word else none
  | _ => none

/-- The values of a section by the names of its fields.

A section that is missing is empty, and so is one that is a moment.  An array gives the
fields of its section in their order and has to give all of them. -/
def sectionEntries? (document : Entries) (name : String) (fields : List String) :
    Option Entries :=
  match document.lookup name with
  | none => some []
  | some .moment => some []
  | some (.table _ entries) => some entries
  | some (.array items) => if fields.length ≤ items.length then some (fields.zip items) else none
  | some _ => none

/-- The value of a field that may be missing; a value that cannot be read spoils the whole. -/
def readEntry? {Value : Type} (entries : Entries) (name : String) (read : Toml → Option Value) :
    Option (Option Value) :=
  match entries.lookup name with
  | none => some none
  | some value => (read value).map some

end Toml

/-- The settings of a file, its clock times still as texts. -/
structure FileSettings where
  patch : SettingsPatch
  dayStart : Option String
  afternoonStart : Option String
  nightStart : Option String

namespace FileSettings

open Toml

/-- Read the settings from a document; keys that are not known are passed over. -/
def ofDocument? (document : Entries) : Option FileSettings := do
  let word32? (value : Toml) : Option UInt32 := (value.asBelow? (twoTo 32)).map .ofNat
  let word64? (value : Toml) : Option UInt64 := (value.asBelow? (twoTo 64)).map .ofNat
  let database ← sectionEntries? document "database" ["url", "max_connections", "timeout_secs"]
  let decisionPoint ←
    sectionEntries? document "pdp" ["enabled", "base_url", "timeout_secs", "api_token"]
  let selection ←
    sectionEntries? document "selection"
      ["min_tx_rate", "max_tx_cost", "min_popularity", "min_stability"]
  let windows ←
    sectionEntries? document "timeframes" ["day_start", "afternoon_start", "night_start"]
  let log ← sectionEntries? document "logging" ["level", "format"]
  return {
    patch :=
      { databaseUrl := ← readEntry? database "url" asText?
        databaseConnections := ← readEntry? database "max_connections" word32?
        databaseTimeout := ← readEntry? database "timeout_secs" word64?
        decisionPointEnabled := ← readEntry? decisionPoint "enabled" asBool?
        decisionPointUrl := ← readEntry? decisionPoint "base_url" asText?
        decisionPointTimeout := ← readEntry? decisionPoint "timeout_secs" word64?
        decisionPointToken := ← readEntry? decisionPoint "api_token" asText?
        minTxRate := ← readEntry? selection "min_tx_rate" word32?
        maxTxCost := ← readEntry? selection "max_tx_cost" asDecimal?
        minPopularity := ← readEntry? selection "min_popularity" asDouble?
        minStability := ← readEntry? selection "min_stability" asDouble?
        logLevel := ← readEntry? log "level" asText?
        logFormat := ← readEntry? log "format" asLogFormat? }
    dayStart := ← readEntry? windows "day_start" asText?
    afternoonStart := ← readEntry? windows "afternoon_start" asText?
    nightStart := ← readEntry? windows "night_start" asText? }

/-- The text of a clock time that a setting was given. -/
def readClock (setting : Setting) (text : String) : Except ConfigurationError ClockTime :=
  match ClockTime.ofText? text with
  | some time => .ok time
  | none => .error (.flawed (.clock setting text))

/-- The patch of the file with its clock times read. -/
def complete (settings : FileSettings) : Except ConfigurationError SettingsPatch := do
  let dayStart ← settings.dayStart.mapM (readClock .dayStart)
  let afternoonStart ← settings.afternoonStart.mapM (readClock .afternoonStart)
  let nightStart ← settings.nightStart.mapM (readClock .nightStart)
  return { settings.patch with dayStart, afternoonStart, nightStart }

end FileSettings

end IntentPolicy
