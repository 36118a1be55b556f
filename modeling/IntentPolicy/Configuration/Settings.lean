import IntentPolicy.Number.Shortest
import IntentPolicy.Policy.TimeWindows
import IntentPolicy.Policy.Translation

namespace IntentPolicy

/-!
# Settings

What can be set, with the defaults, the text in which each setting is shown, and the
rules that a whole configuration has to keep.
-/

/-- The shape of the log. -/
inductive LogFormat where
  | compact
  | pretty
  | json
  deriving Repr, DecidableEq

instance : Vocabulary LogFormat where
  all := [.compact, .pretty, .json]
  word
    | .compact => "compact"
    | .pretty => "pretty"
    | .json => "json"
  mem_all value := by cases value <;> decide

/-- The names of the settings, in the order in which they are listed. -/
inductive Setting where
  | databaseUrl
  | databaseConnections
  | databaseTimeout
  | decisionPointEnabled
  | decisionPointUrl
  | decisionPointTimeout
  | decisionPointToken
  | minTxRate
  | maxTxCost
  | minPopularity
  | minStability
  | dayStart
  | afternoonStart
  | nightStart
  | logLevel
  | logFormat
  deriving Repr, DecidableEq

instance : Vocabulary Setting where
  all :=
    [.databaseUrl, .databaseConnections, .databaseTimeout, .decisionPointEnabled,
      .decisionPointUrl, .decisionPointTimeout, .decisionPointToken, .minTxRate, .maxTxCost,
      .minPopularity, .minStability, .dayStart, .afternoonStart, .nightStart, .logLevel, .logFormat]
  word
    | .databaseUrl => "database.url"
    | .databaseConnections => "database.max_connections"
    | .databaseTimeout => "database.timeout_secs"
    | .decisionPointEnabled => "pdp.enabled"
    | .decisionPointUrl => "pdp.base_url"
    | .decisionPointTimeout => "pdp.timeout_secs"
    | .decisionPointToken => "pdp.api_token"
    | .minTxRate => "selection.min_tx_rate"
    | .maxTxCost => "selection.max_tx_cost"
    | .minPopularity => "selection.min_popularity"
    | .minStability => "selection.min_stability"
    | .dayStart => "timeframes.day_start"
    | .afternoonStart => "timeframes.afternoon_start"
    | .nightStart => "timeframes.night_start"
    | .logLevel => "logging.level"
    | .logFormat => "logging.format"
  mem_all value := by cases value <;> decide

/-- Where the policies are stored. -/
structure DatabaseSettings where
  url : String := "sqlite://chainpolicy.db"
  maxConnections : UInt32 := 5
  timeoutSeconds : UInt64 := 30
  deriving DecidableEq

/-- Where policies are enforced, if they are. -/
structure DecisionPointSettings where
  enabled : Bool := false
  baseUrl : String := "http://localhost:3000"
  timeoutSeconds : UInt64 := 10
  token : Option String := none
  deriving DecidableEq

/-- How much is logged, and in which shape. -/
structure LogSettings where
  level : String := "info"
  format : LogFormat := .compact
  deriving DecidableEq

/-- A whole configuration. -/
structure Settings where
  database : DatabaseSettings := {}
  decisionPoint : DecisionPointSettings := {}
  selection : Baselines := {}
  windows : TimeWindows := {}
  log : LogSettings := {}
  deriving DecidableEq

/-- What is wrong with a configuration. -/
inductive SettingsFlaw where
  | databaseUrl
  | noConnections
  | databaseTimeout
  | decisionPointTimeout
  | decisionPointUrl
  | blankToken
  | negativeCost
  /-- A share of one that is less than nothing or more than all. -/
  | noShare (setting : Setting)
  | windowOrder
  | logLevel
  | logFormat (word : String)
  | clock (setting : Setting) (text : String)
  deriving Repr, DecidableEq

/-- The wording of the flaw. -/
def SettingsFlaw.message : SettingsFlaw → String
  | .databaseUrl =>
      "database.url must be a sqlite URL (`sqlite://...`, `sqlite::...`, or `:memory:`)"
  | .noConnections => "database.max_connections must be greater than zero"
  | .databaseTimeout => "database.timeout_secs must be in range 1..=300"
  | .decisionPointTimeout => "pdp.timeout_secs must be in range 1..=300"
  | .decisionPointUrl =>
      "pdp.base_url must start with http:// or https:// when pdp.enabled is true"
  | .blankToken => "pdp.api_token must not be blank; omit it to send unauthenticated requests"
  | .negativeCost => "selection.max_tx_cost must not be negative"
  | .noShare setting => s!"{wordOf setting} must be in range 0.0..=1.0"
  | .windowOrder => "timeframes must satisfy day_start < afternoon_start < night_start"
  | .logLevel => "logging.level must be one of trace|debug|info|warn|error"
  | .logFormat word => s!"unsupported log format `{word}` (expected compact|pretty|json)"
  | .clock setting text => s!"{wordOf setting} must be a HH:MM clock time, got `{text}`"

namespace Settings

/-- The text of a setting for those who operate the program; a secret is not shown. -/
def shown (settings : Settings) : Setting → String
  | .databaseUrl => settings.database.url
  | .databaseConnections => toString settings.database.maxConnections.toNat
  | .databaseTimeout => toString settings.database.timeoutSeconds.toNat
  | .decisionPointEnabled => if settings.decisionPoint.enabled then "true" else "false"
  | .decisionPointUrl => settings.decisionPoint.baseUrl
  | .decisionPointTimeout => toString settings.decisionPoint.timeoutSeconds.toNat
  | .decisionPointToken =>
      if settings.decisionPoint.token.isSome then "<redacted>" else "<unset>"
  | .minTxRate => toString settings.selection.minTxRate.toNat
  | .maxTxCost => settings.selection.maxTxCost.text
  | .minPopularity => String.ofList settings.selection.minPopularity.shortestText
  | .minStability => String.ofList settings.selection.minStability.shortestText
  | .dayStart => settings.windows.dayStart.text
  | .afternoonStart => settings.windows.afternoonStart.text
  | .nightStart => settings.windows.nightStart.text
  | .logLevel => settings.log.level
  | .logFormat => wordOf settings.log.format

/-- The text starts with one of the given ones, blanks at its ends apart. -/
def opensWith (text : String) (openings : List String) : Bool :=
  openings.any fun opening => opening.toList.isPrefixOf (trimmed text).toList

/-- A time to wait, in seconds. -/
def isTimeout (seconds : UInt64) : Bool :=
  1 ≤ seconds.toNat && seconds.toNat ≤ 300

/-- A share of one, the ends included. -/
def isShare (share : Double) : Bool :=
  Double.zero.le share && share.le (.ofNat 1)

/-- The levels of the log. -/
def logLevels : List String := ["trace", "debug", "info", "warn", "error"]

/-- The rules that a configuration breaks, in the order in which they are checked. -/
def flaws (settings : Settings) : List SettingsFlaw :=
  let rules : List (Bool × SettingsFlaw) :=
    [(opensWith settings.database.url ["sqlite://", "sqlite::"] ||
        trimmed settings.database.url == ":memory:", .databaseUrl),
      (settings.database.maxConnections ≠ 0, .noConnections),
      (isTimeout settings.database.timeoutSeconds, .databaseTimeout),
      (isTimeout settings.decisionPoint.timeoutSeconds, .decisionPointTimeout),
      (!settings.decisionPoint.enabled ||
        opensWith settings.decisionPoint.baseUrl ["http://", "https://"], .decisionPointUrl),
      (!settings.decisionPoint.enabled ||
        !settings.decisionPoint.token.any isAllBlank, .blankToken),
      (!settings.selection.maxTxCost.isNegative, .negativeCost),
      (isShare settings.selection.minPopularity, .noShare .minPopularity),
      (isShare settings.selection.minStability, .noShare .minStability),
      (settings.windows.isOrdered, .windowOrder),
      (logLevels.contains (asciiLowered (trimmed settings.log.level)), .logLevel)]
  rules.filterMap fun rule => if rule.1 then none else some rule.2

end Settings

end IntentPolicy
