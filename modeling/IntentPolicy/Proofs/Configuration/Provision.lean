import IntentPolicy.Configuration.Loading
import Mathlib.Data.List.Nodup

namespace IntentPolicy

/-!
# What the layers provide

Each setting has a kind of value, a place in a document, names of variables and readers of
its own.  A layer that is read at all provides a setting with what stands at that place, or
under these names, and with nothing else.
-/

/-- Where a document may hold a setting: under a key of a table, or at an index of a list that
stands in place of the table. -/
structure EntryPlace where
  table : String
  key : String
  index : Nat
  deriving Repr, DecidableEq

namespace Setting

/-- What a setting holds. -/
abbrev Value : Setting → Type
  | .databaseUrl | .decisionPointUrl | .logLevel => String
  | .databaseConnections | .minTxRate => UInt32
  | .databaseTimeout | .decisionPointTimeout => UInt64
  | .decisionPointEnabled => Bool
  | .decisionPointToken => Option String
  | .maxTxCost => Decimal
  | .minPopularity | .minStability => Double
  | .dayStart | .afternoonStart | .nightStart => ClockTime
  | .logFormat => LogFormat

/-- The variables of a setting, the one that goes first in front. -/
def names : Setting → List String
  | .databaseUrl => ["CHAINPOLICY_DATABASE_URL"]
  | .databaseConnections => ["CHAINPOLICY_DATABASE_MAX_CONNECTIONS"]
  | .databaseTimeout => ["CHAINPOLICY_DATABASE_TIMEOUT_SECS"]
  | .decisionPointEnabled => ["CHAINPOLICY_PDP_ENABLED"]
  | .decisionPointUrl => ["CHAINPOLICY_PDP_BASE_URL"]
  | .decisionPointTimeout => ["CHAINPOLICY_PDP_TIMEOUT_SECS"]
  | .decisionPointToken => ["CHAINPOLICY_PDP_API_TOKEN"]
  | .minTxRate => ["CHAINPOLICY_SELECTION_MIN_TX_RATE"]
  | .maxTxCost => ["CHAINPOLICY_SELECTION_MAX_TX_COST"]
  | .minPopularity => ["CHAINPOLICY_SELECTION_MIN_POPULARITY"]
  | .minStability => ["CHAINPOLICY_SELECTION_MIN_STABILITY"]
  | .dayStart => ["CHAINPOLICY_TIMEFRAMES_DAY_START"]
  | .afternoonStart => ["CHAINPOLICY_TIMEFRAMES_AFTERNOON_START"]
  | .nightStart => ["CHAINPOLICY_TIMEFRAMES_NIGHT_START"]
  | .logLevel => ["CHAINPOLICY_LOGGING_LEVEL", "CHAINPOLICY_LOG_LEVEL"]
  | .logFormat => ["CHAINPOLICY_LOGGING_FORMAT", "CHAINPOLICY_LOG_FORMAT"]

/-- The place of a setting in a document. -/
def place : Setting → EntryPlace
  | .databaseUrl => ⟨"database", "url", 0⟩
  | .databaseConnections => ⟨"database", "max_connections", 1⟩
  | .databaseTimeout => ⟨"database", "timeout_secs", 2⟩
  | .decisionPointEnabled => ⟨"pdp", "enabled", 0⟩
  | .decisionPointUrl => ⟨"pdp", "base_url", 1⟩
  | .decisionPointTimeout => ⟨"pdp", "timeout_secs", 2⟩
  | .decisionPointToken => ⟨"pdp", "api_token", 3⟩
  | .minTxRate => ⟨"selection", "min_tx_rate", 0⟩
  | .maxTxCost => ⟨"selection", "max_tx_cost", 1⟩
  | .minPopularity => ⟨"selection", "min_popularity", 2⟩
  | .minStability => ⟨"selection", "min_stability", 3⟩
  | .dayStart => ⟨"timeframes", "day_start", 0⟩
  | .afternoonStart => ⟨"timeframes", "afternoon_start", 1⟩
  | .nightStart => ⟨"timeframes", "night_start", 2⟩
  | .logLevel => ⟨"logging", "level", 0⟩
  | .logFormat => ⟨"logging", "format", 1⟩

/-- The value that the text of a variable stands for. -/
def ofVariable? : (setting : Setting) → String → Option setting.Value
  | .databaseUrl, text | .decisionPointUrl, text | .logLevel, text => some text
  | .decisionPointToken, text => some (some text)
  | .databaseConnections, text | .minTxRate, text =>
      (Environment.readBelow? (twoTo 32) text).map .ofNat
  | .databaseTimeout, text | .decisionPointTimeout, text =>
      (Environment.readBelow? (twoTo 64) text).map .ofNat
  | .decisionPointEnabled, text => Environment.readBool? text
  | .maxTxCost, text => Decimal.ofText? (trimmed text)
  | .minPopularity, text | .minStability, text => Double.ofText? text.toList
  | .dayStart, text | .afternoonStart, text | .nightStart, text => ClockTime.ofText? text
  | .logFormat, text => Vocabulary.ofLooseWord? text

/-- The value that an entry of a document stands for. -/
def ofEntry? : (setting : Setting) → Toml → Option setting.Value
  | .databaseUrl, entry | .decisionPointUrl, entry | .logLevel, entry => entry.asText?
  | .decisionPointToken, entry => entry.asText?.map some
  | .databaseConnections, entry | .minTxRate, entry => (entry.asBelow? (twoTo 32)).map .ofNat
  | .databaseTimeout, entry | .decisionPointTimeout, entry =>
      (entry.asBelow? (twoTo 64)).map .ofNat
  | .decisionPointEnabled, entry => entry.asBool?
  | .maxTxCost, entry => entry.asDecimal?
  | .minPopularity, entry | .minStability, entry => entry.asDouble?
  | .dayStart, entry | .afternoonStart, entry | .nightStart, entry =>
      entry.asText?.bind ClockTime.ofText?
  | .logFormat, entry => entry.asLogFormat?

theorem names_eq
    (setting : Setting) :
    setting.names = setting.variable :: setting.alias?.toList := by
  cases setting <;> decide +kernel

/-- No variable belongs to two settings. -/
theorem not_mem_names
    {setting other : Setting}
    (different : other ≠ setting)
    {name : String}
    (named : name ∈ other.names) :
    name ∉ setting.names := by
  have disjoint :
      ∀ setting ∈ (Vocabulary.all : List Setting), ∀ other ∈ (Vocabulary.all : List Setting),
        other ≠ setting → ∀ name ∈ other.names, name ∉ setting.names := by
    decide
  exact disjoint setting (Vocabulary.mem_all setting) other (Vocabulary.mem_all other) different
    name named

/-- The path that leads to a setting by its keys. -/
theorem path_eq
    (setting : Setting) :
    (splitAtEach '.' (wordOf setting).toList).map String.ofList =
      [setting.place.table, setting.place.key] := by
  cases setting <;> decide

end Setting

/-- What a setting holds in a configuration. -/
def Settings.value (settings : Settings) : (setting : Setting) → setting.Value
  | .databaseUrl => settings.database.url
  | .databaseConnections => settings.database.maxConnections
  | .databaseTimeout => settings.database.timeoutSeconds
  | .decisionPointEnabled => settings.decisionPoint.enabled
  | .decisionPointUrl => settings.decisionPoint.baseUrl
  | .decisionPointTimeout => settings.decisionPoint.timeoutSeconds
  | .decisionPointToken => settings.decisionPoint.token
  | .minTxRate => settings.selection.minTxRate
  | .maxTxCost => settings.selection.maxTxCost
  | .minPopularity => settings.selection.minPopularity
  | .minStability => settings.selection.minStability
  | .dayStart => settings.windows.dayStart
  | .afternoonStart => settings.windows.afternoonStart
  | .nightStart => settings.windows.nightStart
  | .logLevel => settings.log.level
  | .logFormat => settings.log.format

/-- What a patch gives a setting. -/
def SettingsPatch.value? (patch : SettingsPatch) : (setting : Setting) → Option setting.Value
  | .databaseUrl => patch.databaseUrl
  | .databaseConnections => patch.databaseConnections
  | .databaseTimeout => patch.databaseTimeout
  | .decisionPointEnabled => patch.decisionPointEnabled
  | .decisionPointUrl => patch.decisionPointUrl
  | .decisionPointTimeout => patch.decisionPointTimeout
  | .decisionPointToken => patch.decisionPointToken.map some
  | .minTxRate => patch.minTxRate
  | .maxTxCost => patch.maxTxCost
  | .minPopularity => patch.minPopularity
  | .minStability => patch.minStability
  | .dayStart => patch.dayStart
  | .afternoonStart => patch.afternoonStart
  | .nightStart => patch.nightStart
  | .logLevel => patch.logLevel
  | .logFormat => patch.logFormat

/-- What the command line gives a setting. -/
def Overrides.value? (overrides : Overrides) : (setting : Setting) → Option setting.Value
  | .databaseUrl => overrides.databaseUrl
  | .logLevel => overrides.logLevel
  | .decisionPointEnabled => overrides.decisionPointEnabled
  | .decisionPointUrl => overrides.decisionPointUrl
  | _ => none

/-- A patch that is laid over a configuration replaces what it gives and nothing else. -/
theorem Settings.value_patched
    (settings : Settings)
    (patch : SettingsPatch)
    (setting : Setting) :
    (settings.patched patch).value setting =
      (patch.value? setting).getD (settings.value setting) := by
  cases setting with
  | decisionPointToken =>
      change patch.decisionPointToken.or settings.decisionPoint.token =
        (patch.decisionPointToken.map some).getD settings.decisionPoint.token
      cases patch.decisionPointToken with
      | none => rfl
      | some token => rfl
  | _ => rfl

namespace Overrides

theorem value?_patch
    (overrides : Overrides)
    (setting : Setting) :
    overrides.patch.value? setting = overrides.value? setting := by
  cases setting <;> rfl

theorem names_eq
    (overrides : Overrides)
    (setting : Setting) :
    overrides.names setting = (overrides.value? setting).isSome := by
  cases setting <;> rfl

end Overrides

/-- A sequence ends well if its first step does and the rest does behind it. -/
theorem bind_eq_ok_iff
    {Error Value Next : Type}
    {step : Except Error Value}
    {rest : Value → Except Error Next}
    {next : Next} :
    step >>= rest = .ok next ↔ ∃ value, step = .ok value ∧ rest value = .ok next := by
  cases step with
  | error error => simp [bind, Except.bind]
  | ok value => simp [bind, Except.bind]

/-! ## Variables -/

namespace Environment

variable {environment : Environment}

/-- The first of some variables that is not blank, with its text. -/
def first? (environment : Environment) (names : List String) : Option (String × String) :=
  names.findSome? fun name => (environment.nonBlank? name).map fun text => (name, text)

theorem first?_congr
    {environment' : Environment}
    {names : List String}
    (same : ∀ name ∈ names, environment'.nonBlank? name = environment.nonBlank? name) :
    environment'.first? names = environment.first? names := by
  induction names with
  | nil => rfl
  | cons name names inductionHypothesis =>
      obtain ⟨here, behind⟩ := List.forall_mem_cons.mp same
      simp only [first?] at inductionHypothesis ⊢
      rw [List.findSome?_cons, List.findSome?_cons, here, inductionHypothesis behind]

theorem textFor?_eq
    (environment : Environment)
    (setting : Setting) :
    environment.textFor? setting = (environment.first? setting.names).map Prod.snd := by
  rw [textFor?, first?, setting.names_eq]
  cases own : environment.nonBlank? setting.variable with
  | some text => simp [own]
  | none =>
      cases setting.alias? with
      | none => simp [own]
      | some name => cases short : environment.nonBlank? name <;> simp [own, short]

/-- A text that is there has been read. -/
theorem map_read_of_valueFor
    {Value : Type}
    {setting : Setting}
    {read : String → Option Value}
    {value? : Option Value}
    (given : environment.valueFor setting read = .ok value?) :
    (environment.textFor? setting).map read = value?.map some := by
  unfold valueFor at given
  split at given
  · next noText =>
      rw [noText, ← Except.ok.inj given]
      rfl
  · next text found =>
      split at given
      · next value readAs =>
          rw [found, ← Except.ok.inj given, Option.map_some, readAs]
          rfl
      · cases given

theorem map_read_of_logFormat
    {text? : Option String}
    {format? : Option LogFormat}
    (given : text?.mapM LogFormat.ofText = .ok format?) :
    text?.map Vocabulary.ofLooseWord? = format?.map some := by
  cases text? with
  | none =>
      obtain rfl := Except.ok.inj given
      rfl
  | some text =>
      cases word : (Vocabulary.ofLooseWord? text : Option LogFormat) with
      | none => simp [LogFormat.ofText, word] at given
      | some format =>
          simp only [Option.mapM_some, LogFormat.ofText, word] at given
          obtain rfl := Except.ok.inj given
          simp [word]

/-- The patch of an environment gives a setting what its first variable that is not blank says. -/
theorem map_ofVariable?_of_patch
    {patch : SettingsPatch}
    (given : environment.patch = .ok patch)
    (setting : Setting) :
    ((environment.first? setting.names).map Prod.snd).map setting.ofVariable? =
      (patch.value? setting).map some := by
  simp only [Environment.patch, bind_eq_ok_iff] at given
  obtain ⟨databaseConnections, connectionsRead, databaseTimeout, databaseTimeoutRead,
    decisionPointEnabled, enabledRead, decisionPointTimeout, decisionPointTimeoutRead,
    minTxRate, rateRead, maxTxCost, costRead, minPopularity, popularityRead,
    minStability, stabilityRead, dayStart, dayRead, afternoonStart, afternoonRead,
    nightStart, nightRead, logFormat, formatRead, made⟩ := given
  rw [← textFor?_eq, ← Except.ok.inj made]
  cases setting with
  | databaseConnections => exact map_read_of_valueFor connectionsRead
  | databaseTimeout => exact map_read_of_valueFor databaseTimeoutRead
  | decisionPointEnabled => exact map_read_of_valueFor enabledRead
  | decisionPointTimeout => exact map_read_of_valueFor decisionPointTimeoutRead
  | minTxRate => exact map_read_of_valueFor rateRead
  | maxTxCost => exact map_read_of_valueFor costRead
  | minPopularity => exact map_read_of_valueFor popularityRead
  | minStability => exact map_read_of_valueFor stabilityRead
  | dayStart => exact map_read_of_valueFor dayRead
  | afternoonStart => exact map_read_of_valueFor afternoonRead
  | nightStart => exact map_read_of_valueFor nightRead
  | logFormat => exact map_read_of_logFormat formatRead
  | decisionPointToken =>
      change _ = ((environment.textFor? .decisionPointToken).map some).map some
      rw [Option.map_map]
      rfl
  -- The others are texts, which stand for themselves.
  | _ => rfl

end Environment

/-! ## Documents -/

namespace Toml

variable {document entries : Entries} {fields : List String} {Value : Type}
  {read : Toml → Option Value} {value? : Option Value}

/-- What a document holds at a place. -/
def heldAt? (document : Entries) (place : EntryPlace) : Option Toml :=
  match document.lookup place.table with
  | some (.table _ entries) => entries.lookup place.key
  | some (.array items) => items[place.index]?
  | _ => none

/-- Looking up a name among names and items finds the item at the index of the name. -/
theorem lookup_zip
    {items : List Toml}
    {field : String}
    {index : Nat}
    (distinct : fields.Nodup)
    (named : fields[index]? = some field)
    (full : fields.length ≤ items.length) :
    (fields.zip items).lookup field = items[index]? := by
  induction fields generalizing items index with
  | nil => cases named
  | cons first fields inductionHypothesis =>
      cases items with
      | nil => cases full
      | cons item items =>
          obtain ⟨notFirst, distinct⟩ := List.nodup_cons.mp distinct
          cases index with
          | zero =>
              obtain rfl := Option.some.inj named
              simp
          | succ index =>
              have behind : fields[index]? = some field := named
              have other : field ≠ first := by
                rintro rfl
                exact notFirst (List.mem_of_getElem? behind)
              rw [List.zip_cons_cons, List.lookup_cons, beq_false_of_ne other]
              exact inductionHypothesis distinct behind (Nat.le_of_succ_le_succ full)

/-- The entries of a section are those that the document holds at its places. -/
theorem lookup_of_sectionEntries?
    {place : EntryPlace}
    (found : sectionEntries? document place.table fields = some entries)
    (distinct : fields.Nodup)
    (named : fields[place.index]? = some place.key) :
    entries.lookup place.key = heldAt? document place := by
  unfold sectionEntries? at found
  unfold heldAt?
  split at found
  · next missing =>
      rw [missing, ← Option.some.inj found]
      rfl
  · next moment =>
      rw [moment, ← Option.some.inj found]
      rfl
  · next table => rw [table, Option.some.inj found]
  · next items list =>
      split at found
      · next full =>
          rw [list, ← Option.some.inj found]
          exact lookup_zip distinct named full
      · cases found
  · cases found

/-- An entry that is there has been read. -/
theorem map_read_of_readEntry?
    {place : EntryPlace}
    (given : readEntry? entries place.key read = some value?)
    (found : sectionEntries? document place.table fields = some entries)
    (distinct : fields.Nodup)
    (named : fields[place.index]? = some place.key) :
    (heldAt? document place).map read = value?.map some := by
  rw [← lookup_of_sectionEntries? found distinct named]
  unfold readEntry? at given
  split at given
  · next missing =>
      rw [missing, ← Option.some.inj given]
      rfl
  · next entry held =>
      obtain ⟨value, readAs, rfl⟩ := Option.map_eq_some_iff.mp given
      rw [held, Option.map_some, readAs]
      rfl

end Toml

namespace FileSettings

theorem map_ofText?_of_readClock
    {setting : Setting}
    {text? : Option String}
    {time? : Option ClockTime}
    (given : text?.mapM (readClock setting) = .ok time?) :
    text?.map ClockTime.ofText? = time?.map some := by
  cases text? with
  | none =>
      obtain rfl := Except.ok.inj given
      rfl
  | some text =>
      cases clock : ClockTime.ofText? text with
      | none => simp [readClock, clock] at given
      | some time =>
          simp only [Option.mapM_some, readClock, clock] at given
          obtain rfl := Except.ok.inj given
          simp [clock]

/-- A clock time that a document holds as a text has been read as a clock time. -/
theorem map_clock_of_text
    {held? : Option Toml}
    {text? : Option String}
    {time? : Option ClockTime}
    (textRead : held?.map Toml.asText? = text?.map some)
    (clockRead : text?.map ClockTime.ofText? = time?.map some) :
    held?.map (fun entry => entry.asText?.bind ClockTime.ofText?) = time?.map some := by
  cases held? with
  | none =>
      obtain rfl : text? = none := by simpa using textRead.symm
      simpa using clockRead
  | some entry =>
      cases text? with
      | none => cases textRead
      | some text =>
          have isText : entry.asText? = some text := Option.some.inj textRead
          simpa [isText] using clockRead

/-- The patch of a document gives a setting what the document holds at its place. -/
theorem map_ofEntry?_of_complete
    {document : Toml.Entries}
    {given : FileSettings}
    {patch : SettingsPatch}
    (read : ofDocument? document = some given)
    (completed : given.complete = .ok patch)
    (setting : Setting) :
    (Toml.heldAt? document setting.place).map setting.ofEntry? =
      (patch.value? setting).map some := by
  obtain ⟨database, databaseFound, read⟩ := Option.bind_eq_some_iff.mp read
  obtain ⟨decisionPoint, decisionPointFound, read⟩ := Option.bind_eq_some_iff.mp read
  obtain ⟨selection, selectionFound, read⟩ := Option.bind_eq_some_iff.mp read
  obtain ⟨windows, windowsFound, read⟩ := Option.bind_eq_some_iff.mp read
  obtain ⟨log, logFound, read⟩ := Option.bind_eq_some_iff.mp read
  obtain ⟨databaseUrl, urlRead, read⟩ := Option.bind_eq_some_iff.mp read
  obtain ⟨databaseConnections, connectionsRead, read⟩ := Option.bind_eq_some_iff.mp read
  obtain ⟨databaseTimeout, databaseTimeoutRead, read⟩ := Option.bind_eq_some_iff.mp read
  obtain ⟨decisionPointEnabled, enabledRead, read⟩ := Option.bind_eq_some_iff.mp read
  obtain ⟨decisionPointUrl, baseUrlRead, read⟩ := Option.bind_eq_some_iff.mp read
  obtain ⟨decisionPointTimeout, decisionPointTimeoutRead, read⟩ := Option.bind_eq_some_iff.mp read
  obtain ⟨decisionPointToken, tokenRead, read⟩ := Option.bind_eq_some_iff.mp read
  obtain ⟨minTxRate, rateRead, read⟩ := Option.bind_eq_some_iff.mp read
  obtain ⟨maxTxCost, costRead, read⟩ := Option.bind_eq_some_iff.mp read
  obtain ⟨minPopularity, popularityRead, read⟩ := Option.bind_eq_some_iff.mp read
  obtain ⟨minStability, stabilityRead, read⟩ := Option.bind_eq_some_iff.mp read
  obtain ⟨logLevel, levelRead, read⟩ := Option.bind_eq_some_iff.mp read
  obtain ⟨logFormat, formatRead, read⟩ := Option.bind_eq_some_iff.mp read
  obtain ⟨dayText, dayRead, read⟩ := Option.bind_eq_some_iff.mp read
  obtain ⟨afternoonText, afternoonRead, read⟩ := Option.bind_eq_some_iff.mp read
  obtain ⟨nightText, nightRead, made⟩ := Option.bind_eq_some_iff.mp read
  obtain rfl := Option.some.inj made
  simp only [complete, bind_eq_ok_iff] at completed
  obtain ⟨dayStart, dayClock, afternoonStart, afternoonClock, nightStart, nightClock,
    patched⟩ := completed
  rw [← Except.ok.inj patched]
  cases setting with
  | databaseUrl => exact Toml.map_read_of_readEntry? urlRead databaseFound (by decide) rfl
  | databaseConnections =>
      exact Toml.map_read_of_readEntry? connectionsRead databaseFound (by decide) rfl
  | databaseTimeout =>
      exact Toml.map_read_of_readEntry? databaseTimeoutRead databaseFound (by decide) rfl
  | decisionPointEnabled =>
      exact Toml.map_read_of_readEntry? enabledRead decisionPointFound (by decide) rfl
  | decisionPointUrl =>
      exact Toml.map_read_of_readEntry? baseUrlRead decisionPointFound (by decide) rfl
  | decisionPointTimeout =>
      exact Toml.map_read_of_readEntry? decisionPointTimeoutRead decisionPointFound (by decide) rfl
  | decisionPointToken =>
      have held :
          (Toml.heldAt? document Setting.decisionPointToken.place).map Toml.asText? =
            decisionPointToken.map some :=
        Toml.map_read_of_readEntry? tokenRead decisionPointFound (by decide) rfl
      have tokens := congrArg (Option.map (Option.map some)) held
      rw [Option.map_map, Option.map_map] at tokens
      rw [SettingsPatch.value?, Option.map_map]
      exact tokens
  | minTxRate => exact Toml.map_read_of_readEntry? rateRead selectionFound (by decide) rfl
  | maxTxCost => exact Toml.map_read_of_readEntry? costRead selectionFound (by decide) rfl
  | minPopularity =>
      exact Toml.map_read_of_readEntry? popularityRead selectionFound (by decide) rfl
  | minStability =>
      exact Toml.map_read_of_readEntry? stabilityRead selectionFound (by decide) rfl
  | logLevel => exact Toml.map_read_of_readEntry? levelRead logFound (by decide) rfl
  | logFormat => exact Toml.map_read_of_readEntry? formatRead logFound (by decide) rfl
  | dayStart =>
      exact map_clock_of_text
        (Toml.map_read_of_readEntry? dayRead windowsFound (by decide) rfl)
        (map_ofText?_of_readClock dayClock)
  | afternoonStart =>
      exact map_clock_of_text
        (Toml.map_read_of_readEntry? afternoonRead windowsFound (by decide) rfl)
        (map_ofText?_of_readClock afternoonClock)
  | nightStart =>
      exact map_clock_of_text
        (Toml.map_read_of_readEntry? nightRead windowsFound (by decide) rfl)
        (map_ofText?_of_readClock nightClock)

end FileSettings

end IntentPolicy
