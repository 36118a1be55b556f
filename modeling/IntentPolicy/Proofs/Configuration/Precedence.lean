import IntentPolicy.Proofs.Configuration.Interpolation
import IntentPolicy.Proofs.Configuration.Provision
import IntentPolicy.Proofs.Number.ExactValue

namespace IntentPolicy

/-!
# The first layer that has a setting supplies it

A configuration that has been loaded holds in each setting what the first of the command
line, the environment, the file and the defaults has for it, and keeps every rule.  The
layers of one setting are none of another's.
-/

namespace LoadRequest

variable {request request' : LoadRequest} {files files' : FileTree}
  {environment environment' : Environment} {setting : Setting} {settings settings' : Settings}

/-- The file that is read, with the document that its text is once the variables are put in. -/
def document? (request : LoadRequest) (files : FileTree) (environment : Environment) :
    Option (String × Toml.Entries) := do
  let (path, node) ← request.file? files
  let text ← (readText path node).toOption
  let interpolated ← (environment.interpolate text.toList).toOption
  let document ← Toml.ofText? (String.ofList interpolated)
  return (path, document)

/-- The file that is read, with what its document holds for a setting. -/
def held? (request : LoadRequest) (files : FileTree) (environment : Environment)
    (setting : Setting) : Option (String × Toml) :=
  (request.document? files environment).bind fun (path, document) =>
    (Toml.heldAt? document setting.place).map fun entry => (path, entry)

/-- A layer supplies a setting with a value: it has the setting, the ones in front of it do not,
and the value is the one that it says. -/
inductive Supplies (request : LoadRequest) (files : FileTree) (environment : Environment)
    (setting : Setting) : SettingSource → setting.Value → Prop where
  | override {value : setting.Value}
      (given : request.overrides.value? setting = some value) :
      Supplies request files environment setting .override value
  | variable {name text : String} {value : setting.Value}
      (notGiven : request.overrides.value? setting = none)
      (named : environment.first? setting.names = some (name, text))
      (read : setting.ofVariable? text = some value) :
      Supplies request files environment setting (.variable name) value
  | file {path : String} {entry : Toml} {value : setting.Value}
      (notGiven : request.overrides.value? setting = none)
      (notNamed : environment.first? setting.names = none)
      (held : request.held? files environment setting = some (path, entry))
      (read : setting.ofEntry? entry = some value) :
      Supplies request files environment setting (.file path) value
  | default
      (notGiven : request.overrides.value? setting = none)
      (notNamed : environment.first? setting.names = none)
      (notHeld : request.held? files environment setting = none) :
      Supplies request files environment setting .default (({} : Settings).value setting)

/-- A file that opens no replacement is the document that it spells, whatever the environment. -/
theorem document?_of_plain
    {path content : String}
    (found : request.file? files = some (path, .text content))
    (plain : ¬ ['$', '\x7b'] <:+: content.toList)
    (environment : Environment) :
    request.document? files environment =
      (Toml.ofText? content).map fun document => (path, document) := by
  have kept := environment.interpolate_of_plain plain
  cases spelled : Toml.ofText? content with
  | none => simp [document?, found, readText, kept, spelled, Except.toOption]
  | some document => simp [document?, found, readText, kept, spelled, Except.toOption]

/-- Two loads find the same for a setting in each of their layers. -/
structure AgreesAt (setting : Setting) (request : LoadRequest) (files : FileTree)
    (environment : Environment) (request' : LoadRequest) (files' : FileTree)
    (environment' : Environment) : Prop where
  overrides : request'.overrides.value? setting = request.overrides.value? setting
  texts : environment'.first? setting.names = environment.first? setting.names
  entries :
    (request'.held? files' environment' setting).map Prod.snd =
      (request.held? files environment setting).map Prod.snd

/-- Two loads differ in the layers of one setting alone: in its override, in its variables, and
in what the document holds for it. -/
structure DiffersOnlyAt (setting : Setting) (request : LoadRequest) (files : FileTree)
    (environment : Environment) (request' : LoadRequest) (files' : FileTree)
    (environment' : Environment) : Prop where
  overrides :
    ∀ other ≠ setting, request'.overrides.value? other = request.overrides.value? other
  texts : ∀ name ∉ setting.names, environment'.text? name = environment.text? name
  entries :
    ∀ other ≠ setting,
      (request'.held? files' environment' other).map Prod.snd =
        (request.held? files environment other).map Prod.snd

theorem DiffersOnlyAt.agreesAt
    (differs :
      DiffersOnlyAt setting request files environment request' files' environment')
    {other : Setting}
    (different : other ≠ setting) :
    AgreesAt other request files environment request' files' environment' where
  overrides := differs.overrides other different
  texts := by
    apply Environment.first?_congr
    intro name named
    have sameText := differs.texts name (Setting.not_mem_names different named)
    rw [Environment.nonBlank?, Environment.nonBlank?, sameText]
  entries := differs.entries other different

/-- Where two loads agree at a setting, their layers supply it with the same value. -/
theorem Supplies.value_eq
    {source source' : SettingSource}
    {value value' : setting.Value}
    (supplied : request.Supplies files environment setting source value)
    (agree : AgreesAt setting request files environment request' files' environment')
    (supplied' : request'.Supplies files' environment' setting source' value') :
    value' = value := by
  have sameOverride := agree.overrides
  have sameVariable := agree.texts
  have sameEntry := agree.entries
  cases supplied <;> cases supplied' <;> simp_all

/-- The patch of the file layer gives a setting what the document holds for it. -/
theorem map_ofEntry?_of_filePatch
    {patch : SettingsPatch}
    (given : request.filePatch files environment = .ok patch)
    (setting : Setting) :
    ((request.held? files environment setting).map Prod.snd).map setting.ofEntry? =
      (patch.value? setting).map some := by
  unfold filePatch at given
  split at given
  · next path node found =>
      simp only [readPatch, bind_eq_ok_iff] at given
      obtain ⟨text, textRead, interpolated, putIn, given⟩ := given
      split at given
      · next fileSettings read =>
          obtain ⟨document, spelled, settingsRead⟩ := Option.bind_eq_some_iff.mp read
          have documentRead : request.document? files environment = some (path, document) := by
            simp [document?, found, textRead, putIn, spelled, Except.toOption]
          have entryRead :
              (request.held? files environment setting).map Prod.snd =
                Toml.heldAt? document setting.place := by
            simp [held?, documentRead, Function.comp_def]
          rw [entryRead]
          exact FileSettings.map_ofEntry?_of_complete settingsRead given setting
      · cases given
  · next noFile =>
      split at given
      · cases given
      · have noDocument : request.held? files environment setting = none := by
          simp [held?, document?, noFile]
        rw [noDocument, ← Except.ok.inj given]
        cases setting <;> rfl

/-- What a load that succeeds has made of its layers. -/
theorem layers_of_load
    (loaded : request.load files environment = .ok settings) :
    ∃ filePatch environmentPatch, request.filePatch files environment = .ok filePatch ∧
      environment.patch = .ok environmentPatch ∧
      settings =
        ((({} : Settings).patched filePatch).patched environmentPatch).patched
          request.overrides.patch ∧
      settings.flaws = [] := by
  simp only [load, bind_eq_ok_iff] at loaded
  obtain ⟨filePatch, fileRead, environmentPatch, environmentRead, checked⟩ := loaded
  split at checked
  · next noFlaw =>
      obtain rfl := Except.ok.inj checked
      exact ⟨filePatch, environmentPatch, fileRead, environmentRead, rfl, noFlaw⟩
  · cases checked

/-- A text or an entry that is there, and all of which have been read, is what the layer gives. -/
theorem exists_read_of_map
    {Text Value : Type}
    {text? : Option Text}
    {value? : Option Value}
    {read : Text → Option Value}
    (given : text?.map read = value?.map some) :
    (text? = none ∧ value? = none) ∨
      ∃ text value, text? = some text ∧ value? = some value ∧ read text = some value := by
  cases text? with
  | none => exact Or.inl ⟨rfl, by simpa using given.symm⟩
  | some text =>
      cases value? with
      | none => cases given
      | some value => exact Or.inr ⟨text, value, rfl, rfl, Option.some.inj given⟩

/-- Every setting of a loaded configuration is supplied by a layer. -/
theorem exists_supplies
    (loaded : request.load files environment = .ok settings)
    (setting : Setting) :
    ∃ source, request.Supplies files environment setting source (settings.value setting) := by
  obtain ⟨filePatch, environmentPatch, fileRead, environmentRead, rfl, -⟩ := layers_of_load loaded
  rw [Settings.value_patched, Overrides.value?_patch, Settings.value_patched,
    Settings.value_patched]
  have ofFile := map_ofEntry?_of_filePatch fileRead setting
  have ofEnvironment := Environment.map_ofVariable?_of_patch environmentRead setting
  cases given : request.overrides.value? setting with
  | some value => exact ⟨.override, .override given⟩
  | none =>
      rcases exists_read_of_map ofEnvironment with ⟨noText, noValue⟩ |
          ⟨text, value, texts, values, read⟩
      · have notNamed := Option.map_eq_none_iff.mp noText
        rw [noValue]
        rcases exists_read_of_map ofFile with ⟨noEntry, noValue⟩ |
            ⟨entry, value, entries, values, read⟩
        · rw [noValue]
          exact ⟨.default, .default given notNamed (Option.map_eq_none_iff.mp noEntry)⟩
        · obtain ⟨⟨path, _⟩, held, rfl⟩ := Option.map_eq_some_iff.mp entries
          rw [values]
          exact ⟨.file path, .file given notNamed held read⟩
      · obtain ⟨⟨name, _⟩, named, rfl⟩ := Option.map_eq_some_iff.mp texts
        rw [values]
        exact ⟨.variable name, .variable given named read⟩

end LoadRequest

/-- What every rule of a configuration comes to. -/
structure Settings.IsSound (settings : Settings) : Prop where
  dayFirst :
    settings.windows.dayStart.sinceMidnight < settings.windows.afternoonStart.sinceMidnight
  nightLast :
    settings.windows.afternoonStart.sinceMidnight < settings.windows.nightStart.sinceMidnight
  connections : 0 < settings.database.maxConnections.toNat
  databaseTimeout :
    1 ≤ settings.database.timeoutSeconds.toNat ∧ settings.database.timeoutSeconds.toNat ≤ 300
  decisionPointTimeout :
    1 ≤ settings.decisionPoint.timeoutSeconds.toNat ∧
      settings.decisionPoint.timeoutSeconds.toNat ≤ 300
  popularity :
    Double.zero.le settings.selection.minPopularity = true ∧
      settings.selection.minPopularity.le (.ofNat 1) = true
  stability :
    Double.zero.le settings.selection.minStability = true ∧
      settings.selection.minStability.le (.ofNat 1) = true
  cost : 0 ≤ settings.selection.maxTxCost.value

/-- A configuration without flaws is sound. -/
theorem Settings.isSound_of_flaws
    {settings : Settings}
    (noFlaw : settings.flaws = []) :
    settings.IsSound := by
  simp only [Settings.flaws, List.filterMap_eq_nil_iff, List.forall_mem_cons, ite_eq_left_iff,
    reduceCtorEq, imp_false, Bool.not_eq_true, Bool.not_eq_false] at noFlaw
  obtain ⟨-, connections, databaseTimeout, decisionPointTimeout, -, -, cost, popularity,
    stability, windows, -⟩ := noFlaw
  have timeout {seconds : UInt64} (inRange : isTimeout seconds = true) :
      1 ≤ seconds.toNat ∧ seconds.toNat ≤ 300 := by
    simpa [isTimeout] using inRange
  obtain ⟨dayFirst, nightLast⟩ := Bool.and_eq_true_iff.mp windows
  exact {
    dayFirst := of_decide_eq_true dayFirst
    nightLast := of_decide_eq_true nightLast
    connections := by
      have notZero : settings.database.maxConnections.toNat ≠ 0 := by
        intro zero
        exact of_decide_eq_true connections (UInt32.toNat_inj.mp zero)
      omega
    databaseTimeout := timeout databaseTimeout
    decisionPointTimeout := timeout decisionPointTimeout
    popularity := Bool.and_eq_true_iff.mp popularity
    stability := Bool.and_eq_true_iff.mp stability
    cost := Decimal.value_nonneg (by simpa using cost) }

/--
A configuration that is loaded holds in each setting what its first layer supplies.  Another
load that differs in the layers of one setting alone changes no other setting.  And the
configuration is sound.
-/
theorem settings_hold_first_layer
    {request : LoadRequest}
    {files : FileTree}
    {environment : Environment}
    {settings : Settings}
    (loaded : request.load files environment = .ok settings) :
    (∀ setting, ∃ source,
      request.Supplies files environment setting source (settings.value setting)) ∧
    (∀ setting request' files' environment' settings',
      request'.load files' environment' = .ok settings' →
      LoadRequest.DiffersOnlyAt setting request files environment request' files' environment' →
      ∀ other ≠ setting, settings'.value other = settings.value other) ∧
    settings.IsSound := by
  obtain ⟨_, _, -, -, -, noFlaw⟩ := LoadRequest.layers_of_load loaded
  refine ⟨LoadRequest.exists_supplies loaded, ?_, Settings.isSound_of_flaws noFlaw⟩
  intro setting request' files' environment' settings' loaded' differs other different
  obtain ⟨source, supplied⟩ := LoadRequest.exists_supplies loaded other
  obtain ⟨source', supplied'⟩ := LoadRequest.exists_supplies loaded' other
  exact supplied.value_eq (differs.agreesAt different) supplied'

/-- A file, a second variable and an override supply a setting each, and changing the variable
changes the level of the log alone. -/
theorem settings_hold_first_layer_of_three_layers :
    let request : LoadRequest := { overrides := { decisionPointEnabled := some false } }
    let content := "[pdp]\nenabled = true\n[selection]\nmin_tx_rate = 9\n"
    let files : FileTree := .ofPaths [("chainpolicy.toml", .text content)]
    let environment : Environment :=
      [("CHAINPOLICY_LOGGING_LEVEL", " "), ("CHAINPOLICY_LOG_LEVEL", "debug")]
    let environment' : Environment := [("CHAINPOLICY_LOGGING_LEVEL", "trace")]
    let settings : Settings := { selection := { minTxRate := 9 }, log := { level := "debug" } }
    let settings' : Settings := { settings with log := { level := "trace" } }
    request.load files environment = .ok settings ∧
      request.load files environment' = .ok settings' ∧
      LoadRequest.DiffersOnlyAt .logLevel request files environment request files environment' ∧
      (∀ setting, ∃ source,
        request.Supplies files environment setting source (settings.value setting)) ∧
      settings'.value .minTxRate = settings.value .minTxRate ∧ settings.IsSound := by
  intro request content files environment environment' settings settings'
  have loaded : request.load files environment = .ok settings := by decide +kernel
  have loaded' : request.load files environment' = .ok settings' := by decide +kernel
  have found : request.file? files = some ("chainpolicy.toml", .text content) := by
    decide +kernel
  have plain (environment : Environment) :=
    LoadRequest.document?_of_plain found (by decide +kernel) environment
  have differs :
      LoadRequest.DiffersOnlyAt .logLevel request files environment request files environment' :=
    { overrides := fun _ _ => rfl
      texts := by
        intro name notNamed
        simp only [Setting.names, List.mem_cons, List.not_mem_nil, or_false, not_or] at notNamed
        have notLong := beq_false_of_ne notNamed.1
        have notShort := beq_false_of_ne notNamed.2
        simp only [environment, environment', Environment.text?, List.lookup_cons, notLong,
          notShort]
      entries := fun other _ => by
        rw [LoadRequest.held?, LoadRequest.held?, plain environment, plain environment'] }
  obtain ⟨supplied, alone, sound⟩ := settings_hold_first_layer loaded
  exact ⟨loaded, loaded', differs, supplied,
    alone .logLevel request files environment' settings' loaded' differs .minTxRate (by decide),
    sound⟩

end IntentPolicy
