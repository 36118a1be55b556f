import IntentPolicy.Proofs.Configuration.Precedence

namespace IntentPolicy

/-!
# Which layer a setting is said to come from

The layer that is reported is worked out without the loading, from the names of variables
and from the file as it is written.  It is the layer that the load has taken the value from
as long as no variable is blank or no text, none has the shorter name, and the file holds for
the setting what it says before any variable is put in.
-/

namespace Toml

/-- A section that is there is no list and stands for no moment. -/
def isOrdinarySection : Option Toml → Bool
  | some (.array _) => false
  | some (.table _ entries) => standing entries == .table
  | _ => true

/-- A document is read for one of its sections as it is read freely. -/
structure IsOrdinaryAt (document : Entries) (name : String) : Prop where
  free : isFreeTable document = true
  whole : standing document = .table
  part : isOrdinarySection (document.lookup name) = true

/-- In an ordinary section the path of a key leads to what stands at its place. -/
theorem IsOrdinaryAt.namesPath_eq
    {document : Entries}
    {place : EntryPlace}
    (ordinary : IsOrdinaryAt document place.table) :
    namesPath [place.table, place.key] document = (heldAt? document place).isSome := by
  obtain ⟨free, whole, part⟩ := ordinary
  cases found : document.lookup place.table with
  | none => simp [namesPath, holdsPath, heldAt?, found]
  | some value =>
      rw [found] at part
      cases value with
      | table origin entries =>
          have isTable : standing entries = .table := beq_iff_eq.mp part
          simp [namesPath, holdsPath, heldAt?, entries?, found, isTable, free, whole]
      | array items => cases part
      | _ => simp [namesPath, holdsPath, heldAt?, entries?, found]

end Toml

namespace Environment

variable {environment : Environment}

theorem nonBlank?_of_first?
    {names : List String}
    {name text : String}
    (named : environment.first? names = some (name, text)) :
    environment.nonBlank? name = some text := by
  obtain ⟨other, -, found⟩ := List.exists_of_findSome?_eq_some named
  obtain ⟨_, held, same⟩ := Option.map_eq_some_iff.mp found
  obtain ⟨rfl, rfl⟩ := Prod.mk.inj same
  exact held

theorem first?_of_nonBlank?
    {setting : Setting}
    {text : String}
    (held : environment.nonBlank? setting.variable = some text) :
    environment.first? setting.names = some (setting.variable, text) := by
  rw [first?, setting.names_eq, List.findSome?_cons, held]
  rfl

theorem lookup_of_nonBlank?
    {name text : String}
    (held : environment.nonBlank? name = some text) :
    environment.lookup name = some (.text text) := by
  obtain ⟨value, found, isText⟩ :=
    Option.bind_eq_some_iff.mp (Option.filter_eq_some_iff.mp held).1
  cases value with
  | text content =>
      obtain rfl := Option.some.inj isText
      exact found
  | undecodable => cases isText

end Environment

namespace SettingSource

/-- The layer of the file, if there is one for a setting, and else that of the defaults. -/
def ofFile? : Option String → SettingSource
  | some path => .file path
  | none => .default

theorem ofFile?_inj
    {path? other? : Option String} :
    ofFile? path? = ofFile? other? ↔ path? = other? := by
  cases path? <;> cases other? <;> simp [ofFile?]

theorem variable_ne_ofFile?
    (name : String)
    (path? : Option String) :
    SettingSource.variable name ≠ ofFile? path? := by
  cases path? <;> simp [ofFile?]

end SettingSource

namespace LoadRequest

variable {request : LoadRequest} {files : FileTree} {environment : Environment}
  {setting : Setting} {settings : Settings} {value : setting.Value}

/-- The file that is read, if it gives the setting a value as it is written. -/
def written? (request : LoadRequest) (files : FileTree) (setting : Setting) : Option String :=
  ((request.file? files).filter fun (_, node) => fileNames node setting).map Prod.fst

/-- The layer that is said to supply a setting is the first one that seems to have it. -/
theorem source_eq
    (request : LoadRequest)
    (files : FileTree)
    (environment : Environment)
    (setting : Setting) :
    request.source files environment setting =
      if (request.overrides.value? setting).isSome then .override
      else if (environment.lookup setting.variable).isSome then .variable setting.variable
      else .ofFile? (request.written? files setting) := by
  rw [source, Overrides.names_eq, written?]
  cases found : request.file? files with
  | none => rfl
  | some file =>
      obtain ⟨path, node⟩ := file
      cases named : fileNames node setting with
      | true => simp [SettingSource.ofFile?, Option.filter_some, named]
      | false => simp [SettingSource.ofFile?, Option.filter_some, named]

/-- The layer that supplies a setting with some value. -/
def supplier (request : LoadRequest) (files : FileTree) (environment : Environment)
    (setting : Setting) : SettingSource :=
  if (request.overrides.value? setting).isSome then .override
  else
    match environment.first? setting.names with
    | some (name, _) => .variable name
    | none => .ofFile? ((request.held? files environment setting).map Prod.fst)

/-- Only one layer supplies a setting. -/
theorem Supplies.source_eq
    {source : SettingSource}
    (supplied : request.Supplies files environment setting source value) :
    source = request.supplier files environment setting := by
  rcases supplied with given | ⟨notGiven, named, -⟩ | ⟨notGiven, notNamed, held, -⟩ |
      ⟨notGiven, notNamed, notHeld⟩
  · simp [supplier, given]
  · simp [supplier, notGiven, named]
  · simp [supplier, notGiven, notNamed, held, SettingSource.ofFile?]
  · simp [supplier, notGiven, notNamed, notHeld, SettingSource.ofFile?]

/-- What is read of a file is what is written there: nothing is replaced in its text, and the
section of the setting is an ordinary one. -/
def ReadsAsWritten (request : LoadRequest) (files : FileTree) (setting : Setting) : Prop :=
  ∀ path node, request.file? files = some (path, node) →
    ∃ content document, node = .text content ∧ ¬ ['$', '\x7b'] <:+: content.toList ∧
      Toml.ofText? content = some document ∧ Toml.IsOrdinaryAt document setting.place.table

/-- A file that reads as it is written gives a setting a value exactly if its document holds
one. -/
theorem written?_eq
    (asWritten : request.ReadsAsWritten files setting)
    (environment : Environment) :
    request.written? files setting =
      (request.held? files environment setting).map Prod.fst := by
  cases found : request.file? files with
  | none => simp [written?, held?, document?, found]
  | some file =>
      obtain ⟨path, node⟩ := file
      obtain ⟨content, document, rfl, plain, spelled, ordinary⟩ := asWritten path node found
      have documentRead : request.document? files environment = some (path, document) := by
        rw [document?_of_plain found plain environment, spelled, Option.map_some]
      have named :
          fileNames (.text content) setting =
            (Toml.heldAt? document setting.place).isSome := by
        rw [fileNames, setting.path_eq, spelled, Option.any_some, ordinary.namesPath_eq]
      simp only [written?, found, held?, documentRead, Option.filter_some, Option.bind_some,
        Option.map_map, named]
      cases Toml.heldAt? document setting.place <;> rfl

/-- Where the layer that is reported is the one that supplies. -/
theorem source_eq_supplier_iff :
    request.source files environment setting = request.supplier files environment setting ↔
      (request.overrides.value? setting).isSome ∨
        (environment.nonBlank? setting.variable).isSome ∨
        (environment.lookup setting.variable = none ∧
          environment.first? setting.names = none ∧
          request.written? files setting =
            (request.held? files environment setting).map Prod.fst) := by
  rw [source_eq, supplier]
  cases given : request.overrides.value? setting with
  | some value => simp
  | none =>
      cases own : environment.nonBlank? setting.variable with
      | some text =>
          simp [Environment.lookup_of_nonBlank? own, Environment.first?_of_nonBlank? own]
      | none =>
          cases held : environment.lookup setting.variable with
          | some value =>
              -- A variable without a text is reported, but is none of those that count.
              cases named : environment.first? setting.names with
              | none => simp [SettingSource.variable_ne_ofFile?]
              | some first =>
                  obtain ⟨name, text⟩ := first
                  have notOwn : setting.variable ≠ name := by
                    rintro rfl
                    cases own.symm.trans (Environment.nonBlank?_of_first? named)
                  simp [notOwn]
          | none =>
              cases named : environment.first? setting.names with
              | none => simp [SettingSource.ofFile?_inj]
              | some first => simp [(SettingSource.variable_ne_ofFile? _ _).symm]

end LoadRequest

/--
The layer that is reported for a setting of a loaded configuration supplies it exactly if it is
the command line, the own variable of the setting, set to a text that is not blank, or the file
or the defaults where that variable is not set at all, no other one counts, and the file as
written has the setting exactly if its document holds it.  The last is so of every file that
reads as written.
-/
theorem reported_source_supplies_iff
    {request : LoadRequest}
    {files : FileTree}
    {environment : Environment}
    {settings : Settings}
    (loaded : request.load files environment = .ok settings)
    (setting : Setting) :
    (request.Supplies files environment setting (request.source files environment setting)
        (settings.value setting) ↔
      (request.overrides.value? setting).isSome ∨
        (environment.nonBlank? setting.variable).isSome ∨
        (environment.lookup setting.variable = none ∧
          environment.first? setting.names = none ∧
          request.written? files setting =
            (request.held? files environment setting).map Prod.fst)) ∧
    (request.ReadsAsWritten files setting →
      request.written? files setting =
        (request.held? files environment setting).map Prod.fst) := by
  refine ⟨?_, fun asWritten => LoadRequest.written?_eq asWritten environment⟩
  obtain ⟨source, supplied⟩ := LoadRequest.exists_supplies loaded setting
  have supplies_iff :
      request.Supplies files environment setting (request.source files environment setting)
          (settings.value setting) ↔
        request.source files environment setting =
          request.supplier files environment setting := by
    constructor
    · exact LoadRequest.Supplies.source_eq
    · intro same
      rw [same, ← supplied.source_eq]
      exact supplied
  rw [supplies_iff]
  exact LoadRequest.source_eq_supplier_iff

/-- With a file and the shorter name of a variable, the file is reported where it supplies, and
the defaults are where the variable does. -/
theorem reported_source_supplies_of_file :
    let request : LoadRequest := {}
    let content := "[selection]\nmin_tx_rate = 9\n"
    let files : FileTree := .ofPaths [("chainpolicy.toml", .text content)]
    let environment : Environment := [("CHAINPOLICY_LOG_LEVEL", "debug")]
    let settings : Settings := { selection := { minTxRate := 9 }, log := { level := "debug" } }
    request.load files environment = .ok settings ∧
      request.source files environment .minTxRate = .file "chainpolicy.toml" ∧
      request.Supplies files environment .minTxRate (.file "chainpolicy.toml")
        (settings.value .minTxRate) ∧
      request.source files environment .logLevel = .default ∧
      ¬ request.Supplies files environment .logLevel .default (settings.value .logLevel) := by
  intro request content files environment settings
  have loaded : request.load files environment = .ok settings := by decide +kernel
  have ofFile : request.source files environment .minTxRate = .file "chainpolicy.toml" := by
    decide +kernel
  have ofDefaults : request.source files environment .logLevel = .default := by decide +kernel
  have found : request.file? files = some ("chainpolicy.toml", .text content) := by
    decide +kernel
  have ordinary : Toml.IsOrdinaryAt ((Toml.ofText? content).getD []) "selection" :=
    ⟨by decide +kernel, by decide +kernel, by decide +kernel⟩
  have spelled : Toml.ofText? content = some ((Toml.ofText? content).getD []) := by
    have isDocument : (Toml.ofText? content).isSome := by decide +kernel
    obtain ⟨document, spelled⟩ := Option.isSome_iff_exists.mp isDocument
    rw [spelled, Option.getD_some]
  have asWritten : request.ReadsAsWritten files .minTxRate := by
    intro path node foundThere
    obtain ⟨rfl, rfl⟩ := Prod.mk.inj (Option.some.inj (found.symm.trans foundThere))
    exact ⟨_, _, rfl, by decide +kernel, spelled, ordinary⟩
  obtain ⟨rateSupplied_iff, written⟩ := reported_source_supplies_iff loaded .minTxRate
  obtain ⟨levelSupplied_iff, -⟩ := reported_source_supplies_iff loaded .logLevel
  rw [ofFile] at rateSupplied_iff
  rw [ofDefaults] at levelSupplied_iff
  refine ⟨loaded, ofFile, rateSupplied_iff.mpr ?_, ofDefaults, ?_⟩
  · exact Or.inr (Or.inr ⟨by decide +kernel, by decide +kernel, written asWritten⟩)
  · rw [levelSupplied_iff]
    rintro (given | own | ⟨-, notNamed, -⟩)
    · exact absurd given (by decide +kernel)
    · exact absurd own (by decide +kernel)
    · exact absurd notNamed (by decide +kernel)

/-- A blank variable is reported for a setting that the defaults supply. -/
theorem reported_source_misses_blank :
    let request : LoadRequest := {}
    let files : FileTree := .ofPaths []
    let environment : Environment := [("CHAINPOLICY_DATABASE_URL", " ")]
    let settings : Settings := {}
    request.load files environment = .ok settings ∧
      request.source files environment .databaseUrl = .variable "CHAINPOLICY_DATABASE_URL" ∧
      request.Supplies files environment .databaseUrl .default (settings.value .databaseUrl) ∧
      ¬ request.Supplies files environment .databaseUrl
        (.variable "CHAINPOLICY_DATABASE_URL") (settings.value .databaseUrl) := by
  intro request files environment settings
  have notNamed : environment.first? Setting.databaseUrl.names = none := by decide +kernel
  have notHeld : request.held? files environment .databaseUrl = none := by
    have noFile : request.file? files = none := by decide +kernel
    simp [LoadRequest.held?, LoadRequest.document?, noFile]
  have supplied :
      request.Supplies files environment .databaseUrl .default (settings.value .databaseUrl) :=
    .default rfl notNamed notHeld
  refine ⟨by decide +kernel, by decide +kernel, supplied, ?_⟩
  intro reported
  cases reported.source_eq.trans supplied.source_eq.symm

end IntentPolicy
