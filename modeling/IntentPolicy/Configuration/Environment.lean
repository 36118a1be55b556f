import IntentPolicy.Configuration.Settings

namespace IntentPolicy

/-!
# Environment

Environment variables, the variable that belongs to a setting, and the replacement of
`${NAME}` in a text by the value of a variable.  The replacement goes from left to
right once; what a variable brought in is not looked at again.  A variable whose value is
no text is set, but has nothing to read or to put in.
-/

/-- Why there is no configuration. -/
inductive ConfigurationError where
  | unreadableFile (path reason : String)
  | malformedFile (path : String)
  | missingFile (path : String)
  | unsetVariable (name : String)
  | openInterpolation
  | badVariable (name value : String)
  | flawed (flaw : SettingsFlaw)
  deriving Repr, DecidableEq

/-- The wording of the error. -/
def ConfigurationError.message : ConfigurationError → String
  | .unreadableFile path reason => s!"could not read config file `{path}`: {reason}"
  | .malformedFile path => s!"could not parse config file `{path}`: TOML parse error"
  | .missingFile path => s!"required config file was not found: `{path}`"
  | .unsetVariable name => s!"environment variable interpolation failed for `{name}`"
  | .openInterpolation => "unterminated environment interpolation expression"
  | .badVariable name value => s!"invalid environment override for `{name}`: `{value}`"
  | .flawed flaw => s!"configuration validation failed: {flaw.message}"

/-- The value of a variable, which need not be a text. -/
inductive VariableValue where
  | text (content : String)
  /-- Bytes that do not spell a text. -/
  | undecodable
  deriving Repr, DecidableEq

instance : Coe String VariableValue := ⟨.text⟩

/-- The text that a value is, if it is one. -/
def VariableValue.text? : VariableValue → Option String
  | .text content => some content
  | .undecodable => none

/-- The variables of an environment with their values. -/
abbrev Environment := List (String × VariableValue)

/-- The name of the variable that belongs to a dotted key. -/
def variableName (key : String) : String :=
  let underscored := key.toList.map fun character => if character = '.' then '_' else character
  asciiUppered ("CHAINPOLICY_" ++ String.ofList underscored)

/-- The name of the variable that belongs to a setting. -/
def Setting.variable (setting : Setting) : String :=
  variableName (wordOf setting)

/-- A second, shorter name of the variable of a setting. -/
def Setting.alias? : Setting → Option String
  | .logLevel => some "CHAINPOLICY_LOG_LEVEL"
  | .logFormat => some "CHAINPOLICY_LOG_FORMAT"
  | _ => none

namespace Environment

/-- The text of a variable that is set to one. -/
def text? (environment : Environment) (name : String) : Option String :=
  (environment.lookup name).bind VariableValue.text?

/-- The text of a variable, unless it is blank. -/
def nonBlank? (environment : Environment) (name : String) : Option String :=
  (environment.text? name).filter fun text => !isAllBlank text

/-- The text that the environment has for a setting, under its own name or the shorter one. -/
def textFor? (environment : Environment) (setting : Setting) : Option String :=
  (environment.nonBlank? setting.variable).or (setting.alias?.bind environment.nonBlank?)

/-- The value that the environment has for a setting, an error if its text cannot be read. -/
def valueFor {Value : Type} (environment : Environment) (setting : Setting)
    (read : String → Option Value) : Except ConfigurationError (Option Value) :=
  match environment.textFor? setting with
  | none => .ok none
  | some text =>
      match read text with
      | some value => .ok (some value)
      | none => .error (.badVariable setting.variable text)

/-- Replace every `${NAME}` up to the nearest closing brace by the text of the variable. -/
def interpolate (environment : Environment) (characters : List Char) :
    Except ConfigurationError (List Char) :=
  match characters with
  | [] => .ok []
  | '$' :: '\x7b' :: rest =>
      match _closing : rest.dropWhile (· ≠ '\x7d') with
      | [] => .error .openInterpolation
      | _ :: following => do
          let name := String.ofList (rest.takeWhile (· ≠ '\x7d'))
          match environment.text? name with
          | none => throw (.unsetVariable name)
          | some text => return text.toList ++ (← interpolate environment following)
  | character :: rest => do
      return character :: (← interpolate environment rest)
termination_by characters.length
decreasing_by
  · have bounded : (rest.dropWhile (· ≠ '\x7d')).length ≤ rest.length :=
      (List.dropWhile_sublist _).length_le
    rw [_closing] at bounded
    simp only [List.length_cons] at bounded ⊢
    omega
  · simp

/-- The names that replacing can ask the environment for, with some that it never does. -/
def mentionedNames : List Char → List String
  | [] => []
  | '$' :: '\x7b' :: rest =>
      String.ofList (rest.takeWhile (· ≠ '\x7d')) :: mentionedNames rest
  | _ :: rest => mentionedNames rest

/-- The names of the variables that settings are read from. -/
def settingNames : List String :=
  (Vocabulary.all : List Setting).flatMap fun setting => setting.variable :: setting.alias?.toList

end Environment

end IntentPolicy
