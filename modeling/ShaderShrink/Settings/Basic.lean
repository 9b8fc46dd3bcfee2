import ShaderShrink.Settings.Lookup
import ShaderShrink.Settings.Reading

/-!
# Settings

The settings of a reduction come from four places: what the user says directly goes before a
configuration file, that before the environment, and that before the defaults.  All problems of all
settings are found together.
-/

namespace ShaderShrink

/-- The settings of a reduction. -/
structure Settings where
  kind : ReductionKind
  referenceImage : Option Path
  threshold : Double
  timeout : Nat
  maxSteps : Nat
  retryLimit : Nat
  verbose : Bool
  skipRender : Bool
  seed : Int
  errorString : Option String
  server : Option String
  token : Option String
  reduceEverywhere : Bool
  stopOnError : Bool
  softwareRenderer : Bool
  continuing : Bool
  keepRejected : Bool
  renderCommand : List String
  validatorCommand : List String

namespace Settings

/-- The values of `server` that mean this machine. -/
def localServers : List String := ["", "."]

/-- Whether jobs are sent to a server. -/
def usesServer (settings : Settings) : Bool :=
  settings.server.any fun server => !localServers.contains server

/-- What surrounds the program when settings are loaded. -/
structure Surroundings where
  environment : List (String × String)
  /-- The seed of a reduction for which none is given. -/
  freshSeed : Int

/-- The value given for a setting: the first one under its name, in whatever case unless that matters. -/
def given? (exactCase : Bool) (name : String) (values : List (String × Json)) :
    Option (String × Json) :=
  values.find? fun value => (if exactCase then value.1 else lowerText value.1) = name

/-- The problems found so far. -/
abbrev Checking := StateM (List (List String × SettingProblem))

/-- Reads a setting, and records its problem if it has one. -/
def check {α : Type} (values : List (String × Json)) (name : String)
    (read : Json → Except SettingProblem α) (default : α) : Checking α :=
  match Json.field? name values with
  | none => pure default
  | some value =>
    match read value with
    | .ok a => pure a
    | .error problem => do
      modify (· ++ [([name], problem)])
      pure default

/-- The texts of a list, and the problems of its items. -/
def itemsFrom (name : String) : Nat → List Json → Checking (List String)
  | _, [] => pure []
  | index, item :: rest => do
    match readText item with
    | .ok text => return text :: (← itemsFrom name (index + 1) rest)
    | .error problem =>
      modify (· ++ [([name, toString index], problem)])
      itemsFrom name (index + 1) rest

/-- Reads a setting that is a list of texts. -/
def checkList (values : List (String × Json)) (name : String) (default : List String) :
    Checking (List String) :=
  match Json.field? name values with
  | none => pure default
  | some (.arr items) => itemsFrom name 0 items
  | some _ => do
    modify (· ++ [([name], .notList)])
    pure default

/-- Records the names that belong to no setting. -/
def checkNames (strangers : List String) : Checking Unit :=
  modify (· ++ strangers.map fun name => ([name], .unknownSetting))

/-- The command that renders a shader, if none is given. -/
def renderTemplate : List String := ["get_image", "\x7bshader\x7d", "--output", "\x7bimage\x7d"]

/-- The command that validates a shader, if none is given. -/
def validatorTemplate : List String := ["glslangValidator", "\x7bshader\x7d"]

/-- Reads all settings from the values under their names, with `strangers` as further names. -/
def checkAll (values : List (String × Json)) (strangers : List String) (freshSeed : Int) :
    Checking Settings := do
  checkNames strangers
  return {
    kind := ← check values "reduction_kind" readKind .noImage
    referenceImage := ← check values "reference_image" (readOptional readPath) none
    threshold := ← check values "threshold" readMagnitude (Double.ofInt 100)
    timeout := ← check values "timeout" readPositive 30
    maxSteps := ← check values "max_steps" readCount 250
    retryLimit := ← check values "retry_limit" readCount 2
    verbose := ← check values "verbose" readFlag false
    skipRender := ← check values "skip_render" readFlag false
    seed := ← check values "seed" readWhole freshSeed
    errorString := ← check values "error_string" (readOptional readText) none
    server := ← check values "server" (readOptional readText) none
    token := ← check values "token" (readOptional readText) none
    reduceEverywhere := ← check values "reduce_everywhere" readFlag false
    stopOnError := ← check values "stop_on_error" readFlag false
    softwareRenderer := ← check values "swiftshader" readFlag false
    continuing := ← check values "continue_previous_reduction" readFlag false
    keepRejected := ← check values "keep_rejected" readFlag true
    renderCommand := ← checkList values "render_command" renderTemplate
    validatorCommand := ← checkList values "validator_command" validatorTemplate
  }

/-- The given values under the names of their settings. -/
def namedValues (exactCase : Bool) (given : List (String × Json)) : List (String × Json) :=
  names.filterMap fun name => (given? exactCase name given).map fun value => (name, value.2)

/-- The given names that belong to no setting. -/
def strangers (exactCase : Bool) (given : List (String × Json)) : List String :=
  (given.map (·.1)).filter fun name =>
    !names.contains (if exactCase then name else lowerText name)

/-- The settings from the values given and those that are looked up. -/
def ofValues {σ : Type} (given : List (String × Json)) (surroundings : Surroundings) :
    Action σ Settings := do
  let lookup ← Action.ofExcept (Lookup.ofFields given)
  let given := given.filter fun value => !Lookup.optionNames.contains value.1
  let found ← lookup.run surroundings.environment
  let (settings, problems) :=
    (checkAll (namedValues lookup.exactCase given ++ found.values)
      (strangers lookup.exactCase given ++ found.strangers.map (·.1)).eraseDups
      surroundings.freshSeed).run []
  if problems.isEmpty then pure settings else throw (.settings problems)

/-- The fields of a configuration file. -/
def readConfig {σ : Type} (config : Path) : Action σ (List (String × Json)) := do
  match Json.ofBytes? (← Action.readBytes config) with
  | none => throw (.usage ("config file " ++ config.text ++ " is not valid JSON"))
  | some (.obj fields) => pure fields
  | some _ => throw (.usage ("config file " ++ config.text ++ " must hold a JSON object"))

/-- Loads the settings: the overrides that are not null go before those of the configuration file. -/
def load {σ : Type} (config : Option Path) (overrides : List (String × Json))
    (surroundings : Surroundings) : Action σ Settings := do
  let base ← match config with
    | none => pure []
    | some path => readConfig path
  let given := overrides.foldl (fun fields (name, value) =>
    if value == .null then fields else Json.setField name value fields) base
  ofValues given surroundings

end Settings

end ShaderShrink
