import ShaderShrink.Files.World
import ShaderShrink.Json.Reader
import ShaderShrink.Settings.Kind
import ShaderShrink.Settings.VariableFile

/-!
# Looking settings up

Settings that nobody gives directly are looked up: first among the variables of the environment, then in
files of variables, then in directories with a file for each setting.  The user may say where and how
under names of their own, which belong to no setting.
-/

namespace ShaderShrink

namespace Settings

/-- The names of all settings. -/
def names : List String :=
  ["reduction_kind", "reference_image", "threshold", "timeout", "max_steps", "retry_limit", "verbose",
    "skip_render", "seed", "error_string", "server", "token", "reduce_everywhere", "stop_on_error",
    "swiftshader", "continue_previous_reduction", "keep_rejected", "render_command",
    "validator_command"]

/-- The settings that are lists. -/
def listNames : List String := ["render_command", "validator_command"]

/-- What the names of environment variables for settings begin with. -/
def environmentPrefix : String := "SHADER_REDUCER_"

/-- Text in lower case. -/
def lowerText (text : String) : String := String.ofList (Text.lower text.toList)

end Settings

/-- How settings are looked up. -/
structure Lookup where
  /-- What the names of variables and files begin with. -/
  namePrefix : String
  /-- Whether names have to be given in the right case. -/
  exactCase : Bool
  /-- Whether empty variables do not count. -/
  skipsEmpty : Bool
  /-- The text of a variable that stands for no value. -/
  absentText : Option String
  /-- Whether kinds may be written in capitals. -/
  capitalKinds : Bool
  /-- What stands between the name of a list and the name of a part of it. -/
  separator : Option String
  variableFiles : List Path
  directories : List Path

namespace Lookup

open Settings (names listNames lowerText)

/-- The names under which the user says how settings are looked up, and some that mean nothing here. -/
def optionNames : List String :=
  ["_case_sensitive", "_nested_model_default_partial_update", "_env_prefix", "_env_prefix_target",
    "_env_file", "_env_file_encoding", "_env_ignore_empty", "_env_nested_delimiter",
    "_env_nested_max_split", "_env_parse_none_str", "_env_parse_enums", "_cli_prog_name",
    "_cli_parse_args", "_cli_settings_source", "_cli_parse_none_str", "_cli_hide_none_type",
    "_cli_avoid_json", "_cli_enforce_required", "_cli_use_class_docs_for_groups", "_cli_exit_on_error",
    "_cli_prefix", "_cli_flag_prefix_char", "_cli_implicit_flags", "_cli_ignore_unknown_args",
    "_cli_kebab_case", "_cli_shortcuts", "_secrets_dir", "_build_sources"]

/-- The value of an option; null stands for its absence. -/
def option? (fields : List (String × Json)) (name : String) : Option Json :=
  (Json.field? name fields).filter (· != .null)

/-- Whether an option is turned on. -/
def turnsOn : Option Json → Bool
  | none | some .null => false
  | some (.bool value) => value
  | some (.int n) => n != 0
  | some (.double value) => !value.sameValue (Double.ofInt 0)
  | some (.str text) => !text.isEmpty
  | some (.arr items) => !items.isEmpty
  | some (.obj fields) => !fields.isEmpty

/-- What the names begin with. -/
def prefixOption : Option Json → Except Fault String
  | none => .ok Settings.environmentPrefix
  | some (.str text) => .ok text
  | some (.arr _) | some (.obj _) => .error .environment
  | some _ => .error .wrongType

/-- A path in a list of paths. -/
def pathItem : Json → Except Fault Path
  | .str text => .ok (Path.ofText text)
  | _ => .error .wrongType

/-- One path or several. -/
def pathsOption : Option Json → Except Fault (List Path)
  | none => .ok []
  | some (.str text) => .ok [Path.ofText text]
  | some (.arr items) => items.mapM pathItem
  | some (.obj fields) => .ok (fields.map fun field => Path.ofText field.1)
  | some _ => .error .wrongType

/-- A text that is not empty. -/
def textOption? : Option Json → Option String
  | some (.str text) => if text.isEmpty then none else some text
  | _ => none

/-- How the fields say that settings are looked up. -/
def ofFields (fields : List (String × Json)) : Except Fault Lookup := do
  let option := option? fields
  let namePrefix ← prefixOption (option "_env_prefix")
  let variableFiles ← pathsOption (option "_env_file")
  let directories ← pathsOption (option "_secrets_dir")
  return {
    namePrefix, variableFiles, directories
    exactCase := turnsOn (option "_case_sensitive")
    skipsEmpty := turnsOn (option "_env_ignore_empty")
    absentText :=
      match option "_env_parse_none_str" with
      | some (.str text) => some text
      | _ => none
    capitalKinds := turnsOn (option "_env_parse_enums")
    separator := textOption? (option "_env_nested_delimiter")
  }

/-- A name as it is compared. -/
def folded (lookup : Lookup) (name : String) : String := if lookup.exactCase then name else lowerText name

/-- The name of the variable or file for a setting. -/
def outerName (lookup : Lookup) (name : String) : String := lookup.folded (lookup.namePrefix ++ name)

/-- The variables that count, under the names with which they are compared. -/
def countedVariables (lookup : Lookup) (found : VariableFile.Variables) : VariableFile.Variables :=
  (found.filter fun entry => !(lookup.skipsEmpty && entry.2 = some "")).map fun entry =>
    (lookup.folded entry.1, entry.2)

/-- The value that the text of a list stands for; lists are written as JSON. -/
def listValue (text : String) : Except Fault (Option Json) :=
  match Json.parseWith? .lenient text.toList with
  | none => .error .environment
  | some .null => .ok none
  | some value => .ok (some value)

/-- Whether there are variables for parts of a list. -/
def hasParts (lookup : Lookup) (entries : VariableFile.Variables) (name : String) : Bool :=
  lookup.separator.any fun separator =>
    entries.any fun entry => entry.1.startsWith (lookup.outerName name ++ separator)

/-- The value that the text of a variable stands for. -/
def textValue (lookup : Lookup) (name text : String) : Except Fault (Option Json) :=
  if lookup.absentText = some text then .ok (some .null)
  else if listNames.contains name then listValue text
  else if lookup.capitalKinds && name = "reduction_kind" then
    match ReductionKind.all.find? fun kind => kind.name.toUpper = text with
    | some kind => .ok (some (.str kind.name))
    | none => .ok (some (.str text))
  else .ok (some (.str text))

/-- The value of the variables for a setting.  Variables for parts make a list no list. -/
def variableValue (lookup : Lookup) (entries : VariableFile.Variables) (name : String) :
    Except Fault (Option Json) :=
  match (VariableFile.lookup? entries (lookup.outerName name)).join with
  | some text => textValue lookup name text
  | none =>
    .ok (if listNames.contains name && lookup.hasParts entries name then some (.obj []) else none)

/-- The values of all settings that have one. -/
def valuesBy {m : Type → Type} [Monad m] (value : String → m (Option Json)) : m (List (String × Json)) := do
  let values ← names.mapM fun name => return (← value name).map fun value => (name, value)
  return values.filterMap id

/-- The variables of files that belong to no setting. -/
def strangers (lookup : Lookup) (entries : VariableFile.Variables) (known : List String) :
    List (String × Json) :=
  entries.filterMap fun entry =>
    let used := names.any fun name =>
      entry.1 = lookup.outerName name ||
        listNames.contains name && entry.1.startsWith (lookup.outerName name)
    let shadowed := known.contains entry.1 || !lookup.namePrefix.isEmpty && names.contains entry.1
    match entry.2 with
    | some text => if text.isEmpty || used || shadowed then none else some (entry.1, .str text)
    | none => none

/-- What was looked up: the values of settings, and values that belong to no setting. -/
structure Found where
  values : List (String × Json)
  strangers : List (String × Json)

variable {σ : Type}

/-- The variables of some files. -/
def readFiles (environment : VariableFile.Variables) : List Path → Action σ VariableFile.Variables
  | [] => pure []
  | path :: rest => do
    if ← Action.isFile path then
      let found := VariableFile.read environment (← Action.readText path)
      return found ++ (← readFiles environment rest)
    else readFiles environment rest

/-- The file for a setting in a directory. -/
def fileIn? (lookup : Lookup) (tree : FileTree) (directory : Path) (name : String) : Option Path := do
  let place ← (tree.locate directory).toOption
  let found ← (tree.children place).find? fun child =>
    child = lookup.outerName name || !lookup.exactCase && lowerText child = lookup.outerName name
  let path := directory.child found
  if tree.isFile path then some path else none

/-- The value of the file for a setting in the last of some directories that has one. -/
def fileValue (lookup : Lookup) (directories : List Path) (name : String) :
    Action σ (Option Json) := do
  let tree ← Action.files
  match directories.reverse.findSome? fun directory => lookup.fileIn? tree directory name with
  | none => pure none
  | some path =>
    match (tree.read path).toOption.bind Text.read? with
    | none => throw .environment
    | some content =>
      let text := String.ofList (Text.trim content)
      if listNames.contains name then Action.ofExcept (listValue text) else pure (some (.str text))

/-- The directories that are there; what is there has to be a directory. -/
def usableDirectories (lookup : Lookup) : Action σ (List Path) := do
  let tree ← Action.files
  let present := lookup.directories.filter tree.has
  if present.all tree.isDirectory then pure present else throw .environment

/-- Looks all settings up. -/
def run (lookup : Lookup) (environment : List (String × String)) : Action σ Found := do
  let outer := environment.map fun entry => (entry.1, some entry.2)
  let entries := lookup.countedVariables outer
  let inFiles := lookup.countedVariables (← readFiles outer lookup.variableFiles)
  let first ← valuesBy fun name => Action.ofExcept (lookup.variableValue entries name)
  let second ← valuesBy fun name => Action.ofExcept (lookup.variableValue inFiles name)
  let directories ← usableDirectories lookup
  let third ← valuesBy (fileValue lookup directories)
  return ⟨first ++ second ++ third, lookup.strangers inFiles (second.map (·.1))⟩

end Lookup

end ShaderShrink
