import TunnelPorts.Config.Decode
import TunnelPorts.Config.Environment
import TunnelPorts.FileSystem
import TunnelPorts.Log
import TunnelPorts.Toml.Document

/-!
Loading of a configuration from its layers: the defaults, then the environment, then the
configuration file, if one is named and there is one.
-/

namespace TunnelPorts.Config

-- A table that has this key stands for the key's value, whatever else it has.
def standInKey : String := "___figment_value_value"

-- No value of a file is fit for this key.
def reservedKey : String := "___figment_value_id"

mutual

-- A TOML value as part of the file layer, unless a reserved key is used in it. A date or time
-- arrives as a dictionary of its own, in which there is nothing to look for.
def Value.ofToml? : Toml.Value → Option Value
  | .string s        => some (.scalar (.string s) .file)
  | .integer n       => some (.scalar (.signed n) .file)
  | .float x         => some (.scalar (.float x) .file)
  | .boolean b       => some (.scalar (.boolean b) .file)
  | .moment          => some (.dict [] .file)
  | .array items     => do return .sequence (← sequenceOfToml? items) .file
  | .tables items    => do return .sequence (← sequenceOfToml? items) .file
  | .table _ entries => do
    let d ← Dict.ofToml? entries
    if (d.get? reservedKey).isSome then none
    else return (d.get? standInKey).getD (.dict d .file)

def sequenceOfToml? : List Toml.Value → Option (List Value)
  | []         => some []
  | v :: items => do return (← Value.ofToml? v) :: (← sequenceOfToml? items)

-- Keys of the table itself have no such meanings.
def Dict.ofToml? : Toml.Entries → Option Dict
  | []              => some []
  | (k, v) :: items => do return (k, ← Value.ofToml? v) :: (← Dict.ofToml? items)

end

def defaults : Dict :=
  [(Decode.sourceKey, .dict
    [(Decode.kindKey, .scalar (.string Source.Kind.file.name) .defaults),
      ("file_name", .scalar (.string Source.defaultFileName) .defaults)] .defaults)]

-- The configuration that the three layers make up.
def merged (env : Environment) (file : Dict) : Dict :=
  (defaults.merge env.layer).merge file

-- The layer of a configuration file that was found.
def fileLayer (fs : FileSystem) (path : String) : Except Error Dict :=
  match fs.readText path with
  | .error e => .error (.unreadable e)
  | .ok text =>
    match (Toml.parse? text).bind Dict.ofToml? with
    | some layer => .ok layer
    | none       => .error .syntaxError

-- A configuration that did not load: the file that was named, the one that was found for it, and
-- what is wrong.
structure Failure where
  named? : Option String
  found : String
  error : Error
  deriving DecidableEq, Repr

namespace Failure

def context (f : Failure) : String :=
  match f.named? with
  | some path =>
    s!"💀 Failed to parse configuration from file '{path}' and environment variables (TKX_*). Check the [source_config] table, it's the only one we read."
  | none =>
    "💀 Failed to parse configuration from environment variables (TKX_*). No file was provided, this one's all on the environment."

def message (f : Failure) : String :=
  f.error.text f.found

def chain (f : Failure) : List String :=
  [f.context, f.message]

end Failure

-- The source that the layers name. A file that is named but not found gives nothing.
def load (fs : FileSystem) (env : Environment) (named? : Option String) :
    Except Failure Source := do
  let found? := named?.bind fs.findUpward?
  let found := (found?.map (Path.shown fs.workingDirectory)).getD ""
  let explain {α : Type} (r : Except Error α) : Except Failure α :=
    r.mapError fun error => { named?, found, error }
  let file ← explain <|
    match found? with
    | some path => fileLayer fs path
    | none      => .ok []
  explain (decode (merged env file))

-- What the log says before a configuration is loaded.
def loadingNote (named? : Option String) : Log.Line where
  level := .info
  target := "tkx::app_config"
  message := "🔧 Loading configuration: " ++ Text.quoted (named?.getD "")

end TunnelPorts.Config
