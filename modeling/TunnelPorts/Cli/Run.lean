import TunnelPorts.Cli.Arguments
import TunnelPorts.Config.Load
import TunnelPorts.Log.Filter
import TunnelPorts.Run

/-!
The command line. It loads the configuration, from the file its argument names if that exists, and
runs. A failure ends with exit code 1 and its messages in the log, outermost first; arguments that
cannot be understood end with exit code 2. Before anything else the log filter is read, and if it
cannot be, the command ends there with exit code 101.
-/

namespace TunnelPorts.Cli

def helpText : String :=
"🚇 Print the label:port pairs and distinct ports of every tunnel in a site/datacenter document

Usage: tkx-cli [CONFIG]

Arguments:
  [CONFIG]  TOML config file. Skipped when it doesn't exist; env vars (TKX_*) and defaults still apply [default: tkx.toml]

Options:
  -h, --help     Print help
  -V, --version  Print version
"

def versionText : String :=
  "tkx-cli 0.1.0\n"

inductive Failure
  -- It cannot be told whether the configuration file exists.
  | check (path : String) (cause : ReadError)
  | config (failure : Config.Failure)
  | run (failure : Run.Failure)
  deriving DecidableEq, Repr

namespace Failure

-- Messages from the outermost to the root of the failure.
def chain : Failure → List String
  | check path cause =>
    [s!"💀 Couldn't check whether the config file exists. Was checking here: '{path}'", cause.text]
  | config f         =>
    "💀 In tkx-cli, main, we couldn't load the config. Take a look at the file and any TKX_* env vars."
      :: f.chain
  | run f            => f.chain

def note (message : String) : Log.Line where
  level := .error
  target := "tkx_cli"
  message := message

def notes (f : Failure) : List Log.Line :=
  match f.chain with
  | []              => []
  | error :: causes => note s!"💀 error: {error}" :: causes.map fun c => note s!"⚠️  cause: {c}"

end Failure

variable {σ : Type} [Sink σ]

-- How the command ended: its exit code, its standard output and all of its log.
structure Result (σ : Type) where
  exitCode : Nat
  sink : σ
  notes : Array Log.Line

-- The source that the configuration names; its file counts only if it exists.
def source (fs : FileSystem) (env : Environment) (path : String) :
    Except Failure Source × Array Log.Line :=
  match fs.exists? path with
  | .error cause => (.error (.check path cause), #[])
  | .ok isThere  =>
    let named? := if isThere then some path else none
    ((Config.load fs env named?).mapError .config, #[Config.loadingNote named?])

-- A run with the configuration file `path`.
def runConfigured (fs : FileSystem) (env : Environment) (path : String) (sink : σ) : Result σ :=
  let (source, notes) := source fs env path
  match source with
  | .error f      => ⟨1, sink, notes ++ f.notes⟩
  | .ok source =>
    let r := runTo fs source sink
    match r.outcome with
    | .error f => ⟨1, r.sink, notes ++ r.notes ++ (Failure.run f).notes⟩
    | .ok _    => ⟨0, r.sink, notes ++ r.notes⟩

-- Texts go to standard output as they are, and nobody asks whether they arrive.
def print (text : String) (sink : σ) : Result σ :=
  ⟨0, ((Sink.writeText text : Writing σ Unit).run.run sink).2, #[]⟩

-- The command with arguments that are given.
def obey (fs : FileSystem) (env : Environment) (args : List String) (sink : σ) : Result σ :=
  match Request.ofArguments? args with
  | none             => ⟨2, sink, #[]⟩
  | some .help       => print helpText sink
  | some .version    => print versionText sink
  | some (.run path) => runConfigured fs env path sink

-- The variable that says which lines of the log are shown.
def logVariable : String := "RUST_LOG"

def filter? (env : Environment) : Option Log.Filter :=
  Log.Filter.ofText? ((env.get? logVariable).getD "")

-- The whole command.
def execute (fs : FileSystem) (env : Environment) (args : List String) (sink : σ) : Result σ :=
  match filter? env with
  | none   => ⟨101, sink, #[]⟩
  | some _ => obey fs env args sink

-- The lines of the log that are shown.
def Result.log (r : Result σ) (env : Environment) : List String :=
  match filter? env with
  | none        => []
  | some filter => (r.notes.toList.filter filter.shows).map Log.Line.text

end TunnelPorts.Cli
