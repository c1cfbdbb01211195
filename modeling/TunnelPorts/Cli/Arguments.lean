/-!
Arguments of the command line: at most one, the path of a configuration file, and two flags that ask
for a text instead of a run. Arguments are looked at from left to right, and the first flag or the
first mistake decides.
-/

namespace TunnelPorts.Cli

inductive Request
  | help
  | version
  | run (configFile : String)
  deriving DecidableEq, Repr

namespace Arguments

def defaultConfigFile : String := "tkx.toml"

-- A flag of one letter acts at once, even if more letters follow it.
def flag? (arg : List Char) : Option Request :=
  match arg with
  | '-' :: 'h' :: _ => some .help
  | '-' :: 'V' :: _ => some .version
  | _ =>
    if arg = "--help".toList then some .help
    else if arg = "--version".toList then some .version
    else none

-- Anything behind a hyphen is a flag; a hyphen alone is not.
def isFlag (arg : List Char) : Bool :=
  match arg with
  | '-' :: _ :: _ => true
  | _             => false

-- Take a path. There can be only one, and it must not be empty.
def path? (given? : Option String) (arg : String) : Option String :=
  if given?.isSome || arg.isEmpty then none else some arg

-- Behind `--` there are only paths.
def onlyPaths? : (given? : Option String) → List String → Option Request
  | given?, []      => some (.run (given?.getD defaultConfigFile))
  | given?, a :: as => do onlyPaths? (← path? given? a) as

-- What the arguments ask for, if they can be understood.
def request? : (given? : Option String) → List String → Option Request
  | given?, []      => some (.run (given?.getD defaultConfigFile))
  | given?, a :: as =>
    if a = "--" then onlyPaths? given? as
    else if isFlag a.toList then flag? a.toList
    else do request? (← path? given? a) as

end Arguments

def Request.ofArguments? (args : List String) : Option Request :=
  Arguments.request? none args

end TunnelPorts.Cli
