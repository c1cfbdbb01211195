import TunnelPorts.Cli.Run

/-!
The program: the command line in the world of files, variables and streams.
-/

namespace TunnelPorts

-- The code and the reason of an operating system's error.
def errorCode : IO.Error → Nat × String
  | .alreadyExists _ n r | .inappropriateType _ n r | .invalidArgument _ n r
  | .noFileOrDirectory _ n r | .noSuchThing _ n r | .permissionDenied _ n r
  | .resourceExhausted _ n r | .interrupted _ n r | .hardwareFault n r | .illegalOperation n r
  | .otherError n r | .protocolError n r
  | .resourceBusy n r | .resourceVanished n r | .timeExpired n r | .unsatisfiedConstraints n r
  | .unsupportedOperation n r => (n.toNat, r)
  | e => (0, toString e)

-- Codes may come with their sign changed.
def systemError (e : IO.Error) : SystemError :=
  let (code, reason) := errorCode e
  .ofCode (if code < Nat.pow 2 31 then code else Nat.pow 2 32 - code) reason

def attempt {α : Type} (action : IO α) : IO (Except SystemError α) := do
  try return .ok (← action)
  catch e => return .error (systemError e)

-- What `path` leads to. Of what is no regular file nothing is read unless it is `wanted`: there may
-- be someone else who waits for it.
def probe (wanted : List String) (path : String) : IO (Except ReadError Node) := do
  if path.toList.contains '\x00' then return .error .nulInName
  let place : IO.FS.DirEntry := { root := path, fileName := "" }
  match ← attempt place.root.metadata with
  | .error cause => return .error (.system cause)
  | .ok known    =>
    if known.type == .dir then return .ok .directory
    else if known.type == .file || wanted.contains path then
      let contents ← attempt (IO.FS.readBinFile path)
      return .ok (.leaf (known.type == .file) (contents.map (·.data.toList)))
    else return .ok (.leaf false (.ok []))

-- What is known of the file system once `paths` were looked at, and the `wanted` ones read.
def snapshot (wanted paths : List String) : IO FileSystem := do
  let known ← (wanted ++ paths).mapM fun path => return (path, ← probe wanted path)
  let cwd ← IO.currentDir
  return {
    workingDirectory := cwd.toString
    look := fun path => (known.lookup path).getD (.error (.system .noSuchFile)) }

-- The file system as far as a run with the configuration file `path` asks for it.
def fileSystem (env : Environment) (path : String) : IO FileSystem := do
  let cwd ← IO.currentDir
  let paths := path :: Path.candidates cwd.toString path
  let fs ← snapshot [] paths
  match (Cli.source fs env path).1 with
  | .ok (.file name) => snapshot [name] paths
  | _                => return fs

def environment : IO Environment := do
  return .ofBlock (← IO.FS.readBinFile "/proc/self/environ").data.toList

-- Everything goes to standard output at once; if it refuses, the command is told so.
def deliver (execute : Device → Cli.Result Device) : IO (Cli.Result Device) := do
  let result := execute (.accepting #[])
  let stdout ← IO.getStdout
  try
    stdout.write ⟨result.sink.received⟩
    stdout.flush
    return result
  catch e =>
    match Refusal.ofSystem? (systemError e) with
    | some refusal => return execute (.refusing refusal)
    | none         => return result

end TunnelPorts

open TunnelPorts

def main (args : List String) : IO UInt32 := do
  let env ← environment
  let fs ←
    match Cli.Request.ofArguments? args with
    | some (.run path) => TunnelPorts.fileSystem env path
    | _                => snapshot [] []
  let result ← deliver (Cli.execute fs env args)
  for line in result.log env do
    IO.eprintln line
  return result.exitCode.toUInt32
