import TunnelPorts.Error
import TunnelPorts.Path
import TunnelPorts.Text.Utf8

/-!
File systems, as far as they are read: what a path leads to, from some working directory. `Tree` is
a file system that is given as a finite tree, and it follows paths segment by segment.
-/

namespace TunnelPorts

-- What a path can lead to. What is no directory is a regular file or something else, such as a pipe
-- or a device, and it may be there without anyone being allowed to read it.
inductive Node
  | leaf (regular : Bool) (contents : Except SystemError Bytes)
  | directory
  deriving Repr

namespace Node

-- A regular file that can be read.
@[match_pattern]
def file (contents : Bytes) : Node :=
  leaf true (.ok contents)

def isRegular : Node → Bool
  | leaf regular _ => regular
  | directory      => false

def contents : Node → Except SystemError Bytes
  | leaf _ contents => contents
  | directory       => .error .isADirectory

end Node

structure FileSystem where
  workingDirectory : String
  look : (path : String) → Except ReadError Node

namespace FileSystem

def isFile (fs : FileSystem) (path : String) : Bool :=
  match fs.look path with
  | .ok n    => n.isRegular
  | .error _ => false

-- Whether `path` leads anywhere, unless that cannot be told.
def exists? (fs : FileSystem) (path : String) : Except ReadError Bool :=
  match fs.look path with
  | .ok _                        => .ok true
  | .error (.system .noSuchFile) => .ok false
  | .error e                     => .error e

-- The whole of what can be read, which must be UTF-8.
def readText (fs : FileSystem) (path : String) : Except ReadError String := do
  let node ← fs.look path
  match node.contents with
  | .error cause => .error (.system cause)
  | .ok bytes    =>
    match Text.ofUtf8? bytes with
    | some s => return s
    | none   => .error .notUtf8

-- The regular file that a name stands for, if there is one.
def findUpward? (fs : FileSystem) (path : String) : Option String :=
  (Path.candidates fs.workingDirectory path).find? fs.isFile

end FileSystem

-- Everything below the root directory, by segments. Of several entries for one place the last one
-- counts.
structure Tree where
  entries : List (List String × Node) := []
  deriving Repr

namespace Tree

-- A directory is there as soon as there is something in it.
def node? (t : Tree) (place : List String) : Option Node :=
  match t.entries.reverse.lookup place with
  | some n => some n
  | none   =>
    if place.isEmpty || t.entries.any (fun e => place.isPrefixOf e.1) then some .directory else none

def add (t : Tree) (place : List String) (n : Node) : Tree :=
  ⟨t.entries ++ [(place, n)]⟩

def pathLimit : Nat := 4096

def segmentLimit : Nat := 255

-- Follow `segments` from what is at `place`.
def follow (t : Tree) : (place segments : List String) → Except ReadError Node
  | place, [] =>
    match t.node? place with
    | some n => .ok n
    | none   => .error (.system .noSuchFile)
  | place, s :: rest =>
    match t.node? place with
    | none              => .error (.system .noSuchFile)
    | some (.leaf ..)   => .error (.system .notADirectory)
    | some .directory   =>
      if s = "" || s = "." then t.follow place rest
      else if s = ".." then t.follow place.dropLast rest
      else if s.utf8ByteSize > segmentLimit then .error (.system .nameTooLong)
      else t.follow (place ++ [s]) rest

-- What `path` leads to from the directory `cwd`. A slash at its end asks for a directory.
def look (t : Tree) (cwd : List String) (path : String) : Except ReadError Node :=
  if path.toList.contains '\x00' then .error .nulInName
  else if path = "" then .error (.system .noSuchFile)
  else if path.utf8ByteSize ≥ pathLimit then .error (.system .nameTooLong)
  else t.follow (if Path.isAbsolute path then [] else cwd) (Path.pieces path)

def fileSystem (t : Tree) (cwd : List String) : FileSystem where
  workingDirectory := Path.ofSegments cwd
  look := t.look cwd

end Tree
end TunnelPorts
