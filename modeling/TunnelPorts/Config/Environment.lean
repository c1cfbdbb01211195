import TunnelPorts.Config.EnvironmentValue
import TunnelPorts.Text.Split
import TunnelPorts.Text.Utf8

/-!
The environment as a layer. A variable belongs to it if its name starts with `TKX_`, in letters of
either case. The rest of the name is a path of keys, with two underscores between keys. Later
variables win over earlier ones.
-/

namespace TunnelPorts

-- The variables of a process, in order.
abbrev Environment := List (String × String)

namespace Environment

def set (env : Environment) (name value : String) : Environment :=
  Assoc.set name value env

def get? (env : Environment) (name : String) : Option String :=
  env.lookup name

-- The variables in a block of `name=value` texts with a zero byte behind each. Those without a
-- name, and those that are no texts, are not looked at.
def ofBlock (block : Bytes) : Environment :=
  (Text.split 0 block).filterMap fun bytes => do
    let s ← Text.ofUtf8? bytes
    match s.toList.span (· ≠ '=') with
    | (c :: name, '=' :: value) => return (.ofList (c :: name), .ofList value)
    | _                         => none

end Environment

namespace Config.Variable

def opening : List Char := ['t', 'k', 'x', '_']

-- The name behind the opening, if it has one.
def stripOpening? (name : List Char) : Option (List Char) :=
  if (name.take opening.length).map Char.toLower = opening then some (name.drop opening.length)
  else none

-- Two underscores, taken from the left, become a point.
def joinKeys : List Char → List Char
  | '_' :: '_' :: cs => '.' :: joinKeys cs
  | c :: cs          => c :: joinKeys cs
  | []               => []

-- The keys that a variable's name spells; a name that spells an empty key is not looked at.
def path? (name : String) : Option (List String) := do
  let rest ← stripOpening? (Text.trim name.toList)
  let keys := Text.split '.' (Text.trim (joinKeys rest))
  if keys.any List.isEmpty then none
  else return keys.map fun key => .ofList (key.map Char.toLower)

end Config.Variable

namespace Environment

-- The layer of all variables that belong to it.
def layer (env : Environment) : Config.Dict :=
  env.foldl (fun d (name, text) =>
    match Config.Variable.path? name with
    | none      => d
    | some path =>
      d.merge (Config.Dict.nest .environment (Config.EnvironmentValue.ofText text) path)) []

end Environment
end TunnelPorts
