import TunnelPorts.Assoc
import TunnelPorts.Number.Binary64

/-!
Configuration values. Every value remembers the layer that gave it, and two layers merge key by key:
where both have a dictionary the dictionaries merge, and anywhere else the later layer wins.
-/

namespace TunnelPorts.Config

-- The layers of a configuration, from the first to the last.
inductive Origin
  | defaults
  | environment
  | file
  deriving DecidableEq, Repr

inductive Scalar
  | string (s : String)
  | char (c : Char)
  | boolean (b : Bool)
  | unsigned (n : Nat)
  | signed (n : Int)
  | float (x : Binary64)
  deriving DecidableEq, Repr

inductive Value
  | scalar (value : Scalar) (origin : Origin)
  | sequence (items : List Value) (origin : Origin)
  | dict (entries : List (String × Value)) (origin : Origin)
  deriving Repr

abbrev Dict := List (String × Value)

namespace Value

def origin : Value → Origin
  | scalar _ o | sequence _ o | dict _ o => o

end Value

namespace Dict

def get? (d : Dict) (key : String) : Option Value :=
  d.lookup key

def set (d : Dict) (key : String) (v : Value) : Dict :=
  Assoc.set key v d

end Dict

mutual

-- What becomes of `old` when a later layer gives another value. A dictionary that two layers
-- contributed to counts as given by the later one.
def Value.merge (old : Value) : Value → Value
  | .dict new o =>
    match old with
    | .dict entries _ => .dict (Dict.merge entries new) o
    | _               => .dict new o
  | new => new

def Dict.merge (old : Dict) : Dict → Dict
  | []            => old
  | (k, v) :: new =>
    let v :=
      match Dict.get? old k with
      | some u => u.merge v
      | none   => v
    Dict.merge (Dict.set old k v) new

end

-- The dictionary in which `v` stands at the end of `path`; there is none for the empty path.
def Dict.nest (o : Origin) (v : Value) : List String → Dict
  | []          => []
  | [key]       => [(key, v)]
  | key :: path => [(key, .dict (Dict.nest o v path) o)]

end TunnelPorts.Config
