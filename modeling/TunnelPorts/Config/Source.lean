/-!
Where a tunnel document comes from.
-/

namespace TunnelPorts

inductive Source
  | file (fileName : String)
  | inMemory (document : String)
  deriving DecidableEq, Repr

namespace Source

-- The file that is read unless another is named.
def defaultFileName : String := "../input/tunnels.json"

instance : Inhabited Source :=
  ⟨file defaultFileName⟩

inductive Kind
  | file
  | inMemory
  deriving DecidableEq, Repr

namespace Kind

def name : Kind → String
  | file     => "file"
  | inMemory => "in_memory"

def ofName? (name : String) : Option Kind :=
  if name = file.name then some file
  else if name = inMemory.name then some inMemory
  else none

-- Kinds are also numbered.
def ofIndex? (n : Nat) : Option Kind :=
  match n with
  | 0 => some file
  | 1 => some inMemory
  | _ => none

end Kind
end Source
end TunnelPorts
