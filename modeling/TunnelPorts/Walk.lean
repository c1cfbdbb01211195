import TunnelPorts.Error

/-!
The walk over a document: every site, datacenter and tunnel key in document order, until all are
seen or something fails. A level is looked at only when the walk gets to it, so a level that is not
an object stops the walk there and not before.
-/

namespace TunnelPorts

-- Head counts of a document.
structure Summary where
  sites : Nat := 0
  datacenters : Nat := 0
  tunnels : Nat := 0
  distinctPorts : Nat := 0
  deriving DecidableEq, Repr

-- A computation with a state of type `σ` that may fail. The state survives a failure.
abbrev Extracting (σ : Type) :=
  ExceptT ExtractError (StateM σ)

-- What is done on the way. Only a key can stop the walk; entering a level cannot.
structure Visitor (σ : Type) where
  key : (site datacenter key : String) → Extracting σ Unit
  enterSite : (site : String) → (datacenters : Nat) → StateM σ Unit := fun _ _ => pure ()
  enterDatacenter : (site datacenter : String) → (tunnels : Nat) → StateM σ Unit :=
    fun _ _ _ => pure ()

-- The entries of a level, which must be an object.
def Level.entriesAt {α : Type} (level : Level α) (loc : Location) :
    Except ExtractError (Entries α) :=
  match level with
  | object es       => .ok es
  | notObject found => .error (.unexpectedShape loc found)

namespace Visitor

variable {σ : Type}

def visitKey (v : Visitor σ) (s d : String) (sum : Summary) (k : String) :
    Extracting σ Summary := do
  v.key s d k
  return { sum with tunnels := sum.tunnels + 1 }

def visitDatacenter (v : Visitor σ) (s : String) (sum : Summary) (e : String × Datacenter) :
    Extracting σ Summary := do
  let tunnels ← e.2.entriesAt (.datacenter s e.1)
  v.enterDatacenter s e.1 tunnels.size
  tunnels.keys.foldlM (v.visitKey s e.1) { sum with datacenters := sum.datacenters + 1 }

def visitSite (v : Visitor σ) (sum : Summary) (e : String × Site) : Extracting σ Summary := do
  let datacenters ← e.2.entriesAt (.site e.1)
  v.enterSite e.1 datacenters.size
  datacenters.toList.foldlM (v.visitDatacenter e.1) { sum with sites := sum.sites + 1 }

-- The walk counts what it passes; it knows nothing of ports.
def walk (v : Visitor σ) (doc : Document) : Extracting σ Summary := do
  let sites ← doc.entriesAt .root
  sites.toList.foldlM v.visitSite {}

end Visitor
end TunnelPorts
