import TunnelPorts.Entries

/-!
Tunnel documents. A document maps sites to datacenters and datacenters to encoded tunnel keys; what
a key stands for in the document is of no interest and is not kept. Any of the three levels may turn
out not to be an object, and then the document only remembers what was found in its place.
-/

namespace TunnelPorts

-- What can stand where an object is wanted.
inductive Found
  | array
  | string
  | boolean
  | number
  | null
  deriving DecidableEq, Repr

namespace Found

def text : Found → String
  | array   => "an array"
  | string  => "a string"
  | boolean => "a boolean"
  | number  => "a number"
  | null    => "null"

end Found

inductive Level (α : Type)
  | object (entries : Entries α)
  | notObject (found : Found)

-- The tunnels of a datacenter.
abbrev Datacenter := Level Unit

abbrev Site := Level Datacenter

abbrev Document := Level Site

-- A level of a document, named by the way to it.
inductive Location
  | root
  | site (site : String)
  | datacenter (site datacenter : String)
  deriving DecidableEq, Repr

namespace Location

def text : Location → String
  | root           => "the document root"
  | site s         => s!"site '{s}'"
  | datacenter s d => s!"site '{s}', datacenter '{d}'"

end Location
end TunnelPorts
