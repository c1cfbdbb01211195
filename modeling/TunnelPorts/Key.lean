import TunnelPorts.Text.Split

/-!
Encoded tunnel keys. A key is a record written as one string: fields separated by `_`, of which the
fourth is the tunnel's label and the fifth its port. Fields are never escaped and may be empty.
-/

namespace TunnelPorts

-- The pair that one encoded key stands for.
structure Tunnel where
  label : String
  port : String
  deriving DecidableEq, Repr

namespace Tunnel

-- The token that names the tunnel in the output.
def text (t : Tunnel) : String :=
  t.label ++ ":" ++ t.port

end Tunnel

namespace Key

def separator : Char := '_'

-- Fields are counted from zero.
def labelField : Nat := 3

def portField : Nat := 4

-- Fewest fields that reach the port.
def minFields : Nat := portField + 1

-- The pieces between separators; there is always one more of them than there are separators.
def fields (key : String) : List (List Char) :=
  Text.split separator key.toList

theorem length_fields (key : String) : (fields key).length = key.toList.count separator + 1 :=
  Text.length_split ..

-- A key with too few fields to reach the port.
structure TooShort where
  fields : Nat
  deriving DecidableEq, Repr

namespace TooShort

def message (e : TooShort) : String :=
  s!"encoded key has {e.fields} fields, need at least {minFields}"

end TooShort

-- Fields past the port are not looked at, unless there are too few to reach it.
def parse (key : String) : Except TooShort Tunnel :=
  let (label?, rest) := (Text.Pieces.ofList key.toList).nth? separator labelField
  let (port?, _) := rest.next? separator
  match label?, port? with
  | some label, some port => .ok ⟨.ofList label, .ofList port⟩
  | _, _                  => .error ⟨(fields key).length⟩

end Key
end TunnelPorts
