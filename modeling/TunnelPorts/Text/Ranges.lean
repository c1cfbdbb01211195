/-!
Sets of characters, given as ranges of code points in increasing order.
-/

namespace TunnelPorts.Text

abbrev Ranges := List (Nat × Nat)

def Ranges.contains (ranges : Ranges) (c : Char) : Bool :=
  ranges.any fun (first, last) => first ≤ c.toNat && c.toNat ≤ last

end TunnelPorts.Text
