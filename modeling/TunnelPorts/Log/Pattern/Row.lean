/-!
Parts of a pattern that stand in a row. What counts of a part is its depth: how many layers lie
within each other there. A row of several parts is a layer of its own.
-/

namespace TunnelPorts.Log.Pattern

structure Row where
  count : Nat := 0
  -- The depth of the deepest part.
  deepest : Nat := 0
  deriving DecidableEq, Repr

namespace Row

def add (r : Row) (depth : Nat) : Row :=
  ⟨r.count + 1, max r.deepest depth⟩

def depth (r : Row) : Nat :=
  if r.count ≤ 1 then r.deepest else r.deepest + 1

end Row
end TunnelPorts.Log.Pattern
