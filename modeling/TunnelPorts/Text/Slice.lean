/-!
Slices: parts of a text between two positions, which are counted in bytes. A text cannot be cut
within a character.
-/

namespace TunnelPorts.Text

-- Bytes of a text.
def byteLength (s : List Char) : Nat :=
  s.foldr (fun c n => c.utf8Size + n) 0

-- `s` without its first `n` bytes.
def dropBytes? (n : Nat) : (s : List Char) → Option (List Char)
  | []     => if n = 0 then some [] else none
  | c :: s =>
    if n = 0 then some (c :: s)
    else if c.utf8Size ≤ n then dropBytes? (n - c.utf8Size) s
    else none

-- The first `n` bytes of `s`.
def takeBytes? (n : Nat) : (s : List Char) → Option (List Char)
  | []     => if n = 0 then some [] else none
  | c :: s =>
    if n = 0 then some []
    else if c.utf8Size ≤ n then (takeBytes? (n - c.utf8Size) s).map (c :: ·)
    else none

-- The part of `s` from one position to another, if `s` can be cut at both.
def slice? (s : List Char) (start stop : Nat) : Option (List Char) := do
  takeBytes? (stop - start) (← dropBytes? start s)

end TunnelPorts.Text
