/-!
Digits and the numbers and characters they spell.
-/

namespace TunnelPorts.Text

-- The value of a digit of any base up to sixteen.
def hexDigit? (c : Char) : Option Nat :=
  if c.isDigit then some (c.toNat - '0'.toNat)
  else if 'a' ≤ c && c ≤ 'f' then some (c.toNat - 'a'.toNat + 10)
  else if 'A' ≤ c && c ≤ 'F' then some (c.toNat - 'A'.toNat + 10)
  else none

def isHexDigit (c : Char) : Bool :=
  (hexDigit? c).isSome

-- What digits spell in the given base; characters that are no digits count as zero.
def ofDigits (base : Nat) (digits : List Char) : Nat :=
  digits.foldl (fun n c => n * base + (hexDigit? c).getD 0) 0

-- The character with the given code point.
def ofCode? (n : Nat) : Option Char :=
  if n.isValidChar then some (.ofNat n) else none

end TunnelPorts.Text
