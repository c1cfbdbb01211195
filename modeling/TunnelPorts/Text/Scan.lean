import TunnelPorts.Text.Digit

/-!
Scanning. A scan reads something from the front of a text and leaves the rest, or fails. Two scans
that are alternatives start at the same place.
-/

namespace TunnelPorts

abbrev Scan :=
  StateT (List Char) Option

namespace Scan

-- The whole of `s`, if `scan` reads it to its end.
def whole? {α : Type} (scan : Scan α) (s : List Char) : Option α :=
  match scan.run s with
  | some (a, []) => some a
  | _            => none

def peek? : Scan (Option Char) :=
  return (← get).head?

def next : Scan Char := fun
  | []      => none
  | c :: cs => some (c, cs)

def satisfy (p : Char → Bool) : Scan Char := fun
  | []      => none
  | c :: cs => if p c then some (c, cs) else none

def eat (c : Char) : Scan Unit := do
  let _ ← satisfy (· = c)

-- Read `c` if it stands here.
def eats (c : Char) : Scan Bool := fun
  | []      => some (false, [])
  | d :: cs => if d = c then some (true, cs) else some (false, d :: cs)

-- Read `word` if it stands here.
def eatsWord (word : String) : Scan Bool := fun s =>
  let w := word.toList
  if w.isPrefixOf s then some (true, s.drop w.length) else some (false, s)

def takeWhile (p : Char → Bool) : Scan (List Char) := fun s =>
  some (s.takeWhile p, s.dropWhile p)

def takeWhile₁ (p : Char → Bool) : Scan (List Char) := do
  let cs ← takeWhile p
  if cs.isEmpty then failure
  return cs

def skipWhile (p : Char → Bool) : Scan Unit := fun s =>
  some ((), s.dropWhile p)

-- Exactly `n` characters, each of which satisfies `p`.
def exactly (n : Nat) (p : Char → Bool) : Scan (List Char) := fun s =>
  let cs := s.take n
  if cs.length = n && cs.all p then some (cs, s.drop n) else none

-- Whether a minus stands here; a plus is read, too.
def sign : Scan Bool := do
  if ← eats '-' then return true
  let _ ← eats '+'
  return false

-- The power of ten behind an `e`.
def exponent (digits : Scan (List Char)) : Scan Int := do
  let _ ← satisfy fun c => c = 'e' || c = 'E'
  let negative ← sign
  let n := Text.ofDigits 10 (← digits)
  return if negative then -n else n

end Scan
end TunnelPorts
