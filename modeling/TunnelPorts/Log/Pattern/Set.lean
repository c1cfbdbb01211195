import TunnelPorts.Log.Pattern.Atom
import TunnelPorts.Log.Pattern.Row

/-!
Sets of characters, in brackets. The members are characters, ranges, classes that have a name, and
sets again. An operator between members joins all that stand before it with all that follow.
-/

namespace TunnelPorts.Log.Pattern

open Scan

-- A set that is open: its members since the last operator, and the depth of those before.
structure OpenSet where
  before? : Option Nat := none
  members : Row := {}
  deriving DecidableEq, Repr

namespace OpenSet

def add (s : OpenSet) (depth : Nat) : OpenSet :=
  { s with members := s.members.add depth }

def depth (s : OpenSet) : Nat :=
  match s.before? with
  | none        => s.members.depth
  | some before => max before s.members.depth + 1

-- Behind an operator.
def operated (s : OpenSet) : OpenSet :=
  { before? := some s.depth }

-- A set that does not have what its members say would have bytes beyond ASCII.
def negation (o : Options) : Scan Unit := do
  if ← eats '^' then
    if !o.unicode then failure
    o.skipSpace

def hyphens (o : Options) : Nat → OpenSet → Scan OpenSet
  | 0, s        => return s
  | fuel + 1, s => do
    if ← eats '-' then
      o.skipSpace
      hyphens o fuel (s.add 0)
    else
      return s

-- Members that cannot stand elsewhere: a closing bracket, or hyphens.
def firstMembers (o : Options) (fuel : Nat) : Scan OpenSet := do
  if ← eats ']' then
    o.skipSpace
    return OpenSet.add {} 0
  hyphens o fuel {}

-- What stands behind an opening bracket, up to where members may be of any kind.
def scan (o : Options) (fuel : Nat) : Scan OpenSet := do
  o.skipSpace
  negation o
  let s ← firstMembers o fuel
  if s.members.count ≠ 0 && !o.hasLiterals then failure
  return s

end OpenSet

namespace Set

def classNames : List String :=
  ["alnum", "alpha", "ascii", "blank", "cntrl", "digit", "graph", "lower", "print", "punct",
    "space", "upper", "word", "xdigit"]

-- A class with a name, as in `[:alpha:]`, and whether it is negated.
def namedClass : Scan Bool := do
  eat '['
  eat ':'
  let negated ← eats '^'
  let name ← takeWhile (· ≠ ':')
  eat ':'
  eat ']'
  if classNames.contains (String.ofList name) then return negated else failure

def operator : Scan Bool := do
  if ← eatsWord "&&" then return true
  if ← eatsWord "--" then return true
  eatsWord "~~"

-- The character that decides what a hyphen before `s` is. A number sign is passed over once.
def behindHyphen? (o : Options) (s : List Char) : Option Char :=
  if !o.verbose then s.head?
  else
    let rest := s.dropWhile Text.isBlank
    let rest := if rest.head? = some '#' then rest.tail.dropWhile Text.isBlank else rest
    rest.head?.or s.head?

-- Whether a hyphen stands here that is no member and no operator.
def isRange (o : Options) : List Char → Bool
  | '-' :: s => behindHyphen? o s ≠ some ']' && behindHyphen? o s ≠ some '-'
  | _        => false

-- An atom, or a range from one character to another.
def member (o : Options) : Scan Unit := do
  let first ← Atom.scanInSet o
  if !first.fitsSet o then failure
  o.skipSpace
  if isRange o (← get) then
    eat '-'
    o.skipSpace
    let last ← Atom.scanInSet o
    if !last.fitsSet o then failure
    match first.char?, last.char? with
    | some a, some b => if b < a then failure
    | _, _           => failure

-- The members of `s` and of the sets around it, to the end of the outermost; the depth is that of
-- the whole.
def members (o : Options) : Nat → OpenSet → List OpenSet → Scan Nat
  | 0, _, _            => failure
  | fuel + 1, s, outer => do
    o.skipSpace
    match ← optional namedClass with
    | some negated =>
      if !o.hasLiterals || !o.unicode && negated then failure
      members o fuel (s.add 0) outer
    | none =>
      if ← eats '[' then
        members o fuel (← OpenSet.scan o fuel) (s :: outer)
      else if ← eats ']' then
        match outer with
        | []         => return s.depth + 1
        | t :: outer => members o fuel (t.add (s.depth + 1)) outer
      else if ← operator then
        members o fuel s.operated outer
      else
        member o
        members o fuel (s.add 0) outer

-- The depth of a set, from behind its opening bracket; `fuel` is more than what is left to read.
def scan (o : Options) (fuel : Nat) : Scan Nat := do
  members o fuel (← OpenSet.scan o fuel) []

end Set
end TunnelPorts.Log.Pattern
