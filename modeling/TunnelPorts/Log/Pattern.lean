import TunnelPorts.Log.Pattern.Set
import TunnelPorts.Text.Alphanumeric

/-!
Patterns that the value of a field can be matched with. Only their form is of interest here: groups
and sets are closed, whatever is repeated is there, escapes and options are known and go together,
and not too many layers lie within each other.
-/

namespace TunnelPorts.Log.Pattern

open Scan

def depthLimit : Nat := 250

-- A group that is open, or the whole pattern.
structure Group where
  -- The options that hold again behind the group.
  outside : Options := {}
  branches : Row := {}
  -- The branch that is read: all parts but the last, …
  parts : Row := {}
  -- … and the depth of the last if that could be repeated.
  last? : Option Nat := none
  deriving DecidableEq, Repr

namespace Group

def settled (g : Group) : Row :=
  match g.last? with
  | none      => g.parts
  | some last => g.parts.add last

def add (g : Group) (depth : Nat) : Group :=
  { g with parts := g.settled, last? := some depth }

-- Options are a part, but none that could be repeated.
def addOptions (g : Group) : Group :=
  { g with parts := g.settled.add 0, last? := none }

def repeated? (g : Group) : Option Group :=
  g.last?.map fun last => { g with last? := some (last + 1) }

def endBranch (g : Group) : Group :=
  { g with branches := g.branches.add g.settled.depth, parts := {}, last? := none }

def depth (g : Group) : Nat :=
  g.endBranch.branches.depth

end Group

structure State where
  options : Options := {}
  group : Group := {}
  -- The groups around it, the innermost first.
  outer : List Group := []
  -- The names of groups so far.
  names : List (List Char) := []
  deriving DecidableEq, Repr

namespace State

def openGroup (s : State) (inside : Options) : State :=
  { s with options := inside, group := { outside := s.options }, outer := s.group :: s.outer }

def closeGroup? (s : State) : Option State :=
  match s.outer with
  | []         => none
  | g :: outer => some
    { s with options := s.group.outside, group := g.add (s.group.depth + 1), outer }

def add (s : State) (depth : Nat) : State :=
  { s with group := s.group.add depth }

end State

def isNameStart (c : Char) : Bool :=
  Text.isAlphabetic c || c = '_'

def isNameChar (c : Char) : Bool :=
  Text.isAlphanumeric c || c = '_' || c = '.' || c = '[' || c = ']'

def isName : List Char → Bool
  | []      => false
  | c :: cs => isNameStart c && cs.all isNameChar

-- Whether the name of a group follows.
def namesGroup : Scan Bool := do
  if ← eatsWord "?P<" then return true
  eatsWord "?<"

-- From behind an opening bracket: a group with or without a name, options for a group, or options
-- for all that follows up to the end of the group around them.
def opening (s : State) : Scan State := do
  s.options.skipSpace
  if ← namesGroup then
    let name ← takeWhile (· ≠ '>')
    eat '>'
    if !isName name || s.names.contains name then failure
    return { s.openGroup s.options with names := name :: s.names }
  else if ← eats '?' then
    let marks ← takeWhile fun c => c ≠ ':' && c ≠ ')'
    match s.options.set? marks with
    | none         => failure
    | some options =>
      if ← eats ':' then return s.openGroup options
      eat ')'
      if marks.isEmpty then failure
      return { s with options, group := s.group.addOptions }
  else
    return s.openGroup s.options

-- A mark for repetition, which a question mark may follow.
def repetition : Scan Unit := do
  let _ ← satisfy fun c => c = '*' || c = '+' || c = '?'
  let _ ← eats '?'

-- The depth of a pattern, read to the end of the text.
def scan : Nat → State → Scan Nat
  | 0, _        => failure
  | fuel + 1, s => do
    s.options.skipSpace
    if (← get).isEmpty then
      if s.outer.isEmpty then return s.group.depth else failure
    else if ← eats '(' then
      scan fuel (← opening s)
    else if ← eats ')' then
      match s.closeGroup? with
      | some s => scan fuel s
      | none   => failure
    else if ← eats '|' then
      scan fuel { s with group := s.group.endBranch }
    else if (← optional repetition).isSome then
      match s.group.repeated? with
      | some group => scan fuel { s with group }
      | none       => failure
    else if ← eats '[' then
      scan fuel (s.add (← Set.scan s.options (fuel + 1)))
    else
      let a ← Atom.scan s.options
      if !a.fits s.options then failure
      scan fuel (s.add 0)

-- Whether `s` is a pattern.
def isValid (s : List Char) : Bool :=
  ((scan (s.length + 1) {}).whole? s).any (· ≤ depthLimit)

end TunnelPorts.Log.Pattern
