import TunnelPorts.Json.Reader
import TunnelPorts.Number.Binary64

/-!
Numbers. `Number.Phase` follows the form of a number, which is all that matters for a value that is
skipped. A value that is kept must also be in the range of double-precision numbers, and
`Number.Measure` keeps what decides that: a significand of 64 bits and a power of ten.
-/

namespace TunnelPorts.Json.Number

-- The part of a number that was read last.
inductive Phase
  | minus
  | zero
  | digits
  | point
  | fraction
  | exponent
  | exponentSign
  | power
  deriving DecidableEq, Repr

namespace Phase

-- A number may end here.
def isComplete : Phase → Bool
  | zero | digits | fraction | power => true
  | _ => false

def ofExponentMark? (c : Char) : Option Phase :=
  if c = 'e' || c = 'E' then some exponent else none

-- The part that `c` opens or prolongs, if `c` can be part of the number here.
def next? (p : Phase) (c : Char) : Option Phase :=
  match p with
  | minus        => if c = '0' then some zero else if c.isDigit then some digits else none
  | zero         => if c = '.' then some point else ofExponentMark? c
  | digits       =>
    if c.isDigit then some digits else if c = '.' then some point else ofExponentMark? c
  | point        => if c.isDigit then some fraction else none
  | fraction     => if c.isDigit then some fraction else ofExponentMark? c
  | exponent     =>
    if c = '+' || c = '-' then some exponentSign else if c.isDigit then some power else none
  | exponentSign => if c.isDigit then some power else none
  | power        => if c.isDigit then some power else none

-- The part that the first character of a number opens.
def first? (c : Char) : Option Phase :=
  if c = '-' then some minus else minus.next? c

-- Only a zero must not be followed by what it cannot take in: a digit.
def refuses (p : Phase) (c : Char) : Bool :=
  !p.isComplete || p = zero && c.isDigit

end Phase

-- What is known of the size of a number.
structure Measure where
  significand : Nat := 0
  -- The power of ten that digits before and behind the point bring about.
  scale : Int := 0
  -- No more digits fit into the significand.
  full : Bool := false
  -- The exponent as written, and its sign.
  power : Nat := 0
  powerNegative : Bool := false
  -- The exponent is beyond all bounds, but the number is still zero or close to it.
  vanishing : Bool := false
  deriving DecidableEq, Repr

namespace Measure

def significandLimit : Nat :=
  Nat.pow 2 64

def powerLimit : Nat :=
  Nat.pow 2 31

-- An integer digit that does not fit counts as a power of ten; so do all that follow it.
def integerDigit (m : Measure) (d : Nat) : Measure :=
  let n := m.significand * 10 + d
  if m.full || n ≥ significandLimit then { m with full := true, scale := m.scale + 1 }
  else { m with significand := n }

-- A digit behind the point that does not fit is dropped; so are all that follow it.
def fractionDigit (m : Measure) (d : Nat) : Measure :=
  let n := m.significand * 10 + d
  if m.full || n ≥ significandLimit then { m with full := true }
  else { m with significand := n, scale := m.scale - 1 }

-- Nothing if the number is out of range whatever follows.
def powerDigit? (m : Measure) (d : Nat) : Option Measure :=
  let n := m.power * 10 + d
  if m.vanishing then some m
  else if n < powerLimit then some { m with power := n }
  else if m.significand = 0 || m.powerNegative then some { m with vanishing := true }
  else none

-- The power of ten by which the significand is multiplied.
def exponent (m : Measure) : Int :=
  if m.powerNegative then m.scale - m.power else m.scale + m.power

-- The significand and the power of ten are each rounded to a double, and so is their product: it
-- must be finite.
def inRange (m : Measure) : Bool :=
  m.vanishing || m.significand = 0 || m.exponent < 0 ||
    (m.exponent ≤ 308 &&
      Binary64.roundNat m.significand * Binary64.roundNat (Nat.pow 10 m.exponent.toNat) <
        Binary64.overflow)

-- Take in a character that puts the number into the phase `p`.
def take? (m : Measure) (p : Phase) (c : Char) : Option Measure :=
  let d := c.toNat - '0'.toNat
  match p with
  | .zero | .digits => some (m.integerDigit d)
  | .point          => some { m with full := false }
  | .fraction       => some (m.fractionDigit d)
  | .exponentSign   => some { m with powerNegative := c = '-' }
  | .power          => m.powerDigit? d
  | _               => some m

end Measure

-- A number that is kept.
structure State where
  phase : Phase
  measure : Measure
  deriving DecidableEq, Repr

namespace State

def ofFirst (p : Phase) (c : Char) : State :=
  ⟨p, ((Measure.take? {} p c).getD {})⟩

def finish (s : State) : Except Fault Unit :=
  if s.measure.inRange then .ok () else .error .numberOutOfRange

def step (s : State) (c : Char) : Step State Unit :=
  match s.phase.next? c with
  | some p =>
    match s.measure.take? p c with
    | some m => .more ⟨p, m⟩
    | none   => .fail .numberOutOfRange 1
  | none =>
    if s.phase.refuses c then .fail .invalidNumber 1
    else match s.finish with
      | .ok _    => .past ()
      | .error e => .fail e 0

def stop (s : State) : Except Fault Unit :=
  if s.phase.isComplete then s.finish else .error .unfinishedValue

end State

namespace Phase

-- A number that is skipped.
def step (p : Phase) (c : Char) : Step Phase Unit :=
  match p.next? c with
  | some p => .more p
  | none   => if p.refuses c then .fail .invalidNumber 1 else .past ()

def stop (p : Phase) : Except Fault Unit :=
  if p.isComplete then .ok () else .error .invalidNumber

end Phase
end TunnelPorts.Json.Number
