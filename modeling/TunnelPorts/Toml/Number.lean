import TunnelPorts.Number.Binary64
import TunnelPorts.Text.Scan

/-!
TOML numbers. Digits may be set apart by single underscores.
-/

namespace TunnelPorts.Toml.Number

open Scan

-- Digits and the underscores between them, in front of a text; the digits come last first.
def digitsFrom (p : Char → Bool) : (digits text : List Char) → List Char × List Char
  | ds, '_' :: c :: cs => if p c then digitsFrom p (c :: ds) cs else (ds, '_' :: c :: cs)
  | ds, c :: cs        => if p c then digitsFrom p (c :: ds) cs else (ds, c :: cs)
  | ds, []             => (ds, [])

-- At least one digit.
def digits (p : Char → Bool) : Scan (List Char) := do
  let c ← satisfy p
  let (ds, rest) := digitsFrom p [c] (← get)
  set rest
  return ds.reverse

-- Decimal digits without a zero in front of others.
def whole : Scan (List Char) := do
  if ← eats '0' then return ['0'] else digits Char.isDigit

def power : Scan Int :=
  exponent (digits Char.isDigit)

def places : Scan (List Char) := do
  eat '.'
  digits Char.isDigit

-- A number with places or a power of ten. Beyond all bounds it must not be positive.
def decimal : Scan Binary64 := do
  let negative ← sign
  let whole ← whole
  let (places, power) ←
    (return ([], ← power)) <|>
    (do
      let places ← places
      return (places, ← power <|> pure 0))
  let x := Binary64.ofDecimal negative (Text.ofDigits 10 (whole ++ places)) (power - places.length)
  if x = .infinite false then failure
  return x

def special : Scan Binary64 := do
  let negative ← sign
  if ← eatsWord "inf" then return .infinite negative
  if ← eatsWord "nan" then return .nan
  failure

def float : Scan Binary64 :=
  decimal <|> special

def isBase (base : Nat) (c : Char) : Bool :=
  (Text.hexDigit? c).any (· < base)

-- An integer has 64 bits, one of which is its sign.
def bounded (n : Int) : Scan Int :=
  if -0x8000000000000000 ≤ n && n < 0x8000000000000000 then return n else failure

def inBase (base : Nat) : Scan Int := do
  bounded (Text.ofDigits base (← digits (isBase base)))

-- Other bases than ten take no sign.
def integer : Scan Int := do
  if ← eatsWord "0x" then inBase 16
  else if ← eatsWord "0o" then inBase 8
  else if ← eatsWord "0b" then inBase 2
  else
    let negative ← sign
    let n := Text.ofDigits 10 (← whole)
    bounded (if negative then -n else n)

end TunnelPorts.Toml.Number
