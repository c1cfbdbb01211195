/-!
Double-precision numbers, as far as texts of numbers need them: the nearest double of a decimal, and
the shortest decimal that reads back as a given double. All arithmetic is exact, on naturals.
-/

namespace TunnelPorts

-- The finite doubles are `mantissa * 2 ^ exponent` with `mantissa < 2 ^ 53` and `exponent` at
-- least -1074; the mantissa is at least `2 ^ 52` unless the exponent is least.
inductive Binary64
  | finite (negative : Bool) (mantissa : Nat) (exponent : Int)
  | infinite (negative : Bool)
  | nan
  deriving DecidableEq, Repr

namespace Binary64

-- The natural nearest to `num / den`; a tie goes to the even neighbour.
def roundDiv (num den : Nat) : Nat :=
  let q := num / den
  let r := num % den
  if 2 * r < den || (2 * r = den && q % 2 = 0) then q else q + 1

-- The nearest number of the form `m * 2 ^ e` with `m` of at most 53 bits.
def roundNat (n : Nat) : Nat :=
  let unit := Nat.pow 2 (n.log2 - 52)
  roundDiv n unit * unit

-- The least natural that rounds to infinity.
def overflow : Nat :=
  Nat.pow 2 1024 - Nat.pow 2 970

-- `num / den / 2 ^ e`, rounded.
def scaled (num den : Nat) (e : Int) : Nat :=
  roundDiv (num * Nat.pow 2 (-e).toNat) (den * Nat.pow 2 e.toNat)

-- The double nearest to `num / den`.
def ofRatio (negative : Bool) (num den : Nat) : Binary64 :=
  if num = 0 then finite negative 0 (-1074) else
    let top : Int := num.log2 - den.log2 - 52
    let e :=
      if num * Nat.pow 2 (-top).toNat < den * Nat.pow 2 (top.toNat + 52) then top - 1 else top
    let e := max e (-1074)
    let m := scaled num den e
    let (m, e) := if m = Nat.pow 2 53 then (Nat.pow 2 52, e + 1) else (m, e)
    if e > 971 then infinite negative else finite negative m e

-- The double nearest to `digits * 10 ^ power`. Powers that are out of reach are not computed.
def ofDecimal (negative : Bool) (digits : Nat) (power : Int) : Binary64 :=
  if digits = 0 then finite negative 0 (-1074)
  else if power > 310 then infinite negative
  else if power ≥ 0 then ofRatio negative (digits * Nat.pow 10 power.toNat) 1
  else if 3 * (-power).toNat > digits.log2 + 1080 then finite negative 0 (-1074)
  else ofRatio negative digits (Nat.pow 10 (-power).toNat)

-- A decimal `digits * 10 ^ power`.
structure Decimal where
  digits : Nat
  power : Int
  deriving DecidableEq, Repr

-- The reals that read back as `mantissa * 2 ^ exponent`, as quarters of a unit in the last place;
-- the ends belong to it if the mantissa is even.
structure Interval where
  low : Nat
  value : Nat
  high : Nat
  closed : Bool

def interval (mantissa : Nat) (exponent : Int) : Interval where
  low := if mantissa = Nat.pow 2 52 && exponent > -1074 then 4 * mantissa - 1 else 4 * mantissa - 2
  value := 4 * mantissa
  high := 4 * mantissa + 2
  closed := mantissa % 2 = 0

-- The decimal with the given power nearest to the value, if one reads back; a tie goes up. Numbers
-- are compared after multiplication by `num / den`, which makes powers of ten whole.
def Interval.onGrid? (i : Interval) (num den : Nat) : Option Nat :=
  let below := i.value * num / den
  let above := below + 1
  let inside (n : Nat) :=
    if i.closed then i.low * num ≤ n * den && n * den ≤ i.high * num
    else i.low * num < n * den && n * den < i.high * num
  match inside below, inside above with
  | true, true =>
    if 2 * (i.value * num) < (below + above) * den then some below else some above
  | true, false => some below
  | false, true => some above
  | false, false => none

-- The first hit on ever finer grids, starting at the given power of ten.
def Interval.search (i : Interval) (exponent : Int) : Nat → Int → Decimal
  | 0, power => ⟨0, power⟩
  | tries + 1, power =>
    let num := Nat.pow 2 (exponent - 2).toNat * Nat.pow 10 (-power).toNat
    let den := Nat.pow 2 (2 - exponent).toNat * Nat.pow 10 power.toNat
    match i.onGrid? num den with
    | some n => ⟨n, power⟩
    | none => i.search exponent tries (power - 1)

-- The decimal with the fewest digits that reads back as `mantissa * 2 ^ exponent`.
def shortest (mantissa : Nat) (exponent : Int) : Decimal :=
  let top : Int := (mantissa.log2 + exponent) * 30103 / 100000 + 1
  (interval mantissa exponent).search exponent 20 top

namespace Decimal

-- Positional text, with a point only if there are places behind it.
def text (d : Decimal) : String :=
  let digits := Nat.toDigits 10 d.digits
  if d.power ≥ 0 then
    .ofList (digits ++ List.replicate d.power.toNat '0')
  else
    let places := (-d.power).toNat
    let digits := List.replicate (places + 1 - digits.length) '0' ++ digits
    .ofList (digits.take (digits.length - places) ++ '.' :: digits.drop (digits.length - places))

end Decimal

-- The shortest digits that read back, never with an exponent.
def text : Binary64 → String
  | nan => "NaN"
  | infinite negative => if negative then "-inf" else "inf"
  | finite negative m e =>
    (if negative then "-" else "") ++ if m = 0 then "0" else (shortest m e).text

end Binary64
end TunnelPorts
