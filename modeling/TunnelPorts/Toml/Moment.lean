import TunnelPorts.Text.Scan

/-!
Dates and times. They are only checked: a date must be in the calendar and a time on the clock.
-/

namespace TunnelPorts.Toml.Moment

open Scan

-- A number of exactly `n` digits between two bounds.
def number (n low high : Nat) : Scan Nat := do
  let k := Text.ofDigits 10 (← exactly n Char.isDigit)
  if low ≤ k && k ≤ high then return k else failure

def isLeapYear (year : Nat) : Bool :=
  year % 4 = 0 && (year % 100 ≠ 0 || year % 400 = 0)

def daysIn (year month : Nat) : Nat :=
  match month with
  | 2              => if isLeapYear year then 29 else 28
  | 4 | 6 | 9 | 11 => 30
  | _              => 31

def date : Scan Unit := do
  let year ← number 4 0 9999
  eat '-'
  let month ← number 2 1 12
  eat '-'
  let _ ← number 2 1 (daysIn year month)

-- Hours and minutes.
def clock : Scan Unit := do
  let _ ← number 2 0 23
  eat ':'
  let _ ← number 2 0 59

-- A second may be a leap second.
def time : Scan Unit := do
  clock
  eat ':'
  let _ ← number 2 0 60
  if ← eats '.' then
    let _ ← takeWhile₁ Char.isDigit

-- The distance from universal time.
def offset : Scan Unit := do
  let c ← next
  if c = 'Z' || c = 'z' then return
  else if c = '+' || c = '-' then clock
  else failure

def timeOfDay : Scan Unit := do
  let _ ← satisfy fun c => c = 'T' || c = 't' || c = ' '
  time
  offset <|> pure ()

def any : Scan Unit :=
  (do
    date
    timeOfDay <|> pure ()) <|>
  time

end TunnelPorts.Toml.Moment
