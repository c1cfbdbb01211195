import TunnelPorts.Config.Value
import TunnelPorts.Text.Blank
import TunnelPorts.Text.Escape

/-!
Values of environment variables. The text of a variable is tried as a value in a small notation:
`true`, numbers, `"quoted text"`, `'c'`, `[v, v]`, `{k = v}`. A text that is not wholly such a value
stands for itself, blanks and all.
-/

namespace TunnelPorts.Config.EnvironmentValue

open Scan

-- A key with the blanks around it.
def key : Scan String := do
  skipWhile Text.isAsciiBlank
  let k ← if (← peek?) = some '"' then Text.quotedText else Text.bareKey
  skipWhile Text.isAsciiBlank
  return k

def isWordChar (c : Char) : Bool :=
  !(c = ',' || c = '{' || c = '}' || c = '[' || c = ']')

-- A number as it stands behind an optional sign.
def natural? (s : List Char) : Option Nat :=
  if !s.isEmpty && s.all Char.isDigit then some (Text.ofDigits 10 s) else none

def unsigned? (s : List Char) : Option Nat := do
  let n ← natural? (if s.head? = some '+' then s.tail else s)
  if n < Nat.pow 2 64 then some n else none

-- A number that is not unsigned is negative, or minus zero.
def signed? (s : List Char) : Option Int := do
  let n ← natural? (if s.head? = some '-' then s.tail else [])
  if n ≤ Nat.pow 2 63 then some (-n) else none

-- A decimal with a point, and with a digit on either side of it at least.
def decimal : Scan Binary64 := do
  let negative ← sign
  let whole ← takeWhile Char.isDigit
  eat '.'
  let places ← takeWhile Char.isDigit
  if whole.isEmpty && places.isEmpty then failure
  let power ← exponent (takeWhile₁ Char.isDigit) <|> pure 0
  return .ofDecimal negative (Text.ofDigits 10 (whole ++ places)) (power - places.length)

-- What a word without any marks stands for.
def ofWord (s : List Char) : Scalar :=
  match decimal.whole? s, unsigned? s, signed? s with
  | some x, _, _ => .float x
  | _, some n, _ => .unsigned n
  | _, _, some n => .signed n
  | _, _, _      => .string (.ofList s)

def scalar (s : Scalar) : Value :=
  .scalar s .environment

-- Items and the commas between them, from behind the opening bracket to the closing one; at most
-- `fuel` of them. A comma may stand before the closing bracket.
def items {α : Type} (closing : Char) (item : Scan α) : Nat → Scan (List α)
  | 0 => failure
  | fuel + 1 => do
    if ← eats closing then return []
    let a ← item
    if ← eats ',' then return a :: (← items closing item fuel)
    eat closing
    return [a]

def list {α : Type} (opening closing : Char) (item : Scan α) : Scan (List α) := do
  eat opening
  items closing item ((← get).length + 1)

def member (value : Scan Value) : Scan (String × Value) := do
  let k ← key
  eat '='
  return (k, ← value)

def dict (value : Scan Value) : Scan Value := do
  let members ← list '{' '}' (member value)
  return .dict (members.foldl (fun d (k, v) => Dict.set d k v) []) .environment

def char : Scan Value := do
  eat '\''
  let c ← next
  eat '\''
  return scalar (.char c)

-- A value without blanks in front of it; `value` is what stands in its brackets.
def content (value : Scan Value) : Scan Value := do
  if ← eatsWord "true" then return scalar (.boolean true)
  if ← eatsWord "false" then return scalar (.boolean false)
  match ← peek? with
  | some '{'  => dict value
  | some '['  => return .sequence (← list '[' ']' value) .environment
  | some '"'  => return scalar (.string (← Text.quotedText))
  | some '\'' => char
  | _         => return scalar (ofWord (Text.trim (← takeWhile isWordChar)))

-- A value with the blanks around it, and with at most `fuel` brackets within each other.
def value : Nat → Scan Value
  | 0        => failure
  | fuel + 1 => do
    skipWhile Text.isAsciiBlank
    let v ← content (value fuel)
    skipWhile Text.isAsciiBlank
    return v

def ofText (text : String) : Value :=
  let s := text.toList
  ((value (s.length + 1)).whole? s).getD (scalar (.string text))

end TunnelPorts.Config.EnvironmentValue
