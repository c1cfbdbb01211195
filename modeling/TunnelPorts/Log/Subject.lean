import TunnelPorts.Log.Pattern
import TunnelPorts.Text.Scan
import TunnelPorts.Text.Split

/-!
What a directive of a log filter can be about.
-/

namespace TunnelPorts.Log

open Scan

-- All lines of a target, those that have a certain field, or spans of time, of which there are
-- none here.
inductive Subject
  | lines
  | linesWith (field : List Char)
  | spans
  deriving DecidableEq, Repr

namespace Subject

def numberNames : List String := ["inf", "infinity", "nan"]

-- A number behind its sign, which has a digit on either side of the point at least.
def magnitude : Scan Unit := do
  let whole ← takeWhile Char.isDigit
  let places ← if ← eats '.' then takeWhile Char.isDigit else pure []
  if whole.isEmpty && places.isEmpty then failure
  let _ ← exponent (takeWhile₁ Char.isDigit) <|> pure 0

def isNumber (s : List Char) : Bool :=
  let unsigned := if s.head? = some '+' || s.head? = some '-' then s.tail else s
  numberNames.contains (String.ofList (unsigned.map Char.toLower)) ||
    (magnitude.whole? unsigned).isSome

-- Values are matched with a number or with a pattern.
def isValue (s : List Char) : Bool :=
  isNumber s || Pattern.isValid s

-- The subject that stands in braces: a field, or a field and its value. Only spans have values;
-- behind a value nothing more is read.
def ofText? (s : List Char) : Option Subject :=
  match Text.split '=' s with
  | _ :: value :: _ => if isValue value then some spans else none
  | _               => if s.isEmpty then none else some (linesWith s)

end Subject
end TunnelPorts.Log
