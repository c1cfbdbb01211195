import TunnelPorts.Text.Blank
import TunnelPorts.Text.Scan

/-!
Options of a pattern. Seven letters name them; of these, three decide what is a pattern and what is
not.
-/

namespace TunnelPorts.Log.Pattern

open Scan

structure Options where
  -- Whether capital and small letters are the same. `i`
  ignoreCase : Bool := false
  -- Whether a pattern is about characters of all scripts, or about bytes. `u`
  unicode : Bool := true
  -- Whether blanks and comments may stand in a pattern. `x`
  verbose : Bool := false
  deriving DecidableEq, Repr

namespace Options

def letters : List Char := "imsUuRx".toList

-- No letter is given twice. Those behind a minus, of which there is one at least, are switched off.
def set? (o : Options) (marks : List Char) : Option Options :=
  if !marks.all (fun c => letters.contains c || c = '-') || marks.getLast? = some '-' ||
      marks.eraseDups ≠ marks then
    none
  else
    let (on, off) := marks.span (· ≠ '-')
    let set (letter : Char) (current : Bool) := on.contains letter || current && !off.contains letter
    some ⟨set 'i' o.ignoreCase, set 'u' o.unicode, set 'x' o.verbose⟩

-- Nothing is known about capital and small letters of all scripts.
def hasLiterals (o : Options) : Bool :=
  !(o.unicode && o.ignoreCase)

-- Behind blanks and comments, which reach from a number sign to the end of a line.
def behindComments : (inComment : Bool) → List Char → List Char
  | _, []          => []
  | true, c :: cs  => behindComments (c ≠ '\n') cs
  | false, c :: cs =>
    if Text.isBlank c then behindComments false cs
    else if c = '#' then behindComments true cs
    else c :: cs

def skipSpace (o : Options) : Scan Unit := fun s =>
  some ((), if o.verbose then behindComments false s else s)

end Options
end TunnelPorts.Log.Pattern
