import TunnelPorts.Log.Pattern.Options
import TunnelPorts.Text.Digit

/-!
Atoms of a pattern: characters, and what a backslash gives a meaning to. Whether an atom may be used
depends on the options.
-/

namespace TunnelPorts.Log.Pattern

open Scan

inductive Atom
  | char (c : Char)
  -- A character given by two digits, that is, by a byte.
  | byte (c : Char)
  -- Any character.
  | any
  -- Digits, blanks or word characters, or all but those.
  | kind (negated : Bool)
  -- An end of the text or of a line.
  | edge
  -- A place that has a word character on one side only, or not.
  | wordEdge
  deriving DecidableEq, Repr

namespace Atom

def char? : Atom → Option Char
  | char c => some c
  | byte c => some c
  | _      => none

-- Patterns match whole characters, so bytes are no use beyond ASCII. Nothing is known about digits,
-- blanks and word characters of all scripts.
def fits (o : Options) : Atom → Bool
  | char _       => o.hasLiterals
  | byte c       => o.hasLiterals && (o.unicode || c.toNat < 0x80)
  | any          => o.unicode
  | kind negated => !o.unicode && !negated
  | edge         => true
  | wordEdge     => !o.unicode

-- Sets hold characters only, and sets of bytes only those of ASCII.
def fitsSet (o : Options) : Atom → Bool
  | edge | wordEdge => false
  | kind negated    => fits o (kind negated)
  | a               => fits o a && (o.unicode || a.char?.any (·.toNat < 0x80))

-- Marks stand for themselves behind a backslash.
def isMark (c : Char) : Bool :=
  c.toNat < 0x80 && !c.isAlphanum && c ≠ '<' && c ≠ '>'

def hexDigits (o : Options) : Nat → Scan (List Char)
  | 0     => return []
  | n + 1 => do
    let c ← satisfy Text.isHexDigit
    o.skipSpace
    return c :: (← hexDigits o n)

def code (o : Options) (digits : Nat) : Scan Char := do
  o.skipSpace
  match Text.ofCode? (Text.ofDigits 16 (← hexDigits o digits)) with
  | some c => return c
  | none   => failure

-- From behind the backslash.
def escape (o : Options) : Scan Atom := do
  let c ← next
  match c with
  | 'x' => return byte (← code o 2)
  | 'u' => return char (← code o 4)
  | 'U' => return char (← code o 8)
  | 'd' | 's' | 'w' => return kind false
  | 'D' | 'S' | 'W' => return kind true
  | 'a' => return char '\x07'
  | 'f' => return char '\x0c'
  | 't' => return char '\t'
  | 'n' => return char '\n'
  | 'r' => return char '\r'
  | 'v' => return char '\x0b'
  | 'A' | 'z' => return edge
  | 'b' | 'B' | '<' | '>' => return wordEdge
  | _   => if isMark c then return char c else failure

-- Repetitions that are counted have no place here.
def scan (o : Options) : Scan Atom := do
  match ← next with
  | '\\' => escape o
  | '.'  => return any
  | '^' | '$' => return edge
  | '{'  => failure
  | c    => return char c

-- In a set, only the backslash has a meaning of its own.
def scanInSet (o : Options) : Scan Atom := do
  match ← next with
  | '\\' => escape o
  | c    => return char c

end Atom
end TunnelPorts.Log.Pattern
