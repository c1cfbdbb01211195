/-!
Faults of a JSON text and the place at which each is reported. A place is a line, counted from one,
and a column, which is the number of bytes of that line before it; only a line feed ends a line.
-/

namespace TunnelPorts.Json

-- The blanks that may stand before any token.
def isBlank (c : Char) : Bool :=
  c = ' ' || c = '\n' || c = '\r' || c = '\t'

inductive Fault
  | unfinishedArray
  | unfinishedObject
  | unfinishedString
  | unfinishedValue
  | expectedColon
  | expectedCommaOrBracket
  | expectedCommaOrBrace
  | expectedWord
  | expectedValue
  | invalidEscape
  | invalidNumber
  | numberOutOfRange
  | loneSurrogate
  | unfinishedPair
  | controlCharacter
  | keyNotString
  | trailingComma
  | trailingCharacters
  deriving DecidableEq, Repr

namespace Fault

def text : Fault → String
  | unfinishedArray        => "EOF while parsing a list"
  | unfinishedObject       => "EOF while parsing an object"
  | unfinishedString       => "EOF while parsing a string"
  | unfinishedValue        => "EOF while parsing a value"
  | expectedColon          => "expected `:`"
  | expectedCommaOrBracket => "expected `,` or `]`"
  | expectedCommaOrBrace   => "expected `,` or `\x7d`"
  | expectedWord           => "expected ident"
  | expectedValue          => "expected value"
  | invalidEscape          => "invalid escape"
  | invalidNumber          => "invalid number"
  | numberOutOfRange       => "number out of range"
  | loneSurrogate          => "lone leading surrogate in hex escape"
  | unfinishedPair         => "unexpected end of hex escape"
  | controlCharacter       => "control character (\\u0000-\\u001F) found while parsing a string"
  | keyNotString           => "key must be a string"
  | trailingComma          => "trailing comma"
  | trailingCharacters     => "trailing characters"

end Fault

-- A fault is either that the text ends too early or that something in it is wrong.
inductive Category
  | syntactic
  | truncated
  deriving DecidableEq, Repr

def Fault.category : Fault → Category
  | unfinishedArray | unfinishedObject | unfinishedString | unfinishedValue => .truncated
  | _ => .syntactic

structure Position where
  line : Nat := 1
  column : Nat := 0
  deriving DecidableEq, Repr

namespace Position

-- The place after the first `n` bytes of `c`.
def within (p : Position) (c : Char) (n : Nat) : Position :=
  if n = 0 then p
  else if c = '\n' then ⟨p.line + 1, 0⟩
  else ⟨p.line, p.column + n⟩

-- The place after the whole of `c`.
def advance (p : Position) (c : Char) : Position :=
  p.within c c.utf8Size

-- The place at the end of a text that starts at `p`.
def after (p : Position) (cs : List Char) : Position :=
  cs.foldl advance p

@[simp]
theorem after_append (p : Position) (cs ds : List Char) :
    p.after (cs ++ ds) = (p.after cs).after ds := by
  simp [after]

end Position

structure Error where
  fault : Fault
  position : Position
  deriving DecidableEq, Repr

namespace Error

def text (e : Error) : String :=
  s!"{e.fault.text} at line {e.position.line} column {e.position.column}"

end Error
end TunnelPorts.Json
