import TunnelPorts.Text.Quoted

/-!
Log lines. A line has a level, a target, which says what part of the program it comes from, and a
message. This is a normalised view of the log: lines carry no time and no colours, and there is one
for every message, however many lines the message has.
-/

namespace TunnelPorts.Log

-- Levels from the most to the least important.
inductive Level
  | error
  | warn
  | info
  | debug
  | trace
  deriving DecidableEq, Repr

namespace Level

def rank : Level → Nat
  | error => 1
  | warn  => 2
  | info  => 3
  | debug => 4
  | trace => 5

def text : Level → String
  | error => "ERROR"
  | warn  => "WARN"
  | info  => "INFO"
  | debug => "DEBUG"
  | trace => "TRACE"

end Level

structure Line where
  level : Level
  target : String
  message : String
  deriving DecidableEq, Repr

namespace Line

-- One character of a message. Those that a terminal would obey are written as escapes.
def showChar (c : Char) : List Char :=
  match c with
  | '\x07' => ['\\', 'x', '0', '7']
  | '\x08' => ['\\', 'x', '0', '8']
  | '\x0c' => ['\\', 'x', '0', 'c']
  | '\x1b' => ['\\', 'x', '1', 'b']
  | '\x7f' => ['\\', 'x', '7', 'f']
  | _      => if '\u0080' ≤ c && c ≤ '\u009f' then Text.codeEscape c else [c]

-- The first line of a message; its end may be a carriage return and a line feed. The log shows the
-- lines behind it, too, but they have no level and no target by which they could be told apart.
def firstLine (s : List Char) : List Char :=
  let line := s.takeWhile (· ≠ '\n')
  if line.getLast? = some '\r' then line.dropLast else line

-- One line of text: a message of several lines is cut after its first.
def text (l : Line) : String :=
  s!"{l.level.text} {l.target}: {String.ofList ((firstLine l.message.toList).flatMap showChar)}"

end Line
end TunnelPorts.Log
