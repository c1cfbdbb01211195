import TunnelPorts.Log
import TunnelPorts.Log.Subject
import TunnelPorts.Text.Alphanumeric
import TunnelPorts.Text.Blank
import TunnelPorts.Text.Digit
import TunnelPorts.Text.Slice

/-!
Directives of a log filter. A directive is a level, a target, or both with an equals sign between
them; a condition in brackets may stand behind the target or in its place. A target alone lets
everything through.
-/

namespace TunnelPorts.Log

-- Lets through levels up to the given rank, for targets that start with `target`.
structure Directive where
  target : List Char := []
  subject : Subject := .lines
  rank : Nat
  deriving DecidableEq, Repr

namespace Directive

def highestRank : Nat := Level.trace.rank

-- The only field that lines have.
def messageField : List Char := "message".toList

-- The rank up to which a level lets lines through; numbers name levels, too.
def rank? (level : List Char) : Option Nat :=
  match String.ofList (level.map Char.toLower) with
  | "off"   => some 0
  | "error" => some Level.error.rank
  | "warn"  => some Level.warn.rank
  | "info"  => some Level.info.rank
  | "debug" => some Level.debug.rank
  | "trace" => some Level.trace.rank
  | _       =>
    let digits := if level.head? = some '+' then level.tail else level
    if digits.isEmpty || !digits.all Char.isDigit then none
    else
      let n := Text.ofDigits 10 digits
      if n ≤ highestRank then some n else none

-- Why a text is no directive.
inductive Flaw
  -- It does not have the form of one.
  | malformed
  -- Its parts cannot be cut out of it.
  | torn
  deriving DecidableEq, Repr

-- The first character of a target or a level.
def isOpening (c : Char) : Bool :=
  Text.isAlphanumeric c || c = '-' || c = ':' || c = '_'

def slice (s : List Char) (start stop : Nat) : Except Flaw (List Char) :=
  match Text.slice? s start stop with
  | some part => .ok part
  | none      => .error .torn

-- The level that starts at a position of `s`; without one, everything is let through.
def levelFrom (s : List Char) (start : Nat) : Except Flaw Nat := do
  match ← slice s start (Text.byteLength s) with
  | []    => return highestRank
  | level =>
    match rank? level with
    | some rank => return rank
    | none      => throw .malformed

-- The level behind the brackets, where only `rest` is left.
def levelAfter (s : List Char) (start : Nat) (rest : List Char) : Except Flaw Nat :=
  match rest with
  | []       => .ok highestRank
  | '=' :: _ => levelFrom s (start + 1)
  | _        => .error .malformed

-- A condition from behind its opening bracket: the name of a span, a field in braces, or both.
def bracketed (s target : List Char) (start : Nat) (rest : List Char) : Except Flaw Directive := do
  let (span, rest) := rest.span fun c => c ≠ ']' && c ≠ '{'
  let stop := start + Text.byteLength span
  match rest with
  | []        => throw .malformed
  | ']' :: rest =>
    let _ ← slice s start stop
    return { target, subject := .spans, rank := ← levelAfter s (stop + 1) rest }
  | _ :: rest =>
    let span ← slice s start stop
    let (field, rest) := rest.span (· ≠ '}')
    let start := stop + 1
    let stop := start + Text.byteLength field
    match rest with
    | []        => throw .malformed
    | _ :: rest =>
      match Subject.ofText? (← slice s start stop), rest with
      | some subject, ']' :: rest =>
        let rank ← levelAfter s (stop + 2) rest
        return { target, subject := if span.isEmpty then subject else .spans, rank }
      | _, _ => throw .malformed

-- The directive that `s` spells. Its parts are found in the text without the blanks around it, but
-- cut out, at the same positions, with those blanks.
def ofText (s : List Char) : Except Flaw Directive :=
  match Text.trim s with
  | []          => .error .malformed
  | '[' :: rest => bracketed s [] 1 rest
  | c :: cs     => do
    if !isOpening c then throw .malformed
    let (name, rest) := (c :: cs).span fun c => c ≠ '=' && c ≠ '['
    let stop := Text.byteLength name
    match rest with
    | []        =>
      match rank? s with
      | some rank => return { rank }
      | none      => return { target := s, rank := highestRank }
    | c :: rest =>
      let target ← slice s 0 stop
      if c = '=' then return { target, rank := ← levelFrom s (stop + 1) }
      else bracketed s target (stop + 1) rest

-- Whether the directive has a say about `l`.
def covers (d : Directive) (l : Line) : Bool :=
  d.target.isPrefixOf l.target.toList &&
    match d.subject with
    | .lines           => true
    | .linesWith field => field = messageField
    | .spans           => false

-- A longer target is more specific; of two targets of one length, the one with a field is.
def weight (d : Directive) : Nat :=
  2 * d.target.length + if d.subject = .lines then 0 else 1

end Directive
end TunnelPorts.Log
