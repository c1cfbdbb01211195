import TunnelPorts.Json.Number
import TunnelPorts.Json.Text

/-!
Values that are skipped: read for their form only, to any depth. The brackets that are open are kept
in a list, so that no depth is too deep.
-/

namespace TunnelPorts.Json

inductive Bracket
  | array
  | object
  deriving DecidableEq, Repr

namespace Bracket

def closing : Bracket → Char
  | array  => ']'
  | object => '\x7d'

def unfinished : Bracket → Fault
  | array  => .unfinishedArray
  | object => .unfinishedObject

-- The fault of whatever stands behind an item and is no comma and no closing bracket.
def expected : Bracket → Fault
  | array  => .expectedCommaOrBracket
  | object => .expectedCommaOrBrace

end Bracket

namespace Skip

-- The open brackets are given from the innermost outwards; a key stands within an object, of which
-- only the brackets around it are given.
inductive State
  -- A value must follow.
  | value (within : List Bracket)
  -- A bracket was opened: its first item may follow, or its end.
  | opened (bracket : Bracket) (outer : List Bracket)
  -- An item is complete: a comma may follow, or the end.
  | after (bracket : Bracket) (outer : List Bracket)
  -- A key must follow.
  | key (outer : List Bracket)
  | keyText (outer : List Bracket) (shape : Text.Shape)
  | colon (outer : List Bracket)
  | word (within : List Bracket) (next : Char) (rest : List Char)
  | number (within : List Bracket) (phase : Number.Phase)
  | text (within : List Bracket) (shape : Text.Shape)
  deriving DecidableEq, Repr

namespace State

-- A value is complete within the given brackets.
def complete : List Bracket → Step State Unit
  | []         => .last ()
  | b :: outer => .more (.after b outer)

-- `c` is the first character of a value.
def begin (within : List Bracket) (c : Char) : Step State Unit :=
  match c with
  | '"' => .more (.text within .plain)
  | '[' => .more (.opened .array within)
  | '{' => .more (.opened .object within)
  | 'n' => .more (.word within 'u' ['l', 'l'])
  | 't' => .more (.word within 'r' ['u', 'e'])
  | 'f' => .more (.word within 'a' ['l', 's', 'e'])
  | _   =>
    match Number.Phase.first? c with
    | some p => .more (.number within p)
    | none   => .fail .expectedValue 1

-- `c` is the first character of a key.
def beginKey (outer : List Bracket) (c : Char) : Step State Unit :=
  if c = '"' then .more (.keyText outer .plain) else .fail .keyNotString 1

-- `c` stands behind an item.
def follow (b : Bracket) (outer : List Bracket) (c : Char) : Step State Unit :=
  if isBlank c then .more (.after b outer)
  else if c = b.closing then complete outer
  else if c = ',' then
    match b with
    | .array  => .more (.value (.array :: outer))
    | .object => .more (.key outer)
  else .fail b.expected 1

def step (s : State) (c : Char) : Step State Unit :=
  match s with
  | value within => if isBlank c then .more s else begin within c
  | opened b outer =>
    if isBlank c then .more s
    else if c = b.closing then complete outer
    else match b with
      | .array  => begin (.array :: outer) c
      | .object => beginKey outer c
  | after b outer => follow b outer c
  | key outer => if isBlank c then .more s else beginKey outer c
  | keyText outer t =>
    match t.step c with
    | .more t           => .more (.keyText outer t)
    | .last _ | .past _ => .more (.colon outer)
    | .fail e n         => .fail e n
  | colon outer =>
    if isBlank c then .more s
    else if c = ':' then .more (.value (.object :: outer))
    else .fail .expectedColon 1
  | word within next rest =>
    if c = next then
      match rest with
      | []      => complete within
      | d :: ds => .more (.word within d ds)
    else .fail .expectedWord 1
  | number within p =>
    match p.step c with
    | .more p           => .more (.number within p)
    | .last _ | .past _ =>
      match within with
      | []         => .past ()
      | b :: outer => follow b outer c
    | .fail e n         => .fail e n
  | text within t =>
    match t.step c with
    | .more t           => .more (.text within t)
    | .last _ | .past _ => complete within
    | .fail e n         => .fail e n

-- Only a number is complete when the text ends, and only if no bracket is open.
def stop : State → Except Fault Unit
  | value _ | word _ _ _     => .error .unfinishedValue
  | opened b _ | after b _   => .error b.unfinished
  | key _ | colon _          => .error .unfinishedObject
  | keyText _ _ | text _ _   => .error .unfinishedString
  | number within p          => do
    p.stop
    match within with
    | []     => return ()
    | b :: _ => .error b.unfinished

end State

def reader : Reader State Unit where
  start := .value []
  step := State.step
  stop := State.stop

end Skip
end TunnelPorts.Json
